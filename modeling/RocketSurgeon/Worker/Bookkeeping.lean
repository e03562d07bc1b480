import RocketSurgeon.Worker.ArenaHistory

/-!
# How long the tables of the arena get

The index has at most one entry for a slot, and the order lists a checkpoint only while it owns a
slot, so neither is longer than the arena.  The table of descriptors is another matter: an
allocation adds to it and nothing takes from it.  Its length is the number of slots that have ever
been allocated.
-/

namespace RocketSurgeon.Worker

open Lib List

/-- The number of allocations in a history. -/
def allocations (log : List ArenaEvent) : ℕ :=
  log.countP fun
    | .allocated _ _ _ => true
    | .freed _ => false

namespace CheckpointArena

variable {arena arena' : CheckpointArena} {id : String} {log : List ArenaEvent}

/-! ## Descriptors -/

/-- There is a descriptor for every allocation. -/
def Described (arena : CheckpointArena) (log : List ArenaEvent) : Prop :=
  arena.slots.length = allocations log

lemma Described.arenaRule : ArenaRule Described where
  allocSlot := by
    intro arena arena' log id layer off hdescribed hok
    obtain ⟨slot, -, halloc⟩ := allocSlot_spec hok
    rw [Described, halloc.slots, length_append, hdescribed]
    exact (countP_cons_of_pos rfl).symm
  freeCheckpoint := by
    intro arena log hdescribed id
    rw [Described, slots_freeCheckpoint]
    exact hdescribed
  updateHeader := fun hdescribed _ _ => hdescribed
  writeData := fun hdescribed _ _ _ => hdescribed

/-! ## The index -/

namespace Represents

lemma lt_numSlots (hrep : arena.Represents log) (hslot : slot ∈ arena.slotsOf id) :
    slot < arena.numSlots := by
  have howned : slot ∈ arena.checkpointSlots.flatMap Prod.snd :=
    (perm_slotsOf hrep.ids).mem_iff.mpr (mem_append_left _ hslot)
  exact mem_range.mp (hrep.slots.mem_iff.mp (mem_append_right _ howned))

lemma offsetOf_entry (hrep : arena.Represents log) (hentry : entry ∈ arena.index) :
    ∃ slot ∈ arena.slotsOf entry.1.1,
      arena.offsetOf entry.1.1 entry.1.2 = some (slot * arena.slotSize) := by
  obtain ⟨slot, hslot, hdesc⟩ := hrep.entries _ _ _ hentry
  refine ⟨slot, hslot, ?_⟩
  rw [offsetOf, FMap.get_of_mem hrep.keys hentry]
  simp [hdesc]

lemma length_index_le (hrep : arena.Represents log) : arena.index.length ≤ arena.numSlots := by
  have hnodup : (arena.index.map fun entry => arena.offsetOf entry.1.1 entry.1.2).Nodup := by
    refine hrep.keys.of_map.map_on fun entry hentry entry' hentry' hsame => ?_
    obtain ⟨slot, -, hoffset⟩ := hrep.offsetOf_entry hentry
    obtain ⟨hid, hlayer⟩ := hrep.apart _ _ _ _ _ hoffset (hsame ▸ hoffset)
    exact inj_on_of_nodup_map hrep.keys hentry hentry' (Prod.ext hid hlayer)
  have hsubset : (arena.index.map fun entry => arena.offsetOf entry.1.1 entry.1.2) ⊆
      (range arena.numSlots).map fun slot => some (slot * arena.slotSize) := by
    intro off hmem
    obtain ⟨entry, hentry, rfl⟩ := mem_map.mp hmem
    obtain ⟨slot, hslot, hoffset⟩ := hrep.offsetOf_entry hentry
    exact mem_map.mpr ⟨slot, mem_range.mpr (hrep.lt_numSlots hslot), hoffset.symm⟩
  simpa using (subperm_of_subset hnodup hsubset).length_le

end Represents

/-! ## The order -/

/-- A checkpoint is known only with a slot. -/
def Occupied (arena : CheckpointArena) (_log : List ArenaEvent) : Prop :=
  ∀ id slots, FMap.get arena.checkpointSlots id = some slots → slots ≠ []

lemma Occupied.arenaRule : ArenaRule Occupied where
  allocSlot := by
    intro arena arena' log id layer off hoccupied hok owner owned hget
    obtain ⟨slot, -, -, hslots, -⟩ := allocSlot_registers hok
    rw [hslots] at hget
    by_cases howner : owner = id
    · subst howner
      rw [FMap.get_insert_self] at hget
      cases hget
      exact append_ne_nil_of_right_ne_nil _ (cons_ne_nil _ _)
    · rw [FMap.get_insert_of_ne _ _ howner] at hget
      exact hoccupied owner owned hget
  freeCheckpoint := by
    intro arena log hoccupied id owner owned hget
    rw [checkpointSlots_freeCheckpoint, FMap.remove, FMap.get_retain] at hget
    split_ifs at hget
    exact hoccupied owner owned hget
  updateHeader := fun hoccupied _ _ => hoccupied
  writeData := fun hoccupied _ _ _ => hoccupied

namespace Represents

lemma head_slotsOf (hrep : arena.Represents log) (hoccupied : Occupied arena log)
    (hlist : id ∈ arena.checkpointOrder) :
    ∃ slot ∈ arena.slotsOf id, (arena.slotsOf id).head? = some slot := by
  have hlive := (hrep.live id).trans ((hrep.listed id).mp hlist)
  obtain ⟨slots, hslots⟩ := Option.isSome_iff_exists.mp hlive
  obtain ⟨slot, rest, rfl⟩ := exists_cons_of_ne_nil (hoccupied id slots hslots)
  rw [slotsOf, hslots]
  exact ⟨slot, mem_cons_self, rfl⟩

lemma nodup_order (hrep : arena.Represents log) : arena.checkpointOrder.Nodup := by
  refine hrep.order.imp fun {first second} hbefore => ?_
  rintro rfl
  obtain ⟨early, late, hearly, hlate, hlt⟩ := hbefore
  cases hearly.symm.trans hlate
  exact lt_irrefl _ hlt

lemma length_order_le (hrep : arena.Represents log) (hoccupied : Occupied arena log) :
    arena.checkpointOrder.length ≤ arena.numSlots := by
  have hnodup : (arena.checkpointOrder.map fun id => (arena.slotsOf id).head?).Nodup := by
    refine hrep.nodup_order.map_on fun first hfirst second hsecond hsame => ?_
    obtain ⟨slot, hslot, hhead⟩ := hrep.head_slotsOf hoccupied hfirst
    by_contra hne
    exact hrep.wellFormed.apart first second hne slot hslot
      (mem_of_mem_head? (hsame ▸ hhead))
  have hsubset : (arena.checkpointOrder.map fun id => (arena.slotsOf id).head?) ⊆
      (range arena.numSlots).map some := by
    intro first hmem
    obtain ⟨id, hid, rfl⟩ := mem_map.mp hmem
    obtain ⟨slot, hslot, hhead⟩ := hrep.head_slotsOf hoccupied hid
    exact mem_map.mpr ⟨slot, mem_range.mpr (hrep.lt_numSlots hslot), hhead.symm⟩
  simpa using (subperm_of_subset hnodup hsubset).length_le

end Represents

/-! ## Runs -/

lemma tables_new {slotSize numSlots : ℕ}
    (hnew : CheckpointArena.new slotSize numSlots = .ok arena) :
    arena.numSlots = numSlots ∧ Described arena [] ∧ Occupied arena [] := by
  unfold CheckpointArena.new at hnew
  split_ifs at hnew
  cases hnew
  refine ⟨rfl, rfl, fun id slots hget => ?_⟩
  cases hget

/-- No table of the arena is longer than the arena. -/
structure TablesFit (arena : CheckpointArena) (numSlots : ℕ) : Prop where
  slots : arena.slots.length ≤ numSlots
  index : arena.index.length ≤ numSlots
  order : arena.checkpointOrder.length ≤ numSlots

/-- **The tables fit the arena exactly as long as no more slots have been allocated than there
are**, however many of them have been freed since. -/
theorem tablesFit_run_iff (crc32 : List UInt8 → UInt32) {slotSize numSlots : ℕ}
    (hnew : CheckpointArena.new slotSize numSlots = .ok arena) (ops : List ArenaOp) :
    TablesFit (arena.run crc32 [] ops).1 numSlots ↔
      allocations (arena.run crc32 [] ops).2 ≤ numSlots := by
  obtain ⟨hnum, hdescribed, hoccupied⟩ := tables_new hnew
  have hnum := (geometry_run crc32 arena [] ops).2.trans hnum
  have hrep := (represents_new hnew).run crc32 ops
  have hslots : (arena.run crc32 [] ops).1.slots.length = allocations (arena.run crc32 [] ops).2 :=
    Described.arenaRule.run crc32 hdescribed ops
  constructor
  · intro hfit
    exact hslots ▸ hfit.slots
  · intro hfew
    refine ⟨hslots ▸ hfew, ?_, ?_⟩
    · exact hnum ▸ hrep.length_index_le
    · exact hnum ▸ hrep.length_order_le (Occupied.arenaRule.run crc32 hoccupied ops)

/-- Two slots that are allocated once each. -/
theorem tablesFit_run_twice :
    TablesFit (twoSlots.run (fun _ => 0) [] [.allocSlot "c1" 0, .allocSlot "c2" 0]).1 2 :=
  (tablesFit_run_iff (fun _ => 0) new_twoSlots _).mpr (by decide)

/-- Allocating and freeing in turn leaves three descriptors in an arena of two slots. -/
theorem not_tablesFit_run_again :
    ¬ TablesFit (twoSlots.run (fun _ => 0) [] [.allocSlot "c1" 0, .freeCheckpoint "c1",
      .allocSlot "c1" 0, .freeCheckpoint "c1", .allocSlot "c1" 0]).1 2 :=
  fun hfit => absurd hfit.slots (by decide)

end CheckpointArena

end RocketSurgeon.Worker
