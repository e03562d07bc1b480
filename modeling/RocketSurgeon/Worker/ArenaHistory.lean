import RocketSurgeon.Worker.ArenaInvariant
import RocketSurgeon.Worker.Spill

/-!
# The arena and its history

The arena keeps five structures that say the same thing in different ways: the free list,
the table of descriptors (which only grows), the index into it, the slots of each checkpoint,
and the order of the checkpoints.  What they should say is a function of what was done to the
arena: of the slots that were allocated and the checkpoints that were freed, in order.

`Represents arena log` ties the structures to such a log, newest event first.  Allocating and
freeing keep it with one more event in the log, and so do the longer operations, which are
made of these.
-/

namespace RocketSurgeon.Worker

open Lib List Option FMap

/-! ## Histories -/

inductive ArenaEvent
  | allocated (id : String) (layer offset : ℕ)
  | freed (id : String)
  deriving DecidableEq, Repr

/-- The slot allocated last for a layer of a checkpoint since the checkpoint was last freed. -/
def latest (id : String) (layer : ℕ) : List ArenaEvent → Option ℕ
  | [] => none
  | .allocated owner ownerLayer offset :: earlier =>
      if owner = id ∧ ownerLayer = layer then some offset else latest id layer earlier
  | .freed owner :: earlier => if owner = id then none else latest id layer earlier

/-- When a checkpoint was first allocated since it was last freed, as the number of events
before. -/
def born (id : String) : List ArenaEvent → Option ℕ
  | [] => none
  | .allocated owner _ _ :: earlier =>
      if owner = id then some ((born id earlier).getD earlier.length) else born id earlier
  | .freed owner :: earlier => if owner = id then none else born id earlier

/-- The first checkpoint was allocated before the second one. -/
def BornBefore (log : List ArenaEvent) (first second : String) : Prop :=
  ∃ early late, born first log = some early ∧ born second log = some late ∧ early < late

lemma born_lt {id : String} (hborn : born id log = some time) :
    time < log.length := by
  induction log generalizing time with
  | nil => cases hborn
  | cons ev earlier ih =>
    cases ev with
    | allocated owner layer offset =>
      rw [born] at hborn
      split_ifs at hborn
      · obtain rfl := some.inj hborn
        cases hbefore : born id earlier with
        | none => exact Nat.lt_succ_self _
        | some before => exact (ih hbefore).trans (Nat.lt_succ_self _)
      · exact (ih hborn).trans (Nat.lt_succ_self _)
    | freed owner =>
      rw [born] at hborn
      split_ifs at hborn
      exact (ih hborn).trans (Nat.lt_succ_self _)

namespace CheckpointArena

variable {arena arena' : CheckpointArena} {id other : String} {slot layer : ℕ}
  {log : List ArenaEvent} {offset : ℕ} {owner : String}

/-! ## The index -/

/-- The offset the index leads to. -/
def offsetOf (arena : CheckpointArena) (id : String) (layer : ℕ) : Option ℕ := do
  let descIdx ← FMap.get arena.index (id, layer)
  let desc ← arena.slots[descIdx]?
  return desc.offset

lemma getSlot_eq (arena : CheckpointArena) (id : String) (layer : ℕ) :
    arena.getSlot id layer =
      (arena.offsetOf id layer).bind fun offset => (arena.headerAt offset).map (offset, ·) := by
  unfold getSlot offsetOf
  cases FMap.get arena.index (id, layer) with
  | none => rfl
  | some descIdx =>
    simp only [bind_eq_bind, bind_some]
    cases arena.slots[descIdx]? with
    | none => rfl
    | some desc =>
      simp only [bind_some, Option.pure_def]
      cases arena.headerAt desc.offset with
      | none | some hdr => rfl

/-- What the structures of the arena say, compared with its history. -/
structure Represents (arena : CheckpointArena) (log : List ArenaEvent) : Prop where
  wellFormed : arena.WellFormed
  ids : (arena.checkpointSlots.map Prod.fst).Nodup
  slots : (arena.freeList ++ arena.checkpointSlots.flatMap Prod.snd).Perm
    (List.range arena.numSlots)
  keys : (arena.index.map Prod.fst).Nodup
  entries : ∀ id layer descIdx, ((id, layer), descIdx) ∈ arena.index →
    ∃ slot ∈ arena.slotsOf id, arena.slots[descIdx]? = some ⟨slot * arena.slotSize, id, layer⟩
  lookup : ∀ id layer, arena.offsetOf id layer = latest id layer log
  apart : ∀ id layer id' layer' offset, arena.offsetOf id layer = some offset →
    arena.offsetOf id' layer' = some offset → id = id' ∧ layer = layer'
  live : ∀ id, (FMap.get arena.checkpointSlots id).isSome = (born id log).isSome
  listed : ∀ id, id ∈ arena.checkpointOrder ↔ (born id log).isSome
  order : arena.checkpointOrder.Pairwise (BornBefore log)
  decodes : ∀ id, ∀ slot ∈ arena.slotsOf id, arena.Decodes slot

namespace Represents

lemma owned (hrep : arena.Represents log) (hoffset : arena.offsetOf id layer = some offset) :
    ∃ slot ∈ arena.slotsOf id, offset = slot * arena.slotSize := by
  obtain ⟨descIdx, hget, hdesc⟩ := bind_eq_some_iff.mp hoffset
  obtain ⟨slot, hslot, hentry⟩ := hrep.entries id layer descIdx (mem_of_get hget)
  rw [hentry] at hdesc
  exact ⟨slot, hslot, (some.inj hdesc).symm⟩

lemma slotSize_pos (hrep : arena.Represents log) : 0 < arena.slotSize :=
  lt_of_lt_of_le (by decide) hrep.wellFormed.header

lemma slot_inj (hrep : arena.Represents log) {slot : ℕ}
    (heq : slot * arena.slotSize = slot' * arena.slotSize) : slot = slot' :=
  Nat.eq_of_mul_eq_mul_right hrep.slotSize_pos heq

end Represents

lemma represents_new {slotSize numSlots : ℕ}
    (hnew : CheckpointArena.new slotSize numSlots = .ok arena) : arena.Represents [] := by
  have hwell := wellFormed_new hnew
  unfold CheckpointArena.new at hnew
  split_ifs at hnew
  cases hnew
  exact {
    wellFormed := hwell
    ids := nodup_nil
    slots := by simp
    keys := nodup_nil
    entries := fun _ _ _ hentry => by cases hentry
    lookup := fun _ _ => rfl
    apart := fun _ _ _ _ _ hoffset => by cases hoffset
    live := fun _ => rfl
    listed := fun _ => by simp [born]
    order := List.Pairwise.nil
    decodes := fun _ _ hslot => by cases hslot }

/-! ## Allocating -/

lemma allocSlot_registers (hok : arena.allocSlot id layer = .ok (offset, arena')) :
    ∃ slot, offset = slot * arena.slotSize ∧ Allocated arena id layer slot arena' ∧
      arena'.checkpointSlots =
        FMap.insert arena.checkpointSlots id (arena.slotsOf id ++ [slot]) ∧
      arena'.checkpointOrder = if FMap.get arena.checkpointSlots id = none then
        arena.checkpointOrder ++ [id] else arena.checkpointOrder := by
  obtain ⟨slot, hoffset, halloc⟩ := allocSlot_spec hok
  refine ⟨slot, hoffset, halloc, ?_⟩
  unfold allocSlot at hok
  rw [halloc.freeList] at hok
  obtain ⟨-, harena⟩ := Prod.mk.inj (Except.ok.inj hok)
  exact ⟨by rw [← harena], by rw [← harena]⟩

lemma Allocated.offsetOf (halloc : Allocated arena id layer slot arena')
    (hrep : arena.Represents log) (owner : String) (ownerLayer : ℕ) :
    arena'.offsetOf owner ownerLayer =
      if id = owner ∧ layer = ownerLayer then some (slot * arena.slotSize)
      else arena.offsetOf owner ownerLayer := by
  unfold CheckpointArena.offsetOf
  rw [halloc.index, halloc.slots]
  split_ifs with hsame
  · obtain ⟨rfl, rfl⟩ := hsame
    simp
  · have hne : (owner, ownerLayer) ≠ (id, layer) := by
      rintro heq
      cases heq
      exact hsame ⟨rfl, rfl⟩
    rw [get_insert_of_ne _ _ hne]
    cases hget : FMap.get arena.index (owner, ownerLayer) with
    | none => rfl
    | some descIdx =>
      obtain ⟨_, _, hdesc⟩ := hrep.entries owner ownerLayer descIdx (mem_of_get hget)
      obtain ⟨hbound, -⟩ := List.getElem?_eq_some_iff.mp hdesc
      simp only [bind_eq_bind, bind_some, getElem?_append_left hbound]

lemma perm_slotsOf (hids : (arena.checkpointSlots.map Prod.fst).Nodup) :
    (arena.checkpointSlots.flatMap Prod.snd).Perm
      (arena.slotsOf id ++ (FMap.remove arena.checkpointSlots id).flatMap Prod.snd) := by
  cases hget : FMap.get arena.checkpointSlots id with
  | none =>
    rw [remove_eq_self hget, slotsOf, hget]
    exact List.Perm.refl _
  | some slots =>
    rw [slotsOf, hget]
    exact (perm_remove hids hget).flatMap_right Prod.snd

/-- Every slot is free or has one owner. -/
structure Partitioned (arena : CheckpointArena) : Prop where
  ids : (arena.checkpointSlots.map Prod.fst).Nodup
  slots : (arena.freeList ++ arena.checkpointSlots.flatMap Prod.snd).Perm
    (List.range arena.numSlots)

lemma Represents.partitioned (hrep : arena.Represents log) : arena.Partitioned :=
  ⟨hrep.ids, hrep.slots⟩

lemma Allocated.partitioned (halloc : Allocated arena id layer slot arena')
    (hpart : arena.Partitioned)
    (hslots : arena'.checkpointSlots =
      FMap.insert arena.checkpointSlots id (arena.slotsOf id ++ [slot])) : arena'.Partitioned := by
  refine ⟨hslots ▸ nodup_keys_insert hpart.ids id _, ?_⟩
  have hold := @perm_slotsOf arena id hpart.ids
  have hperm := hpart.slots
  rw [halloc.freeList] at hperm
  rw [hslots, halloc.numSlots, FMap.insert, flatMap_cons]
  refine List.Perm.trans ?_ hperm
  calc arena'.freeList ++ (arena.slotsOf id ++ [slot] ++
        (FMap.remove arena.checkpointSlots id).flatMap Prod.snd)
      = (arena'.freeList ++ arena.slotsOf id) ++ (slot ::
          (FMap.remove arena.checkpointSlots id).flatMap Prod.snd) := by simp
    _ |>.Perm (slot :: ((arena'.freeList ++ arena.slotsOf id) ++
          (FMap.remove arena.checkpointSlots id).flatMap Prod.snd)) := perm_middle
    _ |>.Perm (slot :: arena'.freeList ++ arena.checkpointSlots.flatMap Prod.snd) := by
        rw [append_assoc]
        exact (hold.symm.append_left arena'.freeList).cons slot

lemma bornBefore_allocated {order : List String} (hlist : ∀ owner, owner ∈ order ↔ (born owner log).isSome)
    (horder : order.Pairwise (BornBefore log)) (id : String) (layer offset : ℕ) :
    (if (born id log).isSome then order else order ++ [id]).Pairwise
      (BornBefore (.allocated id layer offset :: log)) := by
  -- Who is listed was born before and stays as old as it is.
  have hkept : ∀ owner ∈ order, born owner (.allocated id layer offset :: log) = born owner log := by
    intro owner howner
    obtain ⟨time, htime⟩ := isSome_iff_exists.mp ((hlist owner).mp howner)
    rw [born]
    split_ifs with hid
    · rw [htime]
      rfl
    · rfl
  have hold : order.Pairwise (BornBefore (.allocated id layer offset :: log)) := by
    refine horder.imp_of_mem fun {first second} hfirst hsecond hbefore => ?_
    rw [BornBefore, hkept first hfirst, hkept second hsecond]
    exact hbefore
  split_ifs with hlive
  · exact hold
  · refine pairwise_append.mpr ⟨hold, pairwise_singleton _ _, ?_⟩
    intro first hfirst second hsecond
    obtain rfl := mem_singleton.mp hsecond
    obtain ⟨time, htime⟩ := isSome_iff_exists.mp ((hlist first).mp hfirst)
    have hnew : born second (.allocated second layer offset :: log) = some log.length := by
      rw [born, if_pos rfl, not_isSome_iff_eq_none.mp hlive]
      rfl
    exact ⟨time, log.length, (hkept first hfirst).trans htime, hnew, born_lt htime⟩

lemma isSome_born_allocated (owner id : String) (layer offset : ℕ) :
    (born owner (.allocated id layer offset :: log)).isSome =
      (decide (owner = id) || (born owner log).isSome) := by
  rw [born]
  split_ifs with hid
  · simp [hid]
  · simp [Ne.symm hid]

namespace Allocated

variable (halloc : Allocated arena id layer slot arena') (hrep : arena.Represents log)

include halloc hrep

lemma entries {ownerLayer : ℕ} (hentry : ((owner, ownerLayer), descIdx) ∈ arena'.index) :
    ∃ owned ∈ arena'.slotsOf owner,
      arena'.slots[descIdx]? = some ⟨owned * arena'.slotSize, owner, ownerLayer⟩ := by
  rw [halloc.index, FMap.insert, mem_cons] at hentry
  rw [halloc.slots, halloc.slotSize]
  rcases hentry with heq | hold
  · cases heq
    exact ⟨slot, halloc.mem_slotsOf.mpr (.inr ⟨rfl, rfl⟩), by simp⟩
  · obtain ⟨owned, howned, hdesc⟩ :=
      hrep.entries owner ownerLayer descIdx (mem_of_mem_filter hold)
    obtain ⟨hbound, -⟩ := List.getElem?_eq_some_iff.mp hdesc
    exact ⟨owned, halloc.mem_slotsOf.mpr (.inl howned),
      by rwa [getElem?_append_left hbound]⟩

/-- The new slot was free, so no entry leads to it yet, and entries still lead apart. -/
lemma apart {owner' : String} (hfound : arena'.offsetOf owner ownerLayer = some found)
    (hfound' : arena'.offsetOf owner' ownerLayer' = some found) :
    owner = owner' ∧ ownerLayer = ownerLayer' := by
  have hfresh : ∀ owner ownerLayer,
      arena.offsetOf owner ownerLayer ≠ some (slot * arena.slotSize) := by
    intro owner ownerLayer hfound
    obtain ⟨owned, howned, heq⟩ := hrep.owned hfound
    exact halloc.not_mem_slotsOf hrep.wellFormed owner (hrep.slot_inj heq ▸ howned)
  rw [halloc.offsetOf hrep] at hfound hfound'
  split_ifs at hfound hfound' with hsame hsame' hsame'
  · exact ⟨hsame.1.symm.trans hsame'.1, hsame.2.symm.trans hsame'.2⟩
  · exact absurd (hfound'.trans hfound.symm) (hfresh _ _)
  · exact absurd (hfound.trans hfound'.symm) (hfresh _ _)
  · exact hrep.apart _ _ _ _ _ hfound hfound'

omit halloc in
lemma order_eq (horder : arena'.checkpointOrder =
      if FMap.get arena.checkpointSlots id = none then arena.checkpointOrder ++ [id]
      else arena.checkpointOrder) :
    arena'.checkpointOrder =
      if (born id log).isSome then arena.checkpointOrder else arena.checkpointOrder ++ [id] := by
  have hlive := hrep.live id
  rw [horder]
  cases hget : FMap.get arena.checkpointSlots id with
  | none =>
    rw [hget] at hlive
    rw [if_pos rfl, ← hlive]
    rfl
  | some slots =>
    rw [hget] at hlive
    rw [if_neg (by simp), ← hlive]
    rfl

lemma represents (hoffset : offset = slot * arena.slotSize)
    (hslots : arena'.checkpointSlots =
      FMap.insert arena.checkpointSlots id (arena.slotsOf id ++ [slot]))
    (horder : arena'.checkpointOrder = if FMap.get arena.checkpointSlots id = none then
      arena.checkpointOrder ++ [id] else arena.checkpointOrder) :
    arena'.Represents (.allocated id layer offset :: log) := by
  have hpart := halloc.partitioned hrep.partitioned hslots
  have horder := order_eq hrep horder
  refine {
    wellFormed := halloc.wellFormed hrep.wellFormed
    ids := hpart.ids
    slots := hpart.slots
    keys := halloc.index ▸ nodup_keys_insert hrep.keys _ _
    entries := fun _ _ _ hentry => halloc.entries hrep hentry
    apart := fun _ _ _ _ _ hfound hfound' => halloc.apart hrep hfound hfound'
    order := horder ▸ bornBefore_allocated hrep.listed hrep.order id layer offset
    lookup := ?_
    live := ?_
    listed := ?_
    decodes := ?_ }
  · intro owner ownerLayer
    rw [halloc.offsetOf hrep, latest, hoffset, hrep.lookup]
  · intro owner
    rw [isSome_born_allocated, hslots]
    by_cases hid : owner = id
    · subst hid
      simp
    · rw [get_insert_of_ne _ _ hid, hrep.live]
      simp [hid]
  · intro owner
    rw [horder, isSome_born_allocated]
    split_ifs with hlive
    · rw [hrep.listed]
      by_cases hid : owner = id
      · simp [hid, hlive]
      · simp [hid]
    · rw [mem_append, hrep.listed, mem_singleton]
      simp [or_comm]
  · intro owner owned howned
    obtain ⟨hdr, hbytes⟩ := halloc.bytes
    rcases halloc.mem_slotsOf.mp howned with hold | ⟨-, rfl⟩
    · exact (hrep.decodes owner owned hold).writeHeader hrep.wellFormed.header hbytes halloc.slotSize
    · exact decodes_writeHeader hbytes halloc.slotSize

end Allocated

lemma represents_allocSlot (hrep : arena.Represents log)
    (hok : arena.allocSlot id layer = .ok (offset, arena')) :
    arena'.Represents (.allocated id layer offset :: log) := by
  obtain ⟨slot, hoffset, halloc, hslots, horder⟩ := allocSlot_registers hok
  exact halloc.represents hrep hoffset hslots horder

/-! ## Freeing -/

/-- The slots of a checkpoint move to the free list. -/
lemma Partitioned.freeCheckpoint (hpart : arena.Partitioned) (id : String) :
    (arena.freeCheckpoint id).Partitioned := by
  have hslots := checkpointSlots_freeCheckpoint arena id
  refine ⟨hslots ▸ nodup_keys_retain hpart.ids _, ?_⟩
  rw [hslots, freeList_freeCheckpoint, numSlots_freeCheckpoint]
  refine List.Perm.trans ?_ hpart.slots
  have hold := @perm_slotsOf arena id hpart.ids
  calc (arena.slotsOf id).reverse ++ arena.freeList ++
        (FMap.remove arena.checkpointSlots id).flatMap Prod.snd
      |>.Perm (arena.freeList ++ arena.slotsOf id ++
        (FMap.remove arena.checkpointSlots id).flatMap Prod.snd) :=
        (((arena.slotsOf id).reverse_perm.append_right _).trans
          perm_append_comm).append_right _
    _ |>.Perm _ := by
        rw [append_assoc]
        exact hold.symm.append_left _

lemma offsetOf_freeCheckpoint (hrep : arena.Represents log) (id owner : String) (layer : ℕ) :
    (arena.freeCheckpoint id).offsetOf owner layer =
      if id = owner then none else arena.offsetOf owner layer := by
  cases hget : FMap.get arena.checkpointSlots id with
  | none =>
    -- Who owns no slot has no entry in the index.
    have hunowned : arena.offsetOf id layer = none := by
      rw [eq_none_iff_forall_not_mem]
      intro offset hoffset
      obtain ⟨slot, hslot, -⟩ := hrep.owned hoffset
      rw [slotsOf, hget] at hslot
      exact not_mem_nil hslot
    rw [freeCheckpoint, hget]
    split_ifs with hid
    · exact hid ▸ hunowned
    · rfl
  | some slots =>
    rw [freeCheckpoint, hget]
    unfold offsetOf
    rw [get_retain]
    by_cases hid : id = owner
    · simp [hid]
    · simp [hid, Ne.symm hid]

/-- The id may be unknown; then nothing changes, and it was not listed. -/
lemma checkpointOrder_freeCheckpoint (hrep : arena.Represents log) (id : String) :
    (arena.freeCheckpoint id).checkpointOrder =
      arena.checkpointOrder.filter fun owner => owner ≠ id := by
  unfold freeCheckpoint
  split
  next hget =>
    refine (filter_eq_self.mpr fun owner howner => decide_eq_true ?_).symm
    rintro rfl
    have hlive := hrep.live owner
    rw [hget, (hrep.listed owner).mp howner] at hlive
    cases hlive
  · rfl

lemma mem_index_freeCheckpoint (hrep : arena.Represents log) {layer : ℕ}
    (hentry : ((owner, layer), descIdx) ∈ (arena.freeCheckpoint id).index) :
    ((owner, layer), descIdx) ∈ arena.index ∧ owner ≠ id := by
  unfold freeCheckpoint at hentry
  split at hentry
  next hget =>
    refine ⟨hentry, ?_⟩
    rintro rfl
    obtain ⟨slot, hslot, -⟩ := hrep.entries owner layer descIdx hentry
    rw [slotsOf, hget] at hslot
    cases hslot
  · have hmem := mem_filter.mp hentry
    exact ⟨hmem.1, of_decide_eq_true hmem.2⟩

lemma represents_freeCheckpoint (hrep : arena.Represents log) (id : String) :
    (arena.freeCheckpoint id).Represents (.freed id :: log) := by
  have hborn : ∀ owner, born owner (.freed id :: log) = if id = owner then none else born owner log :=
    fun _ => rfl
  have horder := checkpointOrder_freeCheckpoint hrep id
  refine {
    wellFormed := wellFormed_freeCheckpoint hrep.wellFormed id
    ids := (hrep.partitioned.freeCheckpoint id).ids
    slots := (hrep.partitioned.freeCheckpoint id).slots
    keys := ?_
    entries := ?_
    lookup := ?_
    apart := ?_
    live := ?_
    listed := ?_
    order := ?_
    decodes := ?_ }
  · unfold freeCheckpoint
    split
    · exact hrep.keys
    · exact nodup_keys_retain hrep.keys fun key => key.1 ≠ id
  · intro owner layer descIdx hentry
    obtain ⟨hentry, hother⟩ := mem_index_freeCheckpoint hrep hentry
    rw [slotsOf_freeCheckpoint_of_ne arena hother, slotSize_freeCheckpoint, slots_freeCheckpoint]
    exact hrep.entries owner layer descIdx hentry
  · intro owner layer
    rw [offsetOf_freeCheckpoint hrep, latest, hrep.lookup]
  · intro owner layer owner' layer' offset hoffset hoffset'
    rw [offsetOf_freeCheckpoint hrep] at hoffset hoffset'
    split_ifs at hoffset hoffset'
    exact hrep.apart _ _ _ _ _ hoffset hoffset'
  · intro owner
    rw [hborn, checkpointSlots_freeCheckpoint]
    split_ifs with hid
    · simp [hid]
    · rw [get_remove_of_ne _ (Ne.symm hid), hrep.live]
  · intro owner
    rw [hborn, horder, mem_filter, hrep.listed]
    split_ifs with hid
    · simp [hid]
    · simp [Ne.symm hid]
  · rw [horder]
    refine (hrep.order.filter _).imp_of_mem fun {first second} hfirst hsecond hbefore => ?_
    have hfirst : first ≠ id := of_decide_eq_true (mem_filter.mp hfirst).2
    have hsecond : second ≠ id := of_decide_eq_true (mem_filter.mp hsecond).2
    rw [BornBefore, hborn, hborn, if_neg (Ne.symm hfirst), if_neg (Ne.symm hsecond)]
    exact hbefore
  · intro owner slot hslot
    have hdecodes := hrep.decodes owner slot (mem_slotsOf_freeCheckpoint hslot).2
    unfold Decodes headerAt at hdecodes ⊢
    rwa [bytes_freeCheckpoint, slotSize_freeCheckpoint]

/-! ## Writing to slots -/

lemma represents_withBytes (hrep : arena.Represents log) (bytes : Memory)
    (hdecodes : ∀ slot, arena.Decodes slot → { arena with bytes }.Decodes slot) :
    { arena with bytes }.Represents log :=
  { wellFormed := ⟨hrep.wellFormed.header, hrep.wellFormed.free, hrep.wellFormed.owned,
      hrep.wellFormed.taken, hrep.wellFormed.apart⟩
    ids := hrep.ids
    slots := hrep.slots
    keys := hrep.keys
    entries := hrep.entries
    lookup := hrep.lookup
    apart := hrep.apart
    live := hrep.live
    listed := hrep.listed
    order := hrep.order
    decodes := fun owner slot hslot => hdecodes slot (hrep.decodes owner slot hslot) }

lemma represents_updateHeader (hrep : arena.Represents log) (slot : ℕ) (hdr : SlotHeader) :
    (arena.updateHeader (slot * arena.slotSize) hdr).Represents log :=
  represents_withBytes hrep _ fun _ hdecodes =>
    hdecodes.writeHeader hrep.wellFormed.header rfl rfl

lemma represents_writeData (hrep : arena.Represents log) (slot : ℕ) {data : List UInt8}
    (hfits : data.length ≤ arena.slotSize - slotHeaderSize) :
    (arena.writeData (slot * arena.slotSize) data).Represents log :=
  represents_withBytes hrep _ fun _ hdecodes => hdecodes.writeData hrep.wellFormed.header hfits

/-! ## What an operation leaves alone -/

lemma getSlot_congr (hrep : arena.Represents log)
    (hoffset : arena'.offsetOf id layer = arena.offsetOf id layer)
    (hbytes : ∀ slot ∈ arena.slotsOf id,
      readBytes arena'.bytes (slot * arena.slotSize) arena.slotSize =
        readBytes arena.bytes (slot * arena.slotSize) arena.slotSize) :
    arena'.getSlot id layer = arena.getSlot id layer := by
  rw [getSlot_eq, getSlot_eq, hoffset]
  cases hfound : arena.offsetOf id layer with
  | none => rfl
  | some offset =>
    obtain ⟨slot, hslot, rfl⟩ := hrep.owned hfound
    have hin : 0 + slotHeaderSize ≤ arena.slotSize := by
      simpa using hrep.wellFormed.header
    have hheader := readBytes_inside (hbytes slot hslot) hin
    rw [Nat.add_zero] at hheader
    simp only [bind_some, headerAt, hheader]

/-- The slots of a checkpoint, the index entries that lead to them and their bytes are the same. -/
structure Untouched (id : String) (arena arena' : CheckpointArena) : Prop where
  slotSize : arena'.slotSize = arena.slotSize
  slotsOf : arena'.slotsOf id = arena.slotsOf id
  offsetOf : ∀ layer, arena'.offsetOf id layer = arena.offsetOf id layer
  bytes : ∀ slot ∈ arena.slotsOf id,
    readBytes arena'.bytes (slot * arena.slotSize) arena.slotSize =
      readBytes arena.bytes (slot * arena.slotSize) arena.slotSize

namespace Untouched

variable {arena'' : CheckpointArena}

lemma refl (arena : CheckpointArena) : Untouched id arena arena :=
  ⟨rfl, rfl, fun _ => rfl, fun _ _ => rfl⟩

lemma trans (hfirst : Untouched id arena arena') (hsecond : Untouched id arena' arena'') :
    Untouched id arena arena'' where
  slotSize := hsecond.slotSize.trans hfirst.slotSize
  slotsOf := hsecond.slotsOf.trans hfirst.slotsOf
  offsetOf := fun layer => (hsecond.offsetOf layer).trans (hfirst.offsetOf layer)
  bytes := by
    intro slot hslot
    have hread := hsecond.bytes slot (hfirst.slotsOf ▸ hslot)
    rw [hfirst.slotSize] at hread
    exact hread.trans (hfirst.bytes slot hslot)

lemma getSlot (hsame : Untouched id arena arena') (hrep : arena.Represents log) (layer : ℕ) :
    arena'.getSlot id layer = arena.getSlot id layer :=
  getSlot_congr hrep (hsame.offsetOf layer) hsame.bytes

end Untouched

lemma readBytes_other_slot {mem : Memory} {slotSize start : ℕ} {data : List UInt8} {slot slot' : ℕ}
    (hne : slot' ≠ slot) (hfits : start + data.length ≤ slotSize) :
    readBytes (writeBytes mem (slot * slotSize + start) data) (slot' * slotSize) slotSize =
      readBytes mem (slot' * slotSize) slotSize := by
  have hapart := slot_apart slotSize hne
  exact readBytes_writeBytes_of_disjoint mem (by omega)

lemma Allocated.untouched (halloc : Allocated arena id layer slot arena')
    (hrep : arena.Represents log) (hne : other ≠ id) : Untouched other arena arena' where
  slotSize := halloc.slotSize
  slotsOf := halloc.slotsOf_of_ne other hne
  offsetOf := by
    intro ownerLayer
    rw [halloc.offsetOf hrep, if_neg fun hsame => hne hsame.1.symm]
  bytes := by
    intro owned howned
    obtain ⟨hdr, hbytes⟩ := halloc.bytes
    have hslot : owned ≠ slot := fun heq =>
      halloc.not_mem_slotsOf hrep.wellFormed other (heq ▸ howned)
    rw [hbytes]
    exact @readBytes_other_slot _ _ 0 _ _ _ hslot
      (by rw [SlotHeader.length_writeTo]; simpa using hrep.wellFormed.header)

lemma untouched_freeCheckpoint (hrep : arena.Represents log) (hne : other ≠ id) :
    Untouched other arena (arena.freeCheckpoint id) where
  slotSize := slotSize_freeCheckpoint arena id
  slotsOf := slotsOf_freeCheckpoint_of_ne arena hne
  offsetOf := by
    intro layer
    rw [offsetOf_freeCheckpoint hrep, if_neg (Ne.symm hne)]
  bytes := by
    intro slot _
    rw [bytes_freeCheckpoint]

lemma untouched_updateHeader (hheader : slotHeaderSize ≤ arena.slotSize) (hdr : SlotHeader)
    (hslot : slot ∉ arena.slotsOf id) :
    Untouched id arena (arena.updateHeader (slot * arena.slotSize) hdr) where
  slotSize := rfl
  slotsOf := rfl
  offsetOf := fun _ => rfl
  bytes := by
    intro owned howned
    have hne : owned ≠ slot := fun heq => hslot (heq ▸ howned)
    exact @readBytes_other_slot _ _ 0 _ _ _ hne
      (by rw [SlotHeader.length_writeTo]; simpa using hheader)

lemma untouched_writeData (hheader : slotHeaderSize ≤ arena.slotSize) {data : List UInt8}
    (hfits : data.length ≤ arena.slotSize - slotHeaderSize) (hslot : slot ∉ arena.slotsOf id) :
    Untouched id arena (arena.writeData (slot * arena.slotSize) data) where
  slotSize := rfl
  slotsOf := rfl
  offsetOf := fun _ => rfl
  bytes := by
    intro owned howned
    have hne : owned ≠ slot := fun heq => hslot (heq ▸ howned)
    exact readBytes_other_slot hne (by omega)

/-! ## Loading -/

section Load

variable (crc32 : List UInt8 → UInt32)

/-- The event of a call of `allocSlot`. -/
def allocEvents (arena : CheckpointArena) (id : String) (layer : ℕ) : List ArenaEvent :=
  match arena.allocSlot id layer with
  | .error _ => []
  | .ok (offset, _) => [.allocated id layer offset]

/-- The events of the loop of `load_spilled_checkpoint`. -/
def loadEvents (file : List UInt8) (id : String) :
    CheckpointArena → List SpillIndexEntry → List ArenaEvent
  | _, [] => []
  | arena, entry :: entries =>
      match arena.loadEntry crc32 file id entry with
      | .error _ => []
      | .ok arena' => loadEvents file id arena' entries ++ arena.allocEvents id entry.layerIdx

variable {crc32} {file : List UInt8} {entry : SpillIndexEntry}

lemma length_of_readSpillData {maxDataSize : ℕ}
    (hread : readSpillData crc32 maxDataSize file entry = .ok data) :
    data.length ≤ maxDataSize := by
  unfold readSpillData at hread
  dsimp only at hread
  split_ifs at hread with _ hmax _ _
  cases hread
  calc ((file.drop entry.dataOffset).take entry.dataLen).length ≤ entry.dataLen :=
        length_take_le _ _
    _ ≤ maxDataSize := not_lt.mp hmax

/-- A round of the loop is an allocation, and two writes into the new slot. -/
lemma loadEntry_spec (hok : arena.loadEntry crc32 file id entry = .ok arena') :
    ∃ data slot arena₁,
      readSpillData crc32 (arena.slotSize - slotHeaderSize) file entry = .ok data ∧
      arena.allocSlot id entry.layerIdx = .ok (slot * arena.slotSize, arena₁) ∧
      Allocated arena id entry.layerIdx slot arena₁ ∧
      arena' = (arena₁.updateHeader (slot * arena.slotSize) entry.header).writeData
        (slot * arena.slotSize) data := by
  obtain ⟨data, hdata, hok⟩ := bind_eq_ok hok
  obtain ⟨⟨offset, arena₁⟩, halloc, hok⟩ := bind_eq_ok hok
  cases hok
  obtain ⟨slot, rfl, hslot⟩ := allocSlot_spec halloc
  exact ⟨data, slot, arena₁, hdata, halloc, hslot, rfl⟩

/-- A property of an arena and its history that the parts of every call keep: taking a slot,
giving the slots of a checkpoint back, and writing a header or data that fit. -/
structure ArenaRule (P : CheckpointArena → List ArenaEvent → Prop) : Prop where
  allocSlot : ∀ {arena arena' : CheckpointArena} {log : List ArenaEvent} {id : String}
    {layer offset : ℕ}, P arena log → arena.allocSlot id layer = .ok (offset, arena') →
      P arena' (.allocated id layer offset :: log)
  freeCheckpoint : ∀ {arena : CheckpointArena} {log : List ArenaEvent}, P arena log →
    ∀ id, P (arena.freeCheckpoint id) (.freed id :: log)
  updateHeader : ∀ {arena : CheckpointArena} {log : List ArenaEvent}, P arena log →
    ∀ slot header, P (arena.updateHeader (slot * arena.slotSize) header) log
  writeData : ∀ {arena : CheckpointArena} {log : List ArenaEvent}, P arena log →
    ∀ slot {data : List UInt8}, data.length ≤ arena.slotSize - slotHeaderSize →
      P (arena.writeData (slot * arena.slotSize) data) log

namespace ArenaRule

variable {P : CheckpointArena → List ArenaEvent → Prop} (rule : ArenaRule P)

include rule

lemma loadEntry (hP : P arena log) (hok : arena.loadEntry crc32 file id entry = .ok arena') :
    P arena' (arena.allocEvents id entry.layerIdx ++ log) := by
  obtain ⟨data, slot, arena₁, hdata, halloc, hslot, rfl⟩ := loadEntry_spec hok
  have hfits := length_of_readSpillData hdata
  have hstamped := rule.updateHeader (rule.allocSlot hP halloc) slot entry.header
  rw [hslot.slotSize] at hstamped
  have hsize : (arena₁.updateHeader (slot * arena.slotSize) entry.header).slotSize =
    arena.slotSize := hslot.slotSize
  rw [← hsize] at hfits
  have hfilled := rule.writeData hstamped slot hfits
  rw [hsize] at hfilled
  rw [allocEvents, halloc]
  exact hfilled

lemma loadEntries (hP : P arena log) (entries : List SpillIndexEntry) :
    P (CheckpointArena.loadEntries crc32 file id arena entries).2
      (loadEvents crc32 file id arena entries ++ log) := by
  induction entries generalizing arena log with
  | nil => exact hP
  | cons entry entries ih =>
    rw [CheckpointArena.loadEntries, loadEvents]
    cases hentry : arena.loadEntry crc32 file id entry with
    | error msg => exact hP
    | ok arena' =>
      rw [append_assoc]
      exact ih (rule.loadEntry hP hentry)

end ArenaRule

lemma Represents.arenaRule : ArenaRule Represents where
  allocSlot := represents_allocSlot
  freeCheckpoint := represents_freeCheckpoint
  updateHeader := represents_updateHeader
  writeData := represents_writeData

lemma Partitioned.arenaRule : ArenaRule fun arena _ => arena.Partitioned where
  allocSlot := by
    intro arena arena' _ id layer offset hpart halloc
    obtain ⟨slot, -, hslot, hslots, -⟩ := allocSlot_registers halloc
    exact hslot.partitioned hpart hslots
  freeCheckpoint := fun hpart id => hpart.freeCheckpoint id
  updateHeader := fun hpart _ _ => ⟨hpart.ids, hpart.slots⟩
  writeData := fun hpart _ _ _ => ⟨hpart.ids, hpart.slots⟩

lemma untouched_loadEntry (hrep : arena.Represents log)
    (hok : arena.loadEntry crc32 file id entry = .ok arena') (hne : other ≠ id) :
    Untouched other arena arena' := by
  obtain ⟨data, slot, arena₁, hdata, halloc, hslot, rfl⟩ := loadEntry_spec hok
  have hfits := length_of_readSpillData hdata
  have hrep₁ := represents_allocSlot hrep halloc
  have hunowned : slot ∉ arena₁.slotsOf other := by
    rw [hslot.slotsOf_of_ne other hne]
    exact hslot.not_mem_slotsOf hrep.wellFormed other
  refine (hslot.untouched hrep hne).trans ?_
  rw [← hslot.slotSize] at hfits ⊢
  have hstamped := untouched_updateHeader hrep₁.wellFormed.header entry.header hunowned
  refine hstamped.trans ?_
  exact untouched_writeData (represents_updateHeader hrep₁ slot entry.header).wellFormed.header hfits
    hunowned

lemma untouched_loadEntries (hrep : arena.Represents log) (hne : other ≠ id)
    (entries : List SpillIndexEntry) :
    Untouched other arena (loadEntries crc32 file id arena entries).2 := by
  induction entries generalizing arena log with
  | nil => exact .refl arena
  | cons entry entries ih =>
    rw [loadEntries]
    cases hentry : arena.loadEntry crc32 file id entry with
    | error msg => exact .refl arena
    | ok arena' =>
      exact (untouched_loadEntry hrep hentry hne).trans (ih (Represents.arenaRule.loadEntry hrep hentry))

end Load

end CheckpointArena

/-! ## Runs -/

/-- A call of the arena's interface.  The last two are the writes of a caller through the pointer
to a slot. -/
inductive ArenaOp
  | allocSlot (id : String) (layer : UInt32)
  | freeCheckpoint (id : String)
  | spillCheckpoint (id : String) (written : Except String Unit)
  | loadSpilledCheckpoint (id : String) (read : Except String (List UInt8))
  | updateHeader (slot : ℕ) (header : SlotHeader)
  | writeData (slot : ℕ) (data : List UInt8)

namespace ArenaOp

open CheckpointArena

variable (crc32 : List UInt8 → UInt32) (arena : CheckpointArena)

/-- The arena after a call.  A caller writes only to slots that exist, and no more than fits. -/
def step : ArenaOp → CheckpointArena
  | .allocSlot id layer =>
      match arena.allocSlot id layer.toNat with
      | .error _ => arena
      | .ok (_, arena') => arena'
  | .freeCheckpoint id => arena.freeCheckpoint id
  | .spillCheckpoint id written =>
      match arena.spillCheckpoint id written with
      | .error _ => arena
      | .ok arena' => arena'
  | .loadSpilledCheckpoint id read => (arena.loadSpilledCheckpoint crc32 read id).2
  | .updateHeader slot header =>
      if slot < arena.numSlots then arena.updateHeader (slot * arena.slotSize) header else arena
  | .writeData slot data =>
      if slot < arena.numSlots ∧ data.length ≤ arena.slotSize - slotHeaderSize then
        arena.writeData (slot * arena.slotSize) data
      else arena

/-- The slots a call allocates and the checkpoints it frees, newest first. -/
def events : ArenaOp → List ArenaEvent
  | .allocSlot id layer => arena.allocEvents id layer.toNat
  | .freeCheckpoint id => [.freed id]
  | .spillCheckpoint id written =>
      match arena.spillCheckpoint id written with
      | .error _ => []
      | .ok _ => [.freed id]
  | .loadSpilledCheckpoint id read =>
      match read with
      | .error _ => []
      | .ok file =>
          match readSpillIndex file with
          | .error _ => []
          | .ok entries => loadEvents crc32 file id arena entries
  | .updateHeader _ _ => []
  | .writeData _ _ => []

/-- Whether a call is about a checkpoint. -/
def Concerns : ArenaOp → String → Prop
  | .allocSlot id _, other => other = id
  | .freeCheckpoint id, other => other = id
  | .spillCheckpoint id _, other => other = id
  | .loadSpilledCheckpoint id _, other => other = id
  | .updateHeader slot _, other => slot ∈ arena.slotsOf other
  | .writeData slot _, other => slot ∈ arena.slotsOf other

variable {crc32 arena} {log : List ArenaEvent}

lemma spillCheckpoint_ok {id : String}
    (hfound : (arena.slotInfoForCheckpoint id).isEmpty = false)
    (hcount : (arena.slotInfoForCheckpoint id).length < 2 ^ 32) :
    arena.spillCheckpoint id (.ok ()) = .ok (arena.freeCheckpoint id) := by
  rw [CheckpointArena.spillCheckpoint, if_neg (by simp [hfound]), if_neg (not_le.mpr hcount)]

lemma step_rule {P : CheckpointArena → List ArenaEvent → Prop} (rule : ArenaRule P)
    (hP : P arena log) (op : ArenaOp) : P (op.step crc32 arena) (op.events crc32 arena ++ log) := by
  cases op with
  | allocSlot id layer =>
    rw [step, events, allocEvents]
    cases halloc : arena.allocSlot id layer.toNat with
    | error msg => exact hP
    | ok allocated => exact rule.allocSlot hP halloc
  | freeCheckpoint id => exact rule.freeCheckpoint hP id
  | spillCheckpoint id written =>
    rw [step, events]
    cases hspill : arena.spillCheckpoint id written with
    | error msg => exact hP
    | ok arena' =>
      obtain ⟨-, rfl⟩ := spillCheckpoint_spec hspill
      exact rule.freeCheckpoint hP id
  | loadSpilledCheckpoint id read =>
    cases read with
    | error msg => exact hP
    | ok file =>
      rw [step, events, CheckpointArena.loadSpilledCheckpoint]
      cases hindex : readSpillIndex file with
      | error msg => exact hP
      | ok entries => exact rule.loadEntries hP entries
  | updateHeader slot hdr =>
    rw [step, events]
    split_ifs
    · exact rule.updateHeader hP slot hdr
    · exact hP
  | writeData slot data =>
    rw [step, events]
    split_ifs with hvalid
    · exact rule.writeData hP slot hvalid.2
    · exact hP

/-- A call leaves every checkpoint alone that it is not about. -/
lemma untouched_step (hrep : arena.Represents log) (op : ArenaOp) {other : String}
    (hother : ¬ op.Concerns arena other) : Untouched other arena (op.step crc32 arena) := by
  cases op with
  | allocSlot id layer =>
    rw [step]
    cases halloc : arena.allocSlot id layer.toNat with
    | error msg => exact .refl arena
    | ok allocated =>
      obtain ⟨slot, -, hslot⟩ := allocSlot_spec halloc
      exact hslot.untouched hrep hother
  | freeCheckpoint id => exact untouched_freeCheckpoint hrep hother
  | spillCheckpoint id written =>
    rw [step]
    cases hspill : arena.spillCheckpoint id written with
    | error msg => exact .refl arena
    | ok arena' =>
      obtain ⟨-, rfl⟩ := spillCheckpoint_spec hspill
      exact untouched_freeCheckpoint hrep hother
  | loadSpilledCheckpoint id read =>
    cases read with
    | error msg => exact .refl arena
    | ok file =>
      rw [step, CheckpointArena.loadSpilledCheckpoint]
      cases hindex : readSpillIndex file with
      | error msg => exact .refl arena
      | ok entries => exact untouched_loadEntries hrep hother entries
  | updateHeader slot hdr =>
    rw [step]
    split_ifs
    · exact untouched_updateHeader hrep.wellFormed.header hdr hother
    · exact .refl arena
  | writeData slot data =>
    rw [step]
    split_ifs with hvalid
    · exact untouched_writeData hrep.wellFormed.header hvalid.2 hother
    · exact .refl arena

end ArenaOp

namespace CheckpointArena

variable {arena : CheckpointArena} {log : List ArenaEvent}

section

variable (hrep : arena.Represents log)

include hrep

/-- The layer found for a slot of a checkpoint is one whose index entry leads to the slot. -/
lemma offsetOf_of_layerOfOffset {id : String} (hslot : slot ∈ arena.slotsOf id)
    (hlayer : arena.layerOfOffset (slot * arena.slotSize) = some layer) :
    arena.offsetOf id layer = some (slot * arena.slotSize) := by
  obtain ⟨⟨⟨owner, ownerLayer⟩, descIdx⟩, hfind, hdesc⟩ := bind_eq_some_iff.mp hlayer
  have hentry := mem_of_find?_eq_some hfind
  obtain ⟨owned, howned, hslots⟩ := hrep.entries owner ownerLayer descIdx hentry
  have hoffset := find?_some hfind
  simp only [hslots, any_some, decide_eq_true_eq] at hoffset hdesc
  obtain rfl := hrep.slot_inj hoffset
  obtain rfl : ownerLayer = layer := some.inj hdesc
  have hid : owner = id := by
    by_contra hne
    exact hrep.wellFormed.apart owner id hne owned howned hslot
  rw [offsetOf, ← hid, get_of_mem hrep.keys hentry]
  simp [hslots]

lemma layerOfOffset_eq_some_iff {id : String} (hslot : slot ∈ arena.slotsOf id) :
    arena.layerOfOffset (slot * arena.slotSize) = some layer ↔
      arena.offsetOf id layer = some (slot * arena.slotSize) := by
  refine ⟨offsetOf_of_layerOfOffset hrep hslot, fun hoffset => ?_⟩
  obtain ⟨descIdx, hget, hdesc⟩ := bind_eq_some_iff.mp hoffset
  obtain ⟨desc, hslots, heq⟩ := bind_eq_some_iff.mp hdesc
  obtain ⟨found, hfound⟩ := isSome_iff_exists.mp
    (isSome_layerOfOffset (mem_of_get hget) hslots (some.inj heq))
  have hsame := hrep.apart _ _ _ _ _ (offsetOf_of_layerOfOffset hrep hslot hfound) hoffset
  exact hsame.2 ▸ hfound

/-- What is listed for a checkpoint is what `getSlot` finds, whatever the slots hold. -/
lemma mem_slotInfoForCheckpoint_of_bytes {id : String} (mem : Memory) :
    (layer, offset, hdr) ∈ slotInfoForCheckpoint { arena with bytes := mem } id ↔
      getSlot { arena with bytes := mem } id layer = some (offset, hdr) := by
  rw [getSlot_eq, slotInfoForCheckpoint, mem_filterMap]
  constructor
  · rintro ⟨slot, hslot, hinfo⟩
    obtain ⟨found, hlayer, hinfo⟩ := bind_eq_some_iff.mp hinfo
    obtain ⟨read, hheader, hinfo⟩ := bind_eq_some_iff.mp hinfo
    cases hinfo
    have hoffset := (layerOfOffset_eq_some_iff hrep hslot).mp hlayer
    exact bind_eq_some_iff.mpr ⟨_, hoffset, by rw [hheader]; rfl⟩
  · intro hget
    obtain ⟨found, hoffset, hheader⟩ := bind_eq_some_iff.mp hget
    obtain ⟨read, hread, hpair⟩ := map_eq_some_iff.mp hheader
    cases hpair
    obtain ⟨slot, hslot, rfl⟩ := hrep.owned hoffset
    have hlayer := (layerOfOffset_eq_some_iff hrep hslot).mpr hoffset
    exact ⟨slot, hslot, bind_eq_some_iff.mpr ⟨_, hlayer, bind_eq_some_iff.mpr ⟨_, hread, rfl⟩⟩⟩

lemma mem_slotInfoForCheckpoint {id : String} :
    (layer, offset, hdr) ∈ arena.slotInfoForCheckpoint id ↔
      arena.getSlot id layer = some (offset, hdr) :=
  mem_slotInfoForCheckpoint_of_bytes hrep arena.bytes

lemma nodup_slotInfo_layers (id : String) :
    ((arena.slotInfoForCheckpoint id).map Prod.fst).Nodup := by
  have hinfos : (arena.slotInfoForCheckpoint id).Nodup := by
    refine (hrep.wellFormed.owned id).filterMap fun slot slot' info hinfo hinfo' => ?_
    obtain ⟨_, _, hinfo⟩ := bind_eq_some_iff.mp hinfo
    obtain ⟨_, _, hinfo⟩ := bind_eq_some_iff.mp hinfo
    obtain ⟨_, _, hinfo'⟩ := bind_eq_some_iff.mp hinfo'
    obtain ⟨_, _, hinfo'⟩ := bind_eq_some_iff.mp hinfo'
    have hpair := some.inj (hinfo.trans hinfo'.symm)
    exact hrep.slot_inj (Prod.mk.inj (Prod.mk.inj hpair).2).1
  refine hinfos.map_on fun info hinfo info' hinfo' hlayer => ?_
  obtain ⟨layer, offset, hdr⟩ := info
  obtain ⟨layer', offset', hdr'⟩ := info'
  obtain rfl : layer = layer' := hlayer
  have hget := (mem_slotInfoForCheckpoint hrep).mp hinfo
  rw [(mem_slotInfoForCheckpoint hrep).mp hinfo'] at hget
  cases hget
  rfl

lemma Represents.getSlot_offset (id : String) (layer : ℕ) :
    (arena.getSlot id layer).map Prod.fst = latest id layer log := by
  rw [getSlot_eq, ← hrep.lookup]
  cases hoffset : arena.offsetOf id layer with
  | none => rfl
  | some offset =>
    obtain ⟨slot, hslot, rfl⟩ := hrep.owned hoffset
    obtain ⟨hdr, hheader⟩ := isSome_iff_exists.mp (hrep.decodes id slot hslot)
    simp [hheader]

end

lemma isOk_allocSlot_eq_false_iff (arena : CheckpointArena) (id : String) (layer : ℕ) :
    (arena.allocSlot id layer).isOk = false ↔ arena.freeList = [] := by
  constructor
  · intro hfails
    by_contra hfree
    rw [isOk_allocSlot layer hfree] at hfails
    cases hfails
  · intro hfree
    rw [allocSlot, hfree]
    rfl

/-- What holds of an arena with the given history, through its interface. -/
structure Consistent (crc32 : List UInt8 → UInt32) (arena : CheckpointArena)
    (log : List ArenaEvent) : Prop where
  slots : (arena.freeList ++ arena.checkpointSlots.flatMap Prod.snd).Perm
    (List.range arena.numSlots)
  distinct : ∀ id layer id' layer' offset, arena.offsetOf id layer = some offset →
    arena.offsetOf id' layer' = some offset → id = id' ∧ layer = layer'
  belongs : ∀ id layer offset, arena.offsetOf id layer = some offset →
    ∃ slot ∈ arena.slotsOf id, offset = slot * arena.slotSize
  live : ∀ id, id ∈ arena.checkpointOrder ↔ id ∈ arena.checkpointSlots.map Prod.fst
  born : ∀ id, id ∈ arena.checkpointOrder ↔ (born id log).isSome
  order : arena.checkpointOrder.Pairwise (BornBefore log)
  exhausted : ∀ id layer, (arena.allocSlot id layer).isOk = false ↔ arena.freeList = []
  getSlot : ∀ id layer, (arena.getSlot id layer).map Prod.fst = latest id layer log
  slotInfo : ∀ id, ((arena.slotInfoForCheckpoint id).map Prod.fst).Nodup ∧
    ∀ layer offset header, (layer, offset, header) ∈ arena.slotInfoForCheckpoint id ↔
      arena.getSlot id layer = some (offset, header)
  frame : ∀ (op : ArenaOp) (other : String), ¬ op.Concerns arena other →
    Untouched other arena (op.step crc32 arena) ∧
      ∀ layer, (op.step crc32 arena).getSlot other layer = arena.getSlot other layer

lemma Represents.consistent (hrep : arena.Represents log) (crc32 : List UInt8 → UInt32) :
    arena.Consistent crc32 log where
  slots := hrep.slots
  distinct := hrep.apart
  belongs := fun _ _ _ hoffset => hrep.owned hoffset
  live := by
    intro id
    rw [hrep.listed, ← hrep.live, ← not_iff_not, ← get_eq_none_iff]
    simp
  born := hrep.listed
  order := hrep.order
  exhausted := arena.isOk_allocSlot_eq_false_iff
  getSlot := hrep.getSlot_offset
  slotInfo := fun id =>
    ⟨nodup_slotInfo_layers hrep id, fun _ _ _ => mem_slotInfoForCheckpoint hrep⟩
  frame := fun op _ hother =>
    ⟨op.untouched_step hrep hother, (op.untouched_step hrep hother).getSlot hrep⟩

/-- The arena after a run and the history of the run. -/
def run (crc32 : List UInt8 → UInt32) (arena : CheckpointArena) (log : List ArenaEvent) :
    List ArenaOp → CheckpointArena × List ArenaEvent
  | [] => (arena, log)
  | op :: ops => run crc32 (op.step crc32 arena) (op.events crc32 arena ++ log) ops

lemma ArenaRule.run {P : CheckpointArena → List ArenaEvent → Prop} (rule : ArenaRule P)
    (crc32 : List UInt8 → UInt32) (hP : P arena log) (ops : List ArenaOp) :
    P (arena.run crc32 log ops).1 (arena.run crc32 log ops).2 := by
  induction ops generalizing arena log with
  | nil => exact hP
  | cons op ops ih => exact ih (op.step_rule rule hP)

lemma geometryRule (slotSize numSlots : ℕ) :
    ArenaRule fun arena _ => arena.slotSize = slotSize ∧ arena.numSlots = numSlots where
  allocSlot := by
    rintro arena arena' _ id layer offset ⟨hsize, hnum⟩ halloc
    obtain ⟨slot, -, hslot⟩ := allocSlot_spec halloc
    exact ⟨hslot.slotSize.trans hsize, hslot.numSlots.trans hnum⟩
  freeCheckpoint := by
    intro arena _ hsame id
    rwa [slotSize_freeCheckpoint, numSlots_freeCheckpoint]
  updateHeader := fun hsame _ _ => hsame
  writeData := fun hsame _ _ _ => hsame

lemma geometry_run (crc32 : List UInt8 → UInt32) (arena : CheckpointArena)
    (log : List ArenaEvent) (ops : List ArenaOp) :
    (arena.run crc32 log ops).1.slotSize = arena.slotSize ∧
      (arena.run crc32 log ops).1.numSlots = arena.numSlots :=
  (geometryRule arena.slotSize arena.numSlots).run crc32 ⟨rfl, rfl⟩ ops

lemma Represents.run (crc32 : List UInt8 → UInt32) (hrep : arena.Represents log)
    (ops : List ArenaOp) :
    (arena.run crc32 log ops).1.Represents (arena.run crc32 log ops).2 :=
  Represents.arenaRule.run crc32 hrep ops

/-- **After every run the structures of the arena agree with each other and with the history.** -/
theorem consistent_run (crc32 : List UInt8 → UInt32) {slotSize numSlots : ℕ}
    (hnew : CheckpointArena.new slotSize numSlots = .ok arena) (ops : List ArenaOp) :
    (arena.run crc32 [] ops).1.Consistent crc32 (arena.run crc32 [] ops).2 :=
  ((represents_new hnew).run crc32 ops).consistent crc32

def twoSlots : CheckpointArena where
  bytes := fun _ => 0
  slotSize := 128
  numSlots := 2
  freeList := [0, 1]
  slots := []
  index := []
  checkpointSlots := []
  checkpointOrder := []

lemma new_twoSlots : CheckpointArena.new 128 2 = .ok twoSlots := rfl

/-- A layer that is allocated twice, and its slots used again. -/
theorem consistent_run_reused :
    (twoSlots.run (fun _ => 0) [] [.allocSlot "c1" 0, .allocSlot "c1" 0, .freeCheckpoint "c1",
        .allocSlot "c2" 3]).1.Consistent (fun _ => 0)
      (twoSlots.run (fun _ => 0) [] [.allocSlot "c1" 0, .allocSlot "c1" 0, .freeCheckpoint "c1",
        .allocSlot "c2" 3]).2 :=
  consistent_run _ new_twoSlots _

end CheckpointArena

end RocketSurgeon.Worker
