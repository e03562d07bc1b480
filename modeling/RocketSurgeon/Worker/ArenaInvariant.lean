import RocketSurgeon.Worker.Arena

/-!
# What the arena keeps

`Holds arena id` says that the arena has a slot of the checkpoint `id` that a restore can
find: one the checkpoint owns, that the index leads back to, and whose header decodes.

Every operation of the arena keeps what it held, apart from the checkpoints it frees.
`Extends id slots lost` collects this for the operations that work on the checkpoint `id`,
take at most `slots` slots and free the checkpoints `lost`; it composes, so that a longer
operation is a chain of shorter ones.
-/

namespace RocketSurgeon.Worker

open Lib List

namespace CheckpointArena

variable {arena arena' arena'' : CheckpointArena} {id other : String} {slot : ℕ}

/-! ## Slots and their headers -/

/-- No slot has two owners, and none that is owned is free. -/
structure WellFormed (arena : CheckpointArena) : Prop where
  header : slotHeaderSize ≤ arena.slotSize
  free : arena.freeList.Nodup
  owned : ∀ id, (arena.slotsOf id).Nodup
  taken : ∀ id, ∀ slot ∈ arena.slotsOf id, slot ∉ arena.freeList
  apart : ∀ id other, id ≠ other → ∀ slot ∈ arena.slotsOf id, slot ∉ arena.slotsOf other

lemma wellFormed_new {slotSize numSlots : ℕ}
    (hnew : CheckpointArena.new slotSize numSlots = .ok arena) : arena.WellFormed := by
  unfold CheckpointArena.new at hnew
  split at hnew
  · cases hnew
  next hheader =>
    split_ifs at hnew
    cases hnew
    exact {
      header := not_lt.mp hheader
      free := nodup_range
      owned := fun _ => nodup_nil
      taken := fun _ _ hslot => by cases hslot
      apart := fun _ _ _ _ hslot => by cases hslot }

lemma slotsOf_new {slotSize numSlots : ℕ}
    (hnew : CheckpointArena.new slotSize numSlots = .ok arena) (id : String) :
    arena.slotsOf id = [] := by
  unfold CheckpointArena.new at hnew
  split_ifs at hnew
  cases hnew
  rfl

/-- Whether the header of a slot can be read. -/
def Decodes (arena : CheckpointArena) (slot : ℕ) : Prop :=
  (arena.headerAt (slot * arena.slotSize)).isSome = true

/-- The arena has a slot of the checkpoint that a restore can find. -/
def Holds (arena : CheckpointArena) (id : String) : Prop :=
  ∃ slot ∈ arena.slotsOf id, arena.Decodes slot ∧
    ∃ entry ∈ arena.index, entry.1.1 = id ∧
      ∃ desc, arena.slots[entry.2]? = some desc ∧ desc.offset = slot * arena.slotSize

lemma slot_apart (slotSize : ℕ) (hne : slot' ≠ slot) :
    slot' * slotSize + slotSize ≤ slot * slotSize ∨ slot * slotSize + slotSize ≤ slot' * slotSize := by
  rcases lt_or_gt_of_ne hne with hlt | hgt
  · left
    calc slot' * slotSize + slotSize = (slot' + 1) * slotSize := (Nat.succ_mul _ _).symm
      _ ≤ slot * slotSize := Nat.mul_le_mul_right _ hlt
  · right
    calc slot * slotSize + slotSize = (slot + 1) * slotSize := (Nat.succ_mul _ _).symm
      _ ≤ slot' * slotSize := Nat.mul_le_mul_right _ hgt

lemma decodes_writeHeader {hdr : SlotHeader}
    (hbytes : arena'.bytes = writeBytes arena.bytes (slot * arena.slotSize) hdr.writeTo)
    (hsize : arena'.slotSize = arena.slotSize) : arena'.Decodes slot := by
  have hread : readBytes (writeBytes arena.bytes (slot * arena.slotSize) hdr.writeTo)
      (slot * arena.slotSize) slotHeaderSize = hdr.writeTo := by
    simpa using readBytes_writeBytes arena.bytes _ hdr.writeTo
  unfold Decodes headerAt
  rw [hbytes, hsize, hread]
  exact hdr.isSome_readFrom_writeTo

lemma Decodes.writeHeader {hdr : SlotHeader} (hdecodes : arena.Decodes slot')
    (hheader : slotHeaderSize ≤ arena.slotSize)
    (hbytes : arena'.bytes = writeBytes arena.bytes (slot * arena.slotSize) hdr.writeTo)
    (hsize : arena'.slotSize = arena.slotSize) : arena'.Decodes slot' := by
  by_cases hsame : slot' = slot
  · subst hsame
    exact decodes_writeHeader hbytes hsize
  · have hapart := slot_apart arena.slotSize hsame
    have hdisjoint : slot' * arena.slotSize + slotHeaderSize ≤ slot * arena.slotSize ∨
        slot * arena.slotSize + hdr.writeTo.length ≤ slot' * arena.slotSize := by
      rw [SlotHeader.length_writeTo]
      omega
    unfold Decodes headerAt at hdecodes ⊢
    rwa [hbytes, hsize, readBytes_writeBytes_of_disjoint _ hdisjoint]

lemma Decodes.writeData (hdecodes : arena.Decodes slot')
    (hheader : slotHeaderSize ≤ arena.slotSize)
    (hfits : data.length ≤ arena.slotSize - slotHeaderSize) :
    (arena.writeData (slot * arena.slotSize) data).Decodes slot' := by
  have hdisjoint : slot' * arena.slotSize + slotHeaderSize ≤ slot * arena.slotSize + slotHeaderSize ∨
      slot * arena.slotSize + slotHeaderSize + data.length ≤ slot' * arena.slotSize := by
    by_cases hsame : slot' = slot
    · subst hsame
      exact .inl le_rfl
    · have hapart := slot_apart arena.slotSize hsame
      omega
  change (SlotHeader.readFrom (readBytes (writeBytes arena.bytes _ data)
    (slot' * arena.slotSize) _)).isSome = true
  rwa [readBytes_writeBytes_of_disjoint _ hdisjoint]

lemma isSome_layerOfOffset (hentry : entry ∈ arena.index)
    (hdesc : arena.slots[entry.2]? = some desc) (hoffset : desc.offset = off) :
    (arena.layerOfOffset off).isSome = true := by
  have hfound : (arena.index.find? fun entry =>
      (arena.slots[entry.2]?).any fun desc => desc.offset = off).isSome = true := by
    rw [find?_isSome]
    exact ⟨entry, hentry, by simp [hdesc, hoffset]⟩
  obtain ⟨found, hfound⟩ := Option.isSome_iff_exists.mp hfound
  have hany := find?_some hfound
  unfold layerOfOffset
  rw [hfound]
  cases hslots : arena.slots[found.2]? with
  | none => simp [hslots] at hany
  | some desc' => simp [hslots]

lemma Holds.slotInfo (hholds : arena.Holds id) :
    (arena.slotInfoForCheckpoint id).isEmpty = false := by
  obtain ⟨slot, hslot, hdecodes, entry, hentry, -, desc, hdesc, hoffset⟩ := hholds
  obtain ⟨layer, hlayer⟩ :=
    Option.isSome_iff_exists.mp (isSome_layerOfOffset hentry hdesc hoffset)
  obtain ⟨hdr, hheader⟩ := Option.isSome_iff_exists.mp hdecodes
  have hmem : (layer, slot * arena.slotSize, hdr) ∈ arena.slotInfoForCheckpoint id := by
    exact mem_filterMap.mpr ⟨slot, hslot, by simp [hlayer, hheader]⟩
  rw [isEmpty_eq_false_iff]
  exact ne_nil_of_mem hmem

/-! ## What an operation keeps -/

/-- What a chain of operations for the checkpoint `id` does to an arena: it takes at most
`slots` slots and frees only the checkpoints `lost`. -/
structure Extends (id : String) (slots : ℕ) (lost : Set String)
    (arena arena' : CheckpointArena) : Prop where
  wellFormed : arena'.WellFormed
  slotSize : arena'.slotSize = arena.slotSize
  numSlots : arena'.numSlots = arena.numSlots
  available : arena.available ≤ arena'.available + slots
  order : ∀ other ∈ arena'.checkpointOrder, other = id ∨ other ∈ arena.checkpointOrder
  unowned : ∀ other, other ≠ id → arena.slotsOf other = [] → arena'.slotsOf other = []
  holds : ∀ other, other ∉ lost → arena.Holds other → arena'.Holds other

namespace Extends

variable {slots slots' : ℕ} {lost lost' : Set String}

lemma refl (hwf : arena.WellFormed) : Extends id 0 ∅ arena arena where
  wellFormed := hwf
  slotSize := rfl
  numSlots := rfl
  available := le_rfl
  order := fun _ hother => .inr hother
  unowned := fun _ _ hnone => hnone
  holds := fun _ _ hholds => hholds

lemma trans (hfirst : Extends id slots lost arena arena')
    (hsecond : Extends id slots' lost' arena' arena'') :
    Extends id (slots + slots') (lost ∪ lost') arena arena'' where
  wellFormed := hsecond.wellFormed
  slotSize := hsecond.slotSize.trans hfirst.slotSize
  numSlots := hsecond.numSlots.trans hfirst.numSlots
  available := by
    have hfirst := hfirst.available
    have hsecond := hsecond.available
    omega
  order := by
    intro other hother
    rcases hsecond.order other hother with hid | hmem
    · exact .inl hid
    · exact hfirst.order other hmem
  unowned := fun other hne hnone => hsecond.unowned other hne (hfirst.unowned other hne hnone)
  holds := by
    intro other hkept hholds
    rw [Set.mem_union, not_or] at hkept
    exact hsecond.holds other hkept.2 (hfirst.holds other hkept.1 hholds)

lemma mono (hextends : Extends id slots lost arena arena') (hslots : slots ≤ slots')
    (hlost : lost ⊆ lost') : Extends id slots' lost' arena arena' :=
  { hextends with
    available := hextends.available.trans (Nat.add_le_add_left hslots _)
    holds := fun other hkept => hextends.holds other fun hmem => hkept (hlost hmem) }

/-- A chain of two operations that free nothing. -/
lemma andThen (hfirst : Extends id slots ∅ arena arena')
    (hsecond : Extends id slots' ∅ arena' arena'') :
    Extends id (slots + slots') ∅ arena arena'' := by
  simpa using hfirst.trans hsecond

end Extends

/-! ### Allocating -/

/-- What `allocSlot` does when it succeeds. -/
structure Allocated (arena : CheckpointArena) (id : String) (layer slot : ℕ)
    (arena' : CheckpointArena) : Prop where
  freeList : arena.freeList = slot :: arena'.freeList
  slotSize : arena'.slotSize = arena.slotSize
  numSlots : arena'.numSlots = arena.numSlots
  bytes : ∃ header : SlotHeader,
    arena'.bytes = writeBytes arena.bytes (slot * arena.slotSize) header.writeTo
  slots : arena'.slots = arena.slots ++ [⟨slot * arena.slotSize, id, layer⟩]
  index : arena'.index = FMap.insert arena.index (id, layer) arena.slots.length
  slotsOf_self : arena'.slotsOf id = arena.slotsOf id ++ [slot]
  slotsOf_of_ne : ∀ other, other ≠ id → arena'.slotsOf other = arena.slotsOf other
  order : ∀ other ∈ arena'.checkpointOrder, other = id ∨ other ∈ arena.checkpointOrder

lemma allocSlot_spec (hok : arena.allocSlot id layer = .ok (off, arena')) :
    ∃ slot, off = slot * arena.slotSize ∧ Allocated arena id layer slot arena' := by
  unfold allocSlot at hok
  split at hok
  · cases hok
  next slot freeList hfree =>
    cases hok
    refine ⟨slot, rfl, hfree, rfl, rfl, ⟨_, rfl⟩, rfl, rfl, ?_, ?_, ?_⟩
    · simp [slotsOf]
    · intro other hne
      simp [slotsOf, FMap.get_insert_of_ne _ _ hne]
    · intro other hother
      split at hother
      · rcases mem_append.mp hother with hold | hnew
        · exact .inr hold
        · exact .inl (mem_singleton.mp hnew)
      · exact .inr hother

lemma isOk_allocSlot (layer : ℕ) (hfree : arena.freeList ≠ []) :
    (arena.allocSlot id layer).isOk = true := by
  obtain ⟨slot, freeList, hcons⟩ := exists_cons_of_ne_nil hfree
  unfold allocSlot
  rw [hcons]
  rfl

namespace Allocated

variable {layer : ℕ}

section

variable (halloc : Allocated arena id layer slot arena')

include halloc

lemma mem_slotsOf :
    owned ∈ arena'.slotsOf other ↔ owned ∈ arena.slotsOf other ∨ other = id ∧ owned = slot := by
  by_cases hid : other = id
  · subst hid
    rw [halloc.slotsOf_self]
    simp
  · rw [halloc.slotsOf_of_ne other hid]
    simp [hid]

lemma not_mem_slotsOf (hwf : arena.WellFormed) (owner : String) :
    slot ∉ arena.slotsOf owner := by
  intro howned
  refine hwf.taken owner slot howned ?_
  rw [halloc.freeList]
  exact mem_cons_self

lemma wellFormed (hwf : arena.WellFormed) :
    arena'.WellFormed := by
  have hfree : (slot :: arena'.freeList).Nodup := halloc.freeList ▸ hwf.free
  have hunowned := halloc.not_mem_slotsOf hwf
  -- The slot leaves the free list and had no owner, so its new owner is the only one.
  refine ⟨halloc.slotSize ▸ hwf.header, (nodup_cons.mp hfree).2, ?_, ?_, ?_⟩
  · intro owner
    by_cases hid : owner = id
    · subst hid
      rw [halloc.slotsOf_self]
      refine List.Nodup.append (hwf.owned owner) (nodup_singleton slot) ?_
      rw [disjoint_singleton]
      exact hunowned owner
    · rw [halloc.slotsOf_of_ne owner hid]
      exact hwf.owned owner
  · intro owner owned howned hmem
    rcases halloc.mem_slotsOf.mp howned with hold | ⟨-, hnew⟩
    · refine hwf.taken owner owned hold ?_
      rw [halloc.freeList]
      exact mem_cons_of_mem _ hmem
    · exact (nodup_cons.mp hfree).1 (hnew ▸ hmem)
  · intro owner other hne owned howned hother
    rcases halloc.mem_slotsOf.mp howned with hold | ⟨hid, hnew⟩
    · rcases halloc.mem_slotsOf.mp hother with hold' | ⟨-, hnew⟩
      · exact hwf.apart owner other hne owned hold hold'
      · exact hunowned owner (hnew ▸ hold)
    · rcases halloc.mem_slotsOf.mp hother with hold' | ⟨hid', -⟩
      · exact hunowned other (hnew ▸ hold')
      · exact hne (hid.trans hid'.symm)

lemma holds_self : arena'.Holds id := by
  obtain ⟨hdr, hbytes⟩ := halloc.bytes
  refine ⟨slot, halloc.mem_slotsOf.mpr (.inr ⟨rfl, rfl⟩),
    decodes_writeHeader hbytes halloc.slotSize, ((id, layer), arena.slots.length), ?_, rfl,
    ⟨slot * arena.slotSize, id, layer⟩, ?_, ?_⟩
  · rw [halloc.index]
    exact mem_cons_self
  · rw [halloc.slots]
    simp
  · rw [halloc.slotSize]

/-- Nothing that was held is lost: an index entry is replaced only by one of the same
checkpoint. -/
lemma holds (hwf : arena.WellFormed) (hholds : arena.Holds other) : arena'.Holds other := by
  obtain ⟨hdr, hbytes⟩ := halloc.bytes
  obtain ⟨owned, howned, hdecodes, entry, hentry, hkey, desc, hdesc, hoffset⟩ := hholds
  by_cases hid : other = id
  · exact hid ▸ halloc.holds_self
  · refine ⟨owned, halloc.mem_slotsOf.mpr (.inl howned),
      hdecodes.writeHeader hwf.header hbytes halloc.slotSize, entry, ?_, hkey, desc, ?_, ?_⟩
    · rw [halloc.index]
      refine mem_cons_of_mem _ (mem_filter.mpr ⟨hentry, ?_⟩)
      have hne : entry.1 ≠ (id, layer) := fun heq => hid (by rw [← hkey, heq])
      simpa using hne
    · rw [halloc.slots]
      obtain ⟨hbound, -⟩ := List.getElem?_eq_some_iff.mp hdesc
      rwa [getElem?_append_left hbound]
    · rw [halloc.slotSize]
      exact hoffset

lemma toExtends (hwf : arena.WellFormed) :
    Extends id 1 ∅ arena arena' where
  wellFormed := halloc.wellFormed hwf
  slotSize := halloc.slotSize
  numSlots := halloc.numSlots
  available := by
    unfold available
    rw [halloc.freeList, length_cons]
  order := halloc.order
  unowned := by
    intro other hne hnone
    rw [halloc.slotsOf_of_ne other hne]
    exact hnone
  holds := fun _ _ hholds => halloc.holds hwf hholds

end

end Allocated

/-! ### Writing and freeing -/

/-- Bytes may change as long as headers that decode still do. -/
lemma extends_withBytes (hwf : arena.WellFormed) (bytes : Memory)
    (hdecodes : ∀ slot, arena.Decodes slot → { arena with bytes }.Decodes slot) :
    Extends id 0 ∅ arena { arena with bytes } where
  wellFormed := ⟨hwf.header, hwf.free, hwf.owned, hwf.taken, hwf.apart⟩
  slotSize := rfl
  numSlots := rfl
  available := le_rfl
  order := fun _ hother => .inr hother
  unowned := fun _ _ hnone => hnone
  holds := by
    rintro other - ⟨slot, hslot, hdecoded, hfound⟩
    exact ⟨slot, hslot, hdecodes slot hdecoded, hfound⟩

lemma extends_updateHeader (hwf : arena.WellFormed) (slot : ℕ) (hdr : SlotHeader) :
    Extends id 0 ∅ arena (arena.updateHeader (slot * arena.slotSize) hdr) :=
  extends_withBytes hwf _ fun _ hdecodes => hdecodes.writeHeader hwf.header rfl rfl

lemma extends_writeData (hwf : arena.WellFormed) (slot : ℕ) {data : List UInt8}
    (hfits : data.length ≤ arena.slotSize - slotHeaderSize) :
    Extends id 0 ∅ arena (arena.writeData (slot * arena.slotSize) data) :=
  extends_withBytes hwf _ fun _ hdecodes => hdecodes.writeData hwf.header hfits

section

variable (arena : CheckpointArena) (id : String)

@[simp] lemma slotSize_freeCheckpoint :
    (arena.freeCheckpoint id).slotSize = arena.slotSize := by
  unfold freeCheckpoint
  split <;> rfl

@[simp] lemma numSlots_freeCheckpoint :
    (arena.freeCheckpoint id).numSlots = arena.numSlots := by
  unfold freeCheckpoint
  split <;> rfl

@[simp] lemma slots_freeCheckpoint :
    (arena.freeCheckpoint id).slots = arena.slots := by
  unfold freeCheckpoint
  split <;> rfl

@[simp] lemma bytes_freeCheckpoint :
    (arena.freeCheckpoint id).bytes = arena.bytes := by
  unfold freeCheckpoint
  split <;> rfl

lemma checkpointSlots_freeCheckpoint :
    (arena.freeCheckpoint id).checkpointSlots = FMap.remove arena.checkpointSlots id := by
  unfold freeCheckpoint
  split
  next hget => exact (FMap.remove_eq_self hget).symm
  · rfl

lemma slotsOf_freeCheckpoint_self :
    (arena.freeCheckpoint id).slotsOf id = [] := by
  rw [slotsOf, checkpointSlots_freeCheckpoint, FMap.get_remove_self, Option.getD_none]

lemma freeList_freeCheckpoint :
    (arena.freeCheckpoint id).freeList = (arena.slotsOf id).reverse ++ arena.freeList := by
  unfold freeCheckpoint
  split
  next hnone => simp [slotsOf, hnone]
  next slots hslots => simp [slotsOf, hslots]

end

lemma slotsOf_freeCheckpoint_of_ne (arena : CheckpointArena) (hne : other ≠ id) :
    (arena.freeCheckpoint id).slotsOf other = arena.slotsOf other := by
  rw [slotsOf, checkpointSlots_freeCheckpoint, FMap.get_remove_of_ne _ hne, slotsOf]

lemma mem_slotsOf_freeCheckpoint (hslot : slot ∈ (arena.freeCheckpoint id).slotsOf owner) :
    owner ≠ id ∧ slot ∈ arena.slotsOf owner := by
  by_cases hid : owner = id
  · rw [hid, slotsOf_freeCheckpoint_self] at hslot
    cases hslot
  · rw [slotsOf_freeCheckpoint_of_ne arena hid] at hslot
    exact ⟨hid, hslot⟩

lemma wellFormed_freeCheckpoint (hwf : arena.WellFormed) (id : String) :
    (arena.freeCheckpoint id).WellFormed := by
  refine ⟨?_, ?_, ?_, ?_, ?_⟩
  · rw [slotSize_freeCheckpoint]
    exact hwf.header
  · rw [freeList_freeCheckpoint]
    refine List.Nodup.append (nodup_reverse.mpr (hwf.owned id)) hwf.free ?_
    intro slot hslot
    exact hwf.taken id slot (mem_reverse.mp hslot)
  · intro owner
    by_cases hid : owner = id
    · rw [hid, slotsOf_freeCheckpoint_self]
      exact nodup_nil
    · rw [slotsOf_freeCheckpoint_of_ne arena hid]
      exact hwf.owned owner
  · intro owner slot hslot hfree
    obtain ⟨hid, hslot⟩ := mem_slotsOf_freeCheckpoint hslot
    rw [freeList_freeCheckpoint, mem_append, mem_reverse] at hfree
    rcases hfree with hfreed | hfree
    · exact hwf.apart owner id hid slot hslot hfreed
    · exact hwf.taken owner slot hslot hfree
  · intro owner other hne slot hslot hother
    exact hwf.apart owner other hne slot (mem_slotsOf_freeCheckpoint hslot).2
      (mem_slotsOf_freeCheckpoint hother).2

/-- Freeing a checkpoint keeps the slots and the index entries of every other one. -/
lemma holds_freeCheckpoint (hne : other ≠ id) (hholds : arena.Holds other) :
    (arena.freeCheckpoint id).Holds other := by
  obtain ⟨slot, hslot, hdecodes, entry, hentry, hkey, hdesc⟩ := hholds
  rw [← slotsOf_freeCheckpoint_of_ne arena hne] at hslot
  unfold freeCheckpoint at hslot ⊢
  split at hslot
  · exact ⟨slot, hslot, hdecodes, entry, hentry, hkey, hdesc⟩
  · refine ⟨slot, hslot, hdecodes, entry, mem_filter.mpr ⟨hentry, ?_⟩, hkey, hdesc⟩
    exact decide_eq_true (hkey.symm ▸ hne)

lemma extends_freeCheckpoint (hwf : arena.WellFormed) (freed : String) :
    Extends id 0 {freed} arena (arena.freeCheckpoint freed) where
  wellFormed := wellFormed_freeCheckpoint hwf freed
  slotSize := slotSize_freeCheckpoint arena freed
  numSlots := numSlots_freeCheckpoint arena freed
  available := by
    unfold available
    rw [freeList_freeCheckpoint, length_append]
    omega
  order := by
    intro other hother
    right
    unfold freeCheckpoint at hother
    split at hother
    · exact hother
    · exact mem_of_mem_filter hother
  unowned := by
    intro other _ hnone
    by_cases hfreed : other = freed
    · rw [hfreed]
      exact slotsOf_freeCheckpoint_self arena freed
    · rw [slotsOf_freeCheckpoint_of_ne arena hfreed]
      exact hnone
  holds := fun _ hkept hholds => holds_freeCheckpoint hkept hholds

end CheckpointArena

end RocketSurgeon.Worker
