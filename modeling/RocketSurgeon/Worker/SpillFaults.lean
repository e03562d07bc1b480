import RocketSurgeon.Lib.Trapping
import RocketSurgeon.Worker.ArenaHistory

/-!
# Files that cannot be loaded

A file may hold anything.  Two things are asked of `load_spilled_checkpoint` then: that an error
leaves the arena as it was, and that there is an error and nothing worse.

An entry is loaded before the next one is looked at, so the first holds only of errors that come
before the first slot is taken.  For the second, the function is written down once more with
arithmetic and slices that trap, and with a trap for data that do not fit their slot.  The front of
a file is checked well enough.  The end of the data of an entry is not: it is the sum of two numbers
of the file.
-/

namespace RocketSurgeon.Worker

open Lib CheckpointArena Trapping

namespace CheckpointArena

variable {crc32 : List UInt8 → UInt32} {arena arena' : CheckpointArena} {id : String}
  {file : List UInt8} {entry : SpillIndexEntry} {entries : List SpillIndexEntry}

/-! ## What an error leaves behind -/

/-- The free list, the live checkpoints, the index and what the slots of the live checkpoints hold
are the same in two arenas. -/
structure AsBefore (arena arena' : CheckpointArena) : Prop where
  freeList : arena'.freeList = arena.freeList
  checkpointSlots : arena'.checkpointSlots = arena.checkpointSlots
  checkpointOrder : arena'.checkpointOrder = arena.checkpointOrder
  index : arena'.index = arena.index
  bytes : ∀ id, ∀ slot ∈ arena.slotsOf id,
    readBytes arena'.bytes (slot * arena.slotSize) arena.slotSize =
      readBytes arena.bytes (slot * arena.slotSize) arena.slotSize

lemma AsBefore.refl (arena : CheckpointArena) : AsBefore arena arena :=
  ⟨rfl, rfl, rfl, rfl, fun _ _ _ => rfl⟩

/-- Nothing of the file is loaded: if its index can be read and has a first entry, no slot is free
for it or its data are rejected. -/
def FailsAtOnce (crc32 : List UInt8 → UInt32) (arena : CheckpointArena)
    (read : Except String (List UInt8)) : Prop :=
  ∀ file entry entries, read = .ok file → readSpillIndex file = .ok (entry :: entries) →
    arena.freeList = [] ∨
      (readSpillData crc32 (arena.slotSize - slotHeaderSize) file entry).isOk = false

lemma isOk_loadEntry_eq_false_iff : (arena.loadEntry crc32 file id entry).isOk = false ↔
    arena.freeList = [] ∨
      (readSpillData crc32 (arena.slotSize - slotHeaderSize) file entry).isOk = false := by
  unfold loadEntry allocSlot
  cases readSpillData crc32 (arena.slotSize - slotHeaderSize) file entry with
  | error message => exact iff_of_true rfl (.inr rfl)
  | ok data => cases arena.freeList with
    | nil => exact iff_of_true rfl (.inl rfl)
    | cons slot freeList => exact iff_of_false nofun (by simp [Except.isOk, Except.toBool])

lemma available_loadEntry (hok : arena.loadEntry crc32 file id entry = .ok arena') :
    arena.available = arena'.available + 1 := by
  obtain ⟨data, slot, arena₁, -, -, hslot, rfl⟩ := loadEntry_spec hok
  rw [available, hslot.freeList]
  rfl

lemma available_loadEntries (entries : List SpillIndexEntry) (arena : CheckpointArena) :
    (loadEntries crc32 file id arena entries).2.available ≤ arena.available := by
  induction entries generalizing arena with
  | nil => exact le_rfl
  | cons entry entries ih =>
    rw [loadEntries]
    cases hentry : arena.loadEntry crc32 file id entry with
    | error msg => exact le_rfl
    | ok arena' =>
      calc (loadEntries crc32 file id arena' entries).2.available ≤ arena'.available := ih arena'
        _ ≤ arena.available := by
            rw [available_loadEntry hentry]
            exact Nat.le_succ _

lemma loadSpilledCheckpoint_of_index (hindex : readSpillIndex file = .ok entries) :
    arena.loadSpilledCheckpoint crc32 (.ok file) id = loadEntries crc32 file id arena entries := by
  rw [loadSpilledCheckpoint, hindex]

lemma loadEntries_of_failsAtOnce (hfails : ∀ entry rest, entries = entry :: rest →
      (arena.loadEntry crc32 file id entry).isOk = false) :
    (loadEntries crc32 file id arena entries).2 = arena := by
  cases entries with
  | nil => rfl
  | cons entry rest =>
    have hentry := hfails entry rest rfl
    rw [loadEntries]
    cases hload : arena.loadEntry crc32 file id entry with
    | error msg => rfl
    | ok arena' =>
      rw [hload] at hentry
      cases hentry

/-- **What a load leaves as it was.**  Whatever the file holds, the arena is as before, as it has to
be after an error, exactly if not even the first entry is loaded. -/
theorem load_all_or_nothing_iff (crc32 : List UInt8 → UInt32) (arena : CheckpointArena)
    (read : Except String (List UInt8)) (id : String) :
    AsBefore arena (arena.loadSpilledCheckpoint crc32 read id).2 ↔
      FailsAtOnce crc32 arena read := by
  constructor
  · intro hsame file entry entries hread hindex
    rw [← @isOk_loadEntry_eq_false_iff _ _ id]
    by_contra hloads
    obtain ⟨arena', hentry⟩ := exists_ok_of_isOk (Bool.eq_true_of_not_eq_false hloads)
    -- One slot is taken for the entry, and none comes back.
    have hcount := congrArg List.length hsame.freeList
    have hleft := @available_loadEntries crc32 id file entries arena'
    have htaken := available_loadEntry hentry
    rw [hread, loadSpilledCheckpoint_of_index hindex, loadEntries, hentry] at hcount
    unfold available at hleft htaken
    dsimp only at hcount
    omega
  · intro hfails
    have hsame : (arena.loadSpilledCheckpoint crc32 read id).2 = arena := by
      unfold loadSpilledCheckpoint
      cases hread : read with
      | error failure => rfl
      | ok file =>
        dsimp only
        cases hindex : readSpillIndex file with
        | error failure => rfl
        | ok entries =>
          refine loadEntries_of_failsAtOnce fun entry rest hentries => ?_
          exact isOk_loadEntry_eq_false_iff.mpr (hfails file entry rest hread (hentries ▸ hindex))
    rw [hsame]
    exact .refl arena

/-- An index entry with data at an offset, and the checksum zero. -/
def entryAt (layerIdx dataOffset dataLen : ℕ) : SpillIndexEntry :=
  ⟨layerIdx, .float32, 0, List.replicate 6 0, dataOffset, dataLen, 0⟩

/-- Of two layers the second one is missing from the file: the first one stays. -/
theorem not_load_all_or_nothing_truncated :
    ¬ ∀ message,
      (twoSlots.loadSpilledCheckpoint (fun _ => 0)
          (.ok (spillIndex [entryAt 0 176 0, entryAt 1 176 64])) "c1").1 = .error message →
        AsBefore twoSlots (twoSlots.loadSpilledCheckpoint (fun _ => 0)
          (.ok (spillIndex [entryAt 0 176 0, entryAt 1 176 64])) "c1").2 := by
  intro hatomic
  have hsame := hatomic "spill file truncated: need 240 bytes, got 176" (by decide +kernel)
  exact absurd hsame.freeList (by decide +kernel)

end CheckpointArena

/-! ## The loader with traps -/

namespace Traps

/-- The index entries `i`, `i + 1`, … of a file. -/
def readSpillEntries (file : List UInt8) : ℕ → ℕ → Trapping String (List SpillIndexEntry)
  | _, 0 => .ok []
  | i, count + 1 => do
      let off ← Trapping.add 16 (← Trapping.mul i spillIndexEntrySize)
      let buf ← Trapping.slice file off (← Trapping.add off spillIndexEntrySize)
      match SpillIndexEntry.readFrom buf with
      | none => .error (.failed s!"invalid spill index entry {i}: bad dtype tag")
      | some entry => do
          let entries ← readSpillEntries file (i + 1) count
          return entry :: entries

/-- The checks on the front of a file, and its index. -/
def readSpillIndex (file : List UInt8) : Trapping String (List SpillIndexEntry) := do
  Trapping.ensure (16 ≤ file.length) "spill file too short"
  let magic ← Trapping.slice file 0 8
  Trapping.ensure (magic = spillMagic) "invalid spill file magic"
  let version := leNat (← Trapping.slice file 8 12)
  Trapping.ensure (version = spillVersion) s!"unsupported spill version {version}"
  let numSlots := leNat (← Trapping.slice file 12 16)
  let indexEnd ← Trapping.add 16 (← Trapping.mul numSlots spillIndexEntrySize)
  Trapping.ensure (indexEnd ≤ file.length) "spill file truncated in index"
  readSpillEntries file 0 numSlots

/-- The data of an entry, once they are checked. -/
def readSpillData (crc32 : List UInt8 → UInt32) (maxDataSize : ℕ) (file : List UInt8)
    (entry : SpillIndexEntry) : Trapping String (List UInt8) := do
  let stop ← Trapping.add entry.dataOffset entry.dataLen
  Trapping.ensure (stop ≤ file.length)
    s!"spill file truncated: need {stop} bytes, got {file.length}"
  Trapping.ensure (entry.dataLen ≤ maxDataSize)
    s!"spill data ({entry.dataLen} bytes) exceeds slot capacity ({maxDataSize} bytes)"
  let data ← Trapping.slice file entry.dataOffset stop
  let actualCrc := (crc32 data).toNat
  Trapping.ensure (actualCrc = entry.crc32)
    s!"CRC32 mismatch for layer {entry.layerIdx}: expected {hexWord entry.crc32}, got {hexWord actualCrc}"
  return data

/-- `alloc_slot`: the offset of a slot and the length in its first header are computed. -/
def allocSlot (arena : CheckpointArena) (checkpointId : String) (layerIdx : ℕ) :
    Trapping String (ℕ × CheckpointArena) := do
  match arena.freeList with
  | [] => Trapping.lift (arena.allocSlot checkpointId layerIdx)
  | slot :: _ =>
      let _offset ← Trapping.mul slot arena.slotSize
      let _byteLen ← Trapping.sub arena.slotSize slotHeaderSize
      Trapping.lift (arena.allocSlot checkpointId layerIdx)

/-- Copy data behind a header, within the slot.  The source does not check this. -/
def writeData (arena : CheckpointArena) (offset : ℕ) (data : List UInt8) :
    Trapping String CheckpointArena :=
  if data.length ≤ arena.slotSize - slotHeaderSize then .ok (arena.writeData offset data)
  else .error (.outOfRange slotHeaderSize (slotHeaderSize + data.length) arena.slotSize)

section Load

variable (crc32 : List UInt8 → UInt32) (maxDataSize : ℕ) (file : List UInt8)
  (checkpointId : String)

/-- One round of the loop of `load_spilled_checkpoint`. -/
def loadEntry (arena : CheckpointArena) (entry : SpillIndexEntry) :
    Trapping String CheckpointArena := do
  let data ← readSpillData crc32 maxDataSize file entry
  let (offset, arena) ← allocSlot arena checkpointId entry.layerIdx
  writeData (arena.updateHeader offset entry.header) offset data

def loadEntries :
    CheckpointArena → List SpillIndexEntry → Trapping String Unit × CheckpointArena
  | arena, [] => (.ok (), arena)
  | arena, entry :: entries =>
      match loadEntry crc32 maxDataSize file checkpointId arena entry with
      | .error fault => (.error fault, arena)
      | .ok arena => loadEntries arena entries

/-- `load_spilled_checkpoint` of a file that can be read, with the arena it leaves. -/
def loadSpilledCheckpoint (arena : CheckpointArena) : Trapping String Unit × CheckpointArena :=
  match readSpillIndex file with
  | .error fault => (.error fault, arena)
  | .ok entries =>
      match Trapping.sub arena.slotSize slotHeaderSize with
      | .error fault => (.error fault, arena)
      | .ok maxDataSize => loadEntries crc32 maxDataSize file checkpointId arena entries

end Load

variable {crc32 : List UInt8 → UInt32} {arena : CheckpointArena} {id : String}
  {file : List UInt8} {entry : SpillIndexEntry} {entries : List SpillIndexEntry}

/-! ## The front of a file -/

lemma readSpillEntries_eq (hcount : i + count < 2 ^ 32)
    (hlen : 16 + (i + count) * spillIndexEntrySize ≤ file.length) :
    readSpillEntries file i count = lift (Worker.readSpillEntries file i count) := by
  induction count generalizing i with
  | zero => rfl
  | succ count ih =>
    have hrest := @ih (i + 1) (by omega) (by rwa [Nat.add_right_comm, Nat.add_assoc i])
    have hin : 16 + i * spillIndexEntrySize + spillIndexEntrySize ≤ file.length := by
      unfold spillIndexEntrySize at hlen ⊢
      omega
    have hstop : 16 + i * spillIndexEntrySize + spillIndexEntrySize < 2 ^ 64 := by
      unfold spillIndexEntrySize
      omega
    have hoffset : 16 + i * spillIndexEntrySize < 2 ^ 64 := by omega
    have hmul : i * spillIndexEntrySize < 2 ^ 64 := by omega
    have hslice := @slice_eq_ok String UInt8 file _
      (16 + i * spillIndexEntrySize + spillIndexEntrySize) (Nat.le_add_right _ _) hin
    rw [Nat.add_sub_cancel_left] at hslice
    rw [readSpillEntries, Worker.readSpillEntries, mul_eq_ok hmul]
    simp only [bind, Except.bind, add_eq_ok hoffset, add_eq_ok hstop, hslice, hrest]
    cases SpillIndexEntry.readFrom
      ((file.drop (16 + i * spillIndexEntrySize)).take spillIndexEntrySize) with
    | none => rfl
    | some entry =>
      cases Worker.readSpillEntries file (i + 1) count with
      | error msg | ok entries => rfl

lemma readSpillIndex_eq (file : List UInt8) :
    readSpillIndex file = lift (Worker.readSpillIndex file) := by
  unfold readSpillIndex Worker.readSpillIndex
  dsimp only
  rw [ensure_bind]
  by_cases hshort : 16 ≤ file.length
  · have hmagic := @slice_eq_ok String UInt8 file 0 8 (by decide) (by omega)
    have hversion := @slice_eq_ok String UInt8 file 8 12 (by decide) (by omega)
    have hnumSlots := @slice_eq_ok String UInt8 file 12 16 (by decide) (by omega)
    have hword : leNat ((file.drop 12).take 4) < 2 ^ 32 := leNat_take_lt _ 4
    have hindexEnd : 16 + leNat ((file.drop 12).take 4) * spillIndexEntrySize < 2 ^ 64 := by
      unfold spillIndexEntrySize
      omega
    have hmul : leNat ((file.drop 12).take 4) * spillIndexEntrySize < 2 ^ 64 := by omega
    rw [if_pos hshort, if_neg (by omega), hmagic, ok_bind, ensure_bind]
    by_cases hvalid : file.take 8 = spillMagic
    · rw [if_pos (show (file.drop 0).take 8 = spillMagic from hvalid), if_neg (not_not.mpr hvalid),
        hversion, ok_bind, ensure_bind]
      by_cases hcurrent : leNat ((file.drop 8).take 4) = spillVersion
      · rw [if_pos hcurrent, if_neg (not_not.mpr hcurrent), hnumSlots, ok_bind,
          mul_eq_ok hmul, ok_bind, add_eq_ok hindexEnd, ok_bind,
          ensure_bind]
        by_cases hindex : 16 + leNat ((file.drop 12).take 4) * spillIndexEntrySize ≤ file.length
        · rw [if_pos hindex, if_neg (not_lt.mpr hindex)]
          exact readSpillEntries_eq (by rwa [Nat.zero_add]) (by rwa [Nat.zero_add])
        · rw [if_neg hindex, if_pos (not_le.mp hindex)]
          rfl
      · rw [if_neg hcurrent, if_pos hcurrent]
        rfl
    · rw [if_neg (show ¬ (file.drop 0).take 8 = spillMagic from hvalid), if_pos hvalid]
      rfl
  · rw [if_neg hshort, if_pos (by omega)]
    rfl

/-! ## The data -/

/-- The end of the data is a 64-bit number. -/
def EndFits (entry : SpillIndexEntry) : Prop := entry.dataOffset + entry.dataLen < 2 ^ 64

lemma readSpillData_of_endFits (hfits : EndFits entry) (maxDataSize : ℕ) :
    readSpillData crc32 maxDataSize file entry =
      lift (Worker.readSpillData crc32 maxDataSize file entry) := by
  have hstop : (entry.dataOffset + entry.dataLen) % 2 ^ 64 = entry.dataOffset + entry.dataLen :=
    Nat.mod_eq_of_lt hfits
  unfold readSpillData Worker.readSpillData
  rw [hstop, add_eq_ok hfits, ok_bind, ensure_bind]
  by_cases hin : entry.dataOffset + entry.dataLen ≤ file.length
  · rw [if_pos hin, if_neg (not_lt.mpr hin), ensure_bind]
    by_cases hmax : entry.dataLen ≤ maxDataSize
    · have hslice := @slice_eq_ok String UInt8 file entry.dataOffset
        (entry.dataOffset + entry.dataLen) (Nat.le_add_right _ _) hin
      rw [Nat.add_sub_cancel_left] at hslice
      rw [if_pos hmax, if_neg (not_lt.mpr hmax), if_neg (not_lt.mpr (Nat.le_add_right _ _)), hslice,
        ok_bind, ensure_bind]
      by_cases hcrc : (crc32 ((file.drop entry.dataOffset).take entry.dataLen)).toNat = entry.crc32
      · rw [if_pos hcrc, if_neg (not_not.mpr hcrc)]
        rfl
      · rw [if_neg hcrc, if_pos hcrc]
        rfl
    · rw [if_neg hmax, if_pos (not_le.mp hmax)]
      rfl
  · rw [if_neg hin, if_pos (not_le.mp hin)]
    rfl

/-- The arithmetic on the slots of an arena stays within 64 bits. -/
structure Addressable (arena : CheckpointArena) : Prop where
  header : slotHeaderSize ≤ arena.slotSize
  offsets : ∀ slot ∈ arena.freeList, slot * arena.slotSize < 2 ^ 64

lemma allocSlot_eq (haddress : Addressable arena) (layer : ℕ) :
    allocSlot arena id layer = lift (arena.allocSlot id layer) := by
  unfold allocSlot
  split
  · rfl
  next slot freeList hfree =>
    have hoffset := haddress.offsets slot (hfree ▸ List.mem_cons_self)
    rw [mul_eq_ok hoffset, ok_bind, sub_eq_ok haddress.header,
      ok_bind]

lemma loadEntry_of_endFits (haddress : Addressable arena) (hfits : EndFits entry) :
    loadEntry crc32 (arena.slotSize - slotHeaderSize) file id arena entry =
      lift (arena.loadEntry crc32 file id entry) := by
  unfold loadEntry CheckpointArena.loadEntry
  rw [readSpillData_of_endFits hfits]
  cases hdata : Worker.readSpillData crc32 (arena.slotSize - slotHeaderSize) file entry with
  | error msg => rfl
  | ok data =>
    have hlen := length_of_readSpillData hdata
    rw [allocSlot_eq haddress]
    cases halloc : arena.allocSlot id entry.layerIdx with
    | error msg => rfl
    | ok allocated =>
      obtain ⟨slot, -, hslot⟩ := allocSlot_spec halloc
      exact if_pos (show data.length ≤ allocated.2.slotSize - slotHeaderSize by
        rwa [hslot.slotSize])

lemma loadEntry_of_not_endFits (hwraps : ¬ EndFits entry) (maxDataSize : ℕ) :
    loadEntry crc32 maxDataSize file id arena entry = .error .overflow := by
  unfold loadEntry readSpillData
  rw [add_eq_overflow (not_lt.mp hwraps)]
  rfl

lemma Addressable.loadEntry (haddress : Addressable arena)
    (hok : arena.loadEntry crc32 file id entry = .ok arena') :
    arena'.slotSize = arena.slotSize ∧ Addressable arena' := by
  obtain ⟨data, slot, arena₁, -, -, hslot, rfl⟩ := loadEntry_spec hok
  have hsize : ((arena₁.updateHeader (slot * arena.slotSize) entry.header).writeData
    (slot * arena.slotSize) data).slotSize = arena.slotSize := hslot.slotSize
  refine ⟨hsize, hsize ▸ haddress.header, fun free hfree => ?_⟩
  rw [hsize]
  exact haddress.offsets free (hslot.freeList ▸ List.mem_cons_of_mem _ hfree)

/-- Every entry that the loop comes to has an end that fits. -/
def EndsFit (crc32 : List UInt8 → UInt32) (file : List UInt8) (id : String)
    (arena : CheckpointArena) (entries : List SpillIndexEntry) : Prop :=
  ∀ earlier entry later, entries = earlier ++ entry :: later →
    (CheckpointArena.loadEntries crc32 file id arena earlier).1 = .ok () → EndFits entry

lemma endsFit_cons :
    EndsFit crc32 file id arena (entry :: entries) ↔ EndFits entry ∧
      ∀ arena', arena.loadEntry crc32 file id entry = .ok arena' →
        EndsFit crc32 file id arena' entries := by
  constructor
  · intro hfit
    refine ⟨hfit [] entry entries rfl rfl, fun arena' hload earlier other later hsplit hok => ?_⟩
    refine hfit (entry :: earlier) other later (by rw [hsplit]; rfl) ?_
    rwa [CheckpointArena.loadEntries, hload]
  · rintro ⟨hfirst, hrest⟩ earlier other later hsplit hok
    cases earlier with
    | nil =>
      obtain ⟨rfl, rfl⟩ := List.cons.inj hsplit
      exact hfirst
    | cons first earlier =>
      obtain ⟨rfl, rfl⟩ := List.cons.inj hsplit
      rw [CheckpointArena.loadEntries] at hok
      cases hload : arena.loadEntry crc32 file id entry with
      | error msg =>
        rw [hload] at hok
        cases hok
      | ok arena' =>
        rw [hload] at hok
        exact hrest arena' hload earlier other later rfl hok

lemma returns_loadEntries_iff (haddress : Addressable arena)
    (entries : List SpillIndexEntry) :
    (loadEntries crc32 (arena.slotSize - slotHeaderSize) file id arena entries).1.Returns ↔
      EndsFit crc32 file id arena entries := by
  induction entries generalizing arena with
  | nil =>
    refine iff_of_true (fun fault hfault => by cases hfault) ?_
    intro earlier entry later hsplit
    cases earlier with
    | nil | cons first earlier => cases hsplit
  | cons entry entries ih =>
    rw [endsFit_cons, loadEntries]
    by_cases hfits : EndFits entry
    · rw [loadEntry_of_endFits haddress hfits]
      cases hload : arena.loadEntry crc32 file id entry with
      | error msg =>
        refine iff_of_true (returns_lift (.error msg)) ⟨hfits, ?_⟩
        intro arena' hok
        cases hok
      | ok arena' =>
        obtain ⟨hsize, haddress'⟩ := haddress.loadEntry hload
        have hrest := ih haddress'
        rw [hsize] at hrest
        refine hrest.trans ⟨fun hlater => ⟨hfits, fun other hother => ?_⟩, fun hboth => ?_⟩
        · cases hother
          exact hlater
        · exact hboth.2 arena' rfl
    · rw [loadEntry_of_not_endFits hfits]
      exact iff_of_false not_returns_overflow fun hboth => hfits hboth.1

lemma addressable_run (crc32 : List UInt8 → UInt32) {slotSize numSlots : ℕ}
    (hnew : new slotSize numSlots = .ok start) (ops : List ArenaOp) :
    Addressable (start.run crc32 [] ops).1 := by
  have hrep := (represents_new hnew).run crc32 ops
  obtain ⟨hsize, hnum⟩ := geometry_run crc32 start [] ops
  have hcapacity : start.slotSize * start.numSlots < 2 ^ 64 := by
    unfold new at hnew
    split_ifs at hnew with _ hoverflow _
    cases hnew
    exact not_le.mp hoverflow
  refine ⟨hrep.wellFormed.header, fun slot hslot => ?_⟩
  have hrange : slot < start.numSlots := by
    rw [← hnum]
    exact List.mem_range.mp (hrep.slots.mem_iff.mp (List.mem_append_left _ hslot))
  calc slot * (start.run crc32 [] ops).1.slotSize = start.slotSize * slot := by
        rw [hsize, Nat.mul_comm]
    _ ≤ start.slotSize * start.numSlots := Nat.mul_le_mul_left _ hrange.le
    _ < 2 ^ 64 := hcapacity

/-- **Loading any bytes returns exactly if no entry that the loop comes to has an end beyond 64
bits.** -/
theorem load_returns_iff (crc32 : List UInt8 → UInt32) {start : CheckpointArena}
    {slotSize numSlots : ℕ} (hnew : CheckpointArena.new slotSize numSlots = .ok start)
    (ops : List ArenaOp) (file : List UInt8) (id : String) :
    (loadSpilledCheckpoint crc32 file id (start.run crc32 [] ops).1).1.Returns ↔
      ∀ entries, Worker.readSpillIndex file = .ok entries →
        EndsFit crc32 file id (start.run crc32 [] ops).1 entries := by
  have haddressable := addressable_run crc32 hnew ops
  unfold loadSpilledCheckpoint
  rw [readSpillIndex_eq]
  cases hindex : Worker.readSpillIndex file with
  | error message =>
    refine iff_of_true (returns_lift (.error message)) fun entries hok => ?_
    cases hok
  | ok entries =>
    simp only [lift, sub_eq_ok haddressable.header]
    rw [returns_loadEntries_iff haddressable]
    refine ⟨fun hfit other hother => ?_, fun hfit => hfit entries rfl⟩
    cases hother
    exact hfit

/-- Loading the index of an empty layer. -/
theorem load_returns_empty_layer :
    (loadSpilledCheckpoint (fun _ => 0) (spillIndex [entryAt 0 96 0]) "c1"
      (twoSlots.run (fun _ => 0) [] []).1).1.Returns := by
  refine (load_returns_iff (fun _ => 0) new_twoSlots [] _ "c1").mpr fun entries hindex => ?_
  have hread : Worker.readSpillIndex (spillIndex [entryAt 0 96 0]) = .ok [entryAt 0 96 0] := by
    decide +kernel
  obtain rfl := Except.ok.inj (hread.symm.trans hindex)
  intro earlier entry later hsplit _
  have hentry : entry ∈ [entryAt 0 96 0] := by
    rw [hsplit]
    exact List.mem_append_right _ List.mem_cons_self
  obtain rfl := List.mem_singleton.mp hentry
  unfold EndFits
  decide

/-- One byte at the last 64-bit offset: the end wraps to zero. -/
theorem not_load_returns_wrapped :
    ¬ (loadSpilledCheckpoint (fun _ => 0) (spillIndex [entryAt 0 (2 ^ 64 - 1) 1]) "c1"
      twoSlots).1.Returns := by
  have htrap : (loadSpilledCheckpoint (fun _ => 0) (spillIndex [entryAt 0 (2 ^ 64 - 1) 1]) "c1"
      twoSlots).1 = .error .overflow := by
    decide +kernel
  exact not_returns_overflow

/-! ## Without a trap -/

lemma loadEntries_of_endsFit (haddress : Addressable arena)
    (hfit : EndsFit crc32 file id arena entries) :
    loadEntries crc32 (arena.slotSize - slotHeaderSize) file id arena entries =
      (lift (CheckpointArena.loadEntries crc32 file id arena entries).1,
        (CheckpointArena.loadEntries crc32 file id arena entries).2) := by
  induction entries generalizing arena with
  | nil => rfl
  | cons entry entries ih =>
    obtain ⟨hfits, hrest⟩ := endsFit_cons.mp hfit
    rw [loadEntries, CheckpointArena.loadEntries, loadEntry_of_endFits haddress hfits]
    cases hload : arena.loadEntry crc32 file id entry with
    | error msg => rfl
    | ok arena' =>
      obtain ⟨hsize, haddress'⟩ := haddress.loadEntry hload
      have hlater := ih haddress' (hrest arena' hload)
      rw [hsize] at hlater
      exact hlater

/-- Where it returns, the loader with traps does what the loader does. -/
theorem loadSpilledCheckpoint_of_returns (haddress : Addressable arena)
    (hreturns : (loadSpilledCheckpoint crc32 file id arena).1.Returns) :
    loadSpilledCheckpoint crc32 file id arena =
      (lift (arena.loadSpilledCheckpoint crc32 (.ok file) id).1,
        (arena.loadSpilledCheckpoint crc32 (.ok file) id).2) := by
  unfold loadSpilledCheckpoint at hreturns ⊢
  rw [readSpillIndex_eq] at hreturns ⊢
  cases hindex : Worker.readSpillIndex file with
  | error msg =>
    rw [CheckpointArena.loadSpilledCheckpoint, hindex]
    rfl
  | ok entries =>
    rw [hindex] at hreturns
    simp only [lift, sub_eq_ok haddress.header] at hreturns ⊢
    rw [returns_loadEntries_iff haddress] at hreturns
    rw [loadSpilledCheckpoint_of_index hindex, loadEntries_of_endsFit haddress hreturns]
    rfl

/-- A file with one layer of four bytes. -/
def fourByteFile : List UInt8 := spillIndex [entryAt 0 96 4] ++ [1, 2, 3, 4]

theorem loadSpilledCheckpoint_of_returns_fourBytes :
    (loadSpilledCheckpoint (fun _ => 0) fourByteFile "c1" twoSlots).1 = .ok () ∧
      (loadSpilledCheckpoint (fun _ => 0) fourByteFile "c1" twoSlots).2 =
        (twoSlots.loadSpilledCheckpoint (fun _ => 0) (.ok fourByteFile) "c1").2 := by
  have haddressable : Addressable twoSlots := addressable_run (fun _ => 0) new_twoSlots []
  have hok : (loadSpilledCheckpoint (fun _ => 0) fourByteFile "c1" twoSlots).1 = .ok () := by
    decide +kernel
  refine ⟨hok, congrArg Prod.snd (loadSpilledCheckpoint_of_returns haddressable ?_)⟩
  rw [hok]
  exact returns_lift (.ok ())

end Traps

end RocketSurgeon.Worker
