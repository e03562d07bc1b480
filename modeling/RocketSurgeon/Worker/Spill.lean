import RocketSurgeon.Lib.Result
import RocketSurgeon.Lib.Slices
import RocketSurgeon.Worker.Arena

/-!
# Spill files

A checkpoint that leaves the arena is written to a file: a fixed header, an index of 80-byte
entries, and the data of each slot, the index and every piece of data filled up with zeros to
a multiple of 64 bytes.  An entry says where its data starts and how long they are, and has
their checksum.

Loading a file reads the whole index first and then takes the entries one after the other.
What was loaded before an entry fails stays in the arena.
-/

namespace RocketSurgeon.Worker

open Lib List

/-- `align_up`; the alignment is a power of two. -/
def alignUp (val align : ℕ) : ℕ := (val + align - 1) / align * align

/-! ## Index entries -/

/-- The bytes of `CKPTSPIL`. -/
def spillMagic : List UInt8 := [67, 75, 80, 84, 83, 80, 73, 76]
def spillVersion : ℕ := 1
def spillIndexEntrySize : ℕ := 80

structure SpillIndexEntry where
  layerIdx : ℕ
  dtype : DtypeTag
  ndim : ℕ
  shape : List ℕ
  dataOffset : ℕ
  dataLen : ℕ
  crc32 : ℕ
  deriving DecidableEq, Repr

namespace SpillIndexEntry

/-- `SpillIndexEntry::write_to`: the 80 bytes of an entry. -/
def writeTo (entry : SpillIndexEntry) : List UInt8 :=
  leBytes 4 entry.layerIdx ++ ([entry.dtype.toByte, UInt8.ofNat entry.ndim, 0, 0] ++
    ((List.range 6).flatMap (fun i => leBytes 8 (entry.shape.getD i 0)) ++
      (leBytes 8 entry.dataOffset ++ (leBytes 8 entry.dataLen ++
        (leBytes 4 entry.crc32 ++ [0, 0, 0, 0])))))

/-- `SpillIndexEntry::read_from`: fails on an unknown dtype. -/
def readFrom (bytes : List UInt8) : Option SpillIndexEntry :=
  (DtypeTag.ofByte (bytes.getD 4 0)).map fun dtype =>
    { layerIdx := leNat (bytes.take 4)
      dtype
      ndim := (bytes.getD 5 0).toNat
      shape := (List.range 6).map fun i => leNat ((bytes.drop (8 + i * 8)).take 8)
      dataOffset := leNat ((bytes.drop 56).take 8)
      dataLen := leNat ((bytes.drop 64).take 8)
      crc32 := leNat ((bytes.drop 72).take 4) }

/-- The slot header that is restored from an entry. -/
def header (entry : SpillIndexEntry) : SlotHeader :=
  ⟨entry.dtype, entry.ndim, entry.shape, entry.dataLen⟩

end SpillIndexEntry

/-! ## Writing -/

/-- Bytes, and the zeros that fill them up to a multiple of 64. -/
def padded (bytes : List UInt8) : List UInt8 :=
  bytes ++ List.replicate (alignUp bytes.length 64 - bytes.length) 0

namespace CheckpointArena

section Spill

variable (crc32 : List UInt8 → UInt32) (arena : CheckpointArena)

/-- The data of a slot that are written. -/
def spillData (info : ℕ × ℕ × SlotHeader) : List UInt8 :=
  arena.dataAt info.2.1 (min info.2.2.byteLen (arena.slotSize - slotHeaderSize))

/-- The loop of `spill_checkpoint`: an entry for every slot, its data behind those of the slots
before. -/
def spillEntries : ℕ → List (ℕ × ℕ × SlotHeader) → List SpillIndexEntry
  | _, [] => []
  | dataOffset, info :: infos =>
      let data := arena.spillData info
      { layerIdx := info.1
        dtype := info.2.2.dtype
        ndim := info.2.2.ndim
        shape := info.2.2.shape
        dataOffset
        dataLen := data.length
        crc32 := (crc32 data).toNat } ::
        spillEntries (dataOffset + alignUp data.length 64) infos

/-- Everything in front of the data, without the zeros that fill it up. -/
def spillIndex (entries : List SpillIndexEntry) : List UInt8 :=
  spillMagic ++ (leBytes 4 spillVersion ++ (leBytes 4 entries.length ++
    entries.flatMap SpillIndexEntry.writeTo))

/-- The contents of the file that `spill_checkpoint` writes. -/
def spillFile (checkpointId : String) : List UInt8 :=
  let infos := arena.slotInfoForCheckpoint checkpointId
  let entries := arena.spillEntries crc32
    (alignUp (16 + infos.length * spillIndexEntrySize) 64) infos
  padded (spillIndex entries) ++ infos.flatMap fun info => padded (arena.spillData info)

end Spill

end CheckpointArena

/-! ## Loading -/

/-- A number as `{:#010x}` prints it. -/
def hexWord (value : ℕ) : String :=
  let digits := Nat.toDigits 16 value
  String.ofList (['0', 'x'] ++ List.replicate (8 - digits.length) '0' ++ digits)

/-- The index entries `i`, `i + 1`, … of a file. -/
def readSpillEntries (file : List UInt8) : ℕ → ℕ → Except String (List SpillIndexEntry)
  | _, 0 => .ok []
  | i, count + 1 =>
      let entry := (file.drop (16 + i * spillIndexEntrySize)).take spillIndexEntrySize
      match SpillIndexEntry.readFrom entry with
      | none => .error s!"invalid spill index entry {i}: bad dtype tag"
      | some entry =>
          match readSpillEntries file (i + 1) count with
          | .error message => .error message
          | .ok entries => .ok (entry :: entries)

/-- The checks on the front of a file, and its index. -/
def readSpillIndex (file : List UInt8) : Except String (List SpillIndexEntry) :=
  let version := leNat ((file.drop 8).take 4)
  let numSlots := leNat ((file.drop 12).take 4)
  if file.length < 16 then .error "spill file too short"
  else if file.take 8 ≠ spillMagic then .error "invalid spill file magic"
  else if version ≠ spillVersion then .error s!"unsupported spill version {version}"
  else if file.length < 16 + numSlots * spillIndexEntrySize then
    .error "spill file truncated in index"
  else readSpillEntries file 0 numSlots

/-- The data of an entry, once they are checked.  The end of the data is computed in 64 bits; an
end before the start makes the slice fail. -/
def readSpillData (crc32 : List UInt8 → UInt32) (maxDataSize : ℕ) (file : List UInt8)
    (entry : SpillIndexEntry) : Except String (List UInt8) :=
  let stop := (entry.dataOffset + entry.dataLen) % 2 ^ 64
  if file.length < stop then
    .error s!"spill file truncated: need {stop} bytes, got {file.length}"
  else if maxDataSize < entry.dataLen then
    .error s!"spill data ({entry.dataLen} bytes) exceeds slot capacity ({maxDataSize} bytes)"
  else if stop < entry.dataOffset then
    .error s!"slice index starts at {entry.dataOffset} but ends at {stop}"
  else
    let data := (file.drop entry.dataOffset).take entry.dataLen
    let actualCrc := (crc32 data).toNat
    if actualCrc ≠ entry.crc32 then
      .error s!"CRC32 mismatch for layer {entry.layerIdx}: expected {hexWord entry.crc32}, got {hexWord actualCrc}"
    else .ok data

namespace CheckpointArena

section Load

variable (crc32 : List UInt8 → UInt32)

/-- One round of the loop of `load_spilled_checkpoint`. -/
def loadEntry (arena : CheckpointArena) (file : List UInt8) (checkpointId : String)
    (entry : SpillIndexEntry) : Except String CheckpointArena := do
  let data ← readSpillData crc32 (arena.slotSize - slotHeaderSize) file entry
  let (offset, arena) ← arena.allocSlot checkpointId entry.layerIdx
  return (arena.updateHeader offset entry.header).writeData offset data

/-- The loop of `load_spilled_checkpoint`, with the arena it leaves. -/
def loadEntries (file : List UInt8) (checkpointId : String) :
    CheckpointArena → List SpillIndexEntry → Except String Unit × CheckpointArena
  | arena, [] => (.ok (), arena)
  | arena, entry :: entries =>
      match arena.loadEntry crc32 file checkpointId entry with
      | .error message => (.error message, arena)
      | .ok arena => loadEntries file checkpointId arena entries

/-- `load_spilled_checkpoint`, with the arena it leaves; `read` is what reading the file gives. -/
def loadSpilledCheckpoint (arena : CheckpointArena) (read : Except String (List UInt8))
    (checkpointId : String) : Except String Unit × CheckpointArena :=
  match read with
  | .error message => (.error message, arena)
  | .ok file =>
      match readSpillIndex file with
      | .error message => (.error message, arena)
      | .ok entries => loadEntries crc32 file checkpointId arena entries

end Load

end CheckpointArena

/-! ## What is written can be read -/

lemma le_alignUp (val : ℕ) : val ≤ alignUp val 64 := by
  unfold alignUp
  omega

@[simp] lemma length_padded (bytes : List UInt8) :
    (padded bytes).length = alignUp bytes.length 64 := by
  have hle := le_alignUp bytes.length
  rw [padded, length_append, length_replicate]
  omega

/-- A shape as it stands in a header or in an index entry: six words. -/
def WordShape (shape : List ℕ) : Prop := shape.length = 6 ∧ ∀ dim ∈ shape, dim < 2 ^ 64

lemma wordShape_read (bytes : List UInt8) :
    WordShape ((range 6).map fun i => leNat ((bytes.drop (8 + i * 8)).take 8)) := by
  refine ⟨by simp, fun dim hdim => ?_⟩
  obtain ⟨i, -, rfl⟩ := mem_map.mp hdim
  exact leNat_take_lt _ 8

lemma shape_roundTrip (hfront : front.length = 8) (hshape : WordShape shape) (rest : List UInt8) :
    ((range 6).map fun i => leNat (((front ++ ((range 6).flatMap
      (fun i => leBytes 8 (shape.getD i 0)) ++ rest)).drop (8 + i * 8)).take 8)) = shape := by
  refine ext_getElem (by simp [hshape.1]) fun i hi hshapeAt => ?_
  have hrow : i < (range 6).length := by simpa using hi
  have hword : shape[i] < 256 ^ 8 := hshape.2 _ (getElem_mem hshapeAt)
  rw [getElem_map, getElem_range, ← drop_drop, drop_left' hfront,
    take_drop_flatMap (fun _ _ => length_leBytes 8 _) hrow, getElem_range,
    getD_eq_getElem?_getD, getElem?_eq_getElem hshapeAt, Option.getD_some,
    leNat_leBytes hword]

namespace SlotHeader

/-- The numbers of a header fit their fields. -/
structure Bounded (header : SlotHeader) : Prop where
  ndim : header.ndim < 256
  shape : WordShape header.shape
  byteLen : header.byteLen < 2 ^ 64

lemma bounded_of_readFrom (hread : readFrom bytes = some header) : header.Bounded := by
  unfold readFrom at hread
  split_ifs at hread
  obtain ⟨dtype, -, rfl⟩ := Option.map_eq_some_iff.mp hread
  exact ⟨UInt8.toNat_lt _, wordShape_read bytes, leNat_take_lt _ 8⟩

lemma readFrom_writeTo (hbound : header.Bounded) :
    readFrom header.writeTo = some header := by
  have hmagic : leNat (header.writeTo.take 4) = slotMagic := by
    rw [writeTo, take_left' (length_leBytes 4 slotMagic)]
    exact leNat_leBytes (by decide)
  have hdtype : header.writeTo.getD 4 0 = header.dtype.toByte := rfl
  have hndim : (header.writeTo.getD 5 0).toNat = header.ndim := by
    have hbyte : header.writeTo.getD 5 0 = UInt8.ofNat header.ndim := rfl
    rw [hbyte, UInt8.toNat_ofNat', Nat.mod_eq_of_lt hbound.ndim]
  have hshape : (range 6).map (fun i => leNat ((header.writeTo.drop (8 + i * 8)).take 8)) =
      header.shape := by
    have hfront : (leBytes 4 slotMagic ++
      [header.dtype.toByte, UInt8.ofNat header.ndim, 0, 0]).length = 8 := rfl
    have hread := shape_roundTrip hfront hbound.shape (leBytes 8 header.byteLen)
    rwa [append_assoc] at hread
  have hbyteLen : leNat ((header.writeTo.drop 56).take 8) = header.byteLen := by
    rw [take_of_length_le (by simp [slotHeaderSize])]
    have hdrop : header.writeTo.drop 56 = leBytes 8 header.byteLen := rfl
    exact leNat_leBytes hbound.byteLen
  rw [readFrom, if_neg (not_not.mpr hmagic), hdtype, DtypeTag.ofByte_toByte, Option.map_some, hndim,
    hshape, hbyteLen]

end SlotHeader

namespace SpillIndexEntry

/-- The numbers of an entry fit their fields. -/
structure Bounded (entry : SpillIndexEntry) : Prop where
  layerIdx : entry.layerIdx < 2 ^ 32
  ndim : entry.ndim < 256
  shape : WordShape entry.shape
  dataOffset : entry.dataOffset < 2 ^ 64
  dataLen : entry.dataLen < 2 ^ 64
  crc32 : entry.crc32 < 2 ^ 32

@[simp] lemma length_writeTo (entry : SpillIndexEntry) :
    entry.writeTo.length = spillIndexEntrySize := rfl

lemma readFrom_writeTo (hbound : entry.Bounded) :
    readFrom entry.writeTo = some entry := by
  have hlayerIdx : leNat (entry.writeTo.take 4) = entry.layerIdx :=
    @leNat_leBytes 4 _ hbound.layerIdx
  have hdtype : entry.writeTo.getD 4 0 = entry.dtype.toByte := rfl
  have hndim : (entry.writeTo.getD 5 0).toNat = entry.ndim := by
    have hbyte : entry.writeTo.getD 5 0 = UInt8.ofNat entry.ndim := rfl
    rw [hbyte, UInt8.toNat_ofNat', Nat.mod_eq_of_lt hbound.ndim]
  have hshape : (range 6).map (fun i => leNat ((entry.writeTo.drop (8 + i * 8)).take 8)) =
      entry.shape := by
    have hfront : (leBytes 4 entry.layerIdx ++
      [entry.dtype.toByte, UInt8.ofNat entry.ndim, 0, 0]).length = 8 := rfl
    have hread := shape_roundTrip hfront hbound.shape (leBytes 8 entry.dataOffset ++
      (leBytes 8 entry.dataLen ++ (leBytes 4 entry.crc32 ++ [0, 0, 0, 0])))
    rwa [append_assoc] at hread
  have hdataOffset : leNat ((entry.writeTo.drop 56).take 8) = entry.dataOffset :=
    @leNat_leBytes 8 _ hbound.dataOffset
  have hdataLen : leNat ((entry.writeTo.drop 64).take 8) = entry.dataLen :=
    @leNat_leBytes 8 _ hbound.dataLen
  have hcrc32 : leNat ((entry.writeTo.drop 72).take 4) = entry.crc32 :=
    @leNat_leBytes 4 _ hbound.crc32
  rw [readFrom, hdtype, DtypeTag.ofByte_toByte, Option.map_some, hlayerIdx, hndim, hshape,
    hdataOffset, hdataLen, hcrc32]

end SpillIndexEntry

end RocketSurgeon.Worker
