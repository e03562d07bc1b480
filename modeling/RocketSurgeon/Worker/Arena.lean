import RocketSurgeon.Lib.ByteMemory
import RocketSurgeon.Lib.FiniteMap

/-!
# The checkpoint arena

One anonymous mapping cut into slots of equal size.  A slot holds a 64-byte
header and the bytes of one captured activation; a checkpoint owns the slots
that were allocated under its id.  The free list is a stack, written top first.

`slotInfoForCheckpoint` goes from an owned slot back to its layer through the
index, and reads the header from memory: a slot whose header does not decode is
left out.
-/

namespace RocketSurgeon.Worker

open Lib

def slotMagic : ℕ := 0x434B5054
def slotHeaderSize : ℕ := 64

/-- The layer index of the slot that holds the random-number state (`u32::MAX`). -/
def rngLayer : ℕ := 2 ^ 32 - 1

inductive DtypeTag
  | float16
  | bfloat16
  | float32
  | float64
  deriving DecidableEq, Repr

namespace DtypeTag

def toByte : DtypeTag → UInt8
  | .float16 => 0
  | .bfloat16 => 1
  | .float32 => 2
  | .float64 => 3

def ofByte (byte : UInt8) : Option DtypeTag :=
  if byte = 0 then some .float16
  else if byte = 1 then some .bfloat16
  else if byte = 2 then some .float32
  else if byte = 3 then some .float64
  else none

def fromTorchStr (name : String) : Option DtypeTag :=
  if name = "torch.float16" then some .float16
  else if name = "torch.bfloat16" then some .bfloat16
  else if name = "torch.float32" then some .float32
  else if name = "torch.float64" then some .float64
  else none

def toTorchStr : DtypeTag → String
  | .float16 => "torch.float16"
  | .bfloat16 => "torch.bfloat16"
  | .float32 => "torch.float32"
  | .float64 => "torch.float64"

def elemSize : DtypeTag → ℕ
  | .float16 | .bfloat16 => 2
  | .float32 => 4
  | .float64 => 8

lemma ofByte_toByte (tag : DtypeTag) : ofByte tag.toByte = some tag := by
  cases tag <;> rfl

lemma fromTorchStr_toTorchStr (tag : DtypeTag) : fromTorchStr tag.toTorchStr = some tag := by
  cases tag <;> rfl

end DtypeTag

/-- A slot header; `shape` has six entries. -/
structure SlotHeader where
  dtype : DtypeTag
  ndim : ℕ
  shape : List ℕ
  byteLen : ℕ
  deriving DecidableEq, Repr

namespace SlotHeader

/-- `SlotHeader::write_to`: the 64 bytes of a header. -/
def writeTo (header : SlotHeader) : List UInt8 :=
  leBytes 4 slotMagic ++ ([header.dtype.toByte, UInt8.ofNat header.ndim, 0, 0] ++
    ((List.range 6).flatMap (fun i => leBytes 8 (header.shape.getD i 0)) ++
      leBytes 8 header.byteLen))

/-- `SlotHeader::read_from`: fails on a wrong magic or an unknown dtype. -/
def readFrom (bytes : List UInt8) : Option SlotHeader :=
  if leNat (bytes.take 4) ≠ slotMagic then none
  else
    (DtypeTag.ofByte (bytes.getD 4 0)).map fun dtype =>
      { dtype
        ndim := (bytes.getD 5 0).toNat
        shape := (List.range 6).map fun i => leNat ((bytes.drop (8 + i * 8)).take 8)
        byteLen := leNat ((bytes.drop 56).take 8) }

@[simp] lemma length_writeTo (hdr : SlotHeader) : hdr.writeTo.length = slotHeaderSize := by
  simp [writeTo, List.length_flatMap, slotHeaderSize]

lemma isSome_readFrom_writeTo (hdr : SlotHeader) : (readFrom hdr.writeTo).isSome := by
  have hmagic : leNat (hdr.writeTo.take 4) = slotMagic := by
    rw [writeTo, List.take_left' (length_leBytes 4 slotMagic)]
    exact leNat_leBytes (by decide)
  have hdtype : hdr.writeTo.getD 4 0 = hdr.dtype.toByte := rfl
  rw [readFrom, if_neg (not_not.mpr hmagic), hdtype, DtypeTag.ofByte_toByte]
  rfl

end SlotHeader

/-! ## Bookkeeping -/

structure SlotDescriptor where
  offset : ℕ
  checkpointId : String
  layerIdx : ℕ
  deriving DecidableEq, Repr

structure CheckpointArena where
  bytes : Memory
  slotSize : ℕ
  numSlots : ℕ
  freeList : List ℕ
  slots : List SlotDescriptor
  index : List ((String × ℕ) × ℕ)
  checkpointSlots : List (String × List ℕ)
  checkpointOrder : List String

namespace CheckpointArena

/-- `CheckpointArena::new`; the slot-size assertion is an error here. -/
def new (slotSize numSlots : ℕ) : Except String CheckpointArena :=
  if slotSize < slotHeaderSize then
    .error "assertion failed: slot_size >= SLOT_HEADER_SIZE"
  else if 2 ^ 64 ≤ slotSize * numSlots then
    .error s!"arena capacity overflow: {slotSize} * {numSlots}"
  else if slotSize * numSlots = 0 then
    .error "arena capacity must be non-zero"
  else
    .ok {
      bytes := fun _ => 0
      slotSize, numSlots
      freeList := List.range numSlots
      slots := []
      index := []
      checkpointSlots := []
      checkpointOrder := [] }

def available (arena : CheckpointArena) : ℕ := arena.freeList.length

/-- The slots a checkpoint owns, none if the id is unknown. -/
def slotsOf (arena : CheckpointArena) (checkpointId : String) : List ℕ :=
  (FMap.get arena.checkpointSlots checkpointId).getD []

/-- `alloc_slot`: take a slot, stamp an empty header and enter it under the id.  Returns the
slot's offset. -/
def allocSlot (arena : CheckpointArena) (checkpointId : String) (layerIdx : ℕ) :
    Except String (ℕ × CheckpointArena) :=
  match arena.freeList with
  | [] => .error "checkpoint arena exhausted"
  | slot :: freeList =>
      let offset := slot * arena.slotSize
      let header : SlotHeader :=
        ⟨.float32, 0, List.replicate 6 0, arena.slotSize - slotHeaderSize⟩
      .ok (offset, { arena with
        bytes := writeBytes arena.bytes offset header.writeTo
        freeList
        slots := arena.slots ++ [⟨offset, checkpointId, layerIdx⟩]
        index := FMap.insert arena.index (checkpointId, layerIdx) arena.slots.length
        checkpointSlots := FMap.insert arena.checkpointSlots checkpointId
          (arena.slotsOf checkpointId ++ [slot])
        checkpointOrder :=
          if FMap.get arena.checkpointSlots checkpointId = none then
            arena.checkpointOrder ++ [checkpointId]
          else arena.checkpointOrder })

/-- The header stored at a slot offset, if it decodes. -/
def headerAt (arena : CheckpointArena) (offset : ℕ) : Option SlotHeader :=
  SlotHeader.readFrom (readBytes arena.bytes offset slotHeaderSize)

/-- The data bytes behind the header at `offset`. -/
def dataAt (arena : CheckpointArena) (offset length : ℕ) : List UInt8 :=
  readBytes arena.bytes (offset + slotHeaderSize) length

def getSlot (arena : CheckpointArena) (checkpointId : String) (layerIdx : ℕ) :
    Option (ℕ × SlotHeader) := do
  let descIdx ← FMap.get arena.index (checkpointId, layerIdx)
  let desc ← arena.slots[descIdx]?
  let header ← arena.headerAt desc.offset
  return (desc.offset, header)

def updateHeader (arena : CheckpointArena) (offset : ℕ) (header : SlotHeader) : CheckpointArena :=
  { arena with bytes := writeBytes arena.bytes offset header.writeTo }

/-- Copy bytes behind the header at `offset`; nothing checks that they fit the slot. -/
def writeData (arena : CheckpointArena) (offset : ℕ) (data : List UInt8) : CheckpointArena :=
  { arena with bytes := writeBytes arena.bytes (offset + slotHeaderSize) data }

/-- `free_checkpoint`: give every slot of an id back, the last one on top. -/
def freeCheckpoint (arena : CheckpointArena) (checkpointId : String) : CheckpointArena :=
  match FMap.get arena.checkpointSlots checkpointId with
  | none => arena
  | some slotIndices =>
      { arena with
        freeList := slotIndices.reverse ++ arena.freeList
        index := FMap.retain arena.index fun key => key.1 ≠ checkpointId
        checkpointSlots := FMap.remove arena.checkpointSlots checkpointId
        checkpointOrder := arena.checkpointOrder.filter fun id => id ≠ checkpointId }

/-- `rollback` frees everything allocated under the id. -/
def rollback (arena : CheckpointArena) (checkpointId : String) : CheckpointArena :=
  arena.freeCheckpoint checkpointId

def oldestCheckpoint (arena : CheckpointArena) : Option String := arena.checkpointOrder.head?

/-- The layer an owned slot was allocated for, through the index. -/
def layerOfOffset (arena : CheckpointArena) (offset : ℕ) : Option ℕ := do
  let (_, descIdx) ← arena.index.find? fun (_, descIdx) =>
    (arena.slots[descIdx]?).any fun desc => desc.offset = offset
  let desc ← arena.slots[descIdx]?
  return desc.layerIdx

/-- `slot_info_for_checkpoint`: layer, offset and header of every slot of an id. -/
def slotInfoForCheckpoint (arena : CheckpointArena) (checkpointId : String) :
    List (ℕ × ℕ × SlotHeader) :=
  (arena.slotsOf checkpointId).filterMap fun slot => do
    let offset := slot * arena.slotSize
    let layerIdx ← arena.layerOfOffset offset
    let header ← arena.headerAt offset
    return (layerIdx, offset, header)

/-- `spill_checkpoint`: once its file is written, the checkpoint leaves the arena. -/
def spillCheckpoint (arena : CheckpointArena) (checkpointId : String)
    (writeFile : Except String Unit) : Except String CheckpointArena :=
  if (arena.slotInfoForCheckpoint checkpointId).isEmpty then
    .error s!"checkpoint {checkpointId} not found in arena"
  else if 2 ^ 32 ≤ (arena.slotInfoForCheckpoint checkpointId).length then
    .error s!"too many slots to spill: {(arena.slotInfoForCheckpoint checkpointId).length}"
  else
    match writeFile with
    | .error message => .error message
    | .ok () => .ok (arena.freeCheckpoint checkpointId)

/-- Spilling frees a checkpoint whose file is written. -/
lemma spillCheckpoint_spec {arena : CheckpointArena} {id : String}
    (hok : arena.spillCheckpoint id written = .ok arena') :
    written = .ok () ∧ arena' = arena.freeCheckpoint id := by
  unfold spillCheckpoint at hok
  split_ifs at hok
  cases written with
  | error msg => cases hok
  | ok _ => exact ⟨rfl, (Except.ok.inj hok).symm⟩

end CheckpointArena

end RocketSurgeon.Worker
