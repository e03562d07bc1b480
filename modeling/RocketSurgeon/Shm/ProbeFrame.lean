import RocketSurgeon.Lib.Slices
import RocketSurgeon.Shm.Ring

/-!
# The two codecs of a frame header

The shared-memory crate writes frame headers and reads two of their fields;
the Python extension has a codec of its own.  Both copy every field into a
cleared buffer, at offsets that either crate keeps for itself.
-/

namespace RocketSurgeon.Shm

open Lib List

@[ext] structure ProbeFrameHeader where
  rank : UInt32
  layer : UInt32
  compId : UInt16
  dtype : UInt8
  ndim : UInt8
  shape : Fin 8 → UInt32
  tickId : UInt64
  dataOff : UInt64
  size : UInt64
  flags : UInt32
  generation : UInt32

/-- Where a codec keeps the fields. -/
structure FrameOffsets where
  rank : ℕ
  layer : ℕ
  compId : ℕ
  dtype : ℕ
  ndim : ℕ
  shape : ℕ
  tickId : ℕ
  dataOff : ℕ
  size : ℕ
  flags : ℕ
  generation : ℕ

/-- `FRAME_OFFSET_*` of the shared-memory crate. -/
def frameOffsets : FrameOffsets := ⟨0, 4, 8, 10, 11, 12, 48, 56, 64, 72, 76⟩

/-- `OFFSET_*` of the Python extension. -/
def pythonOffsets : FrameOffsets := ⟨0, 4, 8, 10, 11, 12, 48, 56, 64, 72, 76⟩

/-- `buf[offset..offset + bytes.len()].copy_from_slice(bytes)`. -/
def copyFromSlice (buf : List UInt8) (slice : ℕ × List UInt8) : List UInt8 :=
  buf.take slice.1 ++ slice.2 ++ buf.drop (slice.1 + slice.2.length)

/-- An integer read with `from_le_bytes`. -/
def fieldAt (data : List UInt8) (offset width : ℕ) : ℕ := leNat ((data.drop offset).take width)

/-- The bytes expected and got. -/
structure BufferTooSmall where
  expected : ℕ
  got : ℕ

namespace ProbeFrameHeader

def parse (data : List UInt8) : Except BufferTooSmall ProbeFrameHeader :=
  if data.length < 128 then .error ⟨128, data.length⟩
  else .ok {
    rank := .ofNat (fieldAt data pythonOffsets.rank 4)
    layer := .ofNat (fieldAt data pythonOffsets.layer 4)
    compId := .ofNat (fieldAt data pythonOffsets.compId 2)
    dtype := .ofNat (fieldAt data pythonOffsets.dtype 1)
    ndim := .ofNat (fieldAt data pythonOffsets.ndim 1)
    shape := fun i => .ofNat (fieldAt data (pythonOffsets.shape + i * 4) 4)
    tickId := .ofNat (fieldAt data pythonOffsets.tickId 8)
    dataOff := .ofNat (fieldAt data pythonOffsets.dataOff 8)
    size := .ofNat (fieldAt data pythonOffsets.size 8)
    flags := .ofNat (fieldAt data pythonOffsets.flags 4)
    generation := .ofNat (fieldAt data pythonOffsets.generation 4) }

variable (header : ProbeFrameHeader)

/-- The fields up to `shape`, with their offsets. -/
def front (offsets : FrameOffsets) : List (ℕ × List UInt8) :=
  [(offsets.rank, leBytes 4 header.rank.toNat), (offsets.layer, leBytes 4 header.layer.toNat),
    (offsets.compId, leBytes 2 header.compId.toNat), (offsets.dtype, leBytes 1 header.dtype.toNat),
    (offsets.ndim, leBytes 1 header.ndim.toNat)] ++
  ofFn fun i : Fin 8 => (offsets.shape + i * 4, leBytes 4 (header.shape i).toNat)

/-- The fields behind `shape`. -/
def back (offsets : FrameOffsets) : List (ℕ × List UInt8) :=
  [(offsets.tickId, leBytes 8 header.tickId.toNat),
    (offsets.dataOff, leBytes 8 header.dataOff.toNat), (offsets.size, leBytes 8 header.size.toNat),
    (offsets.flags, leBytes 4 header.flags.toNat),
    (offsets.generation, leBytes 4 header.generation.toNat)]

/-- The fields copied one after the other into 128 zero bytes. -/
def copied (offsets : FrameOffsets) : List UInt8 :=
  (header.front offsets ++ header.back offsets).foldl copyFromSlice (replicate 128 0)

/-- `serialize_probe_frame` of the shared-memory crate, as it copies the fields. -/
def serializeProbeFrame : List UInt8 := header.copied frameOffsets

/-- `ProbeFrameHeader::serialize` of the Python extension. -/
def serialize : List UInt8 := header.copied pythonOffsets

end ProbeFrameHeader

/-! ## Slices side by side -/

/-- Each slice begins where the one in front of it ends. -/
def SideBySide : ℕ → List (ℕ × List UInt8) → Prop
  | _, [] => True
  | start, slice :: rest => slice.1 = start ∧ SideBySide (start + slice.2.length) rest

lemma foldl_copyFromSlice (hslices : SideBySide front.length slices) (zeros : ℕ) :
    slices.foldl copyFromSlice (front ++ replicate zeros 0) =
      front ++ slices.flatMap Prod.snd ++
        replicate (zeros - (slices.flatMap Prod.snd).length) 0 := by
  induction slices generalizing front zeros with
  | nil => simp
  | cons slice rest ih =>
    obtain ⟨hoffset, hrest⟩ := hslices
    rw [← length_append] at hrest
    have hcopied : copyFromSlice (front ++ replicate zeros 0) slice =
        front ++ slice.2 ++ replicate (zeros - slice.2.length) 0 := by
      rw [copyFromSlice, hoffset, take_left, ← drop_drop, drop_left, drop_replicate]
    rw [foldl_cons, hcopied, ih hrest, flatMap_cons, length_append, ← Nat.sub_sub, append_assoc front]

lemma take_drop_of_mem (hslices : SideBySide front.length slices) (hmem : slice ∈ slices)
    (rest : List UInt8) :
    ((front ++ slices.flatMap Prod.snd ++ rest).drop slice.1).take slice.2.length = slice.2 := by
  induction slices generalizing front with
  | nil => cases hmem
  | cons first others ih =>
    obtain ⟨hoffset, hothers⟩ := hslices
    obtain rfl | hmem := mem_cons.mp hmem
    · rw [flatMap_cons, append_assoc, append_assoc]
      exact take_drop_append hoffset.symm rfl
    · rw [← length_append] at hothers
      rw [flatMap_cons, ← append_assoc]
      exact ih hothers hmem

namespace ProbeFrameHeader

variable (header : ProbeFrameHeader)

/-- The fields with the padding between them. -/
def padded : List (ℕ × List UInt8) :=
  header.front pythonOffsets ++ (44, replicate 4 0) :: header.back pythonOffsets

lemma sideBySide_front : SideBySide ([] : List UInt8).length (header.front pythonOffsets) := by
  simp [front, SideBySide, pythonOffsets, ofFn_succ]

lemma length_front : ((header.front pythonOffsets).flatMap Prod.snd).length = 44 := by
  simp [front, ofFn_succ]

lemma sideBySide_padded : SideBySide ([] : List UInt8).length header.padded := by
  simp [padded, front, back, SideBySide, pythonOffsets, ofFn_succ]

/-- The copied fields stand side by side, with the padding still zero. -/
lemma serialize_eq :
    header.serialize = header.padded.flatMap Prod.snd ++ replicate 48 0 := by
  have hback : SideBySide ((header.front pythonOffsets).flatMap Prod.snd ++ replicate 4 0).length
      (header.back pythonOffsets) := by
    rw [length_append, length_front, length_replicate]
    simp [back, SideBySide, pythonOffsets]
  have hfront := foldl_copyFromSlice header.sideBySide_front 128
  rw [nil_append, nil_append, length_front, replicate_add 4 80, ← append_assoc] at hfront
  rw [serialize, copied, foldl_append, hfront, foldl_copyFromSlice hback]
  simp [padded, back]

lemma fieldAt_serialize (hmem : (off, leBytes width value) ∈ header.padded)
    (suffix : List UInt8) :
    fieldAt (header.serialize ++ suffix) off width = value % 256 ^ width := by
  have hread := take_drop_of_mem header.sideBySide_padded hmem (replicate 48 0 ++ suffix)
  rw [nil_append, ← append_assoc, ← serialize_eq, length_leBytes] at hread
  rw [fieldAt, hread, leNat_leBytes_mod]

/-- The two codecs write the same 128 bytes, the Python extension reads the fields back from them,
and so does the consumer of the ring with the two it looks at. -/
theorem codecs_agree (suffix : List UInt8) :
    header.serializeProbeFrame = header.serialize ∧ header.serialize.length = 128 ∧
      parse (header.serialize ++ suffix) = .ok header ∧
      headerSize header.serialize = header.size.toNat ∧
      headerGeneration header.serialize = header.generation.toNat ∧
      header.serialize = Shm.serializeProbeFrame header.rank.toNat header.layer.toNat
        header.compId.toNat header.dtype.toNat header.ndim.toNat
        (ofFn fun i => (header.shape i).toNat) header.tickId.toNat header.dataOff.toNat
        header.size.toNat header.flags.toNat header.generation.toNat := by
  have hconcat : header.serialize = Shm.serializeProbeFrame header.rank.toNat header.layer.toNat
      header.compId.toNat header.dtype.toNat header.ndim.toNat
      (ofFn fun i => (header.shape i).toNat) header.tickId.toNat header.dataOff.toNat
      header.size.toNat header.flags.toNat header.generation.toNat := by
    refine header.serialize_eq.trans ?_
    simp [padded, front, back, Shm.serializeProbeFrame, serializeProbeFrameFront, ofFn_succ,
      range_succ]
  have hlength : header.serialize.length = 128 := by
    simp [hconcat, Shm.serializeProbeFrame, length_serializeProbeFrameFront, frameOffsetSize]
  refine ⟨rfl, hlength, ?_, ?_, ?_, hconcat⟩
  · have h8 {offset : ℕ} {value : UInt8} (hmem : (offset, leBytes 1 value.toNat) ∈ header.padded) :
        UInt8.ofNat (fieldAt (header.serialize ++ suffix) offset 1) = value := by
      rw [header.fieldAt_serialize hmem suffix]
      simp
    have h32 {offset : ℕ} {value : UInt32} (hmem : (offset, leBytes 4 value.toNat) ∈ header.padded) :
        UInt32.ofNat (fieldAt (header.serialize ++ suffix) offset 4) = value := by
      rw [header.fieldAt_serialize hmem suffix]
      simp
    have h64 {offset : ℕ} {value : UInt64} (hmem : (offset, leBytes 8 value.toNat) ∈ header.padded) :
        UInt64.ofNat (fieldAt (header.serialize ++ suffix) offset 8) = value := by
      rw [header.fieldAt_serialize hmem suffix]
      simp
    have hcompId : (8, leBytes 2 header.compId.toNat) ∈ header.padded := by
      simp [padded, front, pythonOffsets]
    have h16 : UInt16.ofNat (fieldAt (header.serialize ++ suffix) 8 2) = header.compId := by
      rw [header.fieldAt_serialize hcompId suffix]
      simp
    rw [parse, if_neg (by rw [length_append]; omega)]
    refine congrArg Except.ok (ProbeFrameHeader.ext (h32 ?_) (h32 ?_) h16 (h8 ?_) (h8 ?_)
      (funext fun i => h32 ?_) (h64 ?_) (h64 ?_) (h64 ?_) (h32 ?_) (h32 ?_))
    case refine_5 => exact mem_append_left _ (mem_append_right _ (mem_ofFn.mpr ⟨i, rfl⟩))
    all_goals simp [padded, front, back]
  · rw [hconcat]
    exact headerSize_serializeProbeFrame _ _ _ _ _ _ _ _ _ _ header.size.toNat_lt
  · rw [hconcat]
    exact headerGeneration_serializeProbeFrame _ _ _ _ _ _ _ _ _ _ header.generation.toNat_lt

end ProbeFrameHeader

end RocketSurgeon.Shm
