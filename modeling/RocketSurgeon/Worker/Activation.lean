import RocketSurgeon.Worker.Checkpoint
import RocketSurgeon.Worker.Spill
import RocketSurgeon.Worker.Tensor

/-!
# Capturing and restoring one activation

The Python side of a checkpoint.  To capture an activation, the whole data part of a slot is
viewed as a tensor of the activation's dtype and given the activation's shape; this fails
unless the activation fills the slot.  To restore it, as many bytes as the header's shape asks
for are viewed, and copied into the activation with the rules of the tensor library: missing
dimensions in front are broadcast.

The length of the data part is fixed when the model is attached, from the hidden size and a
maximal sequence length, while an activation is as long as the sequence at hand.
-/

namespace RocketSurgeon.Worker

open Lib List

/-- The conversion of elements when one tensor is copied into another. -/
structure TorchCopy where
  convert : TorchDtype → TorchDtype → ℕ → ℕ
  same : ∀ dtype bits, convert dtype dtype bits = bits

/-- Elements are copied as they are. -/
def TorchCopy.plain : TorchCopy := ⟨fun _ _ bits => bits, fun _ _ => rfl⟩

namespace Activation

/-- `capture_activation`: the memory it leaves, the dtype and the shape. -/
def captureActivation (mem : Memory) (tensor : Tensor) (dstPtr dstLen : ℕ) :
    Except String (Memory × String × List ℤ) :=
  let shape := tensor.shape.map Int.ofNat
  if dstLen < tensor.byteSize then
    .error s!"ValueError: tensor {tensor.byteSize} bytes exceeds slot capacity {dstLen}"
  -- `frombuffer` views the whole buffer; `reshape` needs the same number of elements.
  else if dstLen / tensor.dtype.itemSize ≠ tensor.shape.prod then
    .error s!"RuntimeError: shape {shape} is invalid for a buffer of {dstLen} bytes"
  else .ok (writeBytes mem dstPtr tensor.bytes, tensor.dtype.str, shape)

/-- `restore_activation`: the elements that the target has then. -/
def restoreActivation (torch : TorchCopy) (mem : Memory) (target : Option Tensor)
    (srcPtr srcLen : ℕ) (dtypeStr : String) (shape : List ℕ) : Except String (List ℕ) :=
  match DtypeTag.fromTorchStr dtypeStr with
  | none => .error s!"KeyError: {dtypeStr}"
  | some dtype =>
      let nbytes := shape.prod * dtype.elemSize
      if srcLen < nbytes then
        .error s!"ValueError: restore tensor {nbytes} bytes exceeds slot capacity {srcLen}"
      else
        let view := viewElems mem srcPtr dtype.elemSize shape.prod
        match target with
        | none => .error "KeyError: no activation in last_outputs — cannot restore"
        | some target =>
            match broadcast shape target.shape view with
            | none =>
                .error s!"RuntimeError: shape {shape} does not fit a tensor of shape {target.shape}"
            | some elems => .ok (elems.map (torch.convert dtype.torch target.dtype))

/-- Capturing succeeds, and restoring with what the slot header says gives every tensor of the
same dtype and shape the elements that were captured. -/
def Survives (torch : TorchCopy) (mem : Memory) (tensor : Tensor) (address dstLen : ℕ) : Prop :=
  ∃ captured dtypeStr shape,
    captureActivation mem tensor address dstLen = .ok (captured, dtypeStr, shape) ∧
    ∀ target : Tensor, target.dtype = tensor.dtype → target.shape = tensor.shape →
      restoreActivation torch captured (some target) address
        (activationHeader dtypeStr shape).byteLen
        (activationHeader dtypeStr shape).dtype.toTorchStr
        ((activationHeader dtypeStr shape).shape.take (activationHeader dtypeStr shape).ndim) =
        .ok tensor.elems

/-- The part of a tensor that its first six dimensions describe, broadcast, is the tensor. -/
def OfSixDims (tensor : Tensor) : Prop :=
  (tensor.shape.take 6).prod ≤ tensor.shape.prod ∧
    broadcast (tensor.shape.take 6) tensor.shape (tensor.elems.take (tensor.shape.take 6).prod) =
      some tensor.elems

lemma ofSixDims_of_length (hlength : tensor.shape.length ≤ 6) :
    OfSixDims tensor := by
  have hwhole : tensor.shape.take 6 = tensor.shape := take_of_length_le hlength
  refine ⟨by rw [hwhole], ?_⟩
  rw [hwhole, take_of_length_le tensor.count.le]
  exact broadcast_self tensor.count

/-! ## The header -/

lemma wrapped_toNat (hn : n < 2 ^ 64) : (Int.ofNat n % 2 ^ 64).toNat = n := by
  have hcast : Int.ofNat n % 2 ^ 64 = ((n % 2 ^ 64 : ℕ) : ℤ) := rfl
  rw [hcast, Int.toNat_natCast, Nat.mod_eq_of_lt hn]

section Header

variable {tensor : Tensor} {tag : DtypeTag}

lemma dtype_header (htag : tensor.dtype = tag.torch) (shape : List ℤ) :
    (activationHeader tensor.dtype.str shape).dtype = tag := by
  rw [htag, tag.str_torch, activationHeader, tag.fromTorchStr_toTorchStr]
  rfl

lemma shape_header (tensor : Tensor) (dtypeStr : String) :
    (activationHeader dtypeStr (tensor.shape.map Int.ofNat)).shape.take
      (activationHeader dtypeStr (tensor.shape.map Int.ofNat)).ndim = tensor.shape.take 6 := by
  refine ext_getElem (by simp [activationHeader]; omega) fun i hi hi' => ?_
  have hbelow : i < tensor.shape.length := by
    rw [length_take] at hi'
    omega
  have hword : tensor.shape[i] < 2 ^ 63 := tensor.dims _ (getElem_mem hbelow)
  simp only [activationHeader, getElem_take, getElem_map, getElem_range,
    getD_eq_getElem?_getD, getElem?_map, getElem?_eq_getElem hbelow, Option.map_some,
    Option.getD_some]
  exact wrapped_toNat (by omega)

lemma byteLen_header (htag : tensor.dtype = tag.torch) :
    (activationHeader tensor.dtype.str (tensor.shape.map Int.ofNat)).byteLen =
      tensor.byteSize := by
  have hsize := tensor.size
  have hitem : tensor.dtype.itemSize = tag.elemSize := by rw [htag, tag.itemSize_torch]
  have hpos : 0 < tag.elemSize := by cases tag <;> decide
  rw [hitem] at hsize
  have hprod : tensor.shape.prod < 2 ^ 63 :=
    lt_of_le_of_lt (Nat.le_mul_of_pos_right _ hpos) hsize
  have hcast : (tensor.shape.map Int.ofNat).prod = Int.ofNat tensor.shape.prod :=
    (Nat.cast_list_prod tensor.shape).symm
  have hlen : (activationHeader tensor.dtype.str (tensor.shape.map Int.ofNat)).byteLen =
      ((tensor.shape.map Int.ofNat).prod % 2 ^ 64).toNat *
        (activationHeader tensor.dtype.str (tensor.shape.map Int.ofNat)).dtype.elemSize % 2 ^ 64 :=
    rfl
  rw [hlen, dtype_header htag, hcast, wrapped_toNat (by omega), Nat.mod_eq_of_lt (by omega),
    Tensor.byteSize, tensor.count, hitem]

end Header

/-! ## When an activation survives -/

lemma restoreActivation_captured (torch : TorchCopy) (mem : Memory) (address : ℕ) {tag : DtypeTag}
    (htag : tensor.dtype = tag.torch) (hdtype : target.dtype = tensor.dtype)
    (hshape : target.shape = tensor.shape) :
    restoreActivation torch (writeBytes mem address tensor.bytes) (some target) address
        tensor.byteSize tag.toTorchStr (tensor.shape.take 6) = .ok tensor.elems ↔
      OfSixDims tensor := by
  have hitem : tensor.dtype.itemSize = tag.elemSize := by rw [htag, tag.itemSize_torch]
  have hpos : 0 < tag.elemSize := by cases tag <;> decide
  have hroom : tensor.byteSize < (tensor.shape.take 6).prod * tag.elemSize ↔
      tensor.shape.prod < (tensor.shape.take 6).prod := by
    rw [Tensor.byteSize, tensor.count, hitem]
    exact Nat.mul_lt_mul_right hpos
  have hconvert : torch.convert tag.torch target.dtype = id := by
    funext bits
    rw [hdtype, htag]
    exact torch.same _ bits
  unfold restoreActivation OfSixDims
  rw [tag.fromTorchStr_toTorchStr]
  dsimp only
  by_cases hfits : tensor.shape.prod < (tensor.shape.take 6).prod
  · rw [if_pos (hroom.mpr hfits)]
    constructor
    · intro hok
      cases hok
    · rintro ⟨hle, -⟩
      omega
  · have hview : viewElems (writeBytes mem address tensor.bytes) address tag.elemSize
        (tensor.shape.take 6).prod = tensor.elems.take (tensor.shape.take 6).prod := by
      rw [Tensor.bytes, hitem]
      refine viewElems_writeBytes mem address (fun bits hbits => ?_) ?_
      · exact hitem ▸ lt_of_lt_of_le (tensor.range bits hbits) tensor.dtype.patterns_le
      · rw [tensor.count]
        exact not_lt.mp hfits
    rw [if_neg (fun hlt => hfits (hroom.mp hlt)), hview, hshape, hconvert]
    cases broadcast (tensor.shape.take 6) tensor.shape
        (tensor.elems.take (tensor.shape.take 6).prod) with
    | none => simp
    | some elems => simp [not_lt.mp hfits]

/-- **A tensor that fits the slot survives exactly if it fills the slot and has no more than six
dimensions that matter.** -/
theorem survives_iff (torch : TorchCopy) (mem : Memory) (address slotDataSize : ℕ)
    (tensor : Tensor) (tag : DtypeTag) (htag : tensor.dtype = tag.torch)
    (hfits : tensor.byteSize ≤ alignUp slotDataSize 64) :
    Survives torch mem tensor address (alignUp slotDataSize 64) ↔
      tensor.byteSize = alignUp slotDataSize 64 ∧
        (tensor.shape.length ≤ 6 ∨ OfSixDims tensor) := by
  have hitem : tensor.dtype.itemSize = tag.elemSize := by rw [htag, tag.itemSize_torch]
  have hsix : tensor.shape.length ≤ 6 ∨ OfSixDims tensor ↔ OfSixDims tensor :=
    ⟨fun hor => hor.elim ofSixDims_of_length id, .inr⟩
  -- The room is a multiple of 64, so the whole buffer is elements.
  have hfull : alignUp slotDataSize 64 / tensor.dtype.itemSize = tensor.shape.prod ↔
      tensor.byteSize = alignUp slotDataSize 64 := by
    rw [Tensor.byteSize, tensor.count, hitem]
    unfold alignUp
    cases tag <;> simp only [DtypeTag.elemSize] <;> omega
  have hcaptured : ∀ target : Tensor, target.dtype = tensor.dtype → target.shape = tensor.shape →
      (restoreActivation torch (writeBytes mem address tensor.bytes) (some target) address
        (activationHeader tensor.dtype.str (tensor.shape.map Int.ofNat)).byteLen
        (activationHeader tensor.dtype.str (tensor.shape.map Int.ofNat)).dtype.toTorchStr
        ((activationHeader tensor.dtype.str (tensor.shape.map Int.ofNat)).shape.take
          (activationHeader tensor.dtype.str (tensor.shape.map Int.ofNat)).ndim) =
        .ok tensor.elems ↔ OfSixDims tensor) := by
    intro target hdtype hshape
    rw [byteLen_header htag, dtype_header htag, shape_header]
    exact restoreActivation_captured torch mem address htag hdtype hshape
  rw [hsix]
  constructor
  · rintro ⟨captured, dtypeStr, shape, hcapture, hrestore⟩
    unfold captureActivation at hcapture
    split_ifs at hcapture with _ hshape
    rw [not_not, hfull] at hshape
    cases hcapture
    exact ⟨hshape, (hcaptured tensor rfl rfl).mp (hrestore tensor rfl rfl)⟩
  · rintro ⟨hfilled, hdims⟩
    refine ⟨_, _, _, ?_, fun target hdtype hshape => (hcaptured target hdtype hshape).mpr hdims⟩
    rw [captureActivation, if_neg (not_lt.mpr hfits), if_neg (not_not.mpr (hfull.mpr hfilled))]

/-- A tensor of zeros. -/
def zeros (shape : List ℕ) (hdims : ∀ dim ∈ shape, dim < 2 ^ 63) (hsize : shape.prod * 4 < 2 ^ 63) :
    Tensor where
  dtype := .float32
  shape := shape
  device := "cpu"
  elems := List.replicate shape.prod 0
  count := List.length_replicate
  range := fun bits hbits => (List.eq_of_mem_replicate hbits) ▸ (by decide)
  dims := hdims
  size := hsize

lemma byteSize_zeros (hdims : ∀ dim ∈ shape, dim < 2 ^ 63) (hsize : shape.prod * 4 < 2 ^ 63) :
    (zeros shape hdims hsize).byteSize = shape.prod * 4 := by
  rw [Tensor.byteSize, zeros, length_replicate]
  rfl

/-- Sixteen floats with the bits 1 to 16. -/
def sixteenFloats : Tensor where
  dtype := .float32
  shape := [1, 2, 8]
  device := "cpu"
  elems := List.range' 1 16
  count := rfl
  range := by decide
  dims := by decide
  size := by decide

theorem survives_sixteen_floats :
    Survives .plain (fun _ => 255) sixteenFloats 4096 (alignUp 64 64) :=
  (survives_iff .plain (fun _ => 255) 4096 64 _ .float32 rfl (by decide)).mpr
    ⟨by decide, .inl (by decide)⟩

/-- Two tokens of a model of hidden size 64, in a slot for 2048 tokens. -/
theorem not_survives_two_tokens :
    ¬ Survives .plain (fun _ => 0) (zeros [1, 2, 64] (by decide) (by decide)) 4096
      (alignUp (64 * 2048 * 4) 64) := by
  rintro ⟨captured, dtypeStr, shape, hcapture, -⟩
  rw [captureActivation, byteSize_zeros, if_neg (by decide), if_pos (by decide)] at hcapture
  cases hcapture

/-! ## The request -/

end Activation

end RocketSurgeon.Worker
