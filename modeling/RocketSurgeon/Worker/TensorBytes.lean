import RocketSurgeon.Lib.Result
import RocketSurgeon.Worker.Inspect
import RocketSurgeon.Worker.Tensor

/-!
# The bytes of a tensor

`tensor_to_bytes` hands out the little-endian bytes of the elements.  NumPy has no bfloat16, so a
tensor of that dtype is converted to half precision first; the dtype that is reported next to the
bytes is still the tensor's own.

Both formats have 16 bits.  Read in the wrong format, a number comes out right only if its two
patterns happen to be the same, and there are six such numbers.
-/

namespace RocketSurgeon.Worker

open Lib

variable {bits : ℕ} (nan : HalfNan)

/-! ## The values of elements -/

/-- A whole number as a value. -/
def integerValue (n : ℤ) : FloatValue := .finite (n < 0) n.natAbs

/-- The value an element of a tensor stands for. -/
def TorchDtype.value : TorchDtype → ℕ → FloatValue
  | .float16, bits => FloatFormat.half.decode bits
  | .bfloat16, bits => FloatFormat.bfloat16.decode bits
  | .float32, bits => FloatFormat.single.decode bits
  | .float64, bits => FloatFormat.double.decode bits
  | .int8, bits => integerValue (Int.bmod bits (2 ^ 8))
  | .int16, bits => integerValue (Int.bmod bits (2 ^ 16))
  | .int32, bits => integerValue (Int.bmod bits (2 ^ 32))
  | .int64, bits => integerValue (Int.bmod bits (2 ^ 64))
  | .uint8, bits => integerValue bits
  | .bool, bits => integerValue bits
  | .other _ _, _ => .nan

def Tensor.values (tensor : Tensor) : List FloatValue := tensor.elems.map tensor.dtype.value

/-! ## The Python side -/

/-- The half-precision pattern that the tensor library makes of a pattern that is not a number. -/
structure HalfNan where
  bits : ℕ → ℕ
  isNan : ∀ pattern, FloatFormat.half.decode (bits pattern) = .nan
  range : ∀ pattern, bits pattern < 2 ^ 16

/-- `to(torch.float16)`, for one element of a bfloat16 tensor. -/
def toHalf (nan : HalfNan) (bits : ℕ) : ℕ :=
  FloatFormat.half.encode (nan.bits bits) (FloatFormat.bfloat16.decode bits)

def tensorToBytes (nan : HalfNan) (tensor : Tensor) : List UInt8 :=
  if tensor.dtype = .bfloat16 then (tensor.elems.map (toHalf nan)).flatMap (leBytes 2)
  else tensor.bytes

def getTensorDtype (tensor : Tensor) : String :=
  let name := tensor.dtype.str.toList
  if name.take 6 = "torch.".toList then String.ofList (name.drop 6) else tensor.dtype.str

lemma getTensorDtype_eq (tensor : Tensor) : getTensorDtype tensor = tensor.dtype.name := by
  have hname : tensor.dtype.str.toList = "torch.".toList ++ tensor.dtype.name.toList :=
    String.toList_append
  have hlen : "torch.".toList.length = 6 := by decide
  rw [getTensorDtype, hname, List.take_left' hlen, if_pos rfl, List.drop_left' hlen,
    String.ofList_toList]

/-- What the Python side says about a tensor, whenever it succeeds. -/
structure Torch (nan : HalfNan) (bridge : InspectBridge Tensor) : Prop where
  shape : ∀ tensor shape, bridge.tensorShape tensor = .ok shape → shape = tensor.shape
  slice : ∀ tensor start stop part, bridge.headSlice tensor start stop = .ok part →
    ∃ hshape, part = tensor.slice hshape start stop
  bytes : ∀ tensor bytes, bridge.tensorToBytes tensor = .ok bytes →
    bytes = tensorToBytes nan tensor
  dtype : ∀ tensor dtype, bridge.tensorDtype tensor = .ok dtype → dtype = getTensorDtype tensor

lemma tensorToBytes_eq_nil (nan : HalfNan) (hzero : 0 ∈ tensor.shape) :
    tensorToBytes nan tensor = [] := by
  have helements : tensor.elems = [] :=
    List.eq_nil_of_length_eq_zero (tensor.count.trans (List.prod_eq_zero hzero))
  rw [tensorToBytes, Tensor.bytes, helements]
  exact ite_self []

/-- The Python side when nothing fails. -/
def torchBridge (nan : HalfNan) : InspectBridge Tensor where
  tensorShape tensor := .ok tensor.shape
  headSlice tensor start stop :=
    if hshape : tensor.shape ≠ [] then .ok (tensor.slice hshape start stop)
    else .error "too many indices for tensor of dimension 0"
  tensorToBytes tensor := .ok (tensorToBytes nan tensor)
  tensorDtype tensor := .ok (getTensorDtype tensor)
  tensorDevice tensor := .ok tensor.device
  dims_pos := by
    intro tensor bytes shape hbytes hshape hsome dim hdim
    cases hbytes
    cases hshape
    refine Nat.pos_of_ne_zero fun hzero => hsome ?_
    exact tensorToBytes_eq_nil nan (hzero ▸ hdim)

lemma torch_torchBridge : Torch nan (torchBridge nan) where
  shape := by
    rintro tensor _ ⟨⟩
    rfl
  slice := by
    intro tensor start stop part hpart
    simp only [torchBridge] at hpart
    split_ifs at hpart with hshape
    cases hpart
    exact ⟨hshape, rfl⟩
  bytes := by
    rintro tensor _ ⟨⟩
    rfl
  dtype := by
    rintro tensor _ ⟨⟩
    rfl

/-- The part of a tensor that is asked for: one head of the output of an attention component, else
all of it. -/
def askedTensor (numHeads : ℕ) (headIndex : Option ℕ) (comp : MappedComponent) (tensor : Tensor) :
    Tensor :=
  match headIndex.filter fun _ => attentionHeadComponents.contains comp.canonical with
  | none => tensor
  | some index =>
      if hshape : tensor.shape ≠ [] then
        let headDim := tensor.shape.getLastD 0 % 2 ^ 32 / numHeads
        let start := index * headDim % 2 ^ 32
        tensor.slice hshape start ((start + headDim) % 2 ^ 32)
      else tensor

lemma dtype_askedTensor (numHeads : ℕ) (headIndex : Option ℕ) (comp : MappedComponent)
    (tensor : Tensor) : (askedTensor numHeads headIndex comp tensor).dtype = tensor.dtype := by
  unfold askedTensor
  split
  · rfl
  · split_ifs
    · rfl
    · rfl

lemma mem_of_mem_askedTensor (hbits : bits ∈ (askedTensor numHeads headIndex comp tensor).elems) :
    bits ∈ tensor.elems := by
  unfold askedTensor at hbits
  split at hbits
  · exact hbits
  · split_ifs at hbits
    · exact Tensor.mem_of_mem_sliceElems hbits
    · exact hbits

namespace Torch

variable {nan : HalfNan} {bridge : InspectBridge Tensor} {tensor used : Tensor}

lemma tensorToUse_eq (htorch : Torch nan bridge)
    (huse : tensorToUse bridge numHeads headIndex comp tensor = .ok used) :
    used = askedTensor numHeads headIndex comp tensor := by
  unfold tensorToUse at huse
  unfold askedTensor
  revert huse
  cases headIndex.filter fun _ => attentionHeadComponents.contains comp.canonical with
  | none =>
    rintro ⟨⟩
    rfl
  | some idx =>
    intro huse
    obtain ⟨shape, hshape, huse⟩ := bind_eq_ok huse
    obtain rfl := htorch.shape tensor shape hshape
    split at huse
    · cases huse
    next hidden hlast =>
      split_ifs at huse
      obtain ⟨hdims, rfl⟩ := htorch.slice _ _ _ _ huse
      have hhidden : tensor.shape.getLastD 0 = hidden := by
        rw [List.getLastD_eq_getLast?, hlast, Option.getD_some]
      dsimp only
      rw [dif_pos hdims, hhidden]

lemma readTensor_eq (htorch : Torch nan bridge) (hread : readTensor bridge tensor = .ok raw) :
    raw.bytes = tensorToBytes nan tensor ∧ raw.dtype = tensor.dtype.name := by
  obtain ⟨bytes, hbytes, hread⟩ := bind_eq_ok hread
  obtain ⟨shape, -, hread⟩ := bind_eq_ok hread
  obtain ⟨dtype, hdtype, hread⟩ := bind_eq_ok hread
  obtain ⟨device, -, hread⟩ := bind_eq_ok hread
  cases hread
  exact ⟨htorch.bytes _ _ hbytes, (htorch.dtype _ _ hdtype).trans (getTensorDtype_eq tensor)⟩

end Torch

/-! ## The six numbers -/

section Half

open FloatFormat

/-- The half-precision magnitude nearest to a finite bfloat16 magnitude. -/
def halfMagnitude (bits : ℕ) : ℕ := half.encodeMagnitude (bfloat16.units bits * bfloat16.unit)

lemma bfloat16_unit : bfloat16.unit = half.unit / 2 ^ 109 := by
  norm_num [unit, bfloat16, half, zpow_neg]

lemma bfloat16_units (bits : ℕ) :
    bfloat16.units bits =
      if bits / 128 = 0 then bits % 128 else (128 + bits % 128) * 2 ^ (bits / 128 - 1) := rfl

lemma halfMagnitude_of_normal (hlow : 113 * 128 ≤ bits) :
    halfMagnitude bits = min ((bits / 128 - 113) * 1024 + (128 + bits % 128) * 8) 31744 := by
  obtain ⟨k, hk⟩ : ∃ k, bits / 128 = k + 113 :=
    Nat.exists_eq_add_of_le' ((Nat.le_div_iff_mul_le (by decide)).mpr hlow)
  -- In units of half precision the number is `n`.
  obtain ⟨n, hn⟩ : ∃ n, n = (128 + bits % 128) * 8 * 2 ^ k := ⟨_, rfl⟩
  have hvalue : (bfloat16.units bits : ℚ) * bfloat16.unit = n * half.unit := by
    rw [bfloat16_unit, bfloat16_units, hk, if_neg (by omega), hn]
    have hpow : (2 : ℚ) ^ (k + 112) = 2 ^ k * 8 * 2 ^ 109 := by
      rw [show k + 112 = k + 3 + 109 by omega, pow_add, pow_add]
      norm_num
    push_cast
    rw [hpow]
    field_simp
  have hlow' : 2 ^ (k + 10) ≤ n := by
    rw [hn, pow_add, Nat.mul_comm]
    exact Nat.mul_le_mul_right _ (by omega)
  have hhigh : n < 2 ^ (k + 10 + 1) := by
    rw [hn, Nat.add_assoc, pow_add, Nat.mul_comm]
    exact Nat.mul_lt_mul_of_pos_left (by omega) (by positivity)
  have hzero : n ≠ 0 := (Nat.lt_of_lt_of_le (by positivity) hlow').ne'
  have hbinade : half.binade n = k := by
    rw [binade, (Nat.log2_eq_iff hzero).mpr ⟨hlow', hhigh⟩]
    exact Nat.add_sub_cancel k 10
  have hdvd : 2 ^ half.binade n ∣ n := by
    rw [hbinade, hn]
    exact Nat.dvd_mul_left _ _
  have hquotient : n / 2 ^ k = (128 + bits % 128) * 8 := by
    rw [hn, Nat.mul_div_cancel _ (by positivity)]
  rw [halfMagnitude, hvalue, half.encodeMagnitude_mul_unit hdvd, hbinade, hquotient, hk,
    Nat.add_sub_cancel]
  rfl

/-- Magnitudes are ordered as their numbers, so a bound on one is a bound on the other. -/
lemma bfloat16_value_lt (hunits : (bfloat16.units bits : ℚ) < bound * 2 ^ 109) :
    (bfloat16.units bits : ℚ) * bfloat16.unit < bound * half.unit := by
  calc (bfloat16.units bits : ℚ) * bfloat16.unit
      < bound * 2 ^ 109 * bfloat16.unit := mul_lt_mul_of_pos_right hunits bfloat16.unit_pos
    _ = bound * half.unit := by
        rw [bfloat16_unit]
        field_simp

/-- A number below the normal ones of half precision comes out among the lowest magnitudes, and
as zero if it is small. -/
lemma halfMagnitude_of_low (hlow : bits < 113 * 128) :
    halfMagnitude bits ≤ 1024 ∧ (bits ≤ 1024 → halfMagnitude bits = 0) := by
  constructor
  · have hunits : bfloat16.units bits < 128 * 2 ^ 112 := bfloat16.units_strictMono hlow
    refine half.encodeMagnitude_le (by have := bfloat16.unit_pos; positivity) ?_
    refine bfloat16_value_lt ?_
    have hcast : (bfloat16.units bits : ℚ) < (128 * 2 ^ 112 : ℕ) := Nat.cast_lt.mpr hunits
    refine hcast.trans_eq ?_
    norm_num [half]
  · intro hsmall
    have hunits : bfloat16.units bits ≤ 128 * 2 ^ 7 :=
      bfloat16.units_strictMono.monotone hsmall
    refine half.encodeMagnitude_of_lt_half (bfloat16_value_lt ?_)
    have hcast : (bfloat16.units bits : ℚ) ≤ (128 * 2 ^ 7 : ℕ) := Nat.cast_le.mpr hunits
    refine hcast.trans_lt ?_
    norm_num

/-- Zero, two and `2 ^ 121` have the same pattern in both formats, and no other finite number
has. -/
lemma halfMagnitude_eq_self_iff (bits : ℕ) :
    halfMagnitude bits = bits ↔ bits = 0 ∨ bits = 0x4000 ∨ bits = 0x7C00 := by
  by_cases hlow : bits < 113 * 128
  · obtain ⟨hbound, hzero⟩ := halfMagnitude_of_low hlow
    constructor
    · intro heq
      have hsmall : bits ≤ 1024 := heq ▸ hbound
      exact .inl (heq.symm.trans (hzero hsmall))
    · rintro (rfl | rfl | rfl)
      · exact hzero (by decide)
      · exact absurd hlow (by decide)
      · exact absurd hlow (by decide)
  · rw [halfMagnitude_of_normal (Nat.le_of_not_lt hlow)]
    omega

/-- The elements of a bfloat16 tensor that come out right: `±0`, `±2`, `±2 ^ 121`, and what is not a
number if its half-precision pattern is not a number in bfloat16 either. -/
def SameInBoth (nan : HalfNan) (bits : ℕ) : Prop :=
  bits % 2 ^ 15 = 0 ∨ bits % 2 ^ 15 = 0x4000 ∨ bits % 2 ^ 15 = 0x7C00 ∨
    bfloat16.decode bits = .nan ∧ bfloat16.decode (nan.bits bits) = .nan

/-- The sign bit of a pattern. -/
def signBit (bits : ℕ) : ℕ := if bits / 2 ^ 15 % 2 = 1 then 2 ^ 15 else 0

lemma signBit_add_mod (hbits : bits < 2 ^ 16) :
    signBit bits + bits % 2 ^ 15 = bits := by
  unfold signBit
  split_ifs <;> omega

lemma decode_bfloat16 (bits : ℕ) :
    bfloat16.decode bits =
      if bits % 2 ^ 15 < 32640 then
        .finite (bits / 2 ^ 15 % 2 = 1) (bfloat16.units (bits % 2 ^ 15) * bfloat16.unit)
      else if bits % 2 ^ 15 = 32640 then .inf (bits / 2 ^ 15 % 2 = 1)
      else .nan := rfl

lemma toHalf_eq (bits : ℕ) :
    toHalf nan bits =
      if bits % 2 ^ 15 < 32640 then signBit bits + halfMagnitude (bits % 2 ^ 15)
      else if bits % 2 ^ 15 = 32640 then signBit bits + 31744
      else nan.bits bits := by
  rw [toHalf, decode_bfloat16]
  split_ifs
  · simp only [encode, decide_eq_true_eq]
    rfl
  · simp only [encode, decide_eq_true_eq]
    rfl
  · rfl

lemma halfMagnitude_le (bits : ℕ) : halfMagnitude bits ≤ 31744 := min_le_right _ _

lemma toHalf_lt (bits : ℕ) : toHalf nan bits < 2 ^ 16 := by
  have hmagnitude := halfMagnitude_le (bits % 2 ^ 15)
  have hnan := nan.range bits
  have hsign : signBit bits ≤ 2 ^ 15 := by
    unfold signBit
    split_ifs <;> omega
  rw [toHalf_eq]
  split_ifs <;> omega

/-- Reading the converted pattern as bfloat16 gives the value back exactly for these. -/
lemma decode_toHalf_eq_iff (hbits : bits < 2 ^ 16) :
    bfloat16.decode (toHalf nan bits) = bfloat16.decode bits ↔ SameInBoth nan bits := by
  have hsplit := signBit_add_mod hbits
  by_cases hnan : bfloat16.decode bits = .nan
  · have hlarge : 32640 < bits % 2 ^ 15 := by
      rw [decode_bfloat16] at hnan
      split_ifs at hnan
      omega
    rw [hnan, toHalf_eq, if_neg (by omega), if_neg (by omega), SameInBoth]
    constructor
    · intro hhalf
      exact .inr (.inr (.inr ⟨hnan, hhalf⟩))
    · rintro (hzero | htwo | hlast | ⟨-, hhalf⟩)
      · omega
      · omega
      · omega
      · exact hhalf
  · -- A number has one pattern, so the converted pattern has to be the same.
    have hsame : bfloat16.decode (toHalf nan bits) = bfloat16.decode bits ↔
        toHalf nan bits = bits := by
      constructor
      · intro heq
        exact (bfloat16.decode_inj hbits (toHalf_lt nan bits) hnan heq.symm).symm
      · intro heq
        rw [heq]
    have hsmall : bits % 2 ^ 15 ≤ 32640 := by
      by_contra hlarge
      apply hnan
      rw [decode_bfloat16, if_neg (by omega), if_neg (by omega)]
    rw [hsame, toHalf_eq, SameInBoth]
    split_ifs with hfinite hinf
    · have hfixed := halfMagnitude_eq_self_iff (bits % 2 ^ 15)
      have hcancel : signBit bits + halfMagnitude (bits % 2 ^ 15) = bits ↔
          halfMagnitude (bits % 2 ^ 15) = bits % 2 ^ 15 := by omega
      rw [hcancel, hfixed]
      simp [hnan]
    · simp only [hnan, false_and, or_false]
      omega
    · omega

end Half

end RocketSurgeon.Worker
