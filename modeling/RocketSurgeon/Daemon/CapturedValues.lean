import RocketSurgeon.Daemon.InspectRelease
import RocketSurgeon.Worker.TensorBytes

/-!
# The values of captured tensors

The worker hands over the bytes of a tensor and names its dtype; the daemon reads the bytes as that
dtype says.  For every dtype but bfloat16 it reads the values of the tensor.
-/

namespace RocketSurgeon.Daemon

open Lib Protocol Worker Shm List

variable {tensor : Tensor}

/-! ## Reading elements back -/

section Reading

variable {elems : List ℕ}

lemma readPatterns_flatMap (hpos : 0 < width) (hrange : ∀ bits ∈ elems, bits < 256 ^ width)
    (value : ℕ → FloatValue) :
    readPatterns width value (elems.flatMap (leBytes width)) = elems.map value := by
  have hwidth : ∀ bits ∈ elems, (leBytes width bits).length = width := fun _ _ =>
    length_leBytes _ _
  have hcount : (elems.flatMap (leBytes width)).length / width = elems.length := by
    rw [length_flatMap_of_width hwidth, Nat.mul_div_cancel _ hpos]
  rw [readPatterns, chunksExact, hcount, rows_flatMap hwidth, map_map]
  refine map_congr_left fun bits hbits => ?_
  exact congrArg value (leNat_leBytes (hrange bits hbits))

lemma map_flatMap_leBytes_one (value : UInt8 → FloatValue) (elems : List ℕ) :
    (elems.flatMap (leBytes 1)).map value = elems.map fun bits => value (UInt8.ofNat bits) := by
  have hsingle : leBytes 1 = fun bits => [UInt8.ofNat bits] := rfl
  rw [hsingle, ← map_eq_flatMap, map_map]
  rfl

lemma twosComplement_eq_bmod (hpattern : pattern < 2 ^ (width + 1)) :
    twosComplement (width + 1) pattern = Int.bmod pattern (2 ^ (width + 1)) := by
  have hpow : 2 ^ (width + 1) = 2 * 2 ^ width := pow_succ' 2 width
  have hcast : (2 : ℤ) ^ (width + 1) = (2 ^ (width + 1) : ℕ) := (Nat.cast_pow 2 _).symm
  have hmod : (pattern : ℤ) % (2 ^ (width + 1) : ℕ) = pattern :=
    Int.emod_eq_of_lt (Int.natCast_nonneg _) (Int.ofNat_lt.mpr hpattern)
  rw [twosComplement, Int.bmod_def, hmod, hcast, hpow, Nat.add_sub_cancel]
  split_ifs <;> omega

/-- Integers are read as they are, if a 64-bit float can hold them. -/
lemma map_ofInt_twosComplement (width : ℕ) (hrange : ∀ bits ∈ elems, bits < 2 ^ (width + 1))
    (hbound : ∀ bits ∈ elems, (Int.bmod bits (2 ^ (width + 1))).natAbs ≤ 2 ^ 53) :
    elems.map (fun bits : ℕ => Float64.ofInt (twosComplement (width + 1) bits)) =
      elems.map fun bits : ℕ => integerValue (Int.bmod bits (2 ^ (width + 1))) := by
  refine map_congr_left fun bits hbits => ?_
  rw [twosComplement_eq_bmod (hrange bits hbits)]
  exact Float64.ofInt_eq (hbound bits hbits)

lemma natAbs_bmod_le (hpos : 0 < modulus) (hmodulus : modulus ≤ 2 ^ 54) :
    (Int.bmod n modulus).natAbs ≤ 2 ^ 53 := by
  have hlow := @Int.le_bmod n modulus hpos
  have hhigh := @Int.bmod_lt n modulus hpos
  omega

end Reading

/-- The tensors at hand: of a dtype that the daemon knows, and without large 64-bit integers, which
a 64-bit float cannot hold. -/
def Covered (tensor : Tensor) : Prop :=
  match tensor.dtype with
  | .int64 => ∀ bits ∈ tensor.elems, (Int.bmod bits (2 ^ 64)).natAbs ≤ 2 ^ 53
  | .other _ _ => False
  | _ => True

lemma decodeValues_bytes (hcovered : Covered tensor) :
    ∃ dtype, parseDtype tensor.dtype.name = some dtype ∧
      decodeValues tensor.bytes dtype = tensor.values := by
  obtain ⟨dtype, shape, device, elems, count, range, dims, size⟩ := tensor
  cases dtype with
  | float16 => exact ⟨.float16, rfl, readPatterns_flatMap (by decide) range _⟩
  | bfloat16 => exact ⟨.bfloat16, rfl, readPatterns_flatMap (by decide) range _⟩
  | float32 => exact ⟨.float32, rfl, readPatterns_flatMap (by decide) range _⟩
  | float64 => exact ⟨.float64, rfl, readPatterns_flatMap (by decide) range _⟩
  | int8 =>
    refine ⟨.int8, rfl, (map_flatMap_leBytes_one _ _).trans ?_⟩
    refine Eq.trans (map_congr_left fun bits hbits => ?_) (map_ofInt_twosComplement 7 range
      fun _ _ => natAbs_bmod_le (by decide) (by decide))
    rw [UInt8.toNat_ofNat_of_lt' (range bits hbits)]
  | int16 =>
    exact ⟨.int16, rfl, (readPatterns_flatMap (by decide) range _).trans
      (map_ofInt_twosComplement 15 range fun _ _ => natAbs_bmod_le (by decide) (by decide))⟩
  | int32 =>
    exact ⟨.int32, rfl, (readPatterns_flatMap (by decide) range _).trans
      (map_ofInt_twosComplement 31 range fun _ _ => natAbs_bmod_le (by decide) (by decide))⟩
  | int64 =>
    exact ⟨.int64, rfl, (readPatterns_flatMap (by decide) range _).trans
      (map_ofInt_twosComplement 63 range hcovered)⟩
  | uint8 =>
    refine ⟨.uint8, rfl, (map_flatMap_leBytes_one _ _).trans ?_⟩
    refine map_congr_left fun bits hbits => ?_
    have hbyte : bits < 256 := range bits hbits
    rw [UInt8.toNat_ofNat_of_lt' hbyte]
    exact Float64.ofInt_eq (by omega)
  | bool =>
    refine ⟨.bool, rfl, (map_flatMap_leBytes_one _ _).trans ?_⟩
    refine map_congr_left fun bits hbits => ?_
    have hzero : Float64.ofNat 0 = integerValue 0 := by decide +kernel
    have hone : Float64.ofNat 1 = integerValue 1 := by decide +kernel
    have htruth : bits < 2 := range bits hbits
    obtain rfl | rfl : bits = 0 ∨ bits = 1 := by omega
    · exact (if_neg (by decide)).trans hzero
    · exact (if_pos (by decide)).trans hone
  | other name itemSize => cases hcovered

/-- A bfloat16 tensor whose elements all come out right. -/
def Kept (nan : HalfNan) (tensor : Tensor) : Prop :=
  tensor.dtype = .bfloat16 → ∀ bits ∈ tensor.elems, SameInBoth nan bits

lemma decodeValues_tensorToBytes_iff (nan : HalfNan) (hcovered : Covered tensor) :
    ∃ dtype, parseDtype tensor.dtype.name = some dtype ∧
      (decodeValues (tensorToBytes nan tensor) dtype = tensor.values ↔ Kept nan tensor) := by
  by_cases hbf16 : tensor.dtype = .bfloat16
  · refine ⟨.bfloat16, by rw [hbf16]; rfl, ?_⟩
    have hrange : ∀ bits ∈ tensor.elems, bits < 2 ^ 16 := by
      intro bits hbits
      have hbits := tensor.range bits hbits
      rwa [hbf16] at hbits
    have hread : decodeValues (tensorToBytes nan tensor) .bfloat16 =
        tensor.elems.map fun bits => FloatFormat.bfloat16.decode (toHalf nan bits) := by
      rw [tensorToBytes, if_pos hbf16]
      refine (readPatterns_flatMap (by decide) ?_ _).trans (map_map ..)
      intro half hhalf
      obtain ⟨bits, -, rfl⟩ := mem_map.mp hhalf
      exact toHalf_lt nan bits
    have hvalues : tensor.values = tensor.elems.map FloatFormat.bfloat16.decode := by
      rw [Tensor.values, hbf16]
      rfl
    rw [hread, hvalues, map_inj_left]
    constructor
    · intro hsame _ bits hbits
      exact (decode_toHalf_eq_iff nan (hrange bits hbits)).mp (hsame bits hbits)
    · intro hkept bits hbits
      exact (decode_toHalf_eq_iff nan (hrange bits hbits)).mpr (hkept hbf16 bits hbits)
  · obtain ⟨dtype, hdtype, hread⟩ := decodeValues_bytes hcovered
    refine ⟨dtype, hdtype, iff_of_true ?_ fun heq => absurd heq hbf16⟩
    rw [tensorToBytes, if_neg hbf16, hread]

/-! ## From the worker to the daemon -/

/-- The values the daemon reads of a captured tensor. -/
def decodeCaptured (lib : InspectLibrary) (decodeError : String → String)
    (consumer : Option DoomRingConsumer) (region : ShmRegion) (ct : CapturedTensor) :
    Option (List FloatValue) :=
  match readCaptured lib decodeError consumer region ct, parseDtype ct.dtype with
  | .ok (_, bytes), some dtype => some (decodeValues bytes dtype)
  | _, _ => none

/-- These are exactly the values of a tensor, in order. -/
def Agrees (lib : InspectLibrary) (decodeError : String → String)
    (consumer : Option DoomRingConsumer) (region : ShmRegion) (ct : CapturedTensor)
    (tensor : Tensor) : Prop :=
  decodeCaptured lib decodeError consumer region ct = some tensor.values

lemma covered_askedTensor (hcovered : Covered tensor) (numHeads : ℕ) (headIndex : Option ℕ)
    (comp : MappedComponent) :
    Covered (askedTensor numHeads headIndex comp tensor) := by
  unfold Covered at hcovered ⊢
  rw [dtype_askedTensor]
  split at hcovered
  · exact fun bits hbits => hcovered bits (mem_of_mem_askedTensor hbits)
  · exact hcovered
  · trivial

section Collecting

variable {lib : InspectLibrary} {nan : HalfNan} {bridge : InspectBridge Tensor}
  {consumer : Option DoomRingConsumer} {region : ShmRegion} {decodeError : String → String}

lemma agrees_iff (htorch : Torch nan bridge) (hcarried : Carries lib.hash region capture ct)
    (hopen : hasShm ct = true → consumer.isSome) (hread : readTensor bridge used = .ok capture.2)
    (hcovered : Covered used) :
    Agrees lib decodeError consumer region ct used ↔ Kept nan used := by
  obtain ⟨hbytes, hname⟩ := htorch.readTensor_eq hread
  obtain ⟨id, hcap⟩ := exists_readCaptured decodeError hcarried hopen
  obtain ⟨dtype, hdtype, hiff⟩ := decodeValues_tensorToBytes_iff nan hcovered
  rw [Agrees, decodeCaptured, hcap, hcarried.dtype, hname, hdtype, hbytes, ← hiff]
  exact Option.some_inj

lemma forall₂_agrees_iff (htorch : Torch nan bridge) {held : List (MappedComponent × Tensor)}
    (hfound : List.Forall₂ (fun held capture => ∃ used,
      tensorToUse bridge numHeads headIndex held.1 held.2 = .ok used ∧
      readTensor bridge used = .ok capture.2) held captures)
    (hcarries : List.Forall₂ (Carries lib.hash region) captures captured)
    (hopen : ∀ ct ∈ captured, hasShm ct = true → consumer.isSome) :
    List.Forall₂ (fun held ct => Covered held.2 →
      (Agrees lib decodeError consumer region ct (askedTensor numHeads headIndex held.1 held.2) ↔
        Kept nan (askedTensor numHeads headIndex held.1 held.2))) held captured := by
  induction hfound generalizing captured with
  | nil =>
    cases hcarries
    exact .nil
  | cons hfirst hrest ih =>
    cases hcarries with
    | cons hcarried hothers =>
      obtain ⟨hopen, hopens⟩ := forall_mem_cons.mp hopen
      obtain ⟨used, huse, hread⟩ := hfirst
      refine .cons (fun hcovered => ?_) (ih hothers hopens)
      obtain rfl := htorch.tensorToUse_eq huse
      exact agrees_iff htorch hcarried hopen hread (covered_askedTensor hcovered _ _ _)

/-- In every state that is reached, what is handed over can be read. -/
lemma carries_captureAll {st : InspectState Tensor} (hcoupled : RingCoupled lib st)
    (captures : List (MappedComponent × RawTensor)) :
    List.Forall₂ (Carries lib.hash (captureAll lib.hash captures st.shared).2.region) captures
        (captureAll lib.hash captures st.shared).1 ∧
      ∀ ct ∈ (captureAll lib.hash captures st.shared).1,
        hasShm ct = true → st.shmConsumer.isSome := by
  obtain ⟨daemon, ⟨ring, region⟩, shmConsumer, store⟩ := st
  obtain ⟨hring, -⟩ | ⟨config, ring', consumer, count, hconfig, hring, hcons, -, hfill⟩ :=
    hcoupled.ring
  · obtain rfl : ring = none := hring
    obtain ⟨hshared, hcount, hcarried⟩ := captureAll_of_none lib.hash captures region
    rw [hshared]
    refine ⟨hcarried, fun ct hct hshm => ?_⟩
    exact absurd hshm (countP_eq_zero.mp hcount ct hct)
  · obtain rfl : ring = some ring' := hring
    obtain rfl : shmConsumer = some consumer := hcons
    obtain ⟨ring'', region', hshared, hover⟩ :=
      captureAll_handedOver lib.hash hconfig captures hfill
    rw [hshared]
    exact ⟨hover.carries, fun _ _ _ => rfl⟩

end Collecting

/-- **Captured bytes and reported dtype.**  Whatever the daemon has done before: of a tensor that
is collected it reads exactly the values if and only if the dtype is not bfloat16 or all elements
come out right. -/
theorem captured_values_iff {nan : HalfNan} {bridge : InspectBridge Tensor}
    (htorch : Torch nan bridge) (lib : InspectLibrary) (decodeError : String → String)
    (daemon : DaemonState Tensor) (actions : List (InspectAction Tensor)) {st : InspectState Tensor}
    (hst : st = actions.foldl (InspectState.act lib) (.start daemon)) (worker : WorkerState Tensor)
    (comps : List MappedComponent) (headIndex : Option ℕ) {captured : List CapturedTensor}
    {shared : SharedRing}
    (hcollect : collectTensors lib.hash bridge worker comps headIndex st.shared =
      (.ok captured, shared)) :
    List.Forall₂ (fun held ct => Covered held.2 →
      (Agrees lib decodeError st.shmConsumer shared.region ct
          (askedTensor worker.numHeads headIndex held.1 held.2) ↔
        Kept nan (askedTensor worker.numHeads headIndex held.1 held.2)))
      (heldTensors (worker.lastOutputs.getD []) comps) captured := by
  rw [collectTensors_eq] at hcollect
  obtain ⟨hresult, rfl⟩ := Prod.mk.inj hcollect
  split at hresult
  next hcomplete =>
    cases hresult
    have hfound := forall₂_prepare hcomplete
    obtain ⟨hcarries, hopen⟩ := carries_captureAll (hst ▸ ringCoupled_run lib daemon actions)
      (prepare bridge worker.numHeads headIndex _ comps).1
    exact forall₂_agrees_iff htorch hfound hcarries hopen
  · cases hresult

/-! ## The number one -/

/-- Whatever is not a number becomes the quiet pattern. -/
def quietNan : HalfNan where
  bits := fun _ => 0x7E00
  isNan := fun _ => by decide +kernel
  range := fun _ => by decide

def oneElement (dtype : TorchDtype) (bits : ℕ) (hrange : bits < dtype.patterns)
    (hsize : dtype.itemSize < 2 ^ 63) : Tensor where
  dtype := dtype
  shape := [1]
  device := "cpu"
  elems := [bits]
  count := rfl
  range := List.forall_mem_singleton.mpr hrange
  dims := by decide
  size := by
    rw [List.prod_singleton, Nat.one_mul]
    exact hsize

def floatOne : Tensor := oneElement .float32 0x3F800000 (by decide) (by decide)

def bfloatOne : Tensor := oneElement .bfloat16 0x3F80 (by decide) (by decide)

def oProj : MappedComponent := ⟨"layers.0.o_proj", "o_proj", some 0, 0, "llama:0:0:o_proj:0:output"⟩

/-- A worker in which that component has put out a tensor. -/
def holding (tensor : Tensor) : WorkerState Tensor :=
  { twoLayerWorker with lastOutputs := some [(("layers.0.o_proj", 0), tensor)] }

/-- What is collected of it when there is no ring. -/
def collected (tensor : Tensor) : Except String (List CapturedTensor) × SharedRing :=
  collectTensors plainLibrary.hash (torchBridge quietNan) (holding tensor) [oProj] none
    (InspectState.start (DaemonState.new : DaemonState Tensor)).shared

/-- A one of 32 bits is read as one. -/
theorem captured_values_floatOne : ∃ captured, (collected floatOne).1 = .ok captured ∧
    List.Forall₂ (Agrees plainLibrary id none (collected floatOne).2.region) captured
      [floatOne] := by
  have hok : (collected floatOne).1.isOk = true := by decide +kernel
  obtain ⟨captured, hcaptured⟩ := exists_ok_of_isOk hok
  have hcollect : collected floatOne = (.ok captured, (collected floatOne).2) := by
    rw [← hcaptured]
  have hall := captured_values_iff (torch_torchBridge quietNan) plainLibrary id DaemonState.new []
    rfl (holding floatOne) [oProj] none hcollect
  have hheld : heldTensors ((holding floatOne).lastOutputs.getD []) [oProj] =
      [(oProj, floatOne)] := rfl
  refine ⟨captured, hcaptured, ?_⟩
  cases hall with
  | cons hone hnone =>
    cases hnone
    exact .cons ((hone trivial).mpr nofun) .nil

/-- A one of 16 bits is handed over as `0x3C00`, which the daemon reads as `2 ^ (-7)`. -/
theorem not_agrees_bfloatOne : Covered bfloatOne ∧
    ∃ captured, (collected bfloatOne).1 = .ok [captured] ∧
      ¬ Agrees plainLibrary id none (collected bfloatOne).2.region captured bfloatOne := by
  refine ⟨trivial, { describe oProj ⟨[0x00, 0x3C], [1], "bfloat16", "cpu"⟩
      (Base64.encodeText [0x00, 0x3C]) with
    dataBase64 := some (Base64.encodeText [0x00, 0x3C]) }, ?_, ?_⟩
  · decide +kernel
  · unfold Agrees
    decide +kernel

end RocketSurgeon.Daemon
