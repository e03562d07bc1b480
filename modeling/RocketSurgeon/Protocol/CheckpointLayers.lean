import RocketSurgeon.Protocol.Types

/-!
# The boundary layers

The layers a checkpoint captures are in ascending order, and they are layers of the model.  They
cut it into as many stretches as the rounded square root of the number of layers says, and
no stretch is longer than that.
-/

namespace RocketSurgeon.Protocol

open List

lemma ceilSqrt_le_iff : ceilSqrt n ≤ m ↔ n ≤ m * m := by
  unfold ceilSqrt
  split_ifs with hsquare
  · nth_rewrite 2 [← hsquare]
    exact Nat.mul_self_le_mul_self_iff.symm
  · -- Only a square is the square of a number.
    have hne : n ≠ m * m := by
      rintro rfl
      exact hsquare (by rw [Nat.sqrt_eq])
    rw [Nat.add_one_le_iff, Nat.sqrt_lt]
    omega

/-- The square root of the source, rounded up. -/
lemma ceilSqrt_eq_ceil (n : ℕ) : ceilSqrt n = ⌈√(n : ℝ)⌉₊ := by
  refine eq_of_forall_ge_iff fun m => ?_
  rw [ceilSqrt_le_iff, Nat.ceil_le, Real.sqrt_le_left (Nat.cast_nonneg m), sq]
  exact_mod_cast Iff.rfl

lemma ceilSqrt_le_self (n : ℕ) : ceilSqrt n ≤ n :=
  ceilSqrt_le_iff.mpr (Nat.le_mul_self n)

lemma ceilSqrt_pos (hsome : 0 < n) : 0 < ceilSqrt n := by
  by_contra hzero
  have hle := ceilSqrt_le_iff.mp (not_lt.mp hzero)
  omega

/-- The boundaries are at least one layer apart, as there are no more stretches than layers. -/
lemma boundary_lt (hparts : 0 < parts) (hle : parts ≤ numLayers) (hlt : i < j) :
    i * numLayers / parts < j * numLayers / parts := by
  calc i * numLayers / parts < i * numLayers / parts + 1 := Nat.lt_succ_self _
    _ = (i * numLayers + parts) / parts := (Nat.add_div_right _ hparts).symm
    _ ≤ (i * numLayers + numLayers) / parts :=
        Nat.div_le_div_right (Nat.add_le_add_left hle _)
    _ = (i + 1) * numLayers / parts := by rw [Nat.succ_mul]
    _ ≤ j * numLayers / parts := Nat.div_le_div_right (Nat.mul_le_mul_right _ hlt)

lemma boundary_succ_le (hparts : 0 < parts) (hle : numLayers ≤ parts * parts) (i : ℕ) :
    (i + 1) * numLayers / parts ≤ i * numLayers / parts + parts := by
  calc (i + 1) * numLayers / parts = (i * numLayers + numLayers) / parts := by rw [Nat.succ_mul]
    _ ≤ (i * numLayers + parts * parts) / parts :=
        Nat.div_le_div_right (Nat.add_le_add_left hle _)
    _ = i * numLayers / parts + parts := Nat.add_mul_div_left _ _ hparts

lemma checkpointLayers_pairwise (numLayers : ℕ) :
    (checkpointLayers numLayers).Pairwise (· < ·) := by
  unfold checkpointLayers
  split_ifs with hfew
  · exact List.Pairwise.nil
  · rw [pairwise_map]
    refine (pairwise_lt_range' 1).imp_of_mem fun {i j} hi _ hlt => ?_
    have hparts : 0 < ceilSqrt numLayers := by
      have hmem := mem_range'_1.mp hi
      omega
    exact boundary_lt hparts (ceilSqrt_le_self numLayers) hlt

lemma lt_of_mem_checkpointLayers (hlayer : layer ∈ checkpointLayers numLayers) :
    layer < numLayers := by
  unfold checkpointLayers at hlayer
  split_ifs at hlayer with hfew
  · cases hlayer
  · obtain ⟨i, hi, rfl⟩ := mem_map.mp hlayer
    have hmem := mem_range'_1.mp hi
    rw [Nat.div_lt_iff_lt_mul (by omega), Nat.mul_comm]
    exact Nat.mul_lt_mul_of_pos_left (by omega) (by omega)

/-! ## Where they are -/

/-- With the two ends of the model the layers are all boundaries of the stretches. -/
lemma boundaries_eq (hsome : 2 ≤ numLayers) :
    0 :: checkpointLayers numLayers ++ [numLayers] =
      (range (ceilSqrt numLayers + 1)).map fun i => i * numLayers / ceilSqrt numLayers := by
  have hparts := ceilSqrt_pos (Nat.zero_lt_of_lt hsome)
  rw [range_succ, map_append, map_singleton, Nat.mul_div_cancel_left _ hparts]
  congr 1
  rw [checkpointLayers, if_neg (by omega), range_eq_range']
  obtain ⟨parts, hsucc⟩ := Nat.exists_eq_succ_of_ne_zero hparts.ne'
  rw [hsucc, range'_succ, map_cons, Nat.zero_mul, Nat.zero_div]
  rfl

/-- Every layer of the model is at most a stretch behind a boundary. -/
lemma exists_boundary {boundary : ℕ → ℕ} {stretch layer : ℕ} (hzero : boundary 0 = 0)
    (hnext : ∀ i, boundary (i + 1) ≤ boundary i + stretch) {parts : ℕ} (hparts : 0 < parts)
    (hlayer : layer ≤ boundary parts) :
    ∃ i < parts, boundary i ≤ layer ∧ layer - boundary i ≤ stretch := by
  induction parts with
  | zero => cases hparts
  | succ parts ih =>
    by_cases hbehind : boundary parts ≤ layer
    · have hstretch := hnext parts
      exact ⟨parts, Nat.lt_succ_self parts, hbehind, by omega⟩
    · have hpos : 0 < parts := by
        rcases Nat.eq_zero_or_pos parts with rfl | hpos
        · omega
        · exact hpos
      obtain ⟨i, hi, hfound⟩ := ih hpos (by omega)
      exact ⟨i, hi.trans (Nat.lt_succ_self parts), hfound⟩

/-- **Where checkpoints are placed.**  The computation of the source, in real numbers, gives one
layer less than the rounded square root; they are inner layers in ascending order, neighbours are
no farther apart than the root, and so is every layer from the checkpoint it is replayed from. -/
theorem checkpointLayers_placement (numLayers : ℕ) (hsome : 2 ≤ numLayers) :
    (checkpointLayers numLayers).Pairwise (· < ·) ∧
      let parts := ⌈√(numLayers : ℝ)⌉₊
      let layers := checkpointLayers numLayers
      layers = (range' 1 (parts - 1)).map (fun i : ℕ => ⌊(i : ℝ) * (numLayers / parts)⌋₊) ∧
      layers.length = parts - 1 ∧
      (∀ layer ∈ layers, 1 ≤ layer ∧ layer ≤ numLayers - 1) ∧
      (0 :: layers ++ [numLayers]).IsChain (fun layer next => next - layer ≤ parts) ∧
      ∀ layer ≤ numLayers, ∃ start ∈ 0 :: layers, start ≤ layer ∧ layer - start ≤ parts := by
  refine ⟨checkpointLayers_pairwise numLayers, ?_⟩
  intro parts layers
  have hceil : parts = ceilSqrt numLayers := (ceilSqrt_eq_ceil numLayers).symm
  have hle := ceilSqrt_le_iff.mp (le_refl (ceilSqrt numLayers))
  have hpositive := ceilSqrt_pos (Nat.zero_lt_of_lt hsome)
  have hlayers : layers = (range' 1 (ceilSqrt numLayers - 1)).map
      fun i => i * numLayers / ceilSqrt numLayers := by
    rw [show layers = checkpointLayers numLayers from rfl, checkpointLayers, if_neg (by omega)]
  have hboundaries := boundaries_eq hsome
  have hnext := boundary_succ_le hpositive hle
  rw [hceil]
  refine ⟨?_, ?_, fun layer hlayer => ⟨?_, ?_⟩, ?_, ?_⟩
  · rw [hlayers]
    refine map_congr_left fun i _ => ?_
    rw [← mul_div_assoc, ← Nat.cast_mul, Nat.floor_div_eq_div]
  · rw [hlayers, length_map, length_range']
  · -- The first boundary is at zero, and this is a later one.
    rw [hlayers] at hlayer
    obtain ⟨i, hi, rfl⟩ := mem_map.mp hlayer
    exact Nat.zero_lt_of_lt
      (boundary_lt hpositive (ceilSqrt_le_self numLayers) (mem_range'_1.mp hi).1)
  · have hlt := lt_of_mem_checkpointLayers hlayer
    omega
  · rw [show layers = checkpointLayers numLayers from rfl, hboundaries, isChain_map,
      isChain_range_succ]
    exact fun i _ => Nat.sub_le_iff_le_add'.mpr (hnext i)
  · intro layer hlayer
    obtain ⟨i, hi, hfound⟩ := @exists_boundary (fun i => i * numLayers / ceilSqrt numLayers) _ layer
      (by simp) hnext _ hpositive (by rwa [Nat.mul_div_cancel_left _ hpositive])
    refine ⟨_, ?_, hfound⟩
    rcases Nat.eq_zero_or_pos i with rfl | hinner
    · simp
    · rw [hlayers]
      exact mem_cons_of_mem _ (mem_map.mpr ⟨i, mem_range'_1.mpr ⟨hinner, by omega⟩, rfl⟩)

theorem checkpointLayers_placement_twelve :
    checkpointLayers 12 = [3, 6, 9] ∧ ([0, 3, 6, 9] ++ [12]).IsChain
      (fun layer next => next - layer ≤ ⌈√((12 : ℕ) : ℝ)⌉₊) := by
  have hlayers : checkpointLayers 12 = [3, 6, 9] := by decide +kernel
  obtain ⟨-, -, -, -, hchain, -⟩ := checkpointLayers_placement 12 (by decide)
  rw [hlayers] at hchain
  exact ⟨hlayers, hchain⟩

end RocketSurgeon.Protocol
