import Mathlib

/-!
# Moments and extrema of a list of numbers

The mean, the sum of the squared deviations from it and the largest magnitude of a list, and how
the three of an appended list come from those of its parts.  One number at the end is the case
of Welford's recurrence.
-/

namespace RocketSurgeon.Lib

open List

section Moments

variable {K : Type*} [Field K]

/-- The mean; zero for no numbers. -/
def mean (xs : List K) : K := xs.sum / xs.length

/-- The sum of the squared deviations from the mean. -/
def deviation (xs : List K) : K := (xs.map fun x => (x - mean xs) ^ 2).sum

def sumSq (xs : List K) : K := (xs.map (· ^ 2)).sum

lemma sumSq_append (xs ys : List K) : sumSq (xs ++ ys) = sumSq xs + sumSq ys := by
  simp [sumSq]

lemma sum_map_sub_sq (xs : List K) (c : K) :
    (xs.map fun x => (x - c) ^ 2).sum = sumSq xs - 2 * c * xs.sum + xs.length * c ^ 2 := by
  induction xs with
  | nil => simp [sumSq]
  | cons x xs ih =>
    simp only [sumSq, map_cons, sum_cons, length_cons, Nat.cast_add,
      Nat.cast_one] at ih ⊢
    rw [ih]
    ring

variable [CharZero K]

lemma length_mul_mean (xs : List K) : xs.length * mean xs = xs.sum := by
  cases xs with
  | nil => simp
  | cons x xs =>
    rw [mean]
    field_simp

lemma deviation_eq (xs : List K) : deviation xs = sumSq xs - xs.length * mean xs ^ 2 := by
  rw [deviation, sum_map_sub_sq, ← length_mul_mean]
  ring

lemma mean_append (xs ys : List K) (hsome : xs.length + ys.length ≠ 0) :
    mean (xs ++ ys) =
      (mean ys - mean xs) * (ys.length / (xs.length + ys.length)) + mean xs := by
  have htotal : (xs.length : K) + ys.length ≠ 0 := by exact_mod_cast hsome
  have hsum : (xs ++ ys).sum = xs.length * mean xs + ys.length * mean ys := by
    rw [sum_append, length_mul_mean, length_mul_mean]
  rw [mean, hsum, length_append, Nat.cast_add]
  field_simp
  ring

lemma deviation_append (xs ys : List K) (hsome : xs.length + ys.length ≠ 0) :
    deviation (xs ++ ys) =
      (mean ys - mean xs) * (mean ys - mean xs) *
        (xs.length * ys.length / (xs.length + ys.length)) + (deviation xs + deviation ys) := by
  have htotal : (xs.length : K) + ys.length ≠ 0 := by exact_mod_cast hsome
  rw [deviation_eq, deviation_eq, deviation_eq, mean_append xs ys hsome, sumSq_append,
    length_append, Nat.cast_add]
  field_simp
  ring

/-! ### Welford's recurrence -/

lemma mean_concat (xs : List K) (x : K) :
    mean (xs ++ [x]) = mean xs + (x - mean xs) / ((xs.length : K) + 1) := by
  rw [mean_append xs [x] (by simp)]
  simp only [mean, sum_singleton, length_singleton, Nat.cast_one, div_one]
  ring

lemma deviation_concat (xs : List K) (x : K) :
    deviation (xs ++ [x]) = deviation xs + (x - mean xs) * (x - mean (xs ++ [x])) := by
  have hmean : mean [x] = x := by simp [mean]
  have hdeviation : deviation [x] = 0 := by simp [deviation, hmean]
  rw [deviation_append xs [x] (by simp), mean_concat, hmean, hdeviation, length_singleton,
    Nat.cast_one]
  field_simp
  ring

end Moments

section Magnitudes

variable {K : Type*} [Field K] [LinearOrder K] [IsStrictOrderedRing K] (xs : List K)

/-- The largest magnitude; zero for no numbers. -/
def magnitude (xs : List K) : K := (xs.map (|·|)).foldr max 0

omit [IsStrictOrderedRing K] in
lemma magnitude_cons (x : K) (xs : List K) : magnitude (x :: xs) = max |x| (magnitude xs) := rfl

lemma magnitude_nonneg : 0 ≤ magnitude xs := by
  cases xs with
  | nil => exact le_rfl
  | cons x xs => exact (abs_nonneg x).trans (le_max_left _ _)

lemma magnitude_append (ys : List K) :
    magnitude (xs ++ ys) = max (magnitude xs) (magnitude ys) := by
  induction xs with
  | nil => exact (max_eq_right (magnitude_nonneg ys)).symm
  | cons x xs ih => rw [cons_append, magnitude_cons, magnitude_cons, ih, max_assoc]

lemma magnitude_singleton (x : K) : magnitude [x] = |x| := max_eq_left (abs_nonneg x)

omit [IsStrictOrderedRing K] in
lemma abs_le_magnitude {xs : List K} {x : K} (hx : x ∈ xs) : |x| ≤ magnitude xs := by
  induction xs with
  | nil => cases hx
  | cons y ys ih =>
    rcases mem_cons.mp hx with rfl | hx
    · exact le_max_left _ _
    · exact (ih hx).trans (le_max_right _ _)

lemma sumSq_eq_zero {xs : List K} (hzero : magnitude xs = 0) : sumSq xs = 0 := by
  refine sum_eq_zero fun square hsquare => ?_
  obtain ⟨x, hx, rfl⟩ := mem_map.mp hsquare
  have hx : |x| ≤ 0 := hzero ▸ abs_le_magnitude hx
  rw [abs_nonpos_iff.mp hx, zero_pow two_ne_zero]

/-- The squares sum to what the squares over the largest one sum to, times that. -/
lemma magnitude_mul_sumSq :
    magnitude xs * magnitude xs * (sumSq xs / magnitude xs ^ 2) = sumSq xs := by
  by_cases hzero : magnitude xs = 0
  · rw [sumSq_eq_zero hzero, zero_div, mul_zero]
  · rw [← sq]
    exact mul_div_cancel₀ _ (pow_ne_zero 2 hzero)

/-- Squares taken under the largest magnitude, brought to another scale. -/
lemma rescale_sumSq (scale : K) :
    sumSq xs / magnitude xs ^ 2 * (magnitude xs / scale) * (magnitude xs / scale) =
      sumSq xs / scale ^ 2 := by
  by_cases hzero : magnitude xs = 0
  · rw [sumSq_eq_zero hzero, zero_div, zero_mul, zero_mul, zero_div]
  · field_simp

end Magnitudes

end RocketSurgeon.Lib
