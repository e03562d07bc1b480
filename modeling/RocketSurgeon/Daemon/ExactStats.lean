import RocketSurgeon.Daemon.TensorStats
import RocketSurgeon.Lib.Extended
import RocketSurgeon.Lib.Moments

/-!
# The first pass in exact arithmetic

Run on numbers that are not rounded, the first pass computes the statistics that its fields are
named after: of the finite values the mean, the squared deviations from it, the extrema and the
squares over the largest of them, and the number of values of each other kind.  These
statistics of an appended list come from those of its parts in the way `mergePass1` joins them.
-/

namespace RocketSurgeon.Daemon

open Lib Extended

variable (epsilon : ℚ) (values : List Extended)

/-- Exact arithmetic, with a bound for what counts as sparse. -/
def FloatOps.exact (epsilon : ℚ) : FloatOps Extended where
  ofNat n := .finite n
  infinity := .inf false
  negInfinity := .inf true
  epsilon := .finite epsilon
  add := Extended.add
  sub := Extended.sub
  mul := Extended.mul
  div := Extended.div
  mulAdd x y z := (x.mul y).add z
  sqrt := Extended.sqrt
  abs := Extended.abs
  lt := Extended.lt
  isNan := Extended.isNan
  isFinite := Extended.isFinite
  floorNat := Extended.floorNat

def finiteValues (values : List Extended) : List ℚ := values.filterMap Extended.toRat?

/-- The statistics that the fields of a first pass are named after. -/
def exactPass1 (epsilon : ℚ) (values : List Extended) : Pass1Result Extended where
  n := values.length
  mean := .finite (mean (finiteValues values))
  m2 := .finite (deviation (finiteValues values))
  min := .ofTop (finiteValues values).minimum
  max := .ofBot (finiteValues values).maximum
  absMax := .finite (magnitude (finiteValues values))
  sparseCount := (finiteValues values).countP (|·| < epsilon)
  nanCount := values.countP Extended.isNan
  infCount := values.countP Extended.isInf
  l2Accum := .finite (sumSq (finiteValues values) / magnitude (finiteValues values) ^ 2)
  l2Scale := .finite (magnitude (finiteValues values))

lemma finiteCount_exactPass1 :
    (exactPass1 epsilon values).finiteCount = (finiteValues values).length := by
  have hlen : values.length =
      (finiteValues values).length + values.countP isNan +
        values.countP isInf := by
    induction values with
    | nil => rfl
    | cons value values ih =>
      unfold finiteValues at ih ⊢
      cases value <;>
        simp only [List.length_cons, ih, List.filterMap_cons, List.countP_cons, toRat?,
          isNan, isInf, if_true, Bool.false_eq_true, if_false] <;>
        omega
  simp only [Pass1Result.finiteCount, exactPass1]
  omega

/-! ### One value -/

/-- The scaled squares, one number on: the larger of the scale and its magnitude is the new scale. -/
lemma l2Step_exact (xs : List ℚ) (x : ℚ) :
    l2Step (.exact epsilon) (.finite (sumSq xs / magnitude xs ^ 2)) (.finite (magnitude xs))
        (.finite x) =
      (.finite (sumSq (xs ++ [x]) / magnitude (xs ++ [x]) ^ 2), .finite (magnitude (xs ++ [x]))) := by
  have hnonneg := magnitude_nonneg xs
  have hsq : sumSq (xs ++ [x]) = sumSq xs + x ^ 2 := by simp [sumSq]
  rw [magnitude_append, magnitude_singleton, hsq]
  unfold l2Step
  simp only [FloatOps.exact, abs_finite, lt_finite, decide_eq_true_eq,
    Nat.cast_zero]
  by_cases hlarger : magnitude xs < |x|
  · have hpos : 0 < |x| := hnonneg.trans_lt hlarger
    have hrescaled : (if 0 < magnitude xs then
        (((finite (sumSq xs / magnitude xs ^ 2)).mul
          ((finite (magnitude xs)).div (.finite |x|))).mul
            ((finite (magnitude xs)).div (.finite |x|)))
        else .finite (sumSq xs / magnitude xs ^ 2)) = .finite (sumSq xs / |x| ^ 2) := by
      by_cases hzero : magnitude xs = 0
      · rw [if_neg hzero.not_gt, sumSq_eq_zero hzero, zero_div, zero_div]
      · rw [if_pos (hnonneg.lt_of_ne' hzero), div_finite _ hpos.ne', mul_finite,
          mul_finite, rescale_sumSq]
    rw [if_pos hlarger, max_eq_right hlarger.le]
    simp only [lt_finite, decide_eq_true_eq]
    rw [if_pos hpos, hrescaled, div_finite _ hpos.ne', mul_finite,
      add_finite, add_div, div_mul_div_comm, ← sq, ← sq]
  · have hle := not_lt.mp hlarger
    rw [if_neg hlarger, max_eq_left hle]
    simp only [lt_finite, decide_eq_true_eq]
    by_cases hzero : magnitude xs = 0
    · have hx : x = 0 := abs_nonpos_iff.mp (hzero ▸ hle)
      rw [if_neg hzero.not_gt, hx, zero_pow two_ne_zero, add_zero]
    · rw [if_pos (hnonneg.lt_of_ne' hzero), div_finite _ hzero, mul_finite,
        add_finite, add_div, div_mul_div_comm, ← sq, ← sq]

lemma finiteValues_append (xs ys : List Extended) :
    finiteValues (xs ++ ys) = finiteValues xs ++ finiteValues ys :=
  List.filterMap_append

lemma finiteValues_concat_finite (x : ℚ) :
    finiteValues (values ++ [.finite x]) = finiteValues values ++ [x] :=
  finiteValues_append _ _

lemma finiteValues_concat_of_skipped {x : Extended} (hskipped : x.toRat? = none) :
    finiteValues (values ++ [x]) = finiteValues values := by
  have hnone : finiteValues [x] = [] := List.filterMap_cons_none hskipped
  rw [finiteValues_append, hnone, List.append_nil]

lemma pass1Step_finite (x : ℚ) :
    pass1Step (.exact epsilon) (exactPass1 epsilon values) (.finite x) =
      exactPass1 epsilon (values ++ [.finite x]) := by
  have hvalues := finiteValues_concat_finite values x
  have hcount : values.length + 1 - values.countP isNan - values.countP isInf =
      (finiteValues values).length + 1 := by
    have hcounts := finiteCount_exactPass1 epsilon (values ++ [.finite x])
    rw [hvalues, List.length_append] at hcounts
    simpa [Pass1Result.finiteCount, exactPass1, isNan, isInf] using hcounts
  have hsucc : (((finiteValues values).length + 1 : ℕ) : ℚ) ≠ 0 := by positivity
  have hmean := mean_concat (finiteValues values) x
  rw [← Nat.cast_succ] at hmean
  have hmin := ofTop_min (finiteValues values).minimum x
  have hmax := ofBot_max (finiteValues values).maximum x
  have habsMax := finite_max (magnitude (finiteValues values)) |x|
  have hsparse : (finiteValues values ++ [x]).countP (|·| < epsilon) =
      if lt (.finite |x|) (.finite epsilon) then
        (finiteValues values).countP (|·| < epsilon) + 1
      else (finiteValues values).countP (|·| < epsilon) := by
    rw [List.countP_append, List.countP_singleton, lt_finite]
    split_ifs <;> rfl
  unfold pass1Step exactPass1
  rw [hvalues]
  simp only [Pass1Result.finiteCount, hcount, l2Step_exact]
  simp only [FloatOps.exact, isFinite, if_true, abs_finite, sub_finite,
    div_finite _ hsucc, add_finite, mul_finite, Pass1Result.mk.injEq]
  rw [← hmean, ← deviation_concat, List.minimum_concat, hmin, List.maximum_concat, hmax,
    magnitude_append, magnitude_singleton, habsMax]
  exact ⟨by simp, rfl, rfl, rfl, rfl, rfl, hsparse.symm, by simp [isNan],
    by simp [isInf], trivial, trivial⟩

lemma pass1Step_exact (x : Extended) :
    pass1Step (.exact epsilon) (exactPass1 epsilon values) x = exactPass1 epsilon (values ++ [x]) := by
  cases x with
  | nan =>
    have hvalues := @finiteValues_concat_of_skipped values .nan rfl
    simp [pass1Step, exactPass1, hvalues, FloatOps.exact, isFinite, isNan,
      isInf]
  | inf negative =>
    have hvalues := @finiteValues_concat_of_skipped values (.inf negative) rfl
    simp [pass1Step, exactPass1, hvalues, FloatOps.exact, isFinite, isNan,
      isInf]
  | finite x => exact pass1Step_finite epsilon values x

lemma computePass1_exact :
    computePass1 (.exact epsilon) values = exactPass1 epsilon values := by
  induction values using List.reverseRecOn with
  | nil =>
    simp [computePass1, Pass1Result.empty, exactPass1, finiteValues, FloatOps.exact, mean, deviation,
      magnitude, sumSq, ofTop, ofBot]
  | append_singleton values x ih =>
    rw [computePass1, List.foldl_concat]
    unfold computePass1 at ih
    rw [ih, pass1Step_exact]

/-! ### Two parts -/

lemma exact_min (a b : WithTop ℚ) :
    (FloatOps.exact epsilon).min (.ofTop a) (.ofTop b) = .ofTop (min a b) := by
  simp only [FloatOps.min, FloatOps.exact, isNan_ofTop, Bool.false_eq_true, if_false,
    ofTop_min]
  rfl

lemma exact_max (a b : WithBot ℚ) :
    (FloatOps.exact epsilon).max (.ofBot a) (.ofBot b) = .ofBot (max a b) := by
  simp only [FloatOps.max, FloatOps.exact, isNan_ofBot, Bool.false_eq_true, if_false,
    ofBot_max]
  rfl

lemma exact_max_finite (a b : ℚ) :
    (FloatOps.exact epsilon).max (.finite a) (.finite b) = .finite (max a b) := by
  have hmax := exact_max epsilon a b
  exact hmax

section

variable (xs ys : List Extended)

lemma mergeMoments_exact :
    mergeMoments (.exact epsilon) (exactPass1 epsilon xs) (exactPass1 epsilon ys) =
      (.finite (mean (finiteValues (xs ++ ys))), .finite (deviation (finiteValues (xs ++ ys)))) := by
  rw [mergeMoments, finiteCount_exactPass1, finiteCount_exactPass1, finiteValues_append]
  by_cases hnone : (finiteValues xs).length + (finiteValues ys).length = 0
  · obtain ⟨hxs, hys⟩ := Nat.add_eq_zero_iff.mp hnone
    rw [if_pos hnone, List.length_eq_zero_iff.mp hxs, List.length_eq_zero_iff.mp hys]
    simp [FloatOps.exact, mean, deviation]
  · have htotal : ((finiteValues xs).length : ℚ) + (finiteValues ys).length ≠ 0 := by
      exact_mod_cast hnone
    rw [if_neg hnone, mean_append _ _ hnone, deviation_append _ _ hnone]
    simp only [FloatOps.exact, exactPass1, sub_finite, mul_finite,
      div_finite _ htotal, add_finite, Nat.cast_add]

lemma mergeL2_exact :
    mergeL2 (.exact epsilon) (exactPass1 epsilon xs) (exactPass1 epsilon ys) =
      ((exactPass1 epsilon (xs ++ ys)).l2Scale, (exactPass1 epsilon (xs ++ ys)).l2Accum) := by
  have hxs := magnitude_nonneg (finiteValues xs)
  have hys := magnitude_nonneg (finiteValues ys)
  simp only [mergeL2, exactPass1, FloatOps.ge, FloatOps.exact, isNan, Bool.not_false,
    Bool.and_true, Nat.cast_zero, lt_finite, Bool.not_eq_true', decide_eq_false_iff_not,
    Bool.and_eq_true, decide_eq_true_eq, finiteValues_append, magnitude_append, sumSq_append]
  by_cases hless : magnitude (finiteValues xs) < magnitude (finiteValues ys)
  · have hpos := hxs.trans_lt hless
    rw [if_neg (not_not.mpr hless), max_eq_right hless.le]
    by_cases hzero : magnitude (finiteValues xs) = 0
    · rw [if_neg (fun h => hzero.not_gt h.2), sumSq_eq_zero hzero, zero_add]
    · rw [if_pos ⟨hpos, hxs.lt_of_ne' hzero⟩, div_finite _ hpos.ne', mul_finite,
        mul_finite, add_finite, rescale_sumSq, add_div]
  · have hle := not_lt.mp hless
    rw [if_pos hless, max_eq_left hle]
    by_cases hzero : magnitude (finiteValues ys) = 0
    · rw [if_neg (fun h => hzero.not_gt h.2), sumSq_eq_zero hzero, add_zero]
    · have hpos := (hys.lt_of_ne' hzero).trans_le hle
      rw [if_pos ⟨hpos, hys.lt_of_ne' hzero⟩, div_finite _ hpos.ne', mul_finite,
        mul_finite, add_finite, rescale_sumSq, add_div, add_comm]

lemma mergePass1_exact :
    mergePass1 (.exact epsilon) (exactPass1 epsilon xs) (exactPass1 epsilon ys) =
      exactPass1 epsilon (xs ++ ys) := by
  have hlen : ∀ values : List Extended, (exactPass1 epsilon values).n = values.length :=
    fun values => rfl
  unfold mergePass1
  by_cases hxs : xs.length = 0
  · rw [if_pos (hlen xs ▸ hxs), List.length_eq_zero_iff.mp hxs, List.nil_append]
  by_cases hys : ys.length = 0
  · rw [if_neg (hlen xs ▸ hxs), if_pos (hlen ys ▸ hys), List.length_eq_zero_iff.mp hys,
      List.append_nil]
  rw [if_neg (hlen xs ▸ hxs), if_neg (hlen ys ▸ hys), mergeMoments_exact, mergeL2_exact]
  simp only [exactPass1, exact_min, exact_max, exact_max_finite, finiteValues_append,
    List.minimum_append, List.maximum_append, magnitude_append, List.countP_append, List.length_append]

end

/-! ### What the pass returns -/

/-- In exact arithmetic the first pass returns the exact statistics of the finite values. -/
theorem computePass1_statistics (epsilon : ℚ) (values : List Extended) :
    let r := computePass1 (.exact epsilon) values
    let xs := finiteValues values
    r.n = values.length ∧
      r.nanCount = values.countP Extended.isNan ∧ r.infCount = values.countP Extended.isInf ∧
      r.mean = .finite (xs.sum / xs.length) ∧
      r.m2 = .finite (xs.map fun x => (x - xs.sum / xs.length) ^ 2).sum ∧
      r.min = .ofTop xs.minimum ∧ r.max = .ofBot xs.maximum ∧
      r.absMax = .finite ((xs.map (|·|)).foldr max 0) ∧
      r.sparseCount = xs.countP (|·| < epsilon) ∧
      r.l2Scale = r.absMax ∧
      (r.l2Scale.mul r.l2Scale).mul r.l2Accum = .finite (xs.map (· ^ 2)).sum := by
  intro r xs
  have hr : r = exactPass1 epsilon values := computePass1_exact epsilon values
  rw [hr]
  refine ⟨rfl, rfl, rfl, rfl, rfl, rfl, rfl, rfl, rfl, rfl, ?_⟩
  exact congrArg finite (magnitude_mul_sumSq xs)

/-- Joining the passes over two lists gives the pass over both in a row. -/
theorem mergePass1_computePass1 (epsilon : ℚ) (xs ys : List Extended) :
    mergePass1 (.exact epsilon) (computePass1 (.exact epsilon) xs)
        (computePass1 (.exact epsilon) ys) =
      computePass1 (.exact epsilon) (xs ++ ys) := by
  rw [computePass1_exact, computePass1_exact, computePass1_exact, mergePass1_exact]

end RocketSurgeon.Daemon
