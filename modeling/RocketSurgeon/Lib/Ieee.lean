import Mathlib

/-!
# Binary floating-point formats

A format of the IEEE 754 kind is given by the widths of its exponent and fraction fields.
A magnitude, that is a bit pattern without its sign, stands for a whole number of *units*, the
least positive number of the format.  Magnitudes are ordered as the numbers they stand for, so
rounding a rational number to the nearest magnitude comes down to rounding it to a
whole number in the right binade.
-/

namespace RocketSurgeon.Lib

variable {q : ℚ} {n bits : ℕ}

/-- The value of a floating-point number.  Zeros keep their sign. -/
inductive FloatValue
  | nan
  | inf (negative : Bool)
  | finite (negative : Bool) (magnitude : ℚ)
  deriving DecidableEq, Repr

structure FloatFormat where
  expBits : ℕ
  fracBits : ℕ
  deriving DecidableEq, Repr

namespace FloatFormat

def half : FloatFormat := ⟨5, 10⟩
def bfloat16 : FloatFormat := ⟨8, 7⟩
def single : FloatFormat := ⟨8, 23⟩
def double : FloatFormat := ⟨11, 52⟩

variable (format : FloatFormat)

def unit : ℚ := 2 ^ ((2 : ℤ) - 2 ^ (format.expBits - 1) - format.fracBits)

/-- The magnitude of infinity; what lies above is not a number. -/
def infBits : ℕ := (2 ^ format.expBits - 1) * 2 ^ format.fracBits

/-- The patterns without the sign. -/
def magnitudes : ℕ := 2 ^ (format.expBits + format.fracBits)

/-- The number of units a magnitude below infinity stands for. -/
def units (bits : ℕ) : ℕ :=
  let exponent := bits / 2 ^ format.fracBits
  let fraction := bits % 2 ^ format.fracBits
  if exponent = 0 then fraction else (2 ^ format.fracBits + fraction) * 2 ^ (exponent - 1)

def decodeMagnitude (negative : Bool) (bits : ℕ) : FloatValue :=
  if bits < format.infBits then .finite negative (format.units bits * format.unit)
  else if bits = format.infBits then .inf negative
  else .nan

/-- The value of a bit pattern: the sign in front of the magnitude. -/
def decode (bits : ℕ) : FloatValue :=
  format.decodeMagnitude (bits / format.magnitudes % 2 = 1) (bits % format.magnitudes)

end FloatFormat

/-! ## Rounding -/

/-- To the nearest whole number; halfway, to the even one. -/
def roundEven (q : ℚ) : ℕ :=
  let n := ⌊q⌋₊
  if q - n < 1 / 2 then n
  else if 1 / 2 < q - n then n + 1
  else if n % 2 = 0 then n else n + 1

lemma roundEven_natCast (n : ℕ) : roundEven n = n := by
  simp [roundEven]

lemma roundEven_of_lt_half (hq : q < 1 / 2) : roundEven q = 0 := by
  have hfloor : ⌊q⌋₊ = 0 := Nat.floor_eq_zero.mpr (hq.trans (by norm_num))
  rw [roundEven, hfloor, if_pos (by rwa [Nat.cast_zero, sub_zero])]

lemma roundEven_le (hpos : 0 ≤ q) (hq : q < n) : roundEven q ≤ n := by
  have hfloor : ⌊q⌋₊ < n := (Nat.floor_lt hpos).mpr hq
  unfold roundEven
  dsimp only
  split_ifs <;> omega

namespace FloatFormat

variable (format : FloatFormat)

/-- How far the binade of a number lies above the lowest one; numbers below `2 ^ (fracBits + 1)`
units share the lowest. -/
def binade (n : ℕ) : ℕ := Nat.log2 n - format.fracBits

/-- The magnitude nearest to a number that is not negative.  The binades follow each other
without a gap, so a significand that is rounded up to a full binade comes out right. -/
def encodeMagnitude (q : ℚ) : ℕ :=
  let scaled := q / format.unit
  let k := format.binade ⌊scaled⌋₊
  min (k * 2 ^ format.fracBits + roundEven (scaled / 2 ^ k)) format.infBits

/-- The nearest number of the format. -/
def round (negative : Bool) (q : ℚ) : FloatValue :=
  format.decodeMagnitude negative (format.encodeMagnitude q)

/-- The bit pattern of a value; `nanBits` is the pattern for what is not a number. -/
def encode (nanBits : ℕ) : FloatValue → ℕ
  | .nan => nanBits
  | .inf negative => (if negative then format.magnitudes else 0) + format.infBits
  | .finite negative q => (if negative then format.magnitudes else 0) + format.encodeMagnitude q

/-! ## Magnitudes -/

lemma unit_pos : 0 < format.unit := by
  unfold unit
  positivity

/-- Below two full binades a magnitude is its number of units. -/
lemma units_of_lt (hbits : bits < 2 ^ (format.fracBits + 1)) :
    format.units bits = bits := by
  unfold units
  dsimp only
  have hdiv := Nat.div_add_mod bits (2 ^ format.fracBits)
  have hexponent : bits / 2 ^ format.fracBits < 2 := Nat.div_lt_of_lt_mul (by omega)
  split_ifs with hzero
  · rw [hzero] at hdiv
    omega
  · have hone : bits / 2 ^ format.fracBits = 1 :=
      Nat.le_antisymm (Nat.le_of_lt_succ hexponent) (Nat.pos_of_ne_zero hzero)
    rw [hone] at hdiv ⊢
    omega

/-- A significand with its leading bit, `k` binades up. -/
lemma units_binade (hlow : 2 ^ format.fracBits ≤ significand)
    (hhigh : significand < 2 ^ (format.fracBits + 1)) :
    format.units (k * 2 ^ format.fracBits + significand) = significand * 2 ^ k := by
  have hpos : 0 < 2 ^ format.fracBits := by positivity
  obtain ⟨fraction, rfl⟩ := Nat.exists_eq_add_of_le hlow
  have hfraction : fraction < 2 ^ format.fracBits := by omega
  have hbits : k * 2 ^ format.fracBits + (2 ^ format.fracBits + fraction) =
      fraction + (k + 1) * 2 ^ format.fracBits := by
    rw [Nat.succ_mul]
    omega
  have hexponent : (fraction + (k + 1) * 2 ^ format.fracBits) / 2 ^ format.fracBits = k + 1 := by
    rw [Nat.add_mul_div_right _ _ hpos, Nat.div_eq_of_lt hfraction, Nat.zero_add]
  have hrest : (fraction + (k + 1) * 2 ^ format.fracBits) % 2 ^ format.fracBits = fraction := by
    rw [Nat.add_mul_mod_self_right, Nat.mod_eq_of_lt hfraction]
  rw [hbits, units, hexponent, hrest, if_neg (Nat.succ_ne_zero k), Nat.add_sub_cancel]

lemma units_strictMono : StrictMono format.units := by
  refine strictMono_nat_of_lt_succ fun bits => ?_
  have hpos : 0 < 2 ^ format.fracBits := by positivity
  by_cases hlow : bits + 1 < 2 ^ (format.fracBits + 1)
  · rw [format.units_of_lt hlow, format.units_of_lt (Nat.lt_of_succ_lt hlow)]
    exact Nat.lt_succ_self bits
  -- From here on there is a leading bit; its binade either goes on or ends.
  · rw [pow_succ] at hlow
    have hdiv := Nat.div_add_mod (bits - 2 ^ format.fracBits) (2 ^ format.fracBits)
    set k := (bits - 2 ^ format.fracBits) / 2 ^ format.fracBits with hk
    set fraction := (bits - 2 ^ format.fracBits) % 2 ^ format.fracBits with hfraction
    rw [Nat.mul_comm] at hdiv
    have hbits : bits = k * 2 ^ format.fracBits + (2 ^ format.fracBits + fraction) := by omega
    have hnow : format.units bits = (2 ^ format.fracBits + fraction) * 2 ^ k := by
      rw [hbits]
      refine format.units_binade (Nat.le_add_right _ _) ?_
      omega
    by_cases hfull : fraction + 1 = 2 ^ format.fracBits
    · have hnext : bits + 1 = (k + 1) * 2 ^ format.fracBits + 2 ^ format.fracBits := by
        rw [Nat.succ_mul]
        omega
      rw [hnow, hnext, format.units_binade le_rfl (by rw [pow_succ]; omega), pow_succ 2 k,
        ← Nat.mul_assoc, Nat.mul_right_comm]
      exact Nat.mul_lt_mul_of_pos_right (by omega) (by positivity)
    · have hnext : bits + 1 = k * 2 ^ format.fracBits + (2 ^ format.fracBits + (fraction + 1)) := by
        omega
      rw [hnow, hnext, format.units_binade (Nat.le_add_right _ _) (by rw [pow_succ]; omega)]
      exact Nat.mul_lt_mul_of_pos_right (by omega) (by positivity)

lemma decodeMagnitude_inj (hnan : format.decodeMagnitude negative bits ≠ .nan)
    (heq : format.decodeMagnitude negative bits = format.decodeMagnitude negative' bits') :
    negative = negative' ∧ bits = bits' := by
  unfold decodeMagnitude at hnan heq
  split_ifs at hnan heq with hlt hlt' heq' hinf hlt' hinf'
  · obtain ⟨hsign, hmagnitude⟩ := FloatValue.finite.inj heq
    have hunits := mul_right_cancel₀ format.unit_pos.ne' hmagnitude
    exact ⟨hsign, format.units_strictMono.injective (Nat.cast_injective hunits)⟩
  · cases heq
    exact ⟨rfl, hinf.trans hinf'.symm⟩
  · exact absurd rfl hnan

lemma decode_inj (hbits : bits < 2 * format.magnitudes) (hbits' : bits' < 2 * format.magnitudes)
    (hnan : format.decode bits ≠ .nan) (heq : format.decode bits = format.decode bits') :
    bits = bits' := by
  obtain ⟨hsign, hmagnitude⟩ := format.decodeMagnitude_inj hnan heq
  have hdiv : bits / format.magnitudes < 2 := Nat.div_lt_of_lt_mul (Nat.mul_comm 2 _ ▸ hbits)
  have hdiv' : bits' / format.magnitudes < 2 := Nat.div_lt_of_lt_mul (Nat.mul_comm 2 _ ▸ hbits')
  rw [decide_eq_decide, Nat.mod_eq_of_lt hdiv, Nat.mod_eq_of_lt hdiv'] at hsign
  have hquotient : bits / format.magnitudes = bits' / format.magnitudes := by
    generalize bits / format.magnitudes = quotient at *
    generalize bits' / format.magnitudes = quotient' at *
    omega
  rw [← Nat.div_add_mod bits format.magnitudes, ← Nat.div_add_mod bits' format.magnitudes,
    hmagnitude, hquotient]

/-! ## Rounding to a magnitude -/

/-- A whole number of units whose bits fit the significand is rounded to itself. -/
lemma encodeMagnitude_mul_unit (hfits : 2 ^ format.binade n ∣ n) :
    format.encodeMagnitude (n * format.unit) =
      min (format.binade n * 2 ^ format.fracBits + n / 2 ^ format.binade n) format.infBits := by
  have hscaled : (n : ℚ) * format.unit / format.unit = n :=
    mul_div_cancel_right₀ _ format.unit_pos.ne'
  have hdiv : (n : ℚ) / 2 ^ format.binade n = ((n / 2 ^ format.binade n : ℕ) : ℚ) := by
    rw [Nat.cast_div hfits (by positivity), Nat.cast_pow, Nat.cast_ofNat]
  unfold encodeMagnitude
  dsimp only
  rw [hscaled, Nat.floor_natCast, hdiv, roundEven_natCast]

lemma units_encode (hfits : 2 ^ format.binade n ∣ n) :
    format.units (format.binade n * 2 ^ format.fracBits + n / 2 ^ format.binade n) = n := by
  by_cases hlow : n < 2 ^ (format.fracBits + 1)
  · have hbinade : format.binade n = 0 := by
      by_cases hzero : n = 0
      · subst hzero
        exact Nat.zero_sub _
      · have hlog := (Nat.log2_lt hzero).mpr hlow
        unfold binade
        omega
    rw [hbinade, Nat.zero_mul, Nat.zero_add, pow_zero, Nat.div_one]
    exact format.units_of_lt hlow
  · have hzero : n ≠ 0 := by
      rintro rfl
      exact hlow (by positivity)
    have hlog : format.fracBits + 1 ≤ Nat.log2 n := (Nat.le_log2 hzero).mpr (Nat.le_of_not_lt hlow)
    have hsum : Nat.log2 n = format.fracBits + format.binade n := by
      unfold binade
      omega
    have hlower : 2 ^ format.fracBits * 2 ^ format.binade n ≤ n := by
      rw [← pow_add, ← hsum]
      exact Nat.log2_self_le hzero
    have hupper : n < 2 ^ (format.fracBits + 1) * 2 ^ format.binade n := by
      rw [← pow_add, Nat.add_right_comm, ← hsum]
      exact Nat.lt_log2_self
    rw [format.units_binade ((Nat.le_div_iff_mul_le (by positivity)).mpr hlower)
      ((Nat.div_lt_iff_lt_mul (by positivity)).mpr hupper), Nat.div_mul_cancel hfits]

lemma round_mul_unit (hfits : 2 ^ format.binade n ∣ n)
    (hfinite : format.binade n * 2 ^ format.fracBits + n / 2 ^ format.binade n < format.infBits)
    (negative : Bool) :
    format.round negative (n * format.unit) = .finite negative (n * format.unit) := by
  rw [round, format.encodeMagnitude_mul_unit hfits, min_eq_left hfinite.le, decodeMagnitude,
    if_pos hfinite, format.units_encode hfits]

/-- What is below the first normal number is rounded to that number at most. -/
lemma encodeMagnitude_le (hpos : 0 ≤ q) (hq : q < (2 ^ format.fracBits : ℕ) * format.unit) :
    format.encodeMagnitude q ≤ 2 ^ format.fracBits := by
  have hscaled : q / format.unit < (2 ^ format.fracBits : ℕ) :=
    (div_lt_iff₀ format.unit_pos).mpr hq
  have hscaledPos : 0 ≤ q / format.unit := div_nonneg hpos format.unit_pos.le
  have hbinade : format.binade ⌊q / format.unit⌋₊ = 0 := by
    have hfloor := (Nat.floor_lt hscaledPos).mpr hscaled
    by_cases hzero : ⌊q / format.unit⌋₊ = 0
    · rw [hzero]
      exact Nat.zero_sub _
    · have hlog := (Nat.log2_lt hzero).mpr hfloor
      unfold binade
      omega
  unfold encodeMagnitude
  dsimp only
  rw [hbinade, Nat.zero_mul, Nat.zero_add, pow_zero, div_one]
  exact (min_le_left _ _).trans (roundEven_le hscaledPos hscaled)

lemma encodeMagnitude_of_lt_half (hq : q < 1 / 2 * format.unit) :
    format.encodeMagnitude q = 0 := by
  have hscaled : q / format.unit < 1 / 2 := (div_lt_iff₀ format.unit_pos).mpr hq
  have hfloor : ⌊q / format.unit⌋₊ = 0 := Nat.floor_eq_zero.mpr (hscaled.trans (by norm_num))
  have hbinade : format.binade 0 = 0 := Nat.zero_sub _
  unfold encodeMagnitude
  dsimp only
  rw [hfloor, hbinade, Nat.zero_mul, Nat.zero_add, pow_zero, div_one, roundEven_of_lt_half hscaled]
  exact Nat.zero_min _

end FloatFormat

end RocketSurgeon.Lib
