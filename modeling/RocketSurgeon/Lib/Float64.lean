import RocketSurgeon.Lib.Ieee

/-!
# Double-precision arithmetic

The operations of 64-bit floats on values: an operation on finite numbers gives the exact result,
rounded once to the nearest double.
-/

namespace RocketSurgeon.Lib.Float64

open FloatFormat

/-- The number a finite value stands for. -/
def signed (negative : Bool) (magnitude : ℚ) : ℚ := if negative then -magnitude else magnitude

/-- The double nearest to a number; a zero gets the given sign. -/
def ofRat (zeroSign : Bool) (q : ℚ) : FloatValue :=
  if q = 0 then .finite zeroSign 0 else double.round (q < 0) |q|

def ofNat (n : ℕ) : FloatValue := ofRat false n

def ofInt (n : ℤ) : FloatValue := ofRat false n

def isNan : FloatValue → Bool
  | .nan => true
  | _ => false

def isFinite : FloatValue → Bool
  | .finite _ _ => true
  | _ => false

def neg : FloatValue → FloatValue
  | .nan => .nan
  | .inf negative => .inf !negative
  | .finite negative x => .finite (!negative) x

def abs : FloatValue → FloatValue
  | .nan => .nan
  | .inf _ => .inf false
  | .finite _ x => .finite false x

def add : FloatValue → FloatValue → FloatValue
  | .nan, _ | _, .nan => .nan
  | .inf a, .inf b => if a = b then .inf a else .nan
  | .inf a, .finite _ _ => .inf a
  | .finite _ _, .inf b => .inf b
  | .finite a x, .finite b y => ofRat (a && b) (signed a x + signed b y)

def sub (x y : FloatValue) : FloatValue := add x (neg y)

def mul : FloatValue → FloatValue → FloatValue
  | .nan, _ | _, .nan => .nan
  | .inf a, .inf b => .inf (a != b)
  | .inf a, .finite b y => if y = 0 then .nan else .inf (a != b)
  | .finite a x, .inf b => if x = 0 then .nan else .inf (a != b)
  | .finite a x, .finite b y => ofRat (a != b) (signed a x * signed b y)

def div : FloatValue → FloatValue → FloatValue
  | .nan, _ | _, .nan => .nan
  | .inf _, .inf _ => .nan
  | .inf a, .finite b _ => .inf (a != b)
  | .finite a _, .inf b => .finite (a != b) 0
  | .finite a x, .finite b y =>
      if y = 0 then if x = 0 then .nan else .inf (a != b)
      else ofRat (a != b) (signed a x / signed b y)

/-- `x * y + z` with one rounding. -/
def mulAdd : FloatValue → FloatValue → FloatValue → FloatValue
  | .finite a x, .finite b y, .finite c z =>
      ofRat ((a != b) && c) (signed a x * signed b y + signed c z)
  -- The exact product is finite, even if it would be rounded to infinity.
  | .finite _ _, .finite _ _, z => z
  | x, y, z => add (mul x y) z

/-- The whole part of the square root, in the binade of the result, rounded to nearest. -/
def sqrtMagnitude (q : ℚ) : ℕ :=
  let scaled := q / double.unit ^ 2
  let k := double.binade (Nat.sqrt ⌊scaled⌋₊)
  let target := scaled / 4 ^ k
  let n := Nat.sqrt ⌊target⌋₊
  let middle := (n + 1 / 2 : ℚ) ^ 2
  -- The root of a double never lies halfway between two doubles.
  k * 2 ^ double.fracBits + if target < middle then n else n + 1

def sqrt : FloatValue → FloatValue
  | .nan => .nan
  | .inf negative => if negative then .nan else .inf false
  | .finite negative x =>
      if x = 0 then .finite negative 0
      else if negative then .nan
      else double.decodeMagnitude false (sqrtMagnitude x)

def lt : FloatValue → FloatValue → Bool
  | .nan, _ | _, .nan => false
  | .inf a, .inf b => a && !b
  | .inf a, .finite _ _ => a
  | .finite _ _, .inf b => !b
  | .finite a x, .finite b y => signed a x < signed b y

/-- `floor` and the cast to a machine word, which saturates. -/
def floorNat : FloatValue → ℕ
  | .nan => 0
  | .inf negative => if negative then 0 else 2 ^ 64 - 1
  | .finite negative x => min ⌊signed negative x⌋₊ (2 ^ 64 - 1)

/-! ## Whole numbers -/

lemma double_unit : double.unit = 1 / 2 ^ 1074 := by
  rw [unit, one_div, ← zpow_natCast, ← zpow_neg]
  congr 1

lemma natCast_eq_units (m : ℕ) : (m : ℚ) = ((m * 2 ^ 1074 : ℕ) : ℚ) * double.unit := by
  rw [double_unit, Nat.cast_mul, Nat.cast_pow, Nat.cast_ofNat, mul_one_div,
    mul_div_cancel_right₀ _ (by positivity)]

lemma binade_units {m : ℕ} (hm : m ≠ 0) :
    double.binade (m * 2 ^ 1074) = Nat.log2 m + 1022 := by
  have hlog : Nat.log2 (m * 2 ^ 1074) = Nat.log2 m + 1074 := by
    refine (Nat.log2_eq_iff (Nat.mul_ne_zero hm (by positivity))).mpr ⟨?_, ?_⟩
    · rw [pow_add]
      exact Nat.mul_le_mul_right _ (Nat.log2_self_le hm)
    · rw [Nat.add_right_comm, pow_add]
      exact Nat.mul_lt_mul_of_pos_right Nat.lt_log2_self (by positivity)
  rw [binade, hlog]
  rfl

lemma round_natCast {m : ℕ} (hm : m ≠ 0) (hbound : m ≤ 2 ^ 53) (negative : Bool) :
    double.round negative m = .finite negative m := by
  have hlog : Nat.log2 m ≤ 53 := by
    refine Nat.le_of_lt_succ ((Nat.log2_lt hm).mpr (lt_of_le_of_lt hbound ?_))
    exact Nat.pow_lt_pow_right (by decide) (by decide)
  have hfits : 2 ^ double.binade (m * 2 ^ 1074) ∣ m * 2 ^ 1074 := by
    rw [binade_units hm]
    by_cases hfull : Nat.log2 m ≤ 52
    · exact Dvd.dvd.mul_left (pow_dvd_pow 2 (by omega)) m
    -- The only number with 54 bits is a power of two.
    · have hlow := Nat.log2_self_le hm
      rw [show Nat.log2 m = 53 by omega] at hlow ⊢
      rw [le_antisymm hbound hlow, ← pow_add]
      exact pow_dvd_pow 2 (by decide)
  have hsignificand : m * 2 ^ 1074 / 2 ^ double.binade (m * 2 ^ 1074) < 2 ^ 53 := by
    rw [binade_units hm, Nat.div_lt_iff_lt_mul (by positivity), ← pow_add,
      show 53 + (Nat.log2 m + 1022) = Nat.log2 m + 1 + 1074 by omega, pow_add]
    exact Nat.mul_lt_mul_of_pos_right Nat.lt_log2_self (by positivity)
  rw [natCast_eq_units m]
  refine double.round_mul_unit hfits ?_ negative
  calc double.binade (m * 2 ^ 1074) * 2 ^ 52 + m * 2 ^ 1074 / 2 ^ double.binade (m * 2 ^ 1074)
      < 1075 * 2 ^ 52 + 2 ^ 53 := by
        refine Nat.add_lt_add_of_le_of_lt (Nat.mul_le_mul_right _ ?_) hsignificand
        rw [binade_units hm]
        omega
    _ ≤ double.infBits := by decide

lemma ofInt_eq {n : ℤ} (hn : n.natAbs ≤ 2 ^ 53) : ofInt n = .finite (n < 0) n.natAbs := by
  by_cases hzero : n = 0
  · subst hzero
    rfl
  · have hsign : decide ((n : ℚ) < 0) = decide (n < 0) := by
      rw [decide_eq_decide]
      exact Int.cast_lt_zero
    have hmagnitude : |(n : ℚ)| = (n.natAbs : ℚ) := by
      rw [Nat.cast_natAbs, Int.cast_abs]
    rw [ofInt, ofRat, if_neg (Int.cast_ne_zero.mpr hzero), hsign, hmagnitude]
    exact round_natCast (Int.natAbs_ne_zero.mpr hzero) hn _

end RocketSurgeon.Lib.Float64
