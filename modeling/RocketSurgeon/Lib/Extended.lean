import Mathlib

/-!
# Exact numbers with markers

The rationals, with the markers of floats for what is no number and for the two infinities.
Nothing is rounded; the rules for the markers are those of floats, and there is one zero.
-/

namespace RocketSurgeon.Lib

inductive Extended
  | nan
  | inf (negative : Bool)
  | finite (q : ℚ)
  deriving DecidableEq, Repr

namespace Extended

variable (x y : ℚ) (a : WithTop ℚ)

def isNan : Extended → Bool
  | nan => true
  | _ => false

def isInf : Extended → Bool
  | inf _ => true
  | _ => false

def isFinite : Extended → Bool
  | finite _ => true
  | _ => false

def toRat? : Extended → Option ℚ
  | finite q => some q
  | _ => none

def neg : Extended → Extended
  | nan => nan
  | inf negative => inf !negative
  | finite x => finite (-x)

def abs : Extended → Extended
  | nan => nan
  | inf _ => inf false
  | finite x => finite |x|

def add : Extended → Extended → Extended
  | nan, _ | _, nan => nan
  | inf a, inf b => if a = b then inf a else nan
  | inf a, finite _ => inf a
  | finite _, inf b => inf b
  | finite x, finite y => finite (x + y)

def sub (x y : Extended) : Extended := add x (neg y)

def mul : Extended → Extended → Extended
  | nan, _ | _, nan => nan
  | inf a, inf b => inf (a != b)
  | inf a, finite x | finite x, inf a => if x = 0 then nan else inf (a != decide (x < 0))
  | finite x, finite y => finite (x * y)

def div : Extended → Extended → Extended
  | nan, _ | _, nan => nan
  | inf _, inf _ => nan
  | inf a, finite y => inf (a != decide (y < 0))
  | finite _, inf _ => finite 0
  | finite x, finite y =>
      if y = 0 then if x = 0 then nan else inf (decide (x < 0)) else finite (x / y)

/-- The root of a square; of other numbers the root is not rational, and one below it is taken. -/
def sqrt : Extended → Extended
  | nan => nan
  | inf negative => if negative then nan else inf false
  | finite x => if x < 0 then nan else finite (Rat.sqrt x)

def lt : Extended → Extended → Bool
  | nan, _ | _, nan => false
  | inf a, inf b => a && !b
  | inf a, finite _ => a
  | finite _, inf b => !b
  | finite x, finite y => x < y

def floorNat : Extended → ℕ
  | finite x => ⌊x⌋₊
  | _ => 0

@[simp] lemma abs_finite : abs (finite x) = finite |x| := rfl

@[simp] lemma add_finite : add (finite x) (finite y) = finite (x + y) := rfl

@[simp] lemma sub_finite : sub (finite x) (finite y) = finite (x - y) :=
  congrArg finite (sub_eq_add_neg x y).symm

@[simp] lemma mul_finite : mul (finite x) (finite y) = finite (x * y) := rfl

lemma div_finite {y : ℚ} (hy : y ≠ 0) : div (finite x) (finite y) = finite (x / y) :=
  if_neg hy

@[simp] lemma lt_finite : lt (finite x) (finite y) = decide (x < y) := rfl

/-! ### Extrema -/

/-- The least of some numbers; of none, positive infinity. -/
def ofTop : WithTop ℚ → Extended
  | some q => finite q
  | none => inf false

/-- The greatest of some numbers; of none, negative infinity. -/
def ofBot : WithBot ℚ → Extended
  | some q => finite q
  | none => inf true

lemma isNan_ofTop : isNan (ofTop a) = false := by
  cases a <;> rfl

lemma isNan_ofBot (a : WithBot ℚ) : isNan (ofBot a) = false := by
  cases a <;> rfl

lemma lt_ofTop (b : WithTop ℚ) : lt (ofTop a) (ofTop b) = decide (a < b) := by
  cases a with
  | top =>
    cases b <;> rfl
  | coe x =>
    cases b with
    | top => exact (decide_eq_true (WithTop.coe_lt_top x)).symm
    | coe y => exact decide_eq_decide.mpr WithTop.coe_lt_coe.symm

lemma lt_ofBot (a b : WithBot ℚ) : lt (ofBot a) (ofBot b) = decide (a < b) := by
  cases b with
  | bot =>
    cases a <;> rfl
  | coe y =>
    cases a with
    | bot => exact (decide_eq_true (WithBot.bot_lt_coe y)).symm
    | coe x => exact decide_eq_decide.mpr WithBot.coe_lt_coe.symm

/-! The smaller and the larger of two, found by a comparison. -/

lemma ofTop_min (b : WithTop ℚ) :
    ofTop (min a b) = if lt (ofTop b) (ofTop a) then ofTop b else ofTop a := by
  rw [lt_ofTop]
  by_cases hless : b < a
  · rw [if_pos (decide_eq_true hless), min_eq_right hless.le]
  · rw [if_neg (by simpa using hless), min_eq_left (not_lt.mp hless)]

lemma ofBot_max (a b : WithBot ℚ) :
    ofBot (max a b) = if lt (ofBot a) (ofBot b) then ofBot b else ofBot a := by
  rw [lt_ofBot]
  by_cases hless : a < b
  · rw [if_pos (decide_eq_true hless), max_eq_right hless.le]
  · rw [if_neg (by simpa using hless), max_eq_left (not_lt.mp hless)]

lemma finite_max (a b : ℚ) :
    finite (max a b) = if lt (finite a) (finite b) then finite b else finite a := by
  have hmax := ofBot_max a b
  exact hmax

end Extended

end RocketSurgeon.Lib
