import Mathlib

/-!
# Code that traps

Arithmetic on 64-bit words that overflows and slices that leave their buffer end a program.  An
outcome here is a value, an error that is returned, or a trap; `Returns` says that it is none of the
last kind.
-/

namespace RocketSurgeon.Lib

/-- How code ends without a value: it returns an error, or it traps. -/
inductive Fault (ε : Type)
  | failed (error : ε)
  | overflow
  | outOfRange (start stop length : ℕ)
  deriving DecidableEq, Repr

abbrev Trapping (ε α : Type) := Except (Fault ε) α

namespace Trapping

variable {ε α β : Type} {a b : ℕ}

/-- An outcome of code that cannot trap. -/
def lift : Except ε α → Trapping ε α
  | .ok value => .ok value
  | .error error => .error (.failed error)

def add (a b : ℕ) : Trapping ε ℕ := if a + b < 2 ^ 64 then .ok (a + b) else .error .overflow

def mul (a b : ℕ) : Trapping ε ℕ := if a * b < 2 ^ 64 then .ok (a * b) else .error .overflow

def sub (a b : ℕ) : Trapping ε ℕ := if b ≤ a then .ok (a - b) else .error .overflow

/-- The elements from `start` up to `stop`. -/
def slice (items : List α) (start stop : ℕ) : Trapping ε (List α) :=
  if start ≤ stop ∧ stop ≤ items.length then .ok ((items.drop start).take (stop - start))
  else .error (.outOfRange start stop items.length)

/-- Return an error unless a condition holds. -/
def ensure (condition : Prop) [Decidable condition] (error : ε) : Trapping ε Unit :=
  if condition then .ok () else .error (.failed error)

/-- The code returns a value or an error. -/
def Returns (outcome : Trapping ε α) : Prop :=
  ∀ fault, outcome = .error fault → ∃ error, fault = .failed error

lemma returns_lift (outcome : Except ε α) : Returns (lift outcome) := by
  intro fault hfault
  cases outcome with
  | ok value => cases hfault
  | error error =>
    cases hfault
    exact ⟨error, rfl⟩

lemma not_returns_overflow : ¬ Returns (.error .overflow : Trapping ε α) := by
  intro hreturns
  obtain ⟨error, herror⟩ := hreturns .overflow rfl
  cases herror

lemma add_eq_ok (hfits : a + b < 2 ^ 64) : (add a b : Trapping ε ℕ) = .ok (a + b) :=
  if_pos hfits

lemma add_eq_overflow (hwraps : 2 ^ 64 ≤ a + b) :
    (add a b : Trapping ε ℕ) = .error .overflow :=
  if_neg (Nat.not_lt.mpr hwraps)

lemma mul_eq_ok (hfits : a * b < 2 ^ 64) : (mul a b : Trapping ε ℕ) = .ok (a * b) :=
  if_pos hfits

lemma sub_eq_ok (hle : b ≤ a) : (sub a b : Trapping ε ℕ) = .ok (a - b) := if_pos hle

lemma slice_eq_ok {items : List α} {start stop : ℕ} (hstart : start ≤ stop)
    (hstop : stop ≤ items.length) :
    (slice items start stop : Trapping ε (List α)) =
      .ok ((items.drop start).take (stop - start)) :=
  if_pos ⟨hstart, hstop⟩

lemma ok_bind (value : α) (next : α → Trapping ε β) :
    ((.ok value : Trapping ε α) >>= next) = next value :=
  rfl

lemma ensure_bind (condition : Prop) [Decidable condition] (error : ε)
    (next : Unit → Trapping ε β) :
    (ensure condition error >>= next) = if condition then next () else .error (.failed error) := by
  unfold ensure
  split_ifs
  · rfl
  · rfl

end Trapping

end RocketSurgeon.Lib
