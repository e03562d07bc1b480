import Mathlib

/-!
# Parsers that backtrack and cut

A parser reads characters off the front of its input.  It fails in one of two ways: after a
failure that *backtracks* the alternatives may still be tried, on the input as it was before,
and one that *cuts* ends the whole parse.

The combinators are the usual ones: a choice, an optional part, repetition, and elements with a
separator between them.  A repetition takes every element it can; a separator that no element
stands behind is given back.

They stand for what winnow documents of its own: `alt`, `opt`, `repeat` and `separated` reset the
input and go on after `ErrMode::Backtrack`, and hand on `ErrMode::Cut`.
-/

namespace RocketSurgeon.Lib

/-- What a parser comes to: a value and the rest of the input, or a failure. -/
inductive Parsed (α : Type)
  | ok (value : α) (rest : List Char)
  | backtrack
  | cut
  deriving DecidableEq, Repr

namespace Parsed

variable {α β : Type}

def map (f : α → β) : Parsed α → Parsed β
  | ok value rest => ok (f value) rest
  | backtrack => backtrack
  | cut => cut

def bind (first : Parsed α) (next : α → List Char → Parsed β) : Parsed β :=
  match first with
  | ok value rest => next value rest
  | backtrack => backtrack
  | cut => cut

/-- What was read, if the parser has not failed. -/
def toOption : Parsed α → Option (α × List Char)
  | ok value rest => some (value, rest)
  | backtrack => none
  | cut => none

/-- A parser that never cuts. -/
def ofOption : Option (α × List Char) → Parsed α
  | some (value, rest) => ok value rest
  | none => backtrack

@[simp] lemma toOption_ofOption (read : Option (α × List Char)) :
    (ofOption read).toOption = read := by
  cases read with
  | none | some found => rfl

end Parsed

def Parser (α : Type) := List Char → Parsed α

namespace Parser

variable {α β γ : Type}

instance : Monad Parser where
  pure value := fun input => .ok value input
  bind first next := fun input => (first input).bind next

/-- A failure that nothing is tried after. -/
def cutErr : Parser α := fun _ => .cut

def char (c : Char) : Parser Unit
  | [] => .backtrack
  | head :: rest => if head = c then .ok () rest else .backtrack

def oneOf (p : Char → Bool) : Parser Char
  | [] => .backtrack
  | head :: rest => if p head then .ok head rest else .backtrack

/-- As many characters of a kind as there are, and at least one. -/
def takeWhile1 (p : Char → Bool) : Parser (List Char) := fun input =>
  if input.takeWhile p = [] then .backtrack else .ok (input.takeWhile p) (input.dropWhile p)

/-- The first parser, or the second one where the first one backtracks. -/
def alt (first second : Parser α) : Parser α := fun input =>
  match first input with
  | .backtrack => second input
  | parsed => parsed

/-- A part that may be left out. -/
def opt (part : Parser α) : Parser (Option α) := fun input =>
  match part input with
  | .ok value rest => .ok (some value) rest
  | .backtrack => .ok none input
  | .cut => .cut

def preceded (front : Parser β) (part : Parser α) : Parser α := do
  let _ ← front
  part

def terminated (part : Parser α) (behind : Parser β) : Parser α := do
  let value ← part
  let _ ← behind
  return value

/-- At most `fuel` elements, as many as there are. -/
def repeatUpTo (element : Parser α) : ℕ → Parser (List α)
  | 0, input => .ok [] input
  | fuel + 1, input =>
      match element input with
      | .ok value rest => (repeatUpTo element fuel rest).map (value :: ·)
      | .backtrack => .ok [] input
      | .cut => .cut

/-- As many elements as there are; each takes a character at least. -/
def repeat0 (element : Parser α) : Parser (List α) := fun input =>
  repeatUpTo element input.length input

/-- At most `fuel` elements, each behind a separator. -/
def behindSeparators (element : Parser α) (separator : Parser β) : ℕ → Parser (List α)
  | 0, input => .ok [] input
  | fuel + 1, input =>
      match separator input with
      | .cut => .cut
      | .backtrack => .ok [] input
      | .ok _ behind =>
          match element behind with
          | .cut => .cut
          | .backtrack => .ok [] input
          | .ok value rest =>
              (behindSeparators element separator fuel rest).map (value :: ·)

/-- One element or more, with a separator between any two. -/
def separated1 (element : Parser α) (separator : Parser β) : Parser (List α) := fun input =>
  match element input with
  | .ok value rest =>
      (behindSeparators element separator rest.length rest).map (value :: ·)
  | .backtrack => .backtrack
  | .cut => .cut

/-- Parse the whole input. -/
def parseAll (parser : Parser α) (text : String) : Option α :=
  match parser text.toList with
  | .ok value [] => some value
  | _ => none

/-! ## Sequences -/

lemma bind_apply (first : Parser α) (next : α → Parser β) (input : List Char) :
    (first >>= next) input = (first input).bind next := rfl

lemma toOption_bind (first : Parser α) (next : α → Parser β) (input : List Char) :
    ((first >>= next) input).toOption =
      (first input).toOption.bind fun found => (next found.1 found.2).toOption := by
  rw [bind_apply]
  cases first input with
  | ok value rest | backtrack | cut => rfl

lemma repeat0_oneOf (p : Char → Bool) (input : List Char) :
    repeat0 (oneOf p) input = .ok (input.takeWhile p) (input.dropWhile p) := by
  have hupTo : ∀ fuel, input.length ≤ fuel →
      repeatUpTo (oneOf p) fuel input = .ok (input.takeWhile p) (input.dropWhile p) := by
    induction input with
    | nil =>
      rintro (_ | fuel) _
      · rfl
      · rfl
    | cons head rest ih =>
      rintro (_ | fuel) hfuel
      · exact absurd hfuel (Nat.not_succ_le_zero _)
      · rw [repeatUpTo, oneOf]
        by_cases hp : p head
        · rw [if_pos hp, List.takeWhile_cons_of_pos hp, List.dropWhile_cons_of_pos hp]
          dsimp only
          rw [ih fuel (Nat.le_of_succ_le_succ hfuel), Parsed.map]
        · rw [if_neg hp, List.takeWhile_cons_of_neg hp, List.dropWhile_cons_of_neg hp]
  exact hupTo input.length (Nat.le_refl _)

end Parser

end RocketSurgeon.Lib
