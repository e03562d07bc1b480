import Mathlib

/-!
# Probe points

A probe point `model:rank:layer:component:call_index:event` names the places of a
forward pass a probe listens to.  Every field may be the wildcard `*`; a
component is a dotted path whose segments may carry an index.

The grammar is parsed by recursive descent over the characters.  A parse either
fails or returns what it read together with the rest of the input; only the
whole input makes a probe point.
-/

namespace RocketSurgeon.Probes

inductive NameOrWild
  | wildcard
  | name (text : String)
  deriving DecidableEq, Repr

inductive NumOrWild
  | wildcard
  | num (value : ℕ)
  deriving DecidableEq, Repr

inductive ComponentSeg
  | named (name : String)
  | indexed (name : String) (index : ℕ)
  deriving DecidableEq, Repr

inductive ComponentOrWild
  | wildcard
  | path (segments : List ComponentSeg)
  deriving DecidableEq, Repr

structure ProbePoint where
  model : NameOrWild
  rank : NumOrWild
  layer : NumOrWild
  component : ComponentOrWild
  callIndex : NumOrWild
  event : NameOrWild
  deriving DecidableEq, Repr

/-! ## Matching -/

def nameMatches : NameOrWild → NameOrWild → Bool
  | .wildcard, _ => true
  | _, .wildcard => true
  | .name a, .name b => a == b

def numMatches : NumOrWild → NumOrWild → Bool
  | .wildcard, _ => true
  | _, .wildcard => true
  | .num a, .num b => a == b

def componentMatches : ComponentOrWild → ComponentOrWild → Bool
  | .wildcard, _ => true
  | _, .wildcard => true
  | .path a, .path b => a == b

/-- `ProbePoint::matches`: field by field, a wildcard on either side matching anything. -/
def ProbePoint.isMatch (pattern target : ProbePoint) : Bool :=
  nameMatches pattern.model target.model && numMatches pattern.rank target.rank &&
    numMatches pattern.layer target.layer &&
    componentMatches pattern.component target.component &&
    numMatches pattern.callIndex target.callIndex && nameMatches pattern.event target.event

/-! ## Printing -/

def NameOrWild.display : NameOrWild → String
  | .wildcard => "*"
  | .name text => text

def NumOrWild.display : NumOrWild → String
  | .wildcard => "*"
  | .num value => toString value

def ComponentSeg.display : ComponentSeg → String
  | .named name => name
  | .indexed name index => name ++ "[" ++ toString index ++ "]"

def ComponentOrWild.display : ComponentOrWild → String
  | .wildcard => "*"
  | .path segments => ".".intercalate (segments.map ComponentSeg.display)

def ProbePoint.display (point : ProbePoint) : String :=
  ":".intercalate [point.model.display, point.rank.display, point.layer.display,
    point.component.display, point.callIndex.display, point.event.display]

/-! ## Parsing -/

def literal (char : Char) : List Char → Option (Unit × List Char)
  | [] => none
  | head :: rest => if head = char then some ((), rest) else none

/-- `identifier`: letters, then letters, digits, `_` and `-`. -/
def identifier (input : List Char) : Option (String × List Char) :=
  let first := input.takeWhile Char.isAlpha
  let isTail := fun char : Char => char.isAlphanum || char = '_' || char = '-'
  let rest := input.dropWhile Char.isAlpha
  if first = [] then none
  else some (String.ofList (first ++ rest.takeWhile isTail), rest.dropWhile isTail)

/-- The value of a digit string. -/
def digitsValue (digits : List Char) : ℕ :=
  digits.foldl (fun value digit => 10 * value + (digit.toNat - '0'.toNat)) 0

/-- `non_neg_integer`: digits whose value fits 32 bits. -/
def nonNegInteger (input : List Char) : Option (ℕ × List Char) :=
  let digits := input.takeWhile Char.isDigit
  if digits = [] then none
  else if digitsValue digits < 2 ^ 32 then
    some (digitsValue digits, input.dropWhile Char.isDigit)
  else none

def nameOrWild (input : List Char) : Option (NameOrWild × List Char) :=
  match literal '*' input with
  | some (_, rest) => some (.wildcard, rest)
  | none => (identifier input).map fun (name, rest) => (.name name, rest)

def numOrWild (input : List Char) : Option (NumOrWild × List Char) :=
  match literal '*' input with
  | some (_, rest) => some (.wildcard, rest)
  | none => (nonNegInteger input).map fun (value, rest) => (.num value, rest)

/-- The index in brackets after a segment's name. -/
def bracketedIndex (input : List Char) : Option (ℕ × List Char) := do
  let (_, input) ← literal '[' input
  let (index, input) ← nonNegInteger input
  let (_, input) ← literal ']' input
  return (index, input)

def componentSeg (input : List Char) : Option (ComponentSeg × List Char) := do
  let (name, input) ← identifier input
  match bracketedIndex input with
  | some (index, input) => return (.indexed name index, input)
  | none => return (.named name, input)

/-- The segments after the first, each behind a dot; `fuel` bounds their number. -/
def moreSegments : ℕ → List Char → List ComponentSeg × List Char
  | 0, input => ([], input)
  | fuel + 1, input =>
      match literal '.' input with
      | none => ([], input)
      | some (_, behind) =>
          match componentSeg behind with
          | none => ([], input)
          | some (segment, rest) =>
              let (segments, rest) := moreSegments fuel rest
              (segment :: segments, rest)

def componentOrWild (input : List Char) : Option (ComponentOrWild × List Char) :=
  match literal '*' input with
  | some (_, rest) => some (.wildcard, rest)
  | none =>
      match componentSeg input with
      | none => none
      | some (segment, rest) =>
          let (segments, rest) := moreSegments rest.length rest
          some (.path (segment :: segments), rest)

def probePoint (input : List Char) : Option (ProbePoint × List Char) := do
  let (model, input) ← nameOrWild input
  let (_, input) ← literal ':' input
  let (rank, input) ← numOrWild input
  let (_, input) ← literal ':' input
  let (layer, input) ← numOrWild input
  let (_, input) ← literal ':' input
  let (component, input) ← componentOrWild input
  let (_, input) ← literal ':' input
  let (callIndex, input) ← numOrWild input
  let (_, input) ← literal ':' input
  let (event, input) ← nameOrWild input
  return (⟨model, rank, layer, component, callIndex, event⟩, input)

/-- `ProbePoint::parse`: a probe point and nothing behind it. -/
def ProbePoint.parse (input : String) : Option ProbePoint :=
  match probePoint input.toList with
  | some (point, []) => some point
  | _ => none

end RocketSurgeon.Probes
