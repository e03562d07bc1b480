import RocketSurgeon.Lib.Parsers
import RocketSurgeon.Probes.Grammar

/-!
# The grammar as it is written

The source states the grammar of probe points with the combinators of `winnow`.  A number that
does not fit 32 bits cuts the parse; all other failures backtrack.  Where `Grammar` reads on
behind an index that is too large, the combinators give up at once.  Both come to the same: what
stands behind the name of such a segment is a bracket, and no field of a point goes on with one.

`Winnow.parse_eq` says that the two parsers are one function.
-/

namespace RocketSurgeon.Probes

open Lib

namespace Winnow

open Parser

def alpha1 : Parser (List Char) := takeWhile1 Char.isAlpha

def digit1 : Parser (List Char) := takeWhile1 Char.isDigit

def identifier : Parser String := do
  let first ← alpha1
  let rest ← repeat0 (oneOf fun char => char.isAlphanum || char = '_' || char = '-')
  return String.ofList (first ++ rest)

def nonNegInteger : Parser ℕ := do
  let digits ← digit1
  if digitsValue digits < 2 ^ 32 then return digitsValue digits else cutErr

def wildcard : Parser Unit := char '*'

def nameOrWild : Parser NameOrWild :=
  alt ((fun _ => NameOrWild.wildcard) <$> wildcard) (NameOrWild.name <$> identifier)

def numOrWild : Parser NumOrWild :=
  alt ((fun _ => NumOrWild.wildcard) <$> wildcard) (NumOrWild.num <$> nonNegInteger)

def componentSeg : Parser ComponentSeg := do
  let name ← identifier
  let index ← opt (preceded (char '[') (terminated nonNegInteger (char ']')))
  match index with
  | some index => return .indexed name index
  | none => return .named name

def componentOrWild : Parser ComponentOrWild :=
  alt ((fun _ => ComponentOrWild.wildcard) <$> wildcard)
    (ComponentOrWild.path <$> separated1 componentSeg (char '.'))

def probePoint : Parser ProbePoint := do
  let model ← nameOrWild
  char ':'
  let rank ← numOrWild
  char ':'
  let layer ← numOrWild
  char ':'
  let component ← componentOrWild
  char ':'
  let callIndex ← numOrWild
  char ':'
  let event ← nameOrWild
  return ⟨model, rank, layer, component, callIndex, event⟩

/-- `ProbePoint::parse`. -/
def parse (text : String) : Option ProbePoint := parseAll probePoint text

/-! ## Names and numbers -/

variable {α β : Type} {input : List Char}

lemma char_eq (c : Char) (input : List Char) : char c input = .ofOption (literal c input) := by
  cases input with
  | nil => rfl
  | cons head rest =>
    rw [char, literal]
    split
    · rfl
    · rfl

lemma identifier_eq_ofOption (input : List Char) :
    identifier input = .ofOption (Probes.identifier input) := by
  simp only [identifier, alpha1, bind_apply, takeWhile1, Probes.identifier]
  split
  · rfl
  · simp only [Parsed.bind, bind_apply, repeat0_oneOf]
    rfl

lemma toOption_nonNegInteger (input : List Char) :
    (nonNegInteger input).toOption = Probes.nonNegInteger input := by
  simp only [nonNegInteger, digit1, bind_apply, takeWhile1, Probes.nonNegInteger]
  split
  · rfl
  · simp only [Parsed.bind]
    split
    · rfl
    · rfl

lemma alt_wildcard (wild : α) (parser : Parser α) (input : List Char) :
    alt ((fun _ => wild) <$> wildcard) parser input =
      match literal '*' input with
      | some (_, rest) => .ok wild rest
      | none => parser input := by
  have hmapped : ((fun _ => wild) <$> wildcard) input =
      (char '*' input).bind fun _ rest => .ok wild rest := rfl
  rw [alt, hmapped, char_eq]
  cases literal '*' input with
  | none | some found => rfl

lemma map_eq_bind (f : α → β) (parser : Parser α) :
    f <$> parser = parser >>= fun value => pure (f value) := rfl

lemma toOption_nameOrWild (input : List Char) :
    (nameOrWild input).toOption = Probes.nameOrWild input := by
  rw [nameOrWild, alt_wildcard, Probes.nameOrWild]
  cases literal '*' input with
  | some found => rfl
  | none =>
    simp only [map_eq_bind, toOption_bind, identifier_eq_ofOption, Parsed.toOption_ofOption,
      Option.map_eq_bind]
    rfl

lemma toOption_numOrWild (input : List Char) :
    (numOrWild input).toOption = Probes.numOrWild input := by
  rw [numOrWild, alt_wildcard, Probes.numOrWild]
  cases literal '*' input with
  | some found => rfl
  | none =>
    simp only [map_eq_bind, toOption_bind, toOption_nonNegInteger, Option.map_eq_bind]
    rfl

/-! ## Components -/

/-- What the combinators come to, seen from `Grammar`: where they cut, `Grammar` has come to a
bracket. -/
def Tracks (read : Option (α × List Char)) : Parsed α → Prop
  | .cut => ∃ value behind, read = some (value, '[' :: behind)
  | parsed => read = parsed.toOption

/-- The index in brackets is read, is not there, or is too large. -/
lemma opt_index_cases (input : List Char) :
    opt (preceded (char '[') (terminated nonNegInteger (char ']'))) input =
        (match bracketedIndex input with
          | some (idx, rest) => .ok (some idx) rest
          | none => .ok none input) ∨
      opt (preceded (char '[') (terminated nonNegInteger (char ']'))) input = .cut ∧
        bracketedIndex input = none ∧ ∃ behind, input = '[' :: behind := by
  have hread : (preceded (char '[') (terminated nonNegInteger (char ']')) input).toOption =
      bracketedIndex input := by
    simp only [preceded, terminated, toOption_bind, char_eq, Parsed.toOption_ofOption,
      toOption_nonNegInteger, bracketedIndex]
    rfl
  rw [opt]
  cases hparsed : preceded (char '[') (terminated nonNegInteger (char ']')) input with
  | ok idx rest | backtrack =>
    left
    rw [← hread, hparsed]
    rfl
  | cut =>
    refine .inr ⟨rfl, by rw [← hread, hparsed]; rfl, ?_⟩
    -- without an opening bracket the part backtracks
    cases input with
    | nil => cases hparsed
    | cons head behind =>
      by_cases hopen : head = '['
      · exact ⟨behind, by rw [hopen]⟩
      · simp only [preceded, bind_apply, char, if_neg hopen, Parsed.bind] at hparsed
        cases hparsed

lemma tracks_componentSeg (input : List Char) :
    Tracks (Probes.componentSeg input) (componentSeg input) := by
  simp only [componentSeg, bind_apply, Probes.componentSeg, identifier_eq_ofOption]
  cases Probes.identifier input with
  | none => rfl
  | some found =>
    obtain ⟨name, rest⟩ := found
    simp only [Parsed.ofOption, Parsed.bind, bind_apply, Option.bind_eq_bind, Option.bind_some]
    rcases opt_index_cases rest with hindex | ⟨hcut, hindex, behind, rfl⟩
    · rw [hindex]
      cases bracketedIndex rest with
      | none | some found => rfl
    · rw [hcut, hindex]
      exact ⟨_, behind, rfl⟩

lemma moreSegments_bracket (fuel : ℕ) (behind : List Char) :
    moreSegments fuel ('[' :: behind) = ([], '[' :: behind) := by
  cases fuel with
  | zero | succ fuel => rfl

lemma tracks_behindSeparators (fuel : ℕ) (input : List Char) :
    Tracks (some (moreSegments fuel input))
      (behindSeparators componentSeg (char '.') fuel input) := by
  induction fuel generalizing input with
  | zero => rfl
  | succ fuel ih =>
    rw [behindSeparators, moreSegments, char_eq]
    cases literal '.' input with
    | none => rfl
    | some found =>
      obtain ⟨-, behind⟩ := found
      have hseg := tracks_componentSeg behind
      simp only [Parsed.ofOption]
      cases hparsed : componentSeg behind with
      | backtrack =>
        rw [hparsed] at hseg
        rw [hseg]
        rfl
      | cut =>
        rw [hparsed] at hseg
        obtain ⟨seg, rest, hread⟩ := hseg
        rw [hread]
        dsimp only
        rw [moreSegments_bracket]
        exact ⟨_, rest, rfl⟩
      | ok seg rest =>
        rw [hparsed] at hseg
        rw [hseg]
        have hmore := ih rest
        simp only [Parsed.toOption]
        cases hrest : behindSeparators componentSeg (char '.') fuel rest with
        | ok segs rest' =>
          rw [hrest] at hmore
          rw [Option.some.inj hmore]
          rfl
        | backtrack =>
          rw [hrest] at hmore
          cases hmore
        | cut =>
          rw [hrest] at hmore
          obtain ⟨segs, behind', hread⟩ := hmore
          rw [Option.some.inj hread]
          exact ⟨_, behind', rfl⟩

lemma tracks_componentOrWild (input : List Char) :
    Tracks (Probes.componentOrWild input) (componentOrWild input) := by
  rw [componentOrWild, alt_wildcard, Probes.componentOrWild]
  cases literal '*' input with
  | some found => rfl
  | none =>
    have hseg := tracks_componentSeg input
    rw [map_eq_bind, bind_apply, separated1]
    cases hparsed : componentSeg input with
    | backtrack =>
      rw [hparsed] at hseg
      rw [hseg]
      rfl
    | cut =>
      rw [hparsed] at hseg
      obtain ⟨seg, rest, hread⟩ := hseg
      rw [hread]
      dsimp only
      exact ⟨_, rest, rfl⟩
    | ok seg rest =>
      rw [hparsed] at hseg
      rw [hseg]
      have hmore := tracks_behindSeparators rest.length rest
      simp only [Parsed.toOption]
      cases hrest : behindSeparators componentSeg (char '.') rest.length rest with
      | ok segs rest' =>
        rw [hrest] at hmore
        rw [Option.some.inj hmore]
        rfl
      | backtrack =>
        rw [hrest] at hmore
        cases hmore
      | cut =>
        rw [hrest] at hmore
        obtain ⟨segs, behind', hread⟩ := hmore
        rw [Option.some.inj hread]
        exact ⟨_, behind', rfl⟩

/-- A colon must stand behind a component, and no bracket does then. -/
lemma toOption_componentOrWild_bind (input : List Char)
    (next : ComponentOrWild × List Char → Unit × List Char → Option β) :
    ((componentOrWild input).toOption.bind fun found => (literal ':' found.2).bind (next found)) =
      (Probes.componentOrWild input).bind fun found => (literal ':' found.2).bind (next found) := by
  have htracks := tracks_componentOrWild input
  cases hparsed : componentOrWild input with
  | ok comp rest | backtrack =>
    rw [hparsed] at htracks
    rw [htracks]
  | cut =>
    rw [hparsed] at htracks
    obtain ⟨comp, behind, hread⟩ := htracks
    rw [hread]
    rfl

/-! ## Points -/

lemma toOption_probePoint (input : List Char) :
    (probePoint input).toOption = Probes.probePoint input := by
  simp only [probePoint, toOption_bind, char_eq, Parsed.toOption_ofOption, toOption_nameOrWild,
    toOption_numOrWild, toOption_componentOrWild_bind]
  rfl

/-- The combinators and `Grammar` parse alike. -/
lemma parse_eq (text : String) : parse text = ProbePoint.parse text := by
  unfold parse parseAll ProbePoint.parse
  rw [← toOption_probePoint]
  cases probePoint text.toList with
  | ok point rest =>
    cases rest with
    | nil | cons char rest => rfl
  | backtrack | cut => rfl

end Winnow

end RocketSurgeon.Probes
