import RocketSurgeon.Lib.Result
import RocketSurgeon.Lib.Text
import RocketSurgeon.Probes.RoundTrip

/-!
# The mirror of the grammar in Python

The Python side parses probe points of five fields, without the call index, by recursive descent.
Once it has seen a bracket or a dot it is committed to an index or a segment, and raises where
the combinators would go back.

It reads the same texts with one exception.  Python refuses to convert a text of more than
`maxStrDigits` digits into a number, whatever the number is: leading zeros count.  `mirrors_iff` says
that this is the only difference.
-/

namespace RocketSurgeon.Probes.Mirror

open Lib

/-! ## The parser -/

/-- What a parse raises. -/
inductive Raised
  | parseError (message : String) (offset : ℕ)
  | valueError (message : String)
  deriving DecidableEq, Repr

/-- A point of five fields. -/
structure ProbePoint where
  model : NameOrWild
  rank : NumOrWild
  layer : NumOrWild
  component : ComponentOrWild
  event : NameOrWild
  deriving DecidableEq, Repr

/-- The position, and the text from there on. -/
structure Cursor where
  pos : ℕ
  remaining : List Char
  deriving DecidableEq, Repr

abbrev ParserM (α : Type) := StateT Cursor (Except Raised) α

def raiseError {α : Type} (msg : String) : ParserM α := do
  let cursor ← get
  throw (.parseError s!"{msg} at offset {cursor.pos}" cursor.pos)

def advance (count : ℕ) : ParserM Unit :=
  modify fun cursor => ⟨cursor.pos + count, cursor.remaining.drop count⟩

def expectChar (char : Char) : ParserM Unit := do
  let cursor ← get
  if cursor.remaining.head? = some char then advance 1 else raiseError s!"expected '{char}'"

/-- A match of `[A-Za-z][A-Za-z0-9_-]*` at the beginning. -/
def identMatch : List Char → Option (List Char)
  | [] => none
  | char :: rest =>
      if char.isAlpha then
        some (char :: rest.takeWhile fun char => char.isAlphanum || char = '_' || char = '-')
      else none

def identifier : ParserM String := do
  let cursor ← get
  match identMatch cursor.remaining with
  | none => raiseError "expected identifier"
  | some group => do
      advance group.length
      return String.ofList group

-- The number of digits Python converts at most; there is no limit if it is zero.
variable (maxStrDigits : ℕ)

def u32Max : ℕ := 0xFFFFFFFF

/-- The limit of an interpreter that nobody has set another one for. -/
def defaultMaxStrDigits : ℕ := 4300

/-- More digits than are converted. -/
def TooLong (digits : List Char) : Prop := maxStrDigits ≠ 0 ∧ maxStrDigits < digits.length

instance (digits : List Char) : Decidable (TooLong maxStrDigits digits) :=
  inferInstanceAs (Decidable (_ ∧ _))

/-- The built-in `int`, on digits. -/
def int (digits : List Char) : ParserM ℕ :=
  if TooLong maxStrDigits digits then
    throw <| .valueError <| s!"Exceeds the limit ({maxStrDigits} digits) for integer string " ++
      s!"conversion: value has {digits.length} digits; use sys.set_int_max_str_digits() to " ++
      "increase the limit"
  else return digitsValue digits

def nonNegInteger : ParserM ℕ := do
  let cursor ← get
  let group := cursor.remaining.takeWhile Char.isDigit
  if group = [] then raiseError "expected non-negative integer"
  else do
    advance group.length
    let val ← int maxStrDigits group
    if u32Max < val then raiseError "integer exceeds u32 range" else return val

def nameOrWild : ParserM NameOrWild := do
  let cursor ← get
  if cursor.remaining.head? = some '*' then do
    advance 1
    return .wildcard
  else do
    let name ← identifier
    return .name name

def numOrWild : ParserM NumOrWild := do
  let cursor ← get
  if cursor.remaining.head? = some '*' then do
    advance 1
    return .wildcard
  else do
    let value ← nonNegInteger maxStrDigits
    return .num value

def componentSeg : ParserM ComponentSeg := do
  let name ← identifier
  let cursor ← get
  if cursor.remaining.head? = some '[' then do
    advance 1
    let idx ← nonNegInteger maxStrDigits
    expectChar ']'
    return .indexed name idx
  else return .named name

/-- The loop over the segments behind the first one; every turn takes a dot at least. -/
def moreSegs : ℕ → ParserM (List ComponentSeg)
  | 0 => return []
  | fuel + 1 => do
      let cursor ← get
      if cursor.remaining.head? = some '.' then do
        advance 1
        let seg ← componentSeg maxStrDigits
        let segs ← moreSegs fuel
        return seg :: segs
      else return []

def componentOrWild : ParserM ComponentOrWild := do
  let cursor ← get
  if cursor.remaining.head? = some '*' then do
    advance 1
    return .wildcard
  else do
    let seg ← componentSeg maxStrDigits
    let behind ← get
    let segs ← moreSegs maxStrDigits behind.remaining.length
    return .path (seg :: segs)

/-- `_Parser.parse`. -/
def parsePoint : ParserM ProbePoint := do
  let model ← nameOrWild
  expectChar ':'
  let rank ← numOrWild maxStrDigits
  expectChar ':'
  let layer ← numOrWild maxStrDigits
  expectChar ':'
  let component ← componentOrWild maxStrDigits
  expectChar ':'
  let event ← nameOrWild
  let cursor ← get
  if cursor.remaining = [] then return ⟨model, rank, layer, component, event⟩
  else raiseError "unexpected trailing input"

/-- `ProbePoint.parse`. -/
def parse (text : String) : Except Raised ProbePoint :=
  (parsePoint maxStrDigits ⟨0, text.toList⟩).map Prod.fst

/-- `ProbePoint.matches`. -/
def ProbePoint.isMatch (self other : ProbePoint) : Bool :=
  nameMatches self.model other.model && numMatches self.rank other.rank &&
    numMatches self.layer other.layer && componentMatches self.component other.component &&
    nameMatches self.event other.event

/-! ## What is taken -/

/-- A parser takes what spells its values, in front of a text that stops them, and nothing else. -/
structure Takes {α : Type} (parser : ParserM α) (Spells : List Char → α → Prop)
    (stop : Char → Bool) : Prop where
  complete : ∀ {text value behind}, Spells text value → StopsAt stop behind → ∀ pos,
    parser ⟨pos, text ++ behind⟩ = .ok (value, ⟨pos + text.length, behind⟩)
  sound : ∀ {cursor value after}, parser cursor = .ok (value, after) →
    ∃ text, Spells text value ∧ cursor.remaining = text ++ after.remaining

section Sequences

variable {α β : Type} {cursor after : Cursor}

lemma bind_apply (parser : ParserM α) (next : α → ParserM β) (cursor : Cursor) :
    (parser >>= next) cursor = parser cursor >>= fun taken => next taken.1 taken.2 := rfl

lemma get_bind (next : Cursor → ParserM β) (cursor : Cursor) :
    ((get : ParserM Cursor) >>= next) cursor = next cursor cursor := rfl

lemma advance_bind (count : ℕ) (next : Unit → ParserM β) (cursor : Cursor) :
    (advance count >>= next) cursor =
      next () ⟨cursor.pos + count, cursor.remaining.drop count⟩ := rfl

lemma bind_of_ok (hparser : parser cursor = .ok (value, after)) (next : α → ParserM β) :
    (parser >>= next) cursor = next value after := by
  rw [bind_apply, hparser]
  rfl

lemma bind_eq_ok_iff {next : α → ParserM β} :
    (parser >>= next) cursor = .ok (value, after) ↔
      ∃ first between, parser cursor = .ok (first, between) ∧
        next first between = .ok (value, after) := by
  constructor
  · intro hok
    obtain ⟨⟨first, between⟩, hfirst, hnext⟩ := bind_eq_ok hok
    exact ⟨first, between, hfirst, hnext⟩
  · rintro ⟨first, between, hfirst, hnext⟩
    rw [bind_of_ok hfirst, hnext]

lemma pure_eq_ok_iff :
    (pure found : ParserM α) cursor = .ok (value, after) ↔ found = value ∧ cursor = after := by
  constructor
  · intro hok
    cases hok
    exact ⟨rfl, rfl⟩
  · rintro ⟨rfl, rfl⟩
    rfl

lemma raiseError_ne_ok (msg : String) (cursor : Cursor) (taken : α × Cursor) :
    raiseError msg cursor ≠ .ok taken := nofun

end Sequences

lemma expectChar_cons (char : Char) (pos : ℕ) (rest : List Char) :
    expectChar char ⟨pos, char :: rest⟩ = .ok ((), ⟨pos + 1, rest⟩) := by
  rw [expectChar, get_bind, if_pos (by rfl)]
  rfl

lemma remaining_of_expectChar (hok : expectChar char cursor = .ok (value, after)) :
    cursor.remaining = char :: after.remaining := by
  rw [expectChar, get_bind] at hok
  split at hok
  next hhead =>
    obtain ⟨rest, hrest⟩ := List.head?_eq_some_iff.mp hhead
    cases hok
    simp only [hrest, List.drop_succ_cons, List.drop_zero]
  · exact absurd hok (raiseError_ne_ok _ _ _)

/-! ## Names and numbers -/

lemma identMatch_eq (input : List Char) :
    identMatch input = (Probes.identifier input).map fun found => found.1.toList := by
  cases input with
  | nil => rfl
  | cons char rest =>
    rw [identifier_eq, identMatch]
    by_cases halpha : char.isAlpha
    · have htail : isNameTail char = true := isNameTail_of_isAlpha char halpha
      rw [if_pos halpha, if_neg (by simp [halpha]), List.takeWhile_cons_of_pos htail]
      simp only [Option.map_some, String.toList_ofList]
      rfl
    · rw [if_neg halpha, if_pos (by simp [halpha])]
      rfl

lemma takes_identifier : Takes identifier SpellsName isNameTail where
  complete := by
    intro text name behind hspells hbehind pos
    have hmatch : identMatch (text ++ behind) = some text := by
      rw [identMatch_eq, reads_identifier.complete hspells hbehind, Option.map_some, hspells.2]
    rw [identifier, get_bind]
    simp only [hmatch]
    rw [advance_bind, List.drop_left, hspells.2, String.ofList_toList]
    rfl
  sound := by
    intro cursor name after hok
    rw [identifier, get_bind] at hok
    cases hread : Probes.identifier cursor.remaining with
    | none =>
      simp only [identMatch_eq, hread, Option.map_none] at hok
      exact absurd hok (raiseError_ne_ok _ _ _)
    | some found =>
      obtain ⟨text, hspells, hinput⟩ := reads_identifier.sound hread
      simp only [identMatch_eq, hread, Option.map_some, advance_bind] at hok
      obtain ⟨hname, rfl⟩ := pure_eq_ok_iff.mp hok
      obtain rfl : found.1 = name := by rw [← hname, String.ofList_toList]
      refine ⟨text, hspells, ?_⟩
      rw [hinput, hspells.2, List.drop_left]

/-- The digits Python converts into a 32-bit number. -/
def FitsInt (digits : List Char) : Prop := FitsU32 digits ∧ ¬ TooLong maxStrDigits digits

lemma fitsU32_iff : FitsU32 digits ↔ ¬ u32Max < digitsValue digits := by
  unfold FitsU32 u32Max
  omega

lemma takes_nonNegInteger :
    Takes (nonNegInteger maxStrDigits) (SpellsNumber (FitsInt maxStrDigits)) Char.isDigit where
  complete := by
    intro text value behind hspells hbehind pos
    rw [nonNegInteger, get_bind]
    simp only [takeWhile_append_of_stopsAt hspells.digits hbehind]
    rw [if_neg hspells.nonempty, advance_bind, int, if_neg hspells.fits.2, pure_bind,
      if_neg (fitsU32_iff.mp hspells.fits.1), List.drop_left, hspells.value]
    rfl
  sound := by
    intro cursor value after hok
    rw [nonNegInteger, get_bind] at hok
    split at hok
    · exact absurd hok (raiseError_ne_ok _ _ _)
    next hdigits =>
      rw [advance_bind, int] at hok
      split at hok
      · cases hok
      next hshort =>
        rw [pure_bind] at hok
        split at hok
        · exact absurd hok (raiseError_ne_ok _ _ _)
        next hvalue =>
          obtain ⟨rfl, rfl⟩ := pure_eq_ok_iff.mp hok
          refine ⟨cursor.remaining.takeWhile Char.isDigit, ⟨hdigits, ?_,
            ⟨fitsU32_iff.mpr hvalue, hshort⟩, rfl⟩, ?_⟩
          · exact List.all_eq_true.mp List.all_takeWhile
          · exact (List.prefix_iff_eq_append.mp (List.takeWhile_prefix _)).symm

lemma head?_ne_of_literal (hliteral : literal char input = none) :
    input.head? ≠ some char := by
  intro hhead
  obtain ⟨rest, rfl⟩ := List.head?_eq_some_iff.mp hhead
  rw [literal_cons] at hliteral
  cases hliteral

lemma Takes.orWild {α β : Type} {parser : ParserM α} {Spells : List Char → α → Prop}
    {stop : Char → Bool} (htakes : Takes parser Spells stop) {Spelled : List Char → β → Prop}
    {wild : β} {make : α → β}
    (hspelled : ∀ text value, Spelled text value ↔
      text = ['*'] ∧ value = wild ∨ ∃ found, Spells text found ∧ value = make found)
    (hstar : ∀ text found behind, Spells text found → literal '*' (text ++ behind) = none) :
    Takes (do
      let cursor ← get
      if cursor.remaining.head? = some '*' then do
        advance 1
        return wild
      else do
        let value ← parser
        return make value) Spelled stop where
  complete := by
    intro text value behind hspells hbehind pos
    rw [get_bind]
    rcases (hspelled text value).mp hspells with ⟨rfl, rfl⟩ | ⟨found, hfound, rfl⟩
    · rw [if_pos (by rfl)]
      rfl
    · rw [if_neg (head?_ne_of_literal (hstar text found behind hfound)),
        bind_of_ok (htakes.complete hfound hbehind pos)]
      rfl
  sound := by
    intro cursor value after hok
    rw [get_bind] at hok
    split at hok
    next hhead =>
      obtain ⟨rest, hrest⟩ := List.head?_eq_some_iff.mp hhead
      obtain ⟨rfl, rfl⟩ := pure_eq_ok_iff.mp hok
      refine ⟨['*'], (hspelled _ _).mpr (.inl ⟨rfl, rfl⟩), ?_⟩
      simp only [hrest, List.drop_succ_cons, List.drop_zero, List.singleton_append]
    · obtain ⟨found, between, hfound, hmake⟩ := bind_eq_ok_iff.mp hok
      obtain ⟨rfl, rfl⟩ := pure_eq_ok_iff.mp hmake
      obtain ⟨text, hspells, htext⟩ := htakes.sound hfound
      exact ⟨text, (hspelled _ _).mpr (.inr ⟨found, hspells, rfl⟩), htext⟩

lemma takes_nameOrWild : Takes nameOrWild (fun text name => name.Spelled text) isNameTail :=
  takes_identifier.orWild NameOrWild.spelled_iff
    fun _ _ behind ⟨hname, htext⟩ => htext ▸ literal_star_of_isAlpha (head_identifier hname behind)

lemma takes_numOrWild :
    Takes (numOrWild maxStrDigits) (fun text num => num.Spelled (FitsInt maxStrDigits) text)
      Char.isDigit :=
  (takes_nonNegInteger maxStrDigits).orWild (NumOrWild.spelled_iff (FitsInt maxStrDigits))
    fun _ _ behind hspells => literal_star_of_spellsNumber _ hspells behind

/-! ## Components -/

lemma takes_componentSeg :
    Takes (componentSeg maxStrDigits)
      (fun text segment => segment.Spelled (FitsInt maxStrDigits) text) isSegmentTail where
  complete := by
    intro text segment behind hspells hbehind pos
    have hname : StopsAt isNameTail behind :=
      hbehind.mono fun char hchar => by simp [isSegmentTail, hchar]
    rw [componentSeg]
    cases segment with
    | named name =>
      have hopen : literal '[' behind = none := literal_of_stopsAt (by decide) hbehind
      rw [bind_of_ok (takes_identifier.complete hspells hname pos), get_bind,
        if_neg (head?_ne_of_literal hopen)]
      rfl
    | indexed name index =>
      obtain ⟨hidentifier, digits, hdigits, rfl⟩ := hspells
      have htext : name.toList ++ '[' :: (digits ++ [']']) ++ behind =
          name.toList ++ '[' :: (digits ++ ']' :: behind) := by
        simp
      have hindex := fun pos => (takes_nonNegInteger maxStrDigits).complete hdigits
        (stopsAt_cons (show Char.isDigit ']' = false by decide) behind) pos
      rw [htext, bind_of_ok (takes_identifier.complete ⟨hidentifier, rfl⟩
        (stopsAt_cons (by decide) _) pos), get_bind, if_pos (by rfl), advance_bind,
        List.drop_succ_cons, List.drop_zero, bind_of_ok (hindex _),
        bind_of_ok (expectChar_cons _ _ _)]
      simp only [List.length_append, List.length_cons, List.length_nil]
      rw [show pos + (name.toList.length + (digits.length + (0 + 1) + 1)) =
        pos + name.toList.length + 1 + digits.length + 1 by omega]
      rfl
  sound := by
    intro cursor segment after hok
    obtain ⟨name, between, hname, hok⟩ := bind_eq_ok_iff.mp hok
    obtain ⟨text, hspells, htext⟩ := takes_identifier.sound hname
    rw [get_bind] at hok
    split at hok
    next hhead =>
      obtain ⟨rest, hrest⟩ := List.head?_eq_some_iff.mp hhead
      rw [advance_bind] at hok
      obtain ⟨index, behind, hindex, hok⟩ := bind_eq_ok_iff.mp hok
      obtain ⟨_, closed, hclose, hok⟩ := bind_eq_ok_iff.mp hok
      obtain ⟨rfl, rfl⟩ := pure_eq_ok_iff.mp hok
      obtain ⟨digits, hdigits, hbehind⟩ := (takes_nonNegInteger maxStrDigits).sound hindex
      refine ⟨_, ⟨hspells.1, digits, hdigits, rfl⟩, ?_⟩
      simp only [hrest, List.drop_succ_cons, List.drop_zero] at hbehind
      rw [htext, hspells.2, hrest, hbehind, remaining_of_expectChar hclose]
      simp
    · obtain ⟨rfl, rfl⟩ := pure_eq_ok_iff.mp hok
      exact ⟨text, hspells, htext⟩

lemma moreSegs_append (hbehind : StopsAt isPathTail behind)
    (hspells : List.Forall₂ (ComponentSeg.Spelled (FitsInt maxStrDigits)) texts segments)
    (hfuel : segments.length ≤ fuel) (pos : ℕ) :
    moreSegs maxStrDigits fuel ⟨pos, behindDots texts ++ behind⟩ =
      .ok (segments, ⟨pos + (behindDots texts).length, behind⟩) := by
  induction hspells generalizing fuel pos with
  | nil =>
    have hdot : literal '.' behind = none := literal_of_stopsAt (by decide) hbehind
    cases fuel with
    | zero => rfl
    | succ fuel =>
      rw [moreSegs, get_bind, if_neg (head?_ne_of_literal (by exact hdot))]
      rfl
  | @cons text segment texts segments hseg _ ih =>
    obtain ⟨fuel, rfl⟩ : ∃ smaller, fuel = smaller + 1 :=
      ⟨fuel - 1, by rw [List.length_cons] at hfuel; omega⟩
    have htext : behindDots (text :: texts) ++ behind =
        '.' :: (text ++ (behindDots texts ++ behind)) := by
      simp [behindDots]
    have hlen : (behindDots (text :: texts)).length =
        1 + text.length + (behindDots texts).length := by
      simp [behindDots]
      omega
    rw [htext, hlen, moreSegs, get_bind, if_pos (by rfl), advance_bind, List.drop_succ_cons,
      List.drop_zero, bind_of_ok ((takes_componentSeg maxStrDigits).complete hseg
        (stopsAt_behindDots hbehind texts) _),
      bind_of_ok (ih (Nat.le_of_succ_le_succ hfuel) _), ← Nat.add_assoc, ← Nat.add_assoc]
    rfl

lemma moreSegs_sound {cursor : Cursor}
    (hok : moreSegs maxStrDigits fuel cursor = .ok (segments, after)) :
    ∃ texts, List.Forall₂ (ComponentSeg.Spelled (FitsInt maxStrDigits)) texts segments ∧
      cursor.remaining = behindDots texts ++ after.remaining := by
  induction fuel generalizing cursor segments with
  | zero =>
    obtain ⟨rfl, rfl⟩ := pure_eq_ok_iff.mp hok
    exact ⟨[], .nil, rfl⟩
  | succ fuel ih =>
    rw [moreSegs, get_bind] at hok
    split at hok
    next hhead =>
      obtain ⟨rest, hrest⟩ := List.head?_eq_some_iff.mp hhead
      rw [advance_bind] at hok
      obtain ⟨segment, between, hseg, hok⟩ := bind_eq_ok_iff.mp hok
      obtain ⟨more, last, hmore, hok⟩ := bind_eq_ok_iff.mp hok
      obtain ⟨rfl, rfl⟩ := pure_eq_ok_iff.mp hok
      obtain ⟨text, hspells, htext⟩ := (takes_componentSeg maxStrDigits).sound hseg
      obtain ⟨texts, hmoreSpells, hbetween⟩ := ih hmore
      refine ⟨text :: texts, .cons hspells hmoreSpells, ?_⟩
      simp only [hrest, List.drop_succ_cons, List.drop_zero] at htext
      rw [hrest, htext, hbetween]
      simp [behindDots]
    · obtain ⟨rfl, rfl⟩ := pure_eq_ok_iff.mp hok
      exact ⟨[], .nil, rfl⟩

/-- One segment or more. -/
def SpellsPath (text : List Char) (segments : List ComponentSeg) : Prop :=
  (ComponentOrWild.path segments).Spelled (FitsInt maxStrDigits) text

lemma takes_componentOrWild :
    Takes (componentOrWild maxStrDigits)
      (fun text component => component.Spelled (FitsInt maxStrDigits) text) isPathTail := by
  have hpath : Takes (do
      let seg ← componentSeg maxStrDigits
      let behind ← get
      let segs ← moreSegs maxStrDigits behind.remaining.length
      return seg :: segs) (SpellsPath maxStrDigits) isPathTail := by
    constructor
    · intro text segments behind hspells hbehind pos
      obtain ⟨hne, texts, htexts, rfl⟩ := hspells
      cases htexts with
      | nil => exact absurd rfl hne
      | @cons text segment texts segments hseg htexts =>
        have hfuel : segments.length ≤ (behindDots texts ++ behind).length := by
          rw [List.length_append, ← htexts.length_eq]
          exact Nat.le_add_right_of_le (length_le_behindDots texts)
        rw [intercalate_dots, List.append_assoc,
          bind_of_ok ((takes_componentSeg maxStrDigits).complete hseg
            (stopsAt_behindDots hbehind texts) pos), get_bind,
          bind_of_ok (moreSegs_append maxStrDigits hbehind htexts hfuel _), List.length_append,
          ← Nat.add_assoc]
        rfl
    · intro cursor segments after hok
      obtain ⟨segment, between, hseg, hok⟩ := bind_eq_ok_iff.mp hok
      rw [get_bind] at hok
      obtain ⟨more, last, hmore, hok⟩ := bind_eq_ok_iff.mp hok
      obtain ⟨rfl, rfl⟩ := pure_eq_ok_iff.mp hok
      obtain ⟨text, hspells, htext⟩ := (takes_componentSeg maxStrDigits).sound hseg
      obtain ⟨texts, hmoreSpells, hbetween⟩ := moreSegs_sound maxStrDigits hmore
      refine ⟨_, ⟨List.cons_ne_nil _ _, text :: texts, .cons hspells hmoreSpells, rfl⟩, ?_⟩
      rw [htext, hbetween, intercalate_dots, List.append_assoc]
  have hfield := @Takes.orWild _ ComponentOrWild _ _ _ hpath
    (fun text component => component.Spelled (FitsInt maxStrDigits) text) .wildcard .path ?_ ?_
  · simpa only [bind_assoc, pure_bind, componentOrWild] using hfield
  · intro text component
    cases component with
    | wildcard => simp [ComponentOrWild.Spelled]
    | path segments => simp [SpellsPath]
  · rintro text segments behind ⟨hne, texts, htexts, rfl⟩
    cases htexts with
    | nil => exact absurd rfl hne
    | cons hseg htexts =>
      rw [intercalate_dots, List.append_assoc]
      exact literal_star_of_isAlpha (head_segment _ hseg _)

/-! ## Points -/

/-- Five fields with colons between them. -/
def ProbePoint.Spelled (fits : List Char → Prop) (text : List Char) (point : ProbePoint) : Prop :=
  ∃ model rank layer component event,
    point.model.Spelled model ∧ point.rank.Spelled fits rank ∧ point.layer.Spelled fits layer ∧
      point.component.Spelled fits component ∧ point.event.Spelled event ∧
      text = [':'].intercalate [model, rank, layer, component, event]

lemma intercalate_five (model rank layer component event : List Char) :
    [':'].intercalate [model, rank, layer, component, event] =
      model ++ ':' :: (rank ++ ':' :: (layer ++ ':' :: (component ++ ':' :: event))) := by
  simp [List.intercalate]

lemma parsePoint_of_spelled (hspelled : point.Spelled (FitsInt maxStrDigits) text) :
    (parsePoint maxStrDigits ⟨0, text⟩).map Prod.fst = .ok point := by
  obtain ⟨model, rank, layer, component, event, hmodel, hrank, hlayer, hcomp, hevent, rfl⟩ :=
    hspelled
  have hname : ∀ rest : List Char, StopsAt isNameTail (':' :: rest) := stopsAt_cons (by decide)
  have hnum : ∀ rest : List Char, StopsAt Char.isDigit (':' :: rest) := stopsAt_cons (by decide)
  have hpath : ∀ rest : List Char, StopsAt isPathTail (':' :: rest) := stopsAt_cons (by decide)
  have hend : ∀ pos, nameOrWild ⟨pos, event⟩ = .ok (point.event, ⟨pos + event.length, []⟩) :=
    fun pos => by simpa using takes_nameOrWild.complete hevent (stopsAt_nil _) pos
  rw [intercalate_five, parsePoint, bind_of_ok (takes_nameOrWild.complete hmodel (hname _) _),
    bind_of_ok (expectChar_cons _ _ _),
    bind_of_ok ((takes_numOrWild maxStrDigits).complete hrank (hnum _) _),
    bind_of_ok (expectChar_cons _ _ _),
    bind_of_ok ((takes_numOrWild maxStrDigits).complete hlayer (hnum _) _),
    bind_of_ok (expectChar_cons _ _ _),
    bind_of_ok ((takes_componentOrWild maxStrDigits).complete hcomp (hpath _) _),
    bind_of_ok (expectChar_cons _ _ _), bind_of_ok (hend _), get_bind, if_pos rfl]
  rfl

lemma spelled_of_parsePoint {after : Cursor}
    (hok : parsePoint maxStrDigits cursor = .ok (point, after)) :
    point.Spelled (FitsInt maxStrDigits) cursor.remaining := by
  obtain ⟨model, _, hmodel, hok⟩ := bind_eq_ok_iff.mp hok
  obtain ⟨_, _, hcolon₁, hok⟩ := bind_eq_ok_iff.mp hok
  obtain ⟨rank, _, hrank, hok⟩ := bind_eq_ok_iff.mp hok
  obtain ⟨_, _, hcolon₂, hok⟩ := bind_eq_ok_iff.mp hok
  obtain ⟨layer, _, hlayer, hok⟩ := bind_eq_ok_iff.mp hok
  obtain ⟨_, _, hcolon₃, hok⟩ := bind_eq_ok_iff.mp hok
  obtain ⟨component, _, hcomp, hok⟩ := bind_eq_ok_iff.mp hok
  obtain ⟨_, _, hcolon₄, hok⟩ := bind_eq_ok_iff.mp hok
  obtain ⟨event, last, hevent, hok⟩ := bind_eq_ok_iff.mp hok
  rw [get_bind] at hok
  split at hok
  next hend =>
    obtain ⟨rfl, rfl⟩ := pure_eq_ok_iff.mp hok
    obtain ⟨modelText, hmodelText, htext₁⟩ := takes_nameOrWild.sound hmodel
    obtain ⟨rankText, hrankText, htext₂⟩ := (takes_numOrWild maxStrDigits).sound hrank
    obtain ⟨layerText, hlayerText, htext₃⟩ := (takes_numOrWild maxStrDigits).sound hlayer
    obtain ⟨componentText, hcomponentText, htext₄⟩ :=
      (takes_componentOrWild maxStrDigits).sound hcomp
    obtain ⟨eventText, heventText, htext₅⟩ := takes_nameOrWild.sound hevent
    refine ⟨modelText, rankText, layerText, componentText, eventText, hmodelText, hrankText,
      hlayerText, hcomponentText, heventText, ?_⟩
    rw [htext₁, remaining_of_expectChar hcolon₁, htext₂, remaining_of_expectChar hcolon₂, htext₃,
      remaining_of_expectChar hcolon₃, htext₄, remaining_of_expectChar hcolon₄, htext₅, hend,
      List.append_nil, intercalate_five]
  · exact absurd hok (raiseError_ne_ok _ _ _)

lemma parse_eq_ok_iff :
    parse maxStrDigits text = .ok point ↔ point.Spelled (FitsInt maxStrDigits) text.toList := by
  constructor
  · intro hok
    unfold parse at hok
    cases hparsed : parsePoint maxStrDigits ⟨0, text.toList⟩ with
    | error raised =>
      rw [hparsed] at hok
      cases hok
    | ok taken =>
      rw [hparsed] at hok
      cases hok
      exact spelled_of_parsePoint maxStrDigits (hparsed.trans rfl)
  · exact parsePoint_of_spelled maxStrDigits

/-! ## Long numbers -/

lemma spellsNumber_fitsInt_iff :
    SpellsNumber (FitsInt maxStrDigits) text value ↔
      SpellsNumber FitsU32 text value ∧ ¬ TooLong maxStrDigits text :=
  ⟨fun h => ⟨⟨h.nonempty, h.digits, h.fits.1, h.value⟩, h.fits.2⟩,
    fun ⟨h, hshort⟩ => ⟨h.nonempty, h.digits, ⟨h.fits, hshort⟩, h.value⟩⟩

/-- A field of more digits than are converted. -/
def LongField (text : List Char) : Prop := text ≠ ['*'] ∧ TooLong maxStrDigits text

/-- A segment with an index of more digits than are converted. -/
def LongIndex (segment : List Char) : Prop :=
  ∃ name digits, '[' ∉ name ∧ segment = name ++ '[' :: (digits ++ [']']) ∧
    TooLong maxStrDigits digits

lemma numOrWild_spelled_iff {num : NumOrWild} :
    num.Spelled (FitsInt maxStrDigits) text ↔
      num.Spelled FitsU32 text ∧ ¬ LongField maxStrDigits text := by
  cases num with
  | wildcard => exact (and_iff_left_of_imp fun htext hlong => hlong.1 htext).symm
  | num value =>
    refine (spellsNumber_fitsInt_iff maxStrDigits).trans (and_congr_right fun hspells => ?_)
    refine not_congr (and_iff_right ?_).symm
    rintro rfl
    exact absurd (hspells.digits '*' List.mem_cons_self) (by decide)

lemma componentSeg_spelled_iff {segment : ComponentSeg} :
    segment.Spelled (FitsInt maxStrDigits) text ↔
      segment.Spelled FitsU32 text ∧ ¬ LongIndex maxStrDigits text := by
  cases segment with
  | named name =>
    refine (and_iff_left_of_imp fun hspells hlong => ?_).symm
    obtain ⟨front, digits, -, rfl, -⟩ := hlong
    exact SpellsName.not_mem hspells (show isNameTail '[' = false by decide) (by simp)
  | indexed name index =>
    constructor
    · rintro ⟨hname, digits, hdigits, rfl⟩
      obtain ⟨hspells, hshort⟩ := (spellsNumber_fitsInt_iff maxStrDigits).mp hdigits
      refine ⟨⟨hname, digits, hspells, rfl⟩, ?_⟩
      rintro ⟨front, others, hfront, htext, hlong⟩
      -- the bracket stands where the name ends
      have hsplit := splitOnce_append
        (not_mem_of_isIdentifier hname (show isNameTail '[' = false by decide)) (digits ++ [']'])
      rw [htext, splitOnce_append hfront] at hsplit
      cases List.append_cancel_right (Prod.mk.inj (Option.some.inj hsplit)).2
      exact hshort hlong
    · rintro ⟨⟨hname, digits, hdigits, rfl⟩, hshort⟩
      refine ⟨hname, digits, (spellsNumber_fitsInt_iff maxStrDigits).mpr ⟨hdigits, ?_⟩, rfl⟩
      exact fun hlong =>
        hshort ⟨name.toList, digits, not_mem_of_isIdentifier hname (by decide), rfl, hlong⟩

lemma componentOrWild_spelled_iff {component : ComponentOrWild} :
    component.Spelled (FitsInt maxStrDigits) text ↔
      component.Spelled FitsU32 text ∧
        ∀ segment ∈ text.splitOn '.', ¬ LongIndex maxStrDigits segment := by
  cases component with
  | wildcard =>
    refine (and_iff_left_of_imp ?_).symm
    rintro rfl segment hseg ⟨name, digits, -, rfl, -⟩
    have hsplit : ['*'].splitOn '.' = [['*']] := by decide
    rw [hsplit, List.mem_singleton] at hseg
    have hopen : '[' ∈ ['*'] := hseg ▸ by simp
    exact absurd hopen (by decide)
  | path segments =>
    have hsplit : ∀ {texts : List (List Char)},
        List.Forall₂ (ComponentSeg.Spelled FitsU32) texts segments → segments ≠ [] →
        (['.'].intercalate texts).splitOn '.' = texts := by
      intro texts htexts hne
      refine List.splitOn_intercalate '.' (fun part hpart => ?_) ?_
      · obtain ⟨i, hi, rfl⟩ := List.getElem_of_mem hpart
        exact (htexts.get hi (htexts.length_eq ▸ hi)).not_mem (by decide) (by decide)
      · rintro rfl
        exact hne (List.forall₂_nil_left_iff.mp htexts)
    constructor
    · rintro ⟨hne, texts, htexts, rfl⟩
      have hspells : List.Forall₂ (ComponentSeg.Spelled FitsU32) texts segments :=
        htexts.imp fun _ _ h => ((componentSeg_spelled_iff maxStrDigits).mp h).1
      refine ⟨⟨hne, texts, hspells, rfl⟩, ?_⟩
      rw [hsplit hspells hne]
      intro part hpart
      obtain ⟨i, hi, rfl⟩ := List.getElem_of_mem hpart
      exact ((componentSeg_spelled_iff maxStrDigits).mp
        (htexts.get hi (htexts.length_eq ▸ hi))).2
    · rintro ⟨⟨hne, texts, htexts, rfl⟩, hshort⟩
      rw [hsplit htexts hne] at hshort
      refine ⟨hne, texts, ?_, rfl⟩
      refine List.forall₂_iff_get.mpr ⟨htexts.length_eq, fun i hi hi' => ?_⟩
      exact (componentSeg_spelled_iff maxStrDigits).mpr
        ⟨htexts.get hi hi', hshort _ (List.get_mem texts ⟨i, hi⟩)⟩

/-! ## The two grammars -/

/-- The text with a wildcard for the call index, if it has five fields. -/
def withAnyCall (text : String) : String :=
  match text.toList.splitOn ':' with
  | [model, rank, layer, component, event] =>
      String.ofList ([':'].intercalate [model, rank, layer, component, ['*'], event])
  | _ => text

/-- A number of the text has more digits than are converted. -/
def HasLongNumber (text : String) : Prop :=
  match text.toList.splitOn ':' with
  | [_, rank, layer, component, _] =>
      LongField maxStrDigits rank ∨ LongField maxStrDigits layer ∨
        ∃ segment ∈ component.splitOn '.', LongIndex maxStrDigits segment
  | _ => False

/-- The point with any call index. -/
def ProbePoint.anyCall (point : ProbePoint) : Probes.ProbePoint :=
  ⟨point.model, point.rank, point.layer, point.component, .wildcard, point.event⟩

/-- How many fields a text has. -/
def fieldCount (text : String) : ℕ := (text.toList.splitOn ':').length

/-- On a text of five fields the two parsers agree on whether they accept it, and on what they
read; others the Python parser refuses. -/
structure AgreesOn (text : String) : Prop where
  rejects : fieldCount text ≠ 5 → (parse maxStrDigits text).isOk = false
  accepts : fieldCount text = 5 →
    ((parse maxStrDigits text).isOk = true ↔ (Winnow.parse (withAnyCall text)).isSome = true)
  reads : ∀ {point found}, parse maxStrDigits text = .ok point →
    Winnow.parse (withAnyCall text) = some found →
    point.model = found.model ∧ point.rank = found.rank ∧ point.layer = found.layer ∧
      point.component = found.component ∧ point.event = found.event

/-- The parsers agree on two texts, and the points they read of them match alike. -/
structure Mirrors (first second : String) : Prop where
  onFirst : AgreesOn maxStrDigits first
  onSecond : AgreesOn maxStrDigits second
  isMatch : ∀ {pattern target found other}, parse maxStrDigits first = .ok pattern →
    parse maxStrDigits second = .ok target → Winnow.parse (withAnyCall first) = some found →
    Winnow.parse (withAnyCall second) = some other →
    pattern.isMatch target = found.isMatch other

section Fields

variable {maxStrDigits} {text : String} {point : ProbePoint}

lemma exists_fields (hfive : fieldCount text = 5) :
    ∃ model rank layer component event,
      text.toList.splitOn ':' = [model, rank, layer, component, event] := by
  unfold fieldCount at hfive
  generalize text.toList.splitOn ':' = fields at hfive ⊢
  match fields, hfive with
  | [model, rank, layer, component, event], _ =>
    exact ⟨model, rank, layer, component, event, rfl⟩

lemma splitOn_of_spelled (hmodel : point.model.Spelled model)
    (hrank : point.rank.Spelled fits rank) (hlayer : point.layer.Spelled fits layer)
    (hcomp : point.component.Spelled fits component) (hevent : point.event.Spelled event) :
    ([':'].intercalate [model, rank, layer, component, event]).splitOn ':' =
      [model, rank, layer, component, event] := by
  refine List.splitOn_intercalate ':' ?_ (by simp)
  simp [hmodel.colon_not_mem, hrank.colon_not_mem, hlayer.colon_not_mem,
    hcomp.colon_not_mem, hevent.colon_not_mem]

variable {model rank layer component event : List Char}
  (hfields : text.toList.splitOn ':' = [model, rank, layer, component, event])

include hfields

lemma parse_fields_iff :
    parse maxStrDigits text = .ok point ↔
      point.model.Spelled model ∧ point.rank.Spelled (FitsInt maxStrDigits) rank ∧
        point.layer.Spelled (FitsInt maxStrDigits) layer ∧
        point.component.Spelled (FitsInt maxStrDigits) component ∧ point.event.Spelled event := by
  rw [parse_eq_ok_iff]
  constructor
  · rintro ⟨model', rank', layer', component', event', hmodel, hrank, hlayer, hcomp, hevent,
      htext⟩
    rw [htext, splitOn_of_spelled hmodel hrank hlayer hcomp hevent] at hfields
    cases hfields
    exact ⟨hmodel, hrank, hlayer, hcomp, hevent⟩
  · rintro ⟨hmodel, hrank, hlayer, hcomp, hevent⟩
    refine ⟨model, rank, layer, component, event, hmodel, hrank, hlayer, hcomp, hevent, ?_⟩
    rw [← hfields, List.intercalate_splitOn]

lemma winnow_fields_iff :
    Winnow.parse (withAnyCall text) = some found ↔
      found.model.Spelled model ∧ found.rank.Spelled FitsU32 rank ∧
        found.layer.Spelled FitsU32 layer ∧ found.component.Spelled FitsU32 component ∧
        found.callIndex = .wildcard ∧ found.event.Spelled event := by
  have htext : (withAnyCall text).toList =
      [':'].intercalate [model, rank, layer, component, ['*'], event] := by
    simp only [withAnyCall, hfields, String.toList_ofList]
  have hcolons : ∀ field ∈ [model, rank, layer, component, ['*'], event], ':' ∉ field := by
    have hall : ∀ field ∈ [model, rank, layer, component, event], ':' ∉ field :=
      fun field hfield => not_mem_of_mem_splitOn (hfields ▸ hfield)
    intro field hfield
    simp only [List.mem_cons, List.not_mem_nil, or_false] at hall hfield
    rcases hfield with rfl | rfl | rfl | rfl | rfl | rfl
    · exact hall _ (by simp)
    · exact hall _ (by simp)
    · exact hall _ (by simp)
    · exact hall _ (by simp)
    · decide
    · exact hall _ (by simp)
  rw [Winnow.parse_eq, ProbePoint.parse_eq_some_iff, htext]
  constructor
  · intro hspelled
    obtain ⟨model', rank', layer', component', callIndex, event', hsplit, hmodel, hrank, hlayer,
      hcomp, hcallIndex, hevent⟩ := hspelled.fields
    rw [List.splitOn_intercalate ':' hcolons (by simp)] at hsplit
    cases hsplit
    refine ⟨hmodel, hrank, hlayer, hcomp, ?_, hevent⟩
    rcases (NumOrWild.spelled_iff FitsU32 _ _).mp hcallIndex with ⟨-, hwild⟩ | ⟨value, hvalue, -⟩
    · exact hwild
    · exact absurd (hvalue.digits '*' List.mem_cons_self) (by decide)
  · rintro ⟨hmodel, hrank, hlayer, hcomp, hcallIndex, hevent⟩
    exact ⟨model, rank, layer, component, ['*'], event, hmodel, hrank, hlayer, hcomp,
      hcallIndex ▸ rfl, hevent, rfl⟩

lemma hasLongNumber_iff :
    HasLongNumber maxStrDigits text ↔
      LongField maxStrDigits rank ∨ LongField maxStrDigits layer ∨
        ∃ segment ∈ component.splitOn '.', LongIndex maxStrDigits segment := by
  simp only [HasLongNumber, hfields]

/-- What the Python parser reads are the texts without long numbers that the combinators read. -/
lemma parse_eq_ok_iff_winnow :
    parse maxStrDigits text = .ok point ↔
      Winnow.parse (withAnyCall text) = some point.anyCall ∧ ¬ HasLongNumber maxStrDigits text := by
  rw [parse_fields_iff hfields, winnow_fields_iff hfields, hasLongNumber_iff hfields,
    numOrWild_spelled_iff, numOrWild_spelled_iff, componentOrWild_spelled_iff]
  simp only [not_or, not_exists, not_and]
  constructor
  · rintro ⟨hmodel, ⟨hrank, hshort⟩, ⟨hlayer, hshort'⟩, ⟨hcomp, hsegs⟩, hevent⟩
    exact ⟨⟨hmodel, hrank, hlayer, hcomp, rfl, hevent⟩, hshort, hshort', hsegs⟩
  · rintro ⟨⟨hmodel, hrank, hlayer, hcomp, -, hevent⟩, hshort, hshort', hsegs⟩
    exact ⟨hmodel, ⟨hrank, hshort⟩, ⟨hlayer, hshort'⟩, ⟨hcomp, hsegs⟩, hevent⟩

end Fields

/-- The Python parser refuses a text that has not five fields. -/
lemma fieldCount_of_parse (hparse : parse maxStrDigits text = .ok point) :
    fieldCount text = 5 := by
  obtain ⟨model, rank, layer, component, event, hmodel, hrank, hlayer, hcomp, hevent, htext⟩ :=
    (parse_eq_ok_iff maxStrDigits).mp hparse
  rw [fieldCount, htext, splitOn_of_spelled hmodel hrank hlayer hcomp hevent]
  rfl

lemma winnow_of_parse (hparse : parse maxStrDigits text = .ok point) :
    Winnow.parse (withAnyCall text) = some point.anyCall := by
  obtain ⟨model, rank, layer, component, event, hfields⟩ :=
    exists_fields (fieldCount_of_parse maxStrDigits hparse)
  exact ((parse_eq_ok_iff_winnow hfields).mp hparse).1

lemma agreesOn_iff :
    AgreesOn maxStrDigits text ↔ ((Winnow.parse (withAnyCall text)).isSome = true →
      ¬ HasLongNumber maxStrDigits text) := by
  constructor
  · intro hagrees hsome hlong
    by_cases hfive : fieldCount text = 5
    · obtain ⟨model, rank, layer, component, event, hfields⟩ := exists_fields hfive
      obtain ⟨point, hparse⟩ := exists_ok_of_isOk ((hagrees.accepts hfive).mpr hsome)
      exact ((parse_eq_ok_iff_winnow hfields).mp hparse).2 hlong
    · -- without five fields there is no number to be long
      unfold HasLongNumber at hlong
      split at hlong
      next hfields =>
        rw [fieldCount, hfields] at hfive
        exact hfive rfl
      · exact hlong
  · intro hshort
    constructor
    · intro hfive
      cases hparse : parse maxStrDigits text with
      | error raised => rfl
      | ok point => exact absurd (fieldCount_of_parse maxStrDigits hparse) hfive
    · intro hfive
      obtain ⟨model, rank, layer, component, event, hfields⟩ := exists_fields hfive
      constructor
      · intro hok
        obtain ⟨point, hparse⟩ := exists_ok_of_isOk hok
        rw [winnow_of_parse maxStrDigits hparse]
        rfl
      · intro hsome
        obtain ⟨found, hfound⟩ := Option.isSome_iff_exists.mp hsome
        have hcall := ((winnow_fields_iff hfields).mp hfound).2.2.2.2.1
        have hparse : parse maxStrDigits text =
            .ok ⟨found.model, found.rank, found.layer, found.component, found.event⟩ := by
          refine (parse_eq_ok_iff_winnow hfields).mpr ⟨?_, hshort hsome⟩
          rw [hfound, ProbePoint.anyCall, ← hcall]
        rw [hparse]
        rfl
    · intro point found hparse hfound
      rw [winnow_of_parse maxStrDigits hparse] at hfound
      cases hfound
      exact ⟨rfl, rfl, rfl, rfl, rfl⟩

lemma isMatch_anyCall (pattern target : ProbePoint) :
    pattern.anyCall.isMatch target.anyCall = pattern.isMatch target := by
  simp only [ProbePoint.anyCall, Probes.ProbePoint.isMatch, ProbePoint.isMatch, numMatches,
    Bool.and_true]

/-- **The mirror.**  The two grammars agree on two texts, and on whether the points they name match,
exactly if no text that the combinators accept has a number of more digits than Python converts. -/
theorem mirrors_iff (first second : String) :
    Mirrors maxStrDigits first second ↔
      ∀ text ∈ [first, second], (Winnow.parse (withAnyCall text)).isSome = true →
        ¬ HasLongNumber maxStrDigits text := by
  rw [List.forall_mem_cons, List.forall_mem_singleton, ← agreesOn_iff, ← agreesOn_iff]
  constructor
  · intro hmirrors
    exact ⟨hmirrors.onFirst, hmirrors.onSecond⟩
  · rintro ⟨hfirst, hsecond⟩
    refine ⟨hfirst, hsecond, fun hpattern htarget hfound hother => ?_⟩
    rw [winnow_of_parse maxStrDigits hpattern] at hfound
    rw [winnow_of_parse maxStrDigits htarget] at hother
    cases hfound
    cases hother
    exact (isMatch_anyCall _ _).symm

/-! ### A rank with many zeros -/

lemma spellsNumber_zeros (count : ℕ) :
    SpellsNumber FitsU32 (List.replicate (count + 1) '0') 0 := by
  have hvalue : ∀ count, digitsValue (List.replicate count '0') = 0 := by
    intro count
    induction count with
    | zero => rfl
    | succ count ih => exact ih
  refine ⟨nofun, fun char hchar => ?_, ?_, hvalue _⟩
  · rw [List.eq_of_mem_replicate hchar]
    decide
  · rw [FitsU32, hvalue]
    decide

/-- All points of rank 0, with more zeros than Python converts. -/
def manyZeros : String :=
  String.ofList ([':'].intercalate [['*'], List.replicate 4301 '0', ['*'], ['*'], ['*']])

theorem not_parse_manyZeros :
    (parse defaultMaxStrDigits manyZeros).isOk = false ∧
      Winnow.parse (withAnyCall manyZeros) =
        some ⟨.wildcard, .num 0, .wildcard, .wildcard, .wildcard, .wildcard⟩ := by
  have hzeros := spellsNumber_zeros 4300
  have hfields : manyZeros.toList.splitOn ':' =
      [['*'], List.replicate 4301 '0', ['*'], ['*'], ['*']] := by
    rw [manyZeros, String.toList_ofList]
    refine List.splitOn_intercalate ':' ?_ nofun
    rw [List.forall_mem_cons, List.forall_mem_cons]
    exact ⟨by decide, hzeros.not_mem (by decide), by decide⟩
  have hlong : LongField defaultMaxStrDigits (List.replicate 4301 '0') := by
    refine ⟨fun hstar => ?_, by decide, ?_⟩
    · have hmem : '*' ∈ List.replicate 4301 '0' := by
        rw [hstar]
        exact List.mem_singleton_self _
      exact absurd (List.eq_of_mem_replicate hmem) (by decide)
    · rw [List.length_replicate]
      decide
  constructor
  · cases hparse : parse defaultMaxStrDigits manyZeros with
    | error raised => rfl
    | ok point =>
      have hshort := ((parse_eq_ok_iff_winnow hfields).mp hparse).2
      rw [hasLongNumber_iff hfields] at hshort
      exact (hshort (Or.inl hlong)).elim
  · exact (winnow_fields_iff hfields).mpr ⟨rfl, hzeros, rfl, rfl, rfl, rfl⟩

end RocketSurgeon.Probes.Mirror
