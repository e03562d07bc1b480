import RocketSurgeon.Probes.Grammar

/-!
# The language of probe points

Which texts spell a value of each kind, without a parser: an identifier spells itself, a number is
spelled by digits, and a path by its segments with dots between them.  A number may be spelled in
several ways, since leading zeros count for nothing; which digits are read at all is the parameter
`fits`.

Each parser of the grammar reads the texts that spell its values and no others (`Reads`), as long
as the character behind could not belong to the field; the fields of a point are separated by
colons, which belong to none.
-/

namespace RocketSurgeon.Probes

open List

/-! ## What stands behind a field -/

/-- The characters an identifier may have behind its first letter. -/
def isNameTail (char : Char) : Bool := char.isAlphanum || char = '_' || char = '-'

/-- What may not stand behind a segment: the rest of its name, or an index. -/
def isSegmentTail (char : Char) : Bool := isNameTail char || char = '['

/-- What may not stand behind a path. -/
def isPathTail (char : Char) : Bool := isSegmentTail char || char = '.'

/-- The text does not go on with a character of the given kind. -/
def StopsAt (p : Char → Bool) (behind : List Char) : Prop := ∀ char ∈ behind.head?, p char = false

lemma StopsAt.mono (hbehind : StopsAt q behind) (hpq : ∀ char, p char → q char) :
    StopsAt p behind := by
  intro char hchar
  have hstop := hbehind char hchar
  by_contra hp
  rw [Bool.not_eq_false] at hp
  rw [hpq char hp] at hstop
  exact absurd hstop (by decide)

lemma stopsAt_cons (hchar : p char = false) (behind : List Char) :
    StopsAt p (char :: behind) := by
  rintro first ⟨⟩
  exact hchar

lemma stopsAt_nil (p : Char → Bool) : StopsAt p [] := by
  rintro char ⟨⟩

lemma takeWhile_append_of_stopsAt (htext : ∀ char ∈ text, p char = true)
    (hbehind : StopsAt p behind) :
    (text ++ behind).takeWhile p = text := by
  rw [takeWhile_append_of_pos htext]
  cases behind with
  | nil => simp
  | cons char behind => simp [hbehind char rfl]

lemma dropWhile_append_of_stopsAt (htext : ∀ char ∈ text, p char = true)
    (hbehind : StopsAt p behind) :
    (text ++ behind).dropWhile p = behind := by
  rw [dropWhile_append_of_pos htext]
  cases behind with
  | nil => rfl
  | cons char behind => simp [hbehind char rfl]

/-- Reading the characters of a narrower kind first changes nothing. -/
lemma takeWhile_append_takeWhile_dropWhile (hpq : ∀ char, p char → q char) (text : List Char) :
    text.takeWhile p ++ (text.dropWhile p).takeWhile q = text.takeWhile q := by
  induction text with
  | nil => rfl
  | cons char text ih =>
    by_cases hp : p char
    · simp [hp, hpq char hp, ih]
    · simp [hp]

lemma dropWhile_dropWhile (hpq : ∀ char, p char → q char) (text : List Char) :
    (text.dropWhile p).dropWhile q = text.dropWhile q := by
  induction text with
  | nil => rfl
  | cons char text ih =>
    by_cases hp : p char
    · simp [hp, hpq char hp, ih]
    · simp [hp]

lemma literal_of_ne (hhead : ∀ first ∈ input.head?, first ≠ char) :
    literal char input = none := by
  cases input with
  | nil => rfl
  | cons first rest => simp [literal, hhead first rfl]

@[simp] lemma literal_cons (char : Char) (rest : List Char) :
    literal char (char :: rest) = some ((), rest) := by
  simp [literal]

lemma literal_eq_some_iff :
    literal char input = some (value, rest) ↔ input = char :: rest := by
  cases input with
  | nil | cons first behind => simp [literal]

lemma literal_of_stopsAt (hchar : p char = true) (hstops : StopsAt p input) :
    literal char input = none := by
  refine literal_of_ne fun first hfirst hsame => ?_
  rw [hsame] at hfirst
  exact Bool.false_ne_true ((hstops char hfirst).symm.trans hchar)

/-! ## Identifiers -/

/-- A letter, then letters, digits, `_` and `-`. -/
def isIdentifier (name : String) : Bool :=
  match name.toList with
  | [] => false
  | char :: rest => char.isAlpha && rest.all isNameTail

lemma isNameTail_of_isAlpha (char : Char) (halpha : char.isAlpha) : isNameTail char := by
  simp [isNameTail, Char.isAlphanum, halpha]

lemma identifier_eq (input : List Char) :
    identifier input =
      if input.takeWhile Char.isAlpha = [] then none
      else some (String.ofList (input.takeWhile isNameTail), input.dropWhile isNameTail) := by
  rw [← takeWhile_append_takeWhile_dropWhile isNameTail_of_isAlpha input,
    ← dropWhile_dropWhile isNameTail_of_isAlpha input]
  rfl

lemma isNameTail_of_mem (hname : isIdentifier name) :
    ∀ char ∈ name.toList, isNameTail char = true := by
  intro char hchar
  unfold isIdentifier at hname
  cases htext : name.toList with
  | nil => simp [htext] at hchar
  | cons first rest =>
    rw [htext] at hname hchar
    obtain ⟨halpha, hrest⟩ : first.isAlpha = true ∧ ∀ other ∈ rest, isNameTail other = true := by
      simpa using hname
    rcases mem_cons.mp hchar with rfl | hchar
    · exact isNameTail_of_isAlpha char halpha
    · exact hrest char hchar

lemma not_mem_of_isIdentifier (hname : isIdentifier name) (hchar : isNameTail char = false) :
    char ∉ name.toList := by
  intro hmem
  rw [isNameTail_of_mem hname char hmem] at hchar
  cases hchar

lemma head_identifier (hname : isIdentifier name) (behind : List Char) :
    ∀ first ∈ (name.toList ++ behind).head?, first.isAlpha = true := by
  unfold isIdentifier at hname
  cases htext : name.toList with
  | nil => simp [htext] at hname
  | cons char rest =>
    rw [htext] at hname
    rintro first ⟨⟩
    simp only [Bool.and_eq_true] at hname
    exact hname.1

lemma identifier_append (hname : isIdentifier name) (hbehind : StopsAt isNameTail behind) :
    identifier (name.toList ++ behind) = some (name, behind) := by
  have htail := isNameTail_of_mem hname
  have hfirst : (name.toList ++ behind).takeWhile Char.isAlpha ≠ [] := by
    have hhead := head_identifier hname behind
    cases htext : name.toList ++ behind with
    | nil =>
      have hempty : name.toList = [] := (append_eq_nil_iff.mp htext).1
      simp [isIdentifier, hempty] at hname
    | cons char rest => simp [hhead char (by rw [htext]; rfl)]
  rw [identifier_eq, if_neg hfirst, takeWhile_append_of_stopsAt htail hbehind,
    dropWhile_append_of_stopsAt htail hbehind, String.ofList_toList]

lemma isIdentifier_of_identifier (hparse : identifier input = some (name, rest)) :
    isIdentifier name := by
  rw [identifier_eq] at hparse
  split_ifs at hparse with hletter
  obtain ⟨rfl, -⟩ := Prod.mk.inj (Option.some.inj hparse)
  unfold isIdentifier
  rw [String.toList_ofList]
  cases input with
  | nil => exact absurd rfl hletter
  | cons char input =>
    have halpha : char.isAlpha = true := by
      by_contra hchar
      exact hletter (by simp [hchar])
    have htail : isNameTail char = true := isNameTail_of_isAlpha char halpha
    rw [takeWhile_cons_of_pos htail]
    simp only [halpha, Bool.true_and, all_eq_true]
    exact all_eq_true.mp all_takeWhile

/-! ## Spelling -/

def SpellsName (text : List Char) (name : String) : Prop :=
  isIdentifier name ∧ text = name.toList

-- The digits that can be read.
variable (fits : List Char → Prop)

/-- Digits that are read, and their value. -/
structure SpellsNumber (text : List Char) (value : ℕ) : Prop where
  nonempty : text ≠ []
  digits : ∀ char ∈ text, char.isDigit = true
  fits : fits text
  value : digitsValue text = value

def NameOrWild.Spelled (text : List Char) : NameOrWild → Prop
  | .wildcard => text = ['*']
  | .name found => SpellsName text found

def NumOrWild.Spelled (text : List Char) : NumOrWild → Prop
  | .wildcard => text = ['*']
  | .num value => SpellsNumber fits text value

/-- A segment is spelled by its name, and its index by digits in brackets. -/
def ComponentSeg.Spelled (text : List Char) : ComponentSeg → Prop
  | .named name => SpellsName text name
  | .indexed name index => isIdentifier name ∧ ∃ digits, SpellsNumber fits digits index ∧
      text = name.toList ++ '[' :: (digits ++ [']'])

def ComponentOrWild.Spelled (text : List Char) : ComponentOrWild → Prop
  | .wildcard => text = ['*']
  | .path segments => segments ≠ [] ∧ ∃ texts,
      List.Forall₂ (ComponentSeg.Spelled fits) texts segments ∧ text = ['.'].intercalate texts

/-- Six fields with colons between them. -/
def ProbePoint.Spelled (text : List Char) (point : ProbePoint) : Prop :=
  ∃ model rank layer component callIndex event,
    point.model.Spelled model ∧ point.rank.Spelled fits rank ∧ point.layer.Spelled fits layer ∧
      point.component.Spelled fits component ∧ point.callIndex.Spelled fits callIndex ∧
      point.event.Spelled event ∧
      text = [':'].intercalate [model, rank, layer, component, callIndex, event]

/-! ## Reading -/

/-- A parser reads what spells its values, in front of a text that stops them, and nothing else. -/
structure Reads {α : Type} (parser : List Char → Option (α × List Char))
    (Spells : List Char → α → Prop) (stop : Char → Bool) : Prop where
  complete : ∀ {text value behind}, Spells text value → StopsAt stop behind →
    parser (text ++ behind) = some (value, behind)
  sound : ∀ {input value rest}, parser input = some (value, rest) →
    ∃ text, Spells text value ∧ input = text ++ rest

lemma reads_identifier : Reads identifier SpellsName isNameTail where
  complete := by
    rintro text name behind ⟨hname, rfl⟩ hbehind
    exact identifier_append hname hbehind
  sound := by
    intro input name rest hparse
    refine ⟨name.toList, ⟨isIdentifier_of_identifier hparse, rfl⟩, ?_⟩
    rw [identifier_eq] at hparse
    split_ifs at hparse
    cases hparse
    rw [String.toList_ofList, takeWhile_append_dropWhile]

/-- The digits whose value fits 32 bits. -/
def FitsU32 (digits : List Char) : Prop := digitsValue digits < 2 ^ 32

lemma reads_nonNegInteger : Reads nonNegInteger (SpellsNumber FitsU32) Char.isDigit where
  complete := by
    intro text value behind hspells hbehind
    unfold nonNegInteger
    simp only [takeWhile_append_of_stopsAt hspells.digits hbehind,
      dropWhile_append_of_stopsAt hspells.digits hbehind]
    rw [if_neg hspells.nonempty, if_pos (show digitsValue text < 2 ^ 32 from hspells.fits),
      hspells.value]
  sound := by
    intro input value rest hparse
    unfold nonNegInteger at hparse
    dsimp only at hparse
    split_ifs at hparse with hdigits hvalue
    cases hparse
    refine ⟨input.takeWhile Char.isDigit, ⟨hdigits, ?_, hvalue, rfl⟩, ?_⟩
    · exact all_eq_true.mp all_takeWhile
    · rw [takeWhile_append_dropWhile]

lemma Reads.orWild {α β : Type} {parser : List Char → Option (α × List Char)}
    {Spells : List Char → α → Prop} {stop : Char → Bool} (hreads : Reads parser Spells stop)
    {field : List Char → Option (β × List Char)} {Spelled : List Char → β → Prop} {wild : β}
    {make : α → β}
    (hfield : ∀ input, field input =
      match literal '*' input with
      | some (_, rest) => some (wild, rest)
      | none => (parser input).map fun (value, rest) => (make value, rest))
    (hspelled : ∀ text value, Spelled text value ↔
      text = ['*'] ∧ value = wild ∨ ∃ found, Spells text found ∧ value = make found)
    (hstar : ∀ text found behind, Spells text found → literal '*' (text ++ behind) = none) :
    Reads field Spelled stop where
  complete := by
    intro text value behind hspells hbehind
    rw [hfield]
    rcases (hspelled text value).mp hspells with ⟨rfl, rfl⟩ | ⟨found, hfound, rfl⟩
    · rw [singleton_append, literal_cons]
    · rw [hstar text found behind hfound, hreads.complete hfound hbehind]
      rfl
  sound := by
    intro input value rest hparse
    rw [hfield] at hparse
    cases hread : literal '*' input with
    | some star =>
      rw [hread] at hparse
      cases hparse
      exact ⟨['*'], (hspelled _ _).mpr (.inl ⟨rfl, rfl⟩), literal_eq_some_iff.mp hread⟩
    | none =>
      rw [hread] at hparse
      obtain ⟨⟨found, behind⟩, hfound, heq⟩ := Option.map_eq_some_iff.mp hparse
      cases heq
      obtain ⟨text, hspells, rfl⟩ := hreads.sound hfound
      exact ⟨text, (hspelled _ _).mpr (.inr ⟨found, hspells, rfl⟩), rfl⟩

lemma literal_star_of_isAlpha (hhead : ∀ first ∈ input.head?, first.isAlpha = true) :
    literal '*' input = none := by
  refine literal_of_ne fun first hfirst hstar => ?_
  have halpha := hhead first hfirst
  rw [hstar] at halpha
  exact absurd halpha (by decide)

lemma literal_star_of_spellsNumber (hspells : SpellsNumber fits text value) (behind : List Char) :
    literal '*' (text ++ behind) = none := by
  cases text with
  | nil => exact absurd rfl hspells.nonempty
  | cons char text =>
    refine literal_of_ne fun first hfirst hstar => ?_
    cases hfirst
    have hdigit := hspells.digits char mem_cons_self
    rw [hstar] at hdigit
    exact absurd hdigit (by decide)

lemma NameOrWild.spelled_iff (text : List Char) (name : NameOrWild) :
    name.Spelled text ↔
      text = ['*'] ∧ name = .wildcard ∨ ∃ found, SpellsName text found ∧ name = .name found := by
  cases name with
  | wildcard | name found => simp [NameOrWild.Spelled]

lemma NumOrWild.spelled_iff (text : List Char) (num : NumOrWild) :
    num.Spelled fits text ↔
      text = ['*'] ∧ num = .wildcard ∨ ∃ found, SpellsNumber fits text found ∧ num = .num found := by
  cases num with
  | wildcard | num found => simp [NumOrWild.Spelled]

lemma reads_nameOrWild :
    Reads nameOrWild (fun text name => name.Spelled text) isNameTail :=
  reads_identifier.orWild (fun _ => rfl) NameOrWild.spelled_iff
    fun _ _ behind ⟨hname, htext⟩ => htext ▸ literal_star_of_isAlpha (head_identifier hname behind)

lemma reads_numOrWild :
    Reads numOrWild (fun text num => num.Spelled FitsU32 text) Char.isDigit :=
  reads_nonNegInteger.orWild (fun _ => rfl) (NumOrWild.spelled_iff FitsU32)
    fun _ _ behind hspells => literal_star_of_spellsNumber FitsU32 hspells behind

/-! ## Components -/

lemma bracketedIndex_eq_some_iff :
    bracketedIndex input = some (idx, rest) ↔
      ∃ digits, SpellsNumber FitsU32 digits idx ∧ input = '[' :: (digits ++ ']' :: rest) := by
  constructor
  · intro hparse
    simp only [bracketedIndex, Option.bind_eq_bind, Option.bind_eq_some_iff, Prod.exists] at hparse
    obtain ⟨_, afterOpen, hopen, value, afterDigits, hvalue, _, afterClose, hclose, heq⟩ := hparse
    cases heq
    obtain ⟨digits, hspells, rfl⟩ := reads_nonNegInteger.sound hvalue
    exact ⟨digits, hspells, by rw [literal_eq_some_iff.mp hopen, literal_eq_some_iff.mp hclose]⟩
  · rintro ⟨digits, hspells, rfl⟩
    have hdigits : nonNegInteger (digits ++ ']' :: rest) = some (idx, ']' :: rest) :=
      reads_nonNegInteger.complete hspells (stopsAt_cons (by decide) rest)
    simp only [bracketedIndex, literal_cons, Option.bind_eq_bind, Option.bind_some]
    rw [hdigits]
    simp

lemma reads_componentSeg :
    Reads componentSeg (fun text seg => seg.Spelled FitsU32 text) isSegmentTail where
  complete := by
    intro text seg behind hspells hbehind
    have hname : StopsAt isNameTail behind :=
      hbehind.mono fun char hchar => by simp [isSegmentTail, hchar]
    unfold componentSeg
    cases seg with
    | named name =>
      have hindex : bracketedIndex behind = none := by
        have hopen : literal '[' behind = none := literal_of_stopsAt (by decide) hbehind
        simp [bracketedIndex, hopen]
      rw [reads_identifier.complete hspells hname]
      simp [hindex]
    | indexed name idx =>
      obtain ⟨hidentifier, digits, hdigits, rfl⟩ := hspells
      have htext : name.toList ++ '[' :: (digits ++ [']']) ++ behind =
          name.toList ++ '[' :: (digits ++ ']' :: behind) := by
        simp
      have hindex : bracketedIndex ('[' :: (digits ++ ']' :: behind)) = some (idx, behind) :=
        bracketedIndex_eq_some_iff.mpr ⟨digits, hdigits, rfl⟩
      rw [htext, identifier_append hidentifier (stopsAt_cons (by decide) _)]
      simp only [Option.bind_eq_bind, Option.bind_some, hindex]
      rfl
  sound := by
    intro input seg rest hparse
    simp only [componentSeg, Option.bind_eq_bind, Option.bind_eq_some_iff] at hparse
    obtain ⟨⟨name, behind⟩, hname, hparse⟩ := hparse
    obtain ⟨text, hspells, rfl⟩ := reads_identifier.sound hname
    split at hparse
    next idx behind hindex =>
      cases hparse
      obtain ⟨digits, hdigits, rfl⟩ := bracketedIndex_eq_some_iff.mp hindex
      refine ⟨_, ⟨hspells.1, digits, hdigits, rfl⟩, ?_⟩
      rw [hspells.2]
      simp
    · cases hparse
      exact ⟨text, hspells, rfl⟩

/-- Segments with a dot in front of each. -/
def behindDots (texts : List (List Char)) : List Char := texts.flatMap ('.' :: ·)

lemma intercalate_dots (text : List Char) (texts : List (List Char)) :
    ['.'].intercalate (text :: texts) = text ++ behindDots texts := by
  induction texts generalizing text with
  | nil => simp [behindDots]
  | cons other texts ih =>
    rw [intercalate_cons_cons, ih other]
    simp [behindDots]

/-- No segment goes on into the ones behind it. -/
lemma stopsAt_behindDots (hbehind : StopsAt isPathTail behind) (texts : List (List Char)) :
    StopsAt isSegmentTail (behindDots texts ++ behind) := by
  cases texts with
  | nil => exact hbehind.mono fun char hchar => by simp [isPathTail, hchar]
  | cons text texts => exact stopsAt_cons (by decide) _

lemma moreSegments_append (hbehind : StopsAt isPathTail behind)
    (hspells : List.Forall₂ (ComponentSeg.Spelled FitsU32) texts segs)
    (hfuel : segs.length ≤ fuel) :
    moreSegments fuel (behindDots texts ++ behind) = (segs, behind) := by
  induction hspells generalizing fuel with
  | nil =>
    have hdot : literal '.' behind = none := literal_of_stopsAt (by decide) hbehind
    cases fuel with
    | zero => rfl
    | succ fuel => simp [behindDots, moreSegments, hdot]
  | @cons text seg texts segs hseg _ ih =>
    obtain ⟨fuel, rfl⟩ : ∃ smaller, fuel = smaller + 1 :=
      ⟨fuel - 1, by rw [length_cons] at hfuel; omega⟩
    have htext : behindDots (text :: texts) ++ behind =
        '.' :: (text ++ (behindDots texts ++ behind)) := by
      simp [behindDots]
    rw [htext, moreSegments, literal_cons]
    simp only
    rw [reads_componentSeg.complete hseg (stopsAt_behindDots hbehind texts)]
    simp only [ih (Nat.le_of_succ_le_succ hfuel)]

lemma length_le_behindDots (texts : List (List Char)) :
    texts.length ≤ (behindDots texts).length := by
  induction texts with
  | nil => exact Nat.zero_le _
  | cons text texts ih =>
    simp only [behindDots, flatMap_cons, length_append, length_cons] at ih ⊢
    omega

lemma moreSegments_sound (fuel : ℕ) (input : List Char) :
    ∃ texts, List.Forall₂ (ComponentSeg.Spelled FitsU32) texts (moreSegments fuel input).1 ∧
      input = behindDots texts ++ (moreSegments fuel input).2 := by
  induction fuel generalizing input with
  | zero => exact ⟨[], .nil, rfl⟩
  | succ fuel ih =>
    rw [moreSegments]
    split
    · exact ⟨[], .nil, rfl⟩
    next behind hdot =>
      split
      · exact ⟨[], .nil, rfl⟩
      next seg rest hseg =>
        obtain ⟨text, hspells, rfl⟩ := reads_componentSeg.sound hseg
        obtain ⟨texts, hmore, hrest⟩ := ih rest
        refine ⟨text :: texts, .cons hspells hmore, ?_⟩
        rw [literal_eq_some_iff.mp hdot]
        conv_lhs => rw [hrest]
        simp [behindDots]

lemma head_segment {seg : ComponentSeg} (hspells : seg.Spelled fits text)
    (behind : List Char) :
    ∀ first ∈ (text ++ behind).head?, first.isAlpha = true := by
  cases seg with
  | named name =>
    rw [hspells.2]
    exact head_identifier hspells.1 behind
  | indexed name idx =>
    obtain ⟨hname, digits, -, rfl⟩ := hspells
    rw [append_assoc]
    exact head_identifier hname _

lemma reads_componentOrWild :
    Reads componentOrWild (fun text component => component.Spelled FitsU32 text) isPathTail where
  complete := by
    intro text component behind hspells hbehind
    unfold componentOrWild
    cases component with
    | wildcard =>
      obtain rfl : text = ['*'] := hspells
      rw [singleton_append, literal_cons]
    | path segs =>
      obtain ⟨hne, texts, htexts, rfl⟩ := hspells
      cases htexts with
      | nil => exact absurd rfl hne
      | @cons text seg texts segs hseg htexts =>
        have hfuel : segs.length ≤ (behindDots texts ++ behind).length := by
          rw [length_append, ← htexts.length_eq]
          exact Nat.le_add_right_of_le (length_le_behindDots texts)
        rw [intercalate_dots, append_assoc,
          literal_star_of_isAlpha (head_segment FitsU32 hseg _)]
        rw [reads_componentSeg.complete hseg (stopsAt_behindDots hbehind texts)]
        simp only
        rw [moreSegments_append hbehind htexts hfuel]
  sound := by
    intro input component rest hparse
    unfold componentOrWild at hparse
    split at hparse
    next star behind hstar =>
      cases hparse
      exact ⟨['*'], rfl, literal_eq_some_iff.mp hstar⟩
    · split at hparse
      · cases hparse
      next seg behind hseg =>
        obtain ⟨text, hspells, rfl⟩ := reads_componentSeg.sound hseg
        obtain ⟨texts, hmore, hrest⟩ := moreSegments_sound behind.length behind
        cases hparse
        refine ⟨_, ⟨cons_ne_nil _ _, text :: texts, .cons hspells hmore, rfl⟩, ?_⟩
        conv_lhs => rw [hrest]
        rw [intercalate_dots, append_assoc]

/-! ## Separators -/

lemma SpellsName.not_mem {text : List Char} (hspells : SpellsName text name)
    (hchar : isNameTail char = false) : char ∉ text := by
  rw [hspells.2]
  exact not_mem_of_isIdentifier hspells.1 hchar

lemma isNameTail_of_isDigit (hdigit : char.isDigit = true) :
    isNameTail char = true := by
  simp [isNameTail, Char.isAlphanum, hdigit]

section Separators

variable {fits} {text : List Char} {char : Char}

lemma SpellsNumber.not_mem {value : ℕ} (hspells : SpellsNumber fits text value)
    (hchar : isNameTail char = false) : char ∉ text := by
  intro hmem
  rw [isNameTail_of_isDigit (hspells.digits char hmem)] at hchar
  cases hchar

lemma ComponentSeg.Spelled.not_mem {seg : ComponentSeg} (hspelled : seg.Spelled fits text)
    (hchar : isSegmentTail char = false) (hclose : char ≠ ']') : char ∉ text := by
  obtain ⟨htail, hopen⟩ : isNameTail char = false ∧ char ≠ '[' := by
    simpa [isSegmentTail] using hchar
  cases seg with
  | named name => exact SpellsName.not_mem hspelled htail
  | indexed name idx =>
    obtain ⟨hname, digits, hdigits, rfl⟩ := hspelled
    simp [not_mem_of_isIdentifier hname htail, hopen, hclose, hdigits.not_mem htail]

lemma NameOrWild.Spelled.colon_not_mem {name : NameOrWild} (hspelled : name.Spelled text) :
    ':' ∉ text := by
  rcases (NameOrWild.spelled_iff text name).mp hspelled with ⟨rfl, -⟩ | ⟨found, hfound, -⟩
  · decide
  · exact hfound.not_mem (by decide)

lemma NumOrWild.Spelled.colon_not_mem {num : NumOrWild} (hspelled : num.Spelled fits text) :
    ':' ∉ text := by
  rcases (NumOrWild.spelled_iff fits text num).mp hspelled with ⟨rfl, -⟩ | ⟨found, hfound, -⟩
  · decide
  · exact hfound.not_mem (by decide)

lemma ComponentOrWild.Spelled.colon_not_mem {component : ComponentOrWild}
    (hspelled : component.Spelled fits text) : ':' ∉ text := by
  cases component with
  | wildcard =>
    obtain rfl : text = ['*'] := hspelled
    decide
  | path segs =>
    obtain ⟨-, texts, htexts, rfl⟩ := hspelled
    have hsegs : ∀ part ∈ texts, ':' ∉ part := by
      intro part hpart
      obtain ⟨i, hi, rfl⟩ := getElem_of_mem hpart
      exact (htexts.get hi (htexts.length_eq ▸ hi)).not_mem (by decide) (by decide)
    cases texts with
    | nil => exact not_mem_nil
    | cons part texts =>
      obtain ⟨hpart, htexts⟩ := forall_mem_cons.mp hsegs
      rw [intercalate_dots]
      simp only [behindDots, mem_append, mem_flatMap, mem_cons, not_or,
        not_exists, not_and]
      exact ⟨hpart, fun other hother => ⟨by decide, htexts other hother⟩⟩

/-- The fields of a text that spells a point are what its colons separate. -/
lemma ProbePoint.Spelled.fields {point : ProbePoint} (hspelled : point.Spelled fits text) :
    ∃ model rank layer component callIndex event,
      text.splitOn ':' = [model, rank, layer, component, callIndex, event] ∧
      point.model.Spelled model ∧ point.rank.Spelled fits rank ∧ point.layer.Spelled fits layer ∧
      point.component.Spelled fits component ∧ point.callIndex.Spelled fits callIndex ∧
      point.event.Spelled event := by
  obtain ⟨model, rank, layer, component, callIndex, event, hmodel, hrank, hlayer, hcomp,
    hcall, hevent, rfl⟩ := hspelled
  have hcolons : ∀ field ∈ [model, rank, layer, component, callIndex, event], ':' ∉ field := by
    simp [hmodel.colon_not_mem, hrank.colon_not_mem, hlayer.colon_not_mem,
      hcomp.colon_not_mem, hcall.colon_not_mem, hevent.colon_not_mem]
  exact ⟨model, rank, layer, component, callIndex, event,
    splitOn_intercalate ':' hcolons (by simp), hmodel, hrank, hlayer, hcomp, hcall,
    hevent⟩

end Separators

/-! ## Accepted texts -/

def IsNameField (text : List Char) : Prop := text = ['*'] ∨ isIdentifier (String.ofList text)

def IsNumber (text : List Char) : Prop :=
  text ≠ [] ∧ (∀ char ∈ text, char.isDigit = true) ∧ fits text

def IsNumberField (text : List Char) : Prop := text = ['*'] ∨ IsNumber fits text

/-- An identifier, with a number in brackets behind it or without. -/
def IsSegment (text : List Char) : Prop :=
  ∃ name : String, isIdentifier name ∧
    (text = name.toList ∨ ∃ digits, IsNumber fits digits ∧
      text = name.toList ++ '[' :: (digits ++ [']']))

/-- A wildcard, or segments with dots between them. -/
def IsComponentField (text : List Char) : Prop :=
  text = ['*'] ∨ ∀ segment ∈ text.splitOn '.', IsSegment fits segment

/-- Six fields with colons between them. -/
def IsPoint (text : List Char) : Prop :=
  match text.splitOn ':' with
  | [model, rank, layer, component, callIndex, event] =>
      IsNameField model ∧ IsNumberField fits rank ∧ IsNumberField fits layer ∧
        IsComponentField fits component ∧ IsNumberField fits callIndex ∧ IsNameField event
  | _ => False

section Accepted

variable {fits} {text : List Char}

lemma isNameField_iff : IsNameField text ↔ ∃ name : NameOrWild, name.Spelled text := by
  constructor
  · rintro (rfl | hname)
    · exact ⟨.wildcard, rfl⟩
    · exact ⟨.name _, hname, String.toList_ofList.symm⟩
  · rintro ⟨name, hspelled⟩
    rcases (NameOrWild.spelled_iff text name).mp hspelled with ⟨rfl, -⟩ | ⟨found, ⟨hfound, rfl⟩, -⟩
    · exact .inl rfl
    · exact .inr (by rwa [String.ofList_toList])

lemma isNumber_iff : IsNumber fits text ↔ ∃ value, SpellsNumber fits text value :=
  ⟨fun ⟨hne, hdigits, hfits⟩ => ⟨digitsValue text, hne, hdigits, hfits, rfl⟩,
    fun ⟨_, hspells⟩ => ⟨hspells.nonempty, hspells.digits, hspells.fits⟩⟩

lemma isNumberField_iff :
    IsNumberField fits text ↔ ∃ num : NumOrWild, num.Spelled fits text := by
  constructor
  · rintro (rfl | hnumber)
    · exact ⟨.wildcard, rfl⟩
    · obtain ⟨value, hspells⟩ := isNumber_iff.mp hnumber
      exact ⟨.num value, hspells⟩
  · rintro ⟨num, hspelled⟩
    rcases (NumOrWild.spelled_iff fits text num).mp hspelled with ⟨rfl, -⟩ | ⟨found, hfound, -⟩
    · exact .inl rfl
    · exact .inr (isNumber_iff.mpr ⟨found, hfound⟩)

lemma isSegment_iff : IsSegment fits text ↔ ∃ seg : ComponentSeg, seg.Spelled fits text := by
  constructor
  · rintro ⟨name, hname, rfl | ⟨digits, hdigits, rfl⟩⟩
    · exact ⟨.named name, hname, rfl⟩
    · obtain ⟨idx, hindex⟩ := isNumber_iff.mp hdigits
      exact ⟨.indexed name idx, hname, digits, hindex, rfl⟩
  · rintro ⟨seg, hspelled⟩
    cases seg with
    | named name => exact ⟨name, hspelled.1, .inl hspelled.2⟩
    | indexed name idx =>
      obtain ⟨hname, digits, hdigits, rfl⟩ := hspelled
      exact ⟨name, hname, .inr ⟨digits, isNumber_iff.mpr ⟨idx, hdigits⟩, rfl⟩⟩

lemma exists_forall₂_of_forall {α β : Type} {R : α → β → Prop} {xs : List α}
    (hxs : ∀ x ∈ xs, ∃ y, R x y) : ∃ ys, List.Forall₂ R xs ys := by
  induction xs with
  | nil => exact ⟨[], .nil⟩
  | cons x xs ih =>
    obtain ⟨⟨y, hy⟩, hxs⟩ := forall_mem_cons.mp hxs
    obtain ⟨ys, hys⟩ := ih hxs
    exact ⟨y :: ys, .cons hy hys⟩

lemma isComponentField_iff :
    IsComponentField fits text ↔ ∃ component : ComponentOrWild, component.Spelled fits text := by
  constructor
  · rintro (rfl | hsegs)
    · exact ⟨.wildcard, rfl⟩
    · obtain ⟨segs, hspelled⟩ := exists_forall₂_of_forall fun seg hmem =>
        isSegment_iff.mp (hsegs seg hmem)
      refine ⟨.path segs, ?_, _, hspelled, (intercalate_splitOn '.').symm⟩
      rintro rfl
      exact splitOn_ne_nil _ _ (forall₂_nil_right_iff.mp hspelled)
  · rintro ⟨component, hspelled⟩
    cases component with
    | wildcard => exact .inl hspelled
    | path segs =>
      obtain ⟨hne, texts, htexts, rfl⟩ := hspelled
      have hspells : ∀ part ∈ texts, ∃ seg : ComponentSeg, seg.Spelled fits part := by
        intro part hpart
        obtain ⟨i, hi, rfl⟩ := getElem_of_mem hpart
        exact ⟨_, htexts.get hi (htexts.length_eq ▸ hi)⟩
      have hdots : ∀ part ∈ texts, '.' ∉ part := fun part hpart =>
        (hspells part hpart).choose_spec.not_mem (by decide) (by decide)
      have htextsNe : texts ≠ [] := by
        rintro rfl
        exact hne (forall₂_nil_left_iff.mp htexts)
      right
      rw [splitOn_intercalate '.' hdots htextsNe]
      exact fun part hpart => isSegment_iff.mpr (hspells part hpart)

lemma isPoint_iff : IsPoint fits text ↔ ∃ point : ProbePoint, point.Spelled fits text := by
  constructor
  · intro hpoint
    unfold IsPoint at hpoint
    split at hpoint
    next model rank layer component callIndex event hfields =>
      obtain ⟨hmodel, hrank, hlayer, hcomp, hcall, hevent⟩ := hpoint
      obtain ⟨modelValue, hmodel⟩ := isNameField_iff.mp hmodel
      obtain ⟨rankValue, hrank⟩ := isNumberField_iff.mp hrank
      obtain ⟨layerValue, hlayer⟩ := isNumberField_iff.mp hlayer
      obtain ⟨componentValue, hcomp⟩ := isComponentField_iff.mp hcomp
      obtain ⟨callIndexValue, hcall⟩ := isNumberField_iff.mp hcall
      obtain ⟨eventValue, hevent⟩ := isNameField_iff.mp hevent
      refine ⟨⟨modelValue, rankValue, layerValue, componentValue, callIndexValue, eventValue⟩,
        model, rank, layer, component, callIndex, event, hmodel, hrank, hlayer, hcomp,
        hcall, hevent, ?_⟩
      rw [← hfields, intercalate_splitOn]
    · exact hpoint.elim
  · rintro ⟨point, hspelled⟩
    obtain ⟨model, rank, layer, component, callIndex, event, hfields, hmodel, hrank, hlayer,
      hcomp, hcall, hevent⟩ := hspelled.fields
    unfold IsPoint
    rw [hfields]
    exact ⟨isNameField_iff.mpr ⟨_, hmodel⟩, isNumberField_iff.mpr ⟨_, hrank⟩,
      isNumberField_iff.mpr ⟨_, hlayer⟩, isComponentField_iff.mpr ⟨_, hcomp⟩,
      isNumberField_iff.mpr ⟨_, hcall⟩, isNameField_iff.mpr ⟨_, hevent⟩⟩

end Accepted

/-! ## Points -/

lemma intercalate_colons (model rank layer component callIndex event : List Char) :
    [':'].intercalate [model, rank, layer, component, callIndex, event] =
      model ++ ':' :: (rank ++ ':' :: (layer ++ ':' :: (component ++ ':' ::
        (callIndex ++ ':' :: event)))) := by
  simp [intercalate]

/-- A point is parsed from the texts that spell it. -/
lemma ProbePoint.parse_eq_some_iff :
    ProbePoint.parse text = some point ↔ point.Spelled FitsU32 text.toList := by
  constructor
  · intro hparse
    unfold ProbePoint.parse at hparse
    split at hparse
    next found hfound =>
      cases hparse
      simp only [probePoint, Option.bind_eq_bind, Option.bind_eq_some_iff, Prod.exists] at hfound
      obtain ⟨model, _, hmodel, _, _, hcolon₁, rank, _, hrank, _, _, hcolon₂, layer, _, hlayer,
        _, _, hcolon₃, component, _, hcomp, _, _, hcolon₄, callIndex, _, hcall,
        _, _, hcolon₅, event, _, hevent, heq⟩ := hfound
      cases heq
      obtain ⟨modelText, hmodelText, htext⟩ := reads_nameOrWild.sound hmodel
      obtain ⟨rankText, hrankText, rfl⟩ := reads_numOrWild.sound hrank
      obtain ⟨layerText, hlayerText, rfl⟩ := reads_numOrWild.sound hlayer
      obtain ⟨componentText, hcomponentText, rfl⟩ := reads_componentOrWild.sound hcomp
      obtain ⟨callIndexText, hcallIndexText, rfl⟩ := reads_numOrWild.sound hcall
      obtain ⟨eventText, heventText, rfl⟩ := reads_nameOrWild.sound hevent
      refine ⟨modelText, rankText, layerText, componentText, callIndexText, eventText, hmodelText,
        hrankText, hlayerText, hcomponentText, hcallIndexText, heventText, ?_⟩
      rw [htext, literal_eq_some_iff.mp hcolon₁, literal_eq_some_iff.mp hcolon₂,
        literal_eq_some_iff.mp hcolon₃, literal_eq_some_iff.mp hcolon₄,
        literal_eq_some_iff.mp hcolon₅, intercalate_colons, append_nil]
    · cases hparse
  · rintro ⟨model, rank, layer, component, callIndex, event, hmodel, hrank, hlayer, hcomp,
      hcall, hevent, htext⟩
    have hname : ∀ rest : List Char, StopsAt isNameTail (':' :: rest) := stopsAt_cons (by decide)
    have hnum : ∀ rest : List Char, StopsAt Char.isDigit (':' :: rest) := stopsAt_cons (by decide)
    have hpath : ∀ rest : List Char, StopsAt isPathTail (':' :: rest) := stopsAt_cons (by decide)
    have hend : nameOrWild event = some (point.event, []) := by
      simpa using reads_nameOrWild.complete hevent (stopsAt_nil _)
    have hpoint : probePoint text.toList = some (point, []) := by
      rw [htext, intercalate_colons]
      unfold probePoint
      simp only [Option.bind_eq_bind, reads_nameOrWild.complete hmodel (hname _),
        reads_numOrWild.complete hrank (hnum _), reads_numOrWild.complete hlayer (hnum _),
        reads_componentOrWild.complete hcomp (hpath _),
        reads_numOrWild.complete hcall (hnum _), hend, literal_cons, Option.bind_some]
      rfl
    rw [ProbePoint.parse, hpoint]

end RocketSurgeon.Probes
