import RocketSurgeon.Probes.Combinators
import RocketSurgeon.Probes.Language

/-!
# Printed probe points parse back

`ProbePoint::parse` undoes `Display` on the points whose names are identifiers and whose
numbers fit 32 bits, and accepts no others.  A printed field spells its value, and what spells a
value is read back; a number may be spelled in other ways than the printed one.
-/

namespace RocketSurgeon.Probes

open ProbePoint

variable {text : List Char} {name : NameOrWild} {num : NumOrWild} {point : ProbePoint}

/-! ## Well-formed points -/

def NameOrWild.WellFormed : NameOrWild → Prop
  | .wildcard => True
  | .name text => isIdentifier text

def NumOrWild.WellFormed : NumOrWild → Prop
  | .wildcard => True
  | .num value => value < 2 ^ 32

def ComponentSeg.WellFormed : ComponentSeg → Prop
  | .named name => isIdentifier name
  | .indexed name index => isIdentifier name ∧ index < 2 ^ 32

def ComponentOrWild.WellFormed : ComponentOrWild → Prop
  | .wildcard => True
  | .path segments => segments ≠ [] ∧ ∀ segment ∈ segments, segment.WellFormed

instance (name : NameOrWild) : Decidable name.WellFormed :=
  match name with
  | .wildcard => inferInstanceAs (Decidable True)
  | .name text => inferInstanceAs (Decidable (isIdentifier text = true))

instance (num : NumOrWild) : Decidable num.WellFormed :=
  match num with
  | .wildcard => inferInstanceAs (Decidable True)
  | .num value => inferInstanceAs (Decidable (value < 2 ^ 32))

instance (segment : ComponentSeg) : Decidable segment.WellFormed :=
  match segment with
  | .named name => inferInstanceAs (Decidable (isIdentifier name = true))
  | .indexed name index => inferInstanceAs (Decidable (isIdentifier name = true ∧ index < 2 ^ 32))

instance (component : ComponentOrWild) : Decidable component.WellFormed :=
  match component with
  | .wildcard => inferInstanceAs (Decidable True)
  | .path segments =>
      inferInstanceAs (Decidable (segments ≠ [] ∧ ∀ segment ∈ segments, segment.WellFormed))

/-- The points the grammar can name. -/
structure ProbePoint.WellFormed (point : ProbePoint) : Prop where
  model : point.model.WellFormed
  rank : point.rank.WellFormed
  layer : point.layer.WellFormed
  component : point.component.WellFormed
  callIndex : point.callIndex.WellFormed
  event : point.event.WellFormed

/-! ## Printed fields -/

lemma toList_toString (value : ℕ) : (toString value).toList = Nat.toDigits 10 value := by simp

lemma spellsNumber_toString (hvalue : value < 2 ^ 32) :
    SpellsNumber FitsU32 (toString value).toList value := by
  have hvalueOf : digitsValue (Nat.toDigits 10 value) = value :=
    Nat.ofDigitChars_toDigits (by decide) (by decide)
  rw [toList_toString]
  refine ⟨Nat.toDigits_ne_nil, fun char hchar => ?_, ?_, hvalueOf⟩
  · exact Nat.isDigit_of_mem_toDigits (by decide) (by decide) hchar
  · exact (congrArg (· < 2 ^ 32) hvalueOf).mpr hvalue

lemma NameOrWild.spelled_display (hname : name.WellFormed) :
    name.Spelled name.display.toList := by
  cases name with
  | wildcard => rfl
  | name text => exact ⟨hname, rfl⟩

lemma NumOrWild.spelled_display (hnum : num.WellFormed) :
    num.Spelled FitsU32 num.display.toList := by
  cases num with
  | wildcard => rfl
  | num value => exact spellsNumber_toString hnum

lemma ComponentSeg.spelled_display {seg : ComponentSeg} (hseg : seg.WellFormed) :
    seg.Spelled FitsU32 seg.display.toList := by
  cases seg with
  | named name => exact ⟨hseg, rfl⟩
  | indexed name idx =>
    refine ⟨hseg.1, (toString idx).toList, spellsNumber_toString hseg.2, ?_⟩
    simp [ComponentSeg.display]

lemma ComponentOrWild.spelled_display {comp : ComponentOrWild}
    (hcomp : comp.WellFormed) : comp.Spelled FitsU32 comp.display.toList := by
  cases comp with
  | wildcard => rfl
  | path segs =>
    obtain ⟨hne, hwell⟩ := hcomp
    refine ⟨hne, segs.map fun seg => seg.display.toList, ?_, ?_⟩
    · rw [List.forall₂_map_left_iff, List.forall₂_same]
      exact fun seg hmem => ComponentSeg.spelled_display (hwell seg hmem)
    · simp [ComponentOrWild.display, String.toList_intercalate, Function.comp_def]

lemma nameOrWild_append (hname : name.WellFormed) (hbehind : StopsAt isNameTail behind) :
    nameOrWild (name.display.toList ++ behind) = some (name, behind) :=
  reads_nameOrWild.complete (NameOrWild.spelled_display hname) hbehind

lemma numOrWild_append (hnum : num.WellFormed) (hbehind : StopsAt Char.isDigit behind) :
    numOrWild (num.display.toList ++ behind) = some (num, behind) :=
  reads_numOrWild.complete (NumOrWild.spelled_display hnum) hbehind

/-! ## Printed points -/

lemma toList_display (point : ProbePoint) :
    point.display.toList =
      point.model.display.toList ++ ':' :: (point.rank.display.toList ++ ':' ::
        (point.layer.display.toList ++ ':' :: (point.component.display.toList ++ ':' ::
          (point.callIndex.display.toList ++ ':' :: point.event.display.toList)))) := by
  simp [display]

lemma ProbePoint.spelled_display (hpoint : point.WellFormed) :
    point.Spelled FitsU32 point.display.toList :=
  ⟨_, _, _, _, _, _, NameOrWild.spelled_display hpoint.model, NumOrWild.spelled_display hpoint.rank,
    NumOrWild.spelled_display hpoint.layer, ComponentOrWild.spelled_display hpoint.component,
    NumOrWild.spelled_display hpoint.callIndex, NameOrWild.spelled_display hpoint.event,
    (toList_display point).trans (intercalate_colons _ _ _ _ _ _).symm⟩

lemma ProbePoint.parse_display (hpoint : point.WellFormed) :
    parse point.display = some point :=
  parse_eq_some_iff.mpr (ProbePoint.spelled_display hpoint)

/-! ## Parsed points are well-formed -/

lemma SpellsNumber.lt {value : ℕ} (hspells : SpellsNumber FitsU32 text value) :
    value < 2 ^ 32 :=
  hspells.value ▸ hspells.fits

lemma NameOrWild.Spelled.wellFormed (hspelled : name.Spelled text) : name.WellFormed := by
  cases name with
  | wildcard => trivial
  | name found => exact hspelled.1

lemma NumOrWild.Spelled.wellFormed (hspelled : num.Spelled FitsU32 text) : num.WellFormed := by
  cases num with
  | wildcard => trivial
  | num value => exact SpellsNumber.lt hspelled

lemma ComponentSeg.Spelled.wellFormed {seg : ComponentSeg}
    (hspelled : seg.Spelled FitsU32 text) : seg.WellFormed := by
  cases seg with
  | named name => exact hspelled.1
  | indexed name idx =>
    obtain ⟨hname, digits, hdigits, -⟩ := hspelled
    exact ⟨hname, hdigits.lt⟩

lemma ComponentOrWild.Spelled.wellFormed {comp : ComponentOrWild}
    (hspelled : comp.Spelled FitsU32 text) : comp.WellFormed := by
  cases comp with
  | wildcard => trivial
  | path segs =>
    obtain ⟨hne, texts, htexts, -⟩ := hspelled
    refine ⟨hne, fun seg hmem => ?_⟩
    obtain ⟨i, hi, rfl⟩ := List.getElem_of_mem hmem
    exact ComponentSeg.Spelled.wellFormed (htexts.get (htexts.length_eq ▸ hi) hi)

/-- Whatever the grammar accepts has identifiers for names and 32-bit numbers. -/
lemma ProbePoint.wellFormed_of_parse {input : String}
    (hparse : parse input = some point) : point.WellFormed := by
  obtain ⟨model, rank, layer, comp, callIndex, ev, hmodel, hrank, hlayer, hcomp,
    hcall, hevent, -⟩ := parse_eq_some_iff.mp hparse
  exact {
    model := hmodel.wellFormed
    rank := hrank.wellFormed
    layer := hlayer.wellFormed
    component := hcomp.wellFormed
    callIndex := hcall.wellFormed
    event := hevent.wellFormed }

/-- **Parsing and printing are inverse.**  The texts that are accepted are those of six fields of
the right kinds; a printed point parses back to itself, and what was parsed is printed as a text
that parses to the same point. -/
theorem Winnow.parse_display_inverse :
    (∀ text : String, (Winnow.parse text).isSome = true ↔ IsPoint FitsU32 text.toList) ∧
      (∀ point : ProbePoint, point.WellFormed → Winnow.parse point.display = some point) ∧
      ∀ (text : String) (point : ProbePoint), Winnow.parse text = some point →
        Winnow.parse point.display = some point := by
  refine ⟨fun text => ?_, fun point hpoint => ?_, fun text point hparse => ?_⟩
  · rw [Winnow.parse_eq, Option.isSome_iff_exists, isPoint_iff]
    exact exists_congr fun point => parse_eq_some_iff
  · rw [Winnow.parse_eq]
    exact ProbePoint.parse_display hpoint
  · rw [Winnow.parse_eq] at hparse ⊢
    exact ProbePoint.parse_display (ProbePoint.wellFormed_of_parse hparse)

/-- The projection of an expert. -/
def expertPoint : ProbePoint :=
  ⟨.name "mixtral", .wildcard, .num 8, .path [.indexed "experts" 3, .named "gate_proj"], .num 0,
    .name "output"⟩

theorem Winnow.parse_display_expertPoint :
    Winnow.parse expertPoint.display = some expertPoint :=
  Winnow.parse_display_inverse.2.1 expertPoint
    { model := by decide
      rank := trivial
      layer := by decide
      component := by decide
      callIndex := by decide
      event := by decide }

end RocketSurgeon.Probes
