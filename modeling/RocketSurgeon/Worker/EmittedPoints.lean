import RocketSurgeon.Probes.RoundTrip
import RocketSurgeon.Worker.Adapter
import RocketSurgeon.Worker.Inspect
import RocketSurgeon.Worker.Step

/-!
# The probe points of the components

A component of the map carries the text of its probe point, and the step loop builds the point
of a tick from the component's names.  The two are one point, and the text is read back as it,
exactly for the components whose canonical name is an identifier.  The canonical names that
the declarations give are identifiers; those of fused and raw components begin with an
underscore, so the grammar refuses their points and no target selects them.
-/

namespace RocketSurgeon.Worker

open Probes Protocol List

variable {modelType : String} {family : String} {canonical : String} (module : RawModule)

/-! ## The names of the declarations -/

lemma isIdentifier_modelType (hdeclared : familyDeclaration modelType = some decl) :
    isIdentifier modelType := by
  have hnames : ∀ decl ∈ families, ∀ name ∈ decl.modelTypes, isIdentifier name := by
    decide
  obtain ⟨hmem, htype⟩ := familyDeclaration_mem hdeclared
  exact hnames decl hmem modelType htype

/-- The canonical name of a mapping that gives one. -/
def ModuleMapping.directName : ModuleMapping → Option String
  | .direct canonical => some canonical
  | _ => none

lemma isIdentifier_canonical (hdeclared : familyDeclaration modelType = some decl)
    {module : RawModule} (hmapping : decl.mappingOf module = some (.direct canonical)) :
    isIdentifier canonical := by
  have hnames : ∀ decl ∈ families, ∀ entry ∈ decl.mappings, ∀ name ∈ entry.2.directName,
      isIdentifier name := by
    decide
  obtain ⟨matcher, hmem, -⟩ := mappingOf_mem hmapping
  exact hnames decl (familyDeclaration_mem hdeclared).1 _ hmem canonical rfl

lemma not_isIdentifier_underscore (hname : name.toList.head? = some '_') :
    ¬ isIdentifier name := by
  intro hidentifier
  have halpha := head_identifier hidentifier [] '_' (by simpa using hname)
  exact absurd halpha (by decide)

/-! ## The point of a component -/

/-- The point of the ticks of a component. -/
def componentPoint (family : String) (rank : ℕ) (comp : MappedComponent) : ProbePoint :=
  buildTickProbePoint family rank (comp.layerIndex.getD 0) comp.canonical comp.callIndex

lemma probePoint_mappedComponent (family : String) (rank : ℕ) (module : RawModule)
    (canonical : String) :
    (mappedComponent family rank module canonical).probePoint =
      (componentPoint family rank (mappedComponent family rank module canonical)).display := by
  have hself : ∀ text : String, toString text = text := fun _ => rfl
  apply String.toList_injective
  rw [toList_display]
  simp [mappedComponent, componentPoint, buildTickProbePoint, NameOrWild.display,
    NumOrWild.display, ComponentOrWild.display, ComponentSeg.display, hself]

lemma componentOrWild_underscore (rest : List Char) : componentOrWild ('_' :: rest) = none := by
  have hletter : ('_' :: rest).takeWhile Char.isAlpha = [] := by simp
  rfl

section

variable (hfamily : isIdentifier family) (hrank : rank < 2 ^ 32) (module : RawModule)

include hfamily hrank

/-- The point of a component whose name is an identifier is one the grammar can name. -/
lemma wellFormed_componentPoint (hcanonical : isIdentifier canonical) :
    (componentPoint family rank (mappedComponent family rank module canonical)).WellFormed where
  model := hfamily
  rank := hrank
  layer := layerIndex_getD_lt family rank module canonical
  component := by
    refine ⟨cons_ne_nil _ _, fun seg hseg => ?_⟩
    obtain rfl := mem_singleton.mp hseg
    exact hcanonical
  callIndex := by show (0 : ℕ) < 2 ^ 32; decide
  event := by show isIdentifier "output" = true; decide

/-- The grammar refuses the point of a component whose name begins with an underscore. -/
lemma parse_probePoint_underscore (hcanonical : canonical.toList.head? = some '_') :
    ProbePoint.parse (mappedComponent family rank module canonical).probePoint = none := by
  obtain ⟨rest, hrest⟩ : ∃ rest, canonical.toList = '_' :: rest :=
    ⟨_, eq_cons_of_mem_head? hcanonical⟩
  have hcolon : ∀ rest : List Char, StopsAt isNameTail (':' :: rest) := stopsAt_cons (by decide)
  have hnum : ∀ rest : List Char, StopsAt Char.isDigit (':' :: rest) := stopsAt_cons (by decide)
  have hmodel : (NameOrWild.name family).WellFormed := hfamily
  have hrank : (NumOrWild.num rank).WellFormed := hrank
  have hlayer : (NumOrWild.num ((extractLayerIndex module.path).getD 0)).WellFormed :=
    layerIndex_getD_lt family rank module canonical
  have hname : (ComponentOrWild.path [.named canonical]).display = canonical := by
    simp [ComponentOrWild.display, ComponentSeg.display]
  rw [probePoint_mappedComponent, ProbePoint.parse, toList_display]
  unfold probePoint
  simp only [componentPoint, buildTickProbePoint, mappedComponent, Option.bind_eq_bind,
    nameOrWild_append hmodel (hcolon _), numOrWild_append hrank (hnum _),
    numOrWild_append hlayer (hnum _), literal_cons, Option.bind_some, hname, hrest,
    cons_append, componentOrWild_underscore, Option.bind_none]

lemma probeMatchesTarget_underscore (hcanonical : canonical.toList.head? = some '_')
    (target : String) :
    probeMatchesTarget (mappedComponent family rank module canonical).probePoint target = false := by
  rw [probeMatchesTarget, parse_probePoint_underscore hfamily hrank module hcanonical]

end

lemma head_fused :
    (s!"_fused.{module.attrName}").toList.head? = some '_' := by
  show ("_fused." ++ module.attrName).toList.head? = some '_'
  simp

lemma head_raw : (s!"_raw.{module.path}").toList.head? = some '_' := by
  show ("_raw." ++ module.path).toList.head? = some '_'
  simp

lemma point_evaluateProbes (rank tickId : ℕ) (point : ProbePoint) (budget : ℕ)
    (probes : List (ProbeDefinition × ProbePoint)) (events : List ProbeFiredEvent)
    (hevents : ∀ ev ∈ events, ev.point = point.display) :
    ∀ ev ∈ (evaluateProbes rank tickId point budget probes events).1,
      ev.point = point.display := by
  induction probes generalizing events with
  | nil => exact hevents
  | cons probe rest ih =>
    rw [evaluateProbes]
    split_ifs with hmatch hbudget
    · exact hevents
    · apply ih
      intro ev hevent
      rcases mem_append.mp hevent with hevent | hevent
      · exact hevents ev hevent
      · obtain rfl := mem_singleton.mp hevent
        rfl
    · exact ih events hevents

/-- What is asked of the texts of a component: its probe point and those of the probes fired for
it are read back as the point of its ticks, and the target that names everything selects it. -/
structure EmitsItsPoint (family : String) (rank : ℕ) (comp : MappedComponent) : Prop where
  parse_probePoint :
    ProbePoint.parse comp.probePoint = some (componentPoint family rank comp)
  parse_fired : ∀ (tickId budget : ℕ) (probes : List (ProbeDefinition × ProbePoint)),
    ∀ event ∈ (evaluateProbes rank tickId (componentPoint family rank comp) budget probes []).1,
      ProbePoint.parse event.point = some (componentPoint family rank comp)
  selected : probeMatchesTarget comp.probePoint "*:*:*:*:*" = true

lemma isMatch_wildcards (point : ProbePoint) :
    point.isMatch ⟨.wildcard, .wildcard, .wildcard, .wildcard, .wildcard, .wildcard⟩ = true := by
  obtain ⟨model, rank, layer, component, callIndex, ev⟩ := point
  cases model <;> cases rank <;> cases layer <;> cases component <;> cases callIndex <;>
    cases ev <;> rfl

/-- The target that names everything selects whatever has a probe point. -/
lemma probeMatchesTarget_wildcards (hparse : ProbePoint.parse text = some point) :
    probeMatchesTarget text "*:*:*:*:*" = true := by
  have htarget : ProbePoint.parse (":".intercalate
      ([['*'], ['*'], ['*'], stripBracketSuffix ['*'], ['*'], ['*']].map String.ofList)) =
      some ⟨.wildcard, .wildcard, .wildcard, .wildcard, .wildcard, .wildcard⟩ := by
    decide
  have hfields : "*:*:*:*:*".toList.splitOn ':' = [['*'], ['*'], ['*'], ['*'], ['*']] := by
    decide
  unfold probeMatchesTarget
  rw [hparse, hfields]
  exact isMatch_wildcards point

lemma emitsItsPoint_iff_isIdentifier (hfamily : isIdentifier family) (hrank : rank < 2 ^ 32)
    (module : RawModule) (canonical : String) :
    EmitsItsPoint family rank (mappedComponent family rank module canonical) ↔
      isIdentifier canonical := by
  constructor
  · -- the parser only returns identifiers, and the point names the component by its canonical name
    intro hemits
    have hwell := ProbePoint.wellFormed_of_parse hemits.parse_probePoint
    exact hwell.component.2 _ mem_cons_self
  · intro hcanonical
    have hparse := ProbePoint.parse_display
      (wellFormed_componentPoint hfamily hrank module hcanonical)
    have hown : ProbePoint.parse (mappedComponent family rank module canonical).probePoint =
        some (componentPoint family rank (mappedComponent family rank module canonical)) := by
      rw [probePoint_mappedComponent]
      exact hparse
    refine ⟨hown, ?_, probeMatchesTarget_wildcards hown⟩
    intro tickId budget probes ev hevent
    rw [point_evaluateProbes rank tickId _ budget probes [] (by simp) ev hevent]
    exact hparse

/-- The canonical names of fused and raw components are no identifiers, those of the
declarations are. -/
lemma isIdentifier_canonical_iff (hdeclared : familyDeclaration modelType = some decl) {rank : ℕ}
    {module : RawModule} (hcomp : resolveModule decl modelType rank module = some comp) :
    isIdentifier comp.canonical ↔
      decl.mappingOf module ≠ none ∧ decl.mappingOf module ≠ some .fused := by
  obtain ⟨canonical, rfl, hdirect | ⟨hfused, rfl⟩ | ⟨hraw, rfl⟩⟩ := resolveModule_eq_some hcomp
  · rw [hdirect]
    exact ⟨fun _ => ⟨nofun, nofun⟩, fun _ => isIdentifier_canonical hdeclared hdirect⟩
  · rw [hfused]
    exact iff_of_false (not_isIdentifier_underscore (head_fused module)) fun hnot => hnot.2 rfl
  · rw [hraw]
    exact iff_of_false (not_isIdentifier_underscore (head_raw module)) fun hnot => hnot.1 rfl

/-- The components of a model all emit their points exactly if the declarations of its family
give every module a name of its own, or leave it out. -/
theorem emitsItsPoint_resolveWithContainers_iff {modules : List RawModule} {config : ModelConfig}
    {rank : ℕ} {decl : FamilyDeclaration}
    (hdeclared : familyDeclaration config.modelType = some decl)
    (hrank : rank < 2 ^ 32) :
    (∃ map containers, resolveWithContainers modules config rank = .ok (map, containers) ∧
      ∀ comp ∈ map.components, EmitsItsPoint map.modelFamily rank comp) ↔
    ∀ module ∈ modules, decl.mappingOf module ≠ none ∧ decl.mappingOf module ≠ some .fused := by
  have hemits : ∀ module comp, resolveModule decl config.modelType rank module = some comp →
      (EmitsItsPoint config.modelType rank comp ↔
        decl.mappingOf module ≠ none ∧ decl.mappingOf module ≠ some .fused) := by
    intro module comp hcomp
    rw [← isIdentifier_canonical_iff hdeclared hcomp]
    obtain ⟨canonical, rfl, -⟩ := resolveModule_eq_some hcomp
    exact emitsItsPoint_iff_isIdentifier (isIdentifier_modelType hdeclared) hrank module canonical
  constructor
  · rintro ⟨map, containers, hresolve, hall⟩ module hmodule
    obtain ⟨found, hfound, hfamily, hcomponents⟩ := resolveWithContainers_eq_ok hresolve
    obtain rfl : decl = found := Option.some.inj (hdeclared.symm.trans hfound)
    cases hcomp : resolveModule decl config.modelType rank module with
    | none =>
      -- only containers and skipped modules have no component
      unfold resolveModule at hcomp
      split at hcomp <;> simp_all
    | some comp =>
      refine (hemits module comp hcomp).mp ?_
      rw [← hfamily]
      refine hall comp ?_
      rw [hcomponents]
      exact mem_filterMap.mpr ⟨module, hmodule, hcomp⟩
  · intro hnamed
    obtain ⟨containers, hresolve⟩ := resolveWithContainers_of_family hdeclared modules rank
    refine ⟨_, containers, hresolve, fun comp hcomp => ?_⟩
    obtain ⟨module, hmodule, hcomp⟩ := mem_filterMap.mp hcomp
    exact (hemits module comp hcomp).mpr (hnamed module hmodule)

theorem emitsItsPoint_queryProjection :
    familyDeclaration "llama" = some llamaDeclaration ∧
      ((∃ map containers,
        resolveWithContainers [⟨"model.layers.3.self_attn.q_proj", "Linear", "q_proj"⟩]
          ⟨"llama", 4, 8, 64, none⟩ 1 = .ok (map, containers) ∧
        ∀ comp ∈ map.components, EmitsItsPoint map.modelFamily 1 comp) ↔
      ∀ module ∈ [(⟨"model.layers.3.self_attn.q_proj", "Linear", "q_proj"⟩ : RawModule)],
        llamaDeclaration.mappingOf module ≠ none ∧
          llamaDeclaration.mappingOf module ≠ some .fused) :=
  ⟨by decide +kernel, emitsItsPoint_resolveWithContainers_iff (by decide +kernel) (by decide)⟩

/-- The fused attention projection of GPT-2: its point does not parse, and the target that names
everything passes it over. -/
theorem not_emitsItsPoint_fusedAttention :
    ∃ map containers comp,
      resolveWithContainers [⟨"transformer.h.0.attn.c_attn", "Conv1D", "c_attn"⟩]
        ⟨"gpt2", 12, 12, 768, none⟩ 0 = .ok (map, containers) ∧
      comp ∈ map.components ∧ comp.probePoint = "gpt2:0:0:_fused.c_attn:0:output" ∧
      ProbePoint.parse comp.probePoint = none ∧
      probeMatchesTarget comp.probePoint "*:*:*:*:*" = false ∧
      ¬ EmitsItsPoint map.modelFamily 0 comp := by
  obtain ⟨containers, hresolve⟩ := @resolveWithContainers_of_family ⟨"gpt2", 12, 12, 768, none⟩
    gpt2Declaration (by decide +kernel) [⟨"transformer.h.0.attn.c_attn", "Conv1D", "c_attn"⟩] 0
  have hparse : ProbePoint.parse "gpt2:0:0:_fused.c_attn:0:output" = none := by decide +kernel
  refine ⟨_, containers, ⟨"transformer.h.0.attn.c_attn", "_fused.c_attn", some 0, 0,
    "gpt2:0:0:_fused.c_attn:0:output"⟩, hresolve, by decide +kernel, rfl, hparse, ?_, ?_⟩
  · decide +kernel
  · intro hemits
    exact Option.some_ne_none _ (hemits.parse_probePoint.symm.trans hparse)

end RocketSurgeon.Worker
