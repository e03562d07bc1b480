import RocketSurgeon.Worker.InterventionRuns
import RocketSurgeon.Worker.ModuleCalls
import RocketSurgeon.Worker.StepRun

/-!
# Targets that fire

The daemon looks at one field of a target: the leaf of the component's path has to be a known
name.  It reads that field from targets of four fields as well as from longer ones.  The worker
compares field by field, and has two readings of the component.  A target with a head index
fires for an attention projection under its plain name.  Any other target goes to Python, which
insists on five fields and compares the whole path, without an index, with the canonical name.

So of the targets that name a mapped component in the daemon's eyes those fire at its calls that
have five fields and a component that the worker reads as the same name.  And a recipe fires only at
calls that a step answers: the call that a step stops on is not offered to it again, and a pass that
is stepped through call by call fires nothing at all.
-/

namespace RocketSurgeon.Worker

open Lib Protocol Host

variable {T : Type}

/-! ## Fields without a bracket -/

/-- A text that does not look like one with an index. -/
def Plain (text : List Char) : Prop := text.getLast? ≠ some ']' ∧ text.getLast? ≠ some '\n'

lemma stripBracket_of_plain (isDecimal : Char → Bool) (hplain : Plain text) :
    stripBracket isDecimal text = text := by
  unfold stripBracket
  rw [if_neg hplain.2]
  dsimp only [List.length_nil]
  rw [Nat.sub_zero, List.take_length]
  split
  next rest hreverse =>
    refine absurd ?_ hplain.1
    rw [List.getLast?_eq_head?_reverse, hreverse]
    rfl
  · rfl

lemma plain_toString (n : ℕ) : Plain (toString n).toList := by
  have hdigit : ∀ c ∈ (toString n).toList, c.isDigit = true := by
    intro c hc
    have hdigits : c ∈ Nat.toDigits 10 n := by simpa using hc
    exact Nat.isDigit_of_mem_toDigits (by decide) (by decide) hdigits
  exact ⟨fun hlast => absurd (hdigit _ (List.mem_of_getLast? hlast)) (by decide),
    fun hlast => absurd (hdigit _ (List.mem_of_getLast? hlast)) (by decide)⟩

/-- What a field of a target has to be: a wildcard, or the value. -/
def Field (segment : List Char) (value : String) : Prop :=
  segment = ['*'] ∨ segment = value.toList

lemma segmentMatches_of_field {seg : List Char}
    (isDecimal : Char → Bool) (hplain : Plain value.toList)
    (hfield : Field seg value) :
    segmentMatches isDecimal seg value = true := by
  unfold segmentMatches
  rcases hfield with rfl | rfl
  · rfl
  · rw [stripBracket_of_plain isDecimal hplain]
    simp

/-! ## What a target names -/

/-- The target names the component in the daemon's eyes: the leaf of its component field is the
canonical name, and the other fields are wildcards or those of the component.  A target of four
fields has no rank; what follows the event is not looked at. -/
def NamesComponent (target family : String) (rank : ℕ) (comp : MappedComponent) : Prop :=
  let layer := toString (comp.layerIndex.getD 0)
  match target.toList.splitOn ':' with
  | [familyField, layerField, component, event] =>
      Field familyField family ∧ Field layerField layer ∧ Field event "output" ∧
        Daemon.componentLeaf component = comp.canonical.toList
  | familyField :: rankField :: layerField :: component :: event :: _ =>
      Field familyField family ∧ Field rankField (toString rank) ∧ Field layerField layer ∧
        Field event "output" ∧ Daemon.componentLeaf component = comp.canonical.toList
  | _ => False

/-- The worker reads the target as one for the component: it has five fields, and its component
is the canonical name, with or without a head index. -/
def Reaches (isDecimal : Char → Bool) (target canonical : String) : Prop :=
  match target.toList.splitOn ':' with
  | [_, _, _, component, _] =>
      match extractHeadIndex target with
      | .ok none => segmentMatches isDecimal component canonical = true
      | .ok (some _) =>
          component.takeWhile (· ≠ '[') = canonical.toList ∧ canonical ∈ attentionHeadComponents
      | .error _ => False
  | _ => False

section Fires

variable {isDecimal : Char → Bool} {point : InterventionPoint} {comp : MappedComponent}
  {recipe : InterventionRecipe}

/-- A point at which the output of the component is offered to the recipes. -/
structure AtComponent (point : InterventionPoint) (family : String) (rank : ℕ)
    (comp : MappedComponent) : Prop where
  family : point.family = family
  rank : point.rank = rank
  layer : point.layer = comp.layerIndex.getD 0
  component : point.component = comp.canonical
  event : point.event = "output"

lemma plain_of_mem_attention (hmem : canon ∈ attentionHeadComponents) :
    Plain canon.toList := by
  have hall : ∀ name ∈ attentionHeadComponents,
      name.toList.getLast? ≠ some ']' ∧ name.toList.getLast? ≠ some '\n' := by
    decide
  exact hall canon hmem

/-- With the other fields in place, the component decides. -/
lemma targetMatches_iff (hplain : Plain point.family.toList)
    (hfields : target.toList.splitOn ':' = [familyField, rankField, layerField, component, ev])
    (hfamily : Field familyField point.family) (hrank : Field rankField (toString point.rank))
    (hlayer : Field layerField (toString point.layer)) (hevent : Field ev "output")
    (houtput : point.event = "output") :
    targetMatches isDecimal target point = segmentMatches isDecimal component point.component := by
  unfold targetMatches
  rw [hfields, houtput]
  dsimp only
  rw [segmentMatches_of_field isDecimal hplain hfamily,
    segmentMatches_of_field isDecimal (plain_toString _) hrank,
    segmentMatches_of_field isDecimal (plain_toString _) hlayer,
    segmentMatches_of_field isDecimal (by unfold Plain; decide) hevent]
  simp

lemma applies_parsed (hcond : recipe.condition = none) (target : String) :
    applies isDecimal point (parsed { recipe with target }) =
      targetMatches isDecimal target point := by
  unfold applies parsed
  rw [hcond]
  rfl

/-! A recipe fires as one for a head or as one for the whole output, and which of the two is up to
its head index. -/

lemma not_firesAt_of_error (hextract : extractHeadIndex recipe.target = .error msg) :
    ¬ FiresAt isDecimal point recipe := by
  rintro (⟨head, hhead, -⟩ | ⟨hwhole, -⟩)
  · obtain ⟨target, idx, hsome, -⟩ := headRecipe_eq_some hhead
    cases hextract.symm.trans hsome
  · cases hextract.symm.trans (isWhole_iff.mp hwhole)

lemma firesAt_whole_iff (hextract : extractHeadIndex recipe.target = .ok none) :
    FiresAt isDecimal point recipe ↔ applies isDecimal point (parsed recipe) = true := by
  refine ⟨?_, fun happlies => .inr ⟨isWhole_iff.mpr hextract, happlies⟩⟩
  rintro (⟨head, hhead, -⟩ | ⟨-, happlies⟩)
  · obtain ⟨target, idx, hsome, -⟩ := headRecipe_eq_some hhead
    cases hextract.symm.trans hsome
  · exact happlies

lemma firesAt_head_iff (hextract : extractHeadIndex recipe.target = .ok (some (target, idx))) :
    FiresAt isDecimal point recipe ↔
      (point.component ∈ attentionHeadComponents ∧ targetComponent target = point.component) ∧
        applies isDecimal point (parsed { recipe with target }) = true := by
  constructor
  · rintro (⟨head, hhead, happlies⟩ | ⟨hwhole, -⟩)
    · obtain ⟨target', idx', hsome, rfl, hattention, hname⟩ := headRecipe_eq_some hhead
      cases hextract.symm.trans hsome
      exact ⟨⟨hattention, hname⟩, happlies⟩
    · cases hextract.symm.trans (isWhole_iff.mp hwhole)
  · rintro ⟨⟨hattention, hname⟩, happlies⟩
    refine .inl ⟨({ recipe with target }, idx), ?_, happlies⟩
    rw [headRecipe, hextract]
    exact if_pos ⟨hname ▸ hattention, hname⟩

/-- A target of fewer or more than five fields has no head index and matches nothing. -/
lemma not_firesAt_of_fields (hcond : recipe.condition = none)
    (hfields : ¬ ∃ familyField rankField layerField component ev,
      recipe.target.toList.splitOn ':' = [familyField, rankField, layerField, component, ev]) :
    ¬ FiresAt isDecimal point recipe := by
  have hnone : extractHeadIndex recipe.target = .ok none := by
    unfold extractHeadIndex
    split
    next hfive => exact absurd ⟨_, _, _, _, _, hfive⟩ hfields
    · rfl
  have hnever : targetMatches isDecimal recipe.target point = false := by
    unfold targetMatches
    split
    next hfive => exact absurd ⟨_, _, _, _, _, hfive⟩ hfields
    · rfl
  rw [firesAt_whole_iff hnone]
  intro happlies
  cases hnever.symm.trans ((applies_parsed hcond recipe.target).symm.trans happlies)

lemma firesAt_iff_reaches (hpoint : AtComponent point family rank comp)
    (hplain : Plain family.toList) (hcond : recipe.condition = none)
    (hnames : NamesComponent recipe.target family rank comp) :
    FiresAt isDecimal point recipe ↔ Reaches isDecimal recipe.target comp.canonical := by
  obtain ⟨rfl, rfl, hlayer, hcomponent, hevent⟩ := hpoint
  unfold NamesComponent at hnames
  rw [← hlayer] at hnames
  rw [← hcomponent]
  by_cases hfive : ∃ familyField rankField layerField component ev,
      recipe.target.toList.splitOn ':' = [familyField, rankField, layerField, component, ev]
  · obtain ⟨familyField, rankField, layerField, component, ev, hfields⟩ := hfive
    simp only [hfields] at hnames
    obtain ⟨hfamilyField, hrankField, hlayerField, heventField, -⟩ := hnames
    have happlies : ∀ target component,
        target.toList.splitOn ':' = [familyField, rankField, layerField, component, ev] →
        applies isDecimal point (parsed { recipe with target }) =
          segmentMatches isDecimal component point.component := fun target component hfields =>
      (applies_parsed hcond target).trans (targetMatches_iff hplain hfields hfamilyField
        hrankField hlayerField heventField hevent)
    unfold Reaches
    simp only [hfields]
    cases hextract : extractHeadIndex recipe.target with
    | error msg => exact iff_of_false (not_firesAt_of_error hextract) id
    | ok found =>
      cases found with
      | none =>
        have hwhole : applies isDecimal point (parsed recipe) = _ :=
          happlies recipe.target component hfields
        rw [firesAt_whole_iff hextract, hwhole]
      | some found =>
        obtain ⟨stripped, idx⟩ := found
        obtain ⟨_, _, _, _, _, _, hfields', -, -, hstripped⟩ := extractHeadIndex_eq_some hextract
        cases hfields.symm.trans hfields'
        have hname : targetComponent stripped =
            String.ofList (component.takeWhile (· ≠ '[')) := by
          rw [targetComponent, hstripped]
          rfl
        rw [firesAt_head_iff hextract, hname, happlies stripped _ hstripped]
        constructor
        · rintro ⟨⟨hattention, hbase⟩, -⟩
          exact ⟨by rw [← hbase, String.toList_ofList], hattention⟩
        · rintro ⟨hbase, hattention⟩
          rw [hbase, String.ofList_toList]
          exact ⟨⟨hattention, rfl⟩,
            segmentMatches_of_field isDecimal (plain_of_mem_attention hattention) (.inr rfl)⟩
  · refine iff_of_false (not_firesAt_of_fields hcond hfive) ?_
    unfold Reaches
    split
    next hfields => exact absurd ⟨_, _, _, _, _, hfields⟩ hfive
    · exact id

end Fires

/-! ## The worker's index -/

def MappedComponent.key (comp : MappedComponent) : String × ℕ := (comp.modulePath, comp.callIndex)

/-- The worker works on a model with this component map. -/
structure WorksOn (st : WorkerState T) (map : ComponentMap) (rank : ℕ) : Prop where
  componentMap : st.componentMap = some map
  componentIndex : st.componentIndex = WorkerState.buildComponentIndex map
  rank : st.rank = rank

/-- If no two components have the same key, the call of a component is found. -/
lemma lookupComponent_of_mem {st : WorkerState T} (hworks : WorksOn st map rank)
    (hkeys : (map.components.map MappedComponent.key).Nodup) (hcomp : comp ∈ map.components) :
    st.lookupComponent comp.modulePath comp.callIndex =
      (comp.canonical, comp.layerIndex.getD 0) := by
  obtain ⟨found, hfound, hpath, hcall, hlookup⟩ := exists_lookupComponent hworks.componentMap
    hworks.componentIndex ⟨comp, hcomp, rfl, rfl⟩
  have hsame : found = comp :=
    List.inj_on_of_nodup_map hkeys hfound hcomp (Prod.ext hpath hcall)
  rw [hlookup, hsame]

lemma nodup_keys_resolve
    (hresolved : resolveWithContainers modules cfg rank = .ok (map, conts))
    (hpaths : (modules.map RawModule.path).Nodup) :
    (map.components.map MappedComponent.key).Nodup := by
  obtain ⟨decl, -, -, hcomponents⟩ := resolveWithContainers_eq_ok hresolved
  rw [hcomponents, List.Nodup, List.pairwise_map, List.pairwise_filterMap]
  refine (List.pairwise_map.mp hpaths).imp ?_
  intro first second hne comp hcomp other hother heq
  obtain ⟨canon, rfl, -⟩ := resolveModule_eq_some hcomp
  obtain ⟨canon', rfl, -⟩ := resolveModule_eq_some hother
  exact hne (congrArg Prod.fst heq)

/-! ## Runs of steps -/

/-- The calls whose hooks a step answers if it returns, with their ticks. -/
def answeredIn (bridge : Bridge T) (st : WorkerState T) (req : HostStepRequest) :
    List (ℕ × HookEvent T) :=
  let resuming := (dropCompletedPass st).forwardPass.isSome
  let ready := (ensureForwardPass bridge (dropCompletedPass st) req.inputIds).2
  match ready.forwardPass with
  | none => []
  | some pass => delivered ready req pass.pending (startCursor ready pass resuming)

/-- The calls that the steps of a run answer.  A step that fails has no response, and what it has
answered is not counted. -/
def answeredAlong : WorkerState T → List (Bridge T × HostStepRequest) → List (HookEvent T)
  | _, [] => []
  | st, (bridge, req) :: rest =>
      let served := handleHostStep bridge st req
      (if served.1.isOk then (answeredIn bridge st req).map Prod.snd else []) ++
        answeredAlong served.2 rest

/-- The recipes that the responses of a run report as fired. -/
def firedAlong : WorkerState T → List (Bridge T × HostStepRequest) → List String
  | _, [] => []
  | st, (bridge, req) :: rest =>
      let served := handleHostStep bridge st req
      (served.1.toOption.map HostStepResponse.firedInterventions).getD [] ++ firedAlong served.2 rest

/-- A call is offered to a recipe that fires at it. -/
def FiresOn (isDecimal : Char → Bool) (st : WorkerState T) (recipe : InterventionRecipe)
    (event : HookEvent T) : Prop :=
  event.output.isSome ∧ FiresAt isDecimal (pointOf st event) recipe

lemma OnlyPass.pointOf (honly : OnlyPass st st') (event : HookEvent T) :
    Worker.pointOf st' event = Worker.pointOf st event := by
  obtain ⟨_, _, _, _, _, rfl⟩ := honly
  rfl

/-- A step that returns reports what fires at the calls that it answers. -/
lemma fired_handleHostStep (hok : (handleHostStep bridge st req).1 = .ok response) :
    ∃ st', OnlyPass st st' ∧
      (∀ tick ∈ answeredIn bridge st req, ∃ reaction,
        react bridge st' req.modelHandle req.interventions tick.1 tick.2 = .ok reaction) ∧
      response.firedInterventions = (answeredIn bridge st req).flatMap
        (firedAt bridge st' req.modelHandle req.interventions) := by
  rcases handleHostStep_cases bridge st req with ⟨-, message, hrejected⟩ | ⟨-, -, hran⟩
  · rw [hrejected] at hok
    cases hok
  replace hok := (hran response).mp hok
  have honly := (onlyPass_dropCompletedPass st).trans
    (onlyPass_ensureForwardPass bridge _ req.inputIds)
  unfold runStepLoop at hok
  unfold answeredIn
  rcases hensured : ensureForwardPass bridge (dropCompletedPass st) req.inputIds with
    ⟨message | _, st'⟩
  · simp only [hensured] at hok
    cases hok
  · simp only [hensured] at hok honly ⊢
    refine ⟨st', honly, ?_⟩
    cases hpass : st'.forwardPass with
    | none =>
      simp only [hpass] at hok
      cases hok
    | some pass =>
      simp only [hpass] at hok ⊢
      rcases finishStep_cases st' pass _ with ⟨message, -, hfinish⟩ | ⟨hresult, hfinish⟩ |
        ⟨hresult, hfinish⟩
      · rw [hfinish] at hok
        cases hok
      all_goals
        rw [hfinish] at hok
        cases hok
        exact allFired_stepLoop bridge st' req.modelHandle hresult (StepCursor.Alike.refl _)

/-- What a run has to be for its reports to tell of a recipe: Python is the embedded engine, the
recipe is registered, and no other one has its id. -/
def Registers (isDecimal : Char → Bool) (recipe : InterventionRecipe)
    (request : Bridge T × HostStepRequest) : Prop :=
  (∃ ops base, request.1 = withEngine isDecimal ops base) ∧ recipe ∈ request.2.interventions ∧
    (request.2.interventions.map fun other => other.id.getD "").Nodup

/-- A run of steps reports a recipe exactly if the recipe fires at a call that the run answers. -/
lemma mem_firedAlong_iff {requests : List (Bridge T × HostStepRequest)}
    (hregisters : ∀ request ∈ requests, Registers isDecimal recipe request) :
    recipe.id.getD "" ∈ firedAlong st requests ↔
      ∃ event ∈ answeredAlong st requests, FiresOn isDecimal st recipe event := by
  induction requests generalizing st with
  | nil => simp [firedAlong, answeredAlong]
  | cons request rest ih =>
    obtain ⟨bridge, req⟩ := request
    obtain ⟨⟨⟨ops, base, hengine⟩, hrecipe, hids⟩, hrest⟩ := List.forall_mem_cons.mp hregisters
    obtain rfl : bridge = withEngine isDecimal ops base := hengine
    have honly := @onlyPass_handleHostStep T (withEngine isDecimal ops base) st req
    have hbehind := @ih (handleHostStep (withEngine isDecimal ops base) st req).2 hrest
    simp only [FiresOn, honly.pointOf] at hbehind
    rw [firedAlong, answeredAlong, List.mem_append, hbehind]
    simp only [List.mem_append, or_and_right, exists_or]
    refine or_congr ?_ Iff.rfl
    cases hserved : (handleHostStep (withEngine isDecimal ops base) st req).1 with
    | error message => simp [Except.toOption, Except.isOk, Except.toBool]
    | ok response =>
      obtain ⟨st', honly', hreturns, hfired⟩ := fired_handleHostStep hserved
      have hmem : recipe.id.getD "" ∈ response.firedInterventions ↔
          ∃ tick ∈ answeredIn (withEngine isDecimal ops base) st req,
            FiresOn isDecimal st recipe tick.2 := by
        rw [hfired, List.mem_flatMap]
        refine exists_congr fun tick => and_congr_right fun htick => ?_
        obtain ⟨reaction, hreact⟩ := hreturns tick htick
        rw [firedAt, hreact]
        show recipe.id.getD "" ∈ reactionFired reaction ↔ _
        unfold FiresOn
        cases houtput : tick.2.output with
        | none =>
          rw [react_of_output_eq_none _ _ houtput] at hreact
          cases hreact
          simp [reactionFired]
        | some output =>
          rw [(fired_react (List.ne_nil_of_mem hrecipe) houtput hreact).2, mem_tickFired,
            ← honly'.pointOf]
          constructor
          · rintro ⟨other, hother, hfires, hid⟩
            obtain rfl := List.inj_on_of_nodup_map hids hother hrecipe hid
            exact ⟨rfl, hfires⟩
          · rintro ⟨-, hfires⟩
            exact ⟨recipe, hrecipe, hfires, rfl⟩
      show recipe.id.getD "" ∈ response.firedInterventions ↔ ∃ event,
        event ∈ (answeredIn (withEngine isDecimal ops base) st req).map Prod.snd ∧ _
      rw [hmem]
      simp only [List.mem_map, exists_exists_and_eq_and]

lemma plain_modelFamily
    (hresolved : resolveWithContainers modules cfg rank = .ok (map, conts)) :
    Plain map.modelFamily.toList := by
  obtain ⟨decl, hdeclared, hfamily, -⟩ := resolveWithContainers_eq_ok hresolved
  obtain ⟨hmem, htype⟩ := familyDeclaration_mem hdeclared
  have hall : ∀ decl ∈ families, ∀ name ∈ decl.modelTypes,
      name.toList.getLast? ≠ some ']' ∧ name.toList.getLast? ≠ some '\n' := by
    decide
  rw [hfamily]
  exact hall decl hmem _ htype

/-- The worker offers a call of the component to the recipes at the component's point. -/
lemma atComponent_pointOf (hkeys : (map.components.map MappedComponent.key).Nodup)
    (hcomp : comp ∈ map.components) {st : WorkerState T} (hworks : WorksOn st map rank)
    {event : HookEvent T} (hcall : (event.path, event.callIndex) = comp.key) :
    AtComponent (pointOf st event) map.modelFamily rank comp := by
  obtain ⟨hpath, hindex⟩ := Prod.mk.inj hcall
  unfold pointOf
  rw [hpath, hindex, lookupComponent_of_mem hworks hkeys hcomp]
  refine ⟨?_, hworks.rank, rfl, rfl, rfl⟩
  show st.family = map.modelFamily
  rw [WorkerState.family, hworks.componentMap]

/-- **Who fires.**  A run of steps reports a recipe without a condition, whose target names a mapped
component, exactly if the worker reads the target as one for the component and a step answers a call
of it, or if the recipe fires at an answered call of something else. -/
theorem fired_along_iff (isDecimal : Char → Bool) {modules : List RawModule}
    {config : ModelConfig} {rank : ℕ} {map : ComponentMap} {containers : List String}
    (hresolve : resolveWithContainers modules config rank = .ok (map, containers))
    (hpaths : (modules.map RawModule.path).Nodup) (order : List (String × ℕ))
    {comp : MappedComponent} (hcomp : comp ∈ map.components) {recipe : InterventionRecipe}
    (hcondition : recipe.condition = none)
    (hnames : NamesComponent recipe.target map.modelFamily rank comp) {st : WorkerState T}
    (hworks : WorksOn st (applyExecutionOrder map order) rank)
    {requests : List (Bridge T × HostStepRequest)}
    (hregisters : ∀ request ∈ requests, Registers isDecimal recipe request) :
    recipe.id.getD "" ∈ firedAlong st requests ↔
      (Reaches isDecimal recipe.target comp.canonical ∧ ∃ event ∈ answeredAlong st requests,
        (event.path, event.callIndex) = comp.key ∧ event.output.isSome) ∨
      ∃ event ∈ answeredAlong st requests, (event.path, event.callIndex) ≠ comp.key ∧
        FiresOn isDecimal st recipe event := by
  have hplain : Plain map.modelFamily.toList := plain_modelFamily hresolve
  have hperm : (applyExecutionOrder map order).components.Perm map.components :=
    List.perm_insertionSort _ _
  have hkeys : ((applyExecutionOrder map order).components.map MappedComponent.key).Nodup :=
    (hperm.map _).nodup_iff.mpr (nodup_keys_resolve hresolve hpaths)
  have hmem : comp ∈ (applyExecutionOrder map order).components := hperm.mem_iff.mpr hcomp
  have hfires : ∀ event : HookEvent T, (event.path, event.callIndex) = comp.key →
      (FiresAt isDecimal (pointOf st event) recipe ↔
        Reaches isDecimal recipe.target comp.canonical) := fun event hcall =>
    firesAt_iff_reaches (atComponent_pointOf hkeys hmem hworks hcall) hplain hcondition hnames
  rw [mem_firedAlong_iff hregisters]
  constructor
  · rintro ⟨event, hevent, hfiresOn⟩
    by_cases hcall : (event.path, event.callIndex) = comp.key
    · exact .inl ⟨(hfires event hcall).mp hfiresOn.2, event, hevent, hcall, hfiresOn.1⟩
    · exact .inr ⟨event, hevent, hcall, hfiresOn⟩
  · rintro (⟨hreaches, event, hevent, hcall, houtput⟩ | ⟨event, hevent, -, hfiresOn⟩)
    · exact ⟨event, hevent, houtput, (hfires event hcall).mpr hreaches⟩
    · exact ⟨event, hevent, hfiresOn⟩

/-- A model of one module. -/
def projection : RawModule := ⟨"model.layers.0.self_attn.o_proj", "Linear", "o_proj"⟩

def projectionConfig : ModelConfig := ⟨"llama", 1, 2, 4, none⟩

def projectionMap : ComponentMap where
  components := [mappedComponent "llama" 0 projection "o_proj"]
  modelFamily := "llama"

instance (segment : List Char) (value : String) : Decidable (Field segment value) :=
  inferInstanceAs (Decidable (_ ∨ _))

instance (target family : String) (rank : ℕ) (comp : MappedComponent) :
    Decidable (NamesComponent target family rank comp) := by
  unfold NamesComponent
  split <;> infer_instance

instance (isDecimal : Char → Bool) (target canonical : String) :
    Decidable (Reaches isDecimal target canonical) := by
  unfold Reaches
  split
  · split <;> infer_instance
  · infer_instance

/-- A worker that has attached it. -/
def projectionWorker : WorkerState (List ℚ) :=
  attachModel WorkerState.new { twoLayerModel with componentMap := projectionMap }

/-- Steps of the given counts over it, with a head doubled. -/
def projectionSteps (counts : List ℕ) : List (Bridge (List ℚ) × HostStepRequest) :=
  counts.map fun count => (Host.withEngine Char.isDigit rowOps { rowSlices with
    forward := fun _ => [.hook ⟨projection.path, 0, some [1, 2, 3, 4]⟩, .forwardComplete] },
    { longStep [doubling "o_proj[1]"] with count })

lemma registers_projectionSteps (counts : List ℕ) :
    ∀ request ∈ projectionSteps counts, Registers Char.isDigit (doubling "o_proj[1]") request := by
  intro request hrequest
  obtain ⟨count, -, rfl⟩ := List.mem_map.mp hrequest
  exact ⟨⟨_, _, rfl⟩, List.mem_singleton_self _, List.nodup_singleton _⟩

/-- A step through the pass answers the call and fires the recipe; a step that stops on the call and
one that goes on to the end do not. -/
theorem fired_along_projection :
    "double" ∈ firedAlong projectionWorker (projectionSteps [2]) ∧
      "double" ∉ firedAlong projectionWorker (projectionSteps [1, 1]) := by
  have hiff := fun counts => @fired_along_iff (List ℚ) Char.isDigit [projection] projectionConfig 0
    projectionMap [] (by decide +kernel) (by decide) [] _ (List.mem_singleton_self _)
    (doubling "o_proj[1]") rfl (by decide +kernel) projectionWorker ⟨rfl, rfl, rfl⟩ _
    (registers_projectionSteps counts)
  have hanswered : answeredAlong projectionWorker (projectionSteps [1, 1]) = [] := by decide +kernel
  refine ⟨(hiff [2]).mpr (.inl ⟨by decide +kernel, ⟨projection.path, 0, some [1, 2, 3, 4]⟩,
    by decide +kernel, rfl, rfl⟩), fun hfired => ?_⟩
  rcases (hiff [1, 1]).mp hfired with ⟨-, event, hevent, -⟩ | ⟨event, hevent, -⟩
  · rw [hanswered] at hevent
    cases hevent
  · rw [hanswered] at hevent
    cases hevent

/-- Accepted targets of four and of six fields, and one with a dotted path, for the module's
output: a pass over the module returns and fires none of them. -/
theorem not_fires_projection :
    resolveWithContainers [projection] projectionConfig 0 = .ok (projectionMap, []) ∧
    ∀ target ∈ ["llama:0:o_proj:output", "llama:0:0:o_proj:output:0",
        "llama:0:0:self_attn.o_proj:output"],
      let recipe := { doubling "o_proj" with target }
      let ended := stepLoop rowBridge
        (attachModel WorkerState.new { twoLayerModel with componentMap := projectionMap }) 1
        (longStep [recipe]) [.hook ⟨projection.path, 0, some [1, 2, 3, 4]⟩, .forwardComplete]
        (freshCursor (List ℚ))
      Daemon.validateRecipe recipe = .ok () ∧
        NamesComponent target "llama" 0 (mappedComponent "llama" 0 projection "o_proj") ∧
        ended.result = .ok true ∧ ended.cursor.allFired = [] := by
  decide +kernel

end RocketSurgeon.Worker
