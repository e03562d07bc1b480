import RocketSurgeon.Daemon.Dispatch
import RocketSurgeon.Lib.Text
import RocketSurgeon.Worker.EmittedPoints

/-!
# Discovering probe points

`rocket/discover` answers from the catalogue the session filled in when the model was
attached, without asking the worker.  A pattern of five fields selects entries; where it
selects none, patterns with the component names of the catalogue are suggested instead.

The catalogue names components by dotted paths (`attn.q_proj`) and lists some that no module
computes (`attn.scores`, `mlp`, `residual_post`), while the worker's components have plain
names.  An entry can be inspected under the name it is advertised with only if it is the
language-model head.
-/

namespace RocketSurgeon.Daemon

open Protocol Probes List

variable {entry : ProbePointEntry}

/-! ## Patterns -/

inductive PatternSeg
  | wild
  | lit (text : String)
  deriving DecidableEq, Repr

def PatternSeg.parse (raw : List Char) : PatternSeg :=
  if raw = ['*'] then .wild else .lit (String.ofList raw)

def PatternSeg.isMatch : PatternSeg → String → Bool
  | .wild, _ => true
  | .lit text, target => text = target

/-- The rank of a pattern is read and not kept. -/
structure DiscoverPattern where
  family : PatternSeg
  layer : PatternSeg
  component : PatternSeg
  event : PatternSeg
  deriving DecidableEq, Repr

def DiscoverPattern.parse (pattern : String) : Option DiscoverPattern :=
  match pattern.toList.splitOn ':' with
  | [family, rank, layer, component, event] =>
      if [family, rank, layer, component, event].any List.isEmpty then none
      else some {
        family := PatternSeg.parse family
        layer := PatternSeg.parse layer
        component := PatternSeg.parse component
        event := PatternSeg.parse event }
  | _ => none

def DiscoverPattern.isMatch (pattern : DiscoverPattern) (entry : ProbePointEntry) : Bool :=
  pattern.family.isMatch entry.family && pattern.layer.isMatch (toString entry.layer) &&
    pattern.component.isMatch entry.canonical && pattern.event.isMatch entry.event

/-! ## Discovery -/

structure DiscoverMatch where
  canonical : String
  tensorShape : List ℕ
  aliases : List String
  deriving DecidableEq, Repr

structure DiscoverResponse where
  found : List DiscoverMatch
  suggestions : List String
  deriving DecidableEq, Repr

/-- The entries a pattern selects, by layer and name. -/
def Session.selectedEntries (session : Session) (pattern : DiscoverPattern) :
    List ProbePointEntry :=
  (session.catalog.filter pattern.isMatch).insertionSort fun first second =>
    first.layer < second.layer ∨
      first.layer = second.layer ∧ ¬ second.canonical < first.canonical

/-- The pattern with its component replaced by each name of the catalogue under the same family
and event, on the same layer if that is asked for. -/
def Session.collectCanonicals (session : Session) (pattern : String) (parsed : DiscoverPattern)
    (respectLayer : Bool) : List String :=
  let canonicals := (session.catalog.filter fun entry =>
    parsed.family.isMatch entry.family &&
      (!respectLayer || parsed.layer.isMatch (toString entry.layer)) &&
      parsed.event.isMatch entry.event).map ProbePointEntry.canonical
  let sorted := canonicals.insertionSort fun first second => ¬ second < first
  (sorted.destutter (· ≠ ·)).map fun canonical =>
    ":".intercalate (((pattern.toList.splitOn ':').set 3 canonical.toList).map String.ofList)

def Session.suggestPatterns (session : Session) (pattern : String) (parsed : DiscoverPattern) :
    List String :=
  let strict := session.collectCanonicals pattern parsed true
  if strict = [] then session.collectCanonicals pattern parsed false else strict

/-- `Session::discover`. -/
def Session.discover (session : Session) (pattern : String) : Except ErrorData DiscoverResponse :=
  match session.requireStopped "rocket/discover" with
  | .error data => .error data
  | .ok () =>
      match DiscoverPattern.parse pattern with
      | none =>
          .error {
            errorCode := .invalidParams
            suggestion := s!"Discover pattern '{pattern}' is not a 5-segment " ++
              "'family:rank:layer:component:event' string"
            currentState := some session.state.status
            validStates := none }
      | some parsed =>
          let found := (session.selectedEntries parsed).map fun entry =>
            ⟨entry.canonical, entry.tensorShape, entry.aliases⟩
          .ok {
            found
            suggestions :=
              if found = [] then session.suggestPatterns pattern parsed else [] }

lemma mem_selectedEntries {sess : Session} :
    entry ∈ sess.selectedEntries pattern ↔
      entry ∈ sess.catalog ∧ pattern.isMatch entry = true := by
  unfold Session.selectedEntries
  rw [(perm_insertionSort _ _).mem_iff, mem_filter]

/-! ## Targets of five fields -/

/-- The target that names an entry on rank 0. -/
def ProbePointEntry.target (entry : ProbePointEntry) : String :=
  s!"{entry.family}:0:{entry.layer}:{entry.canonical}:{entry.event}"

lemma splitOn_target (hfamily : ':' ∉ entry.family.toList)
    (hcanonical : ':' ∉ entry.canonical.toList) (hevent : ':' ∉ entry.event.toList) :
    entry.target.toList.splitOn ':' =
      [entry.family.toList, ['0'], (toString entry.layer).toList, entry.canonical.toList,
        entry.event.toList] := by
  have hself : ∀ text : String, toString text = text := fun _ => rfl
  have htext : entry.target.toList = [':'].intercalate
      [entry.family.toList, ['0'], (toString entry.layer).toList, entry.canonical.toList,
        entry.event.toList] := by
    simp [ProbePointEntry.target, hself]
  have hdigits : ':' ∉ Nat.toDigits 10 entry.layer :=
    Lib.not_mem_toDigits (by decide) _
  rw [htext]
  refine splitOn_intercalate ':' ?_ (by simp)
  simp [hfamily, hdigits, hcanonical, hevent]

/-- The point a target of five fields selects by: any call index. -/
def ProbePointEntry.targetPoint (entry : ProbePointEntry) (segments : List ComponentSeg) :
    ProbePoint :=
  ⟨.name entry.family, .num 0, .num entry.layer, .path segments, .wildcard, .name entry.event⟩

lemma probeMatchesTarget_target (hparse : ProbePoint.parse text = some point)
    (hfields : entry.target.toList.splitOn ':' =
      [entry.family.toList, ['0'], (toString entry.layer).toList, entry.canonical.toList,
      entry.event.toList]) (hbracket : '[' ∉ entry.canonical.toList)
    (hsegs : (ComponentOrWild.path segs).display = entry.canonical)
    (hwell : (entry.targetPoint segs).WellFormed) :
    Worker.probeMatchesTarget text entry.target = point.isMatch (entry.targetPoint segs) := by
  have hstrip : Worker.stripBracketSuffix entry.canonical.toList = entry.canonical.toList := by
    refine takeWhile_eq_self_iff.mpr fun char hchar => ?_
    have hne : char ≠ '[' := fun hopen => hbracket (hopen ▸ hchar)
    simpa using hne
  have hzero : String.ofList ['0'] = toString 0 := by decide
  have hstar : String.ofList ['*'] = "*" := by decide
  have hdisplay : ":".intercalate ([entry.family.toList, ['0'], (toString entry.layer).toList,
      entry.canonical.toList, ['*'], entry.event.toList].map String.ofList) =
      (entry.targetPoint segs).display := by
    simp only [map_cons, map_nil, String.ofList_toList, hzero, hstar, ← hsegs]
    rfl
  unfold Worker.probeMatchesTarget
  rw [hparse, hfields]
  simp only
  rw [hstrip, hdisplay, ProbePoint.parse_display hwell]

/-! ## What is advertised and what can be inspected -/

/-- The modules of a model of the llama family, up to the version of its classes: nine in every
layer, the embedding, the last norm and the head. -/
structure LlamaModules (modules : List Worker.RawModule) (numLayers : ℕ) : Prop where
  layer : ∀ layer < numLayers,
    ∀ attrName ∈ ["input_layernorm", "q_proj", "k_proj", "v_proj", "o_proj",
        "post_attention_layernorm", "gate_proj", "up_proj", "down_proj"],
      ∃ module ∈ modules, module.attrName = attrName ∧
        Worker.extractLayerIndex module.path = some layer
  embedTokens : ∃ module ∈ modules, module.attrName = "embed_tokens"
  norm : ∃ module ∈ modules, module.attrName = "norm"
  lmHead : ∃ module ∈ modules, module.attrName = "lm_head" ∧ module.typeName = "Linear" ∧
    Worker.extractLayerIndex module.path = none

/-- The target that names an entry passes the daemon's validation and selects a component. -/
def Inspectable (map : Worker.ComponentMap) (entry : ProbePointEntry) : Prop :=
  knownTarget entry.target = true ∧
    ∃ comp ∈ map.components, Worker.probeMatchesTarget comp.probePoint entry.target = true

/-- The segments of a dotted name without indices. -/
def segmentsOf (name : String) : List ComponentSeg :=
  (name.toList.splitOn '.').map fun segment => .named (String.ofList segment)

/-- The names the catalogue lists for every layer. -/
def layerNames : List String :=
  ["attn.q_proj", "attn.k_proj", "attn.v_proj", "attn.o_proj", "attn.scores", "mlp",
    "residual_post"]

lemma mem_defaultCatalog (hentry : entry ∈ defaultCatalog family numLayers numHeads hiddenDim) :
    entry.family = family ∧ entry.event = "output" ∧
      (entry.canonical ∈ layerNames ∧ entry.layer < numLayers ∨
        entry.canonical = "lm_head" ∧ entry.layer = 0) := by
  rcases mem_append.mp hentry with hlayer | hhead
  · obtain ⟨layer, hrange, hcomponent⟩ := mem_flatMap.mp hlayer
    obtain ⟨component, hmem, rfl⟩ := mem_map.mp hcomponent
    have hnames : (catalogComponents numHeads hiddenDim).map Prod.fst = layerNames := rfl
    have hevents : (catalogComponents numHeads hiddenDim).map (fun c => c.2.1) =
        replicate 7 "output" := rfl
    refine ⟨rfl, ?_, .inl ⟨?_, mem_range.mp hrange⟩⟩
    · exact eq_of_mem_replicate (hevents ▸ mem_map_of_mem hmem)
    · exact hnames ▸ mem_map_of_mem hmem
  · obtain rfl := mem_singleton.mp hhead
    exact ⟨rfl, rfl, .inr ⟨rfl, rfl⟩⟩

/-- Every advertised name is a dotted path of identifiers, and only the head's is the name of a
component. -/
lemma advertised_names : ∀ name ∈ "lm_head" :: layerNames,
    (ComponentOrWild.path (segmentsOf name)).display = name ∧
      '[' ∉ name.toList ∧ ':' ∉ name.toList ∧
      (∀ seg ∈ name.toList.splitOn '.', isIdentifier (String.ofList seg) = true) ∧
      (name ≠ "lm_head" → ∀ entry ∈ Worker.llamaDeclaration.mappings,
        ∀ canon ∈ entry.2.directName, segmentsOf name ≠ [.named canon]) := by
  decide

section Inspectable

variable {config : Worker.ModelConfig} {modules : List Worker.RawModule}
  {map : Worker.ComponentMap} {containers : List String} {entry : ProbePointEntry}

lemma familyDeclaration_llama (hllama : modelType ∈ Worker.llamaDeclaration.modelTypes) :
    Worker.familyDeclaration modelType = some Worker.llamaDeclaration := by
  have hall : ∀ name ∈ Worker.llamaDeclaration.modelTypes,
      Worker.familyDeclaration name = some Worker.llamaDeclaration := by
    decide
  exact hall modelType hllama

lemma splitOn_target_catalog (hllama : config.modelType ∈ Worker.llamaDeclaration.modelTypes)
    (hentry : entry ∈ defaultCatalog config.modelType numLayers numHeads hiddenDim) :
    entry.target.toList.splitOn ':' =
      [entry.family.toList, ['0'], (toString entry.layer).toList, entry.canonical.toList,
        entry.event.toList] := by
  obtain ⟨hfamily, hevent, hname⟩ := mem_defaultCatalog hentry
  have hadvertised : entry.canonical ∈ "lm_head" :: layerNames := by
    rcases hname with ⟨hname, -⟩ | ⟨hname, -⟩
    · exact mem_cons_of_mem _ hname
    · rw [hname]
      exact mem_cons_self
  have hidentifier := Worker.isIdentifier_modelType (familyDeclaration_llama hllama)
  refine splitOn_target ?_ (advertised_names _ hadvertised).2.2.1 ?_
  · rw [hfamily]
    exact not_mem_of_isIdentifier hidentifier (by decide)
  · rw [hevent]
    decide

/-- A component the declarations name is selected by an entry's target if the entry has its name
and layer. -/
lemma probeMatchesTarget_catalog_iff
    (hllama : config.modelType ∈ Worker.llamaDeclaration.modelTypes) (hlayers : numLayers < 2 ^ 32)
    (hentry : entry ∈ defaultCatalog config.modelType numLayers numHeads hiddenDim)
    (hcanonical : isIdentifier canon) :
    Worker.probeMatchesTarget
        (Worker.mappedComponent config.modelType 0 module canon).probePoint entry.target = true ↔
      segmentsOf entry.canonical = [.named canon] ∧
        (Worker.extractLayerIndex module.path).getD 0 = entry.layer := by
  have hfields := splitOn_target_catalog hllama hentry
  obtain ⟨hfamily, hevent, hname⟩ := mem_defaultCatalog hentry
  obtain ⟨hadvertised, hlayer⟩ :
      entry.canonical ∈ "lm_head" :: layerNames ∧ entry.layer < 2 ^ 32 := by
    rcases hname with ⟨hname, hlayer⟩ | ⟨hname, hlayer⟩
    · exact ⟨mem_cons_of_mem _ hname, hlayer.trans hlayers⟩
    · exact ⟨hname ▸ mem_cons_self, hlayer ▸ by decide⟩
  obtain ⟨hsegs, hbracket, -, hparts, -⟩ := advertised_names _ hadvertised
  have hidentifier := Worker.isIdentifier_modelType (familyDeclaration_llama hllama)
  have hwell : (entry.targetPoint (segmentsOf entry.canonical)).WellFormed := {
    model := by
      show isIdentifier entry.family = true
      rw [hfamily]
      exact hidentifier
    rank := by show (0 : ℕ) < 2 ^ 32; decide
    layer := hlayer
    component := by
      refine ⟨by simp [segmentsOf], fun seg hseg => ?_⟩
      obtain ⟨part, hpart, rfl⟩ := mem_map.mp hseg
      exact hparts part hpart
    callIndex := trivial
    event := by
      show isIdentifier entry.event = true
      rw [hevent]
      decide }
  have hparse := ProbePoint.parse_display
    (Worker.wellFormed_componentPoint hidentifier (by decide : 0 < 2 ^ 32) module hcanonical)
  rw [← Worker.probePoint_mappedComponent] at hparse
  rw [probeMatchesTarget_target hparse hfields hbracket hsegs hwell]
  simp only [ProbePoint.isMatch, Worker.componentPoint, Worker.buildTickProbePoint,
    ProbePointEntry.targetPoint, Worker.mappedComponent, nameMatches, numMatches, componentMatches,
    hfamily, hevent, beq_self_eq_true, Bool.true_and, Bool.and_true, Bool.and_eq_true, beq_iff_eq]
  exact and_comm.trans (and_congr_left' eq_comm)

/-- A component that the target of an entry selects has the entry's name, which only the head
has. -/
lemma canonical_of_matches {numLayers numHeads hiddenDim : ℕ}
    (hllama : config.modelType ∈ Worker.llamaDeclaration.modelTypes)
    (hlayers : numLayers < 2 ^ 32)
    (hcatalog : entry ∈ defaultCatalog config.modelType numLayers numHeads hiddenDim)
    {comp : Worker.MappedComponent}
    (hcomp : comp ∈
      modules.filterMap (Worker.resolveModule Worker.llamaDeclaration config.modelType 0))
    (hmatch : Worker.probeMatchesTarget comp.probePoint entry.target = true) :
    entry.canonical = "lm_head" := by
  have hdeclared := familyDeclaration_llama hllama
  have hidentifier := Worker.isIdentifier_modelType hdeclared
  obtain ⟨module, hmodule, hcomp⟩ := mem_filterMap.mp hcomp
  obtain ⟨canon, rfl, hdirect | ⟨-, rfl⟩ | ⟨-, rfl⟩⟩ := Worker.resolveModule_eq_some hcomp
  · by_contra hhead
    have hcanonical := Worker.isIdentifier_canonical hdeclared hdirect
    obtain ⟨hsegs, -⟩ :=
      (probeMatchesTarget_catalog_iff hllama hlayers hcatalog hcanonical).mp hmatch
    obtain ⟨-, -, ⟨hname, -⟩ | ⟨hname, -⟩⟩ := mem_defaultCatalog hcatalog
    · obtain ⟨-, -, -, -, hdistinct⟩ := advertised_names _ (mem_cons_of_mem _ hname)
      obtain ⟨matcher, hmem, -⟩ := Worker.mappingOf_mem hdirect
      exact hdistinct hhead _ hmem canon rfl hsegs
    · exact hhead hname
  · rw [Worker.probeMatchesTarget_underscore hidentifier (by decide) module
      (Worker.head_fused module)] at hmatch
    cases hmatch
  · rw [Worker.probeMatchesTarget_underscore hidentifier (by decide) module
      (Worker.head_raw module)] at hmatch
    cases hmatch

/-- Of what discovery advertises for a model of the llama family, the language-model head and
nothing else can be inspected under its advertised name. -/
theorem inspectable_iff {session : Session} {req : AttachRequest} {uuid : String}
    {numHeads hiddenDim : ℕ} {pattern : DiscoverPattern} {executionOrder : List (String × ℕ)}
    (hllama : config.modelType ∈ Worker.llamaDeclaration.modelTypes)
    (hmodules : LlamaModules modules config.numLayers) (hlayers : config.numLayers < 2 ^ 32)
    (hresolve : Worker.resolveWithContainers modules config 0 = .ok (map, containers))
    (hentry : entry ∈ (session.commitAttach req config.modelType config.numLayers numHeads
      hiddenDim uuid).2.selectedEntries pattern) :
    Inspectable (Worker.applyExecutionOrder map executionOrder) entry ↔
      entry.canonical = "lm_head" := by
  have hcatalog : entry ∈ defaultCatalog config.modelType config.numLayers numHeads hiddenDim :=
    (mem_selectedEntries.mp hentry).1
  have hfields := splitOn_target_catalog hllama hcatalog
  obtain ⟨decl, hdeclared, -, hcomponents⟩ := Worker.resolveWithContainers_eq_ok hresolve
  obtain rfl : Worker.llamaDeclaration = decl :=
    Option.some.inj ((familyDeclaration_llama hllama).symm.trans hdeclared)
  constructor
  · rintro ⟨-, comp, hcomp, hmatch⟩
    rw [Worker.mem_applyExecutionOrder, hcomponents] at hcomp
    exact canonical_of_matches hllama hlayers hcatalog hcomp hmatch
  · intro hhead
    have hlayer : entry.layer = 0 := by
      obtain ⟨-, -, ⟨hname, -⟩ | ⟨-, hlayer⟩⟩ := mem_defaultCatalog hcatalog
      · rw [hhead] at hname
        exact absurd hname (by decide)
      · exact hlayer
    obtain ⟨⟨path, typeName, attrName⟩, hmodule, rfl, rfl, hindex⟩ := hmodules.lmHead
    have hmapping : Worker.llamaDeclaration.mappingOf ⟨path, "Linear", "lm_head"⟩ =
        some (.direct "lm_head") := rfl
    refine ⟨?_, Worker.mappedComponent config.modelType 0 ⟨path, "Linear", "lm_head"⟩ "lm_head",
      ?_, ?_⟩
    · have hknown : canonicalComponents.any
          (fun name => name.toList = componentLeaf "lm_head".toList) = true := by
        decide +kernel
      have hcomponent : targetComponent entry.target = some "lm_head".toList := by
        simp [targetComponent, hfields, hhead]
      rw [knownTarget, hcomponent]
      simp only [hknown, Bool.or_true]
    · rw [Worker.mem_applyExecutionOrder, hcomponents]
      refine mem_filterMap.mpr ⟨_, hmodule, ?_⟩
      rw [Worker.resolveModule, hmapping]
    · refine (probeMatchesTarget_catalog_iff hllama hlayers hcatalog (by decide)).mpr ⟨?_, ?_⟩
      · rw [hhead]
        decide +kernel
      · rw [hlayer, hindex]
        rfl

end Inspectable

/-- A llama of one layer. -/
def tinyLlama : List Worker.RawModule := [
  ⟨"model.embed_tokens", "Embedding", "embed_tokens"⟩,
  ⟨"model.layers.0", "LlamaDecoderLayer", "0"⟩,
  ⟨"model.layers.0.input_layernorm", "LlamaRMSNorm", "input_layernorm"⟩,
  ⟨"model.layers.0.self_attn", "LlamaAttention", "self_attn"⟩,
  ⟨"model.layers.0.self_attn.q_proj", "Linear", "q_proj"⟩,
  ⟨"model.layers.0.self_attn.k_proj", "Linear", "k_proj"⟩,
  ⟨"model.layers.0.self_attn.v_proj", "Linear", "v_proj"⟩,
  ⟨"model.layers.0.self_attn.o_proj", "Linear", "o_proj"⟩,
  ⟨"model.layers.0.post_attention_layernorm", "LlamaRMSNorm", "post_attention_layernorm"⟩,
  ⟨"model.layers.0.mlp", "LlamaMLP", "mlp"⟩,
  ⟨"model.layers.0.mlp.gate_proj", "Linear", "gate_proj"⟩,
  ⟨"model.layers.0.mlp.up_proj", "Linear", "up_proj"⟩,
  ⟨"model.layers.0.mlp.down_proj", "Linear", "down_proj"⟩,
  ⟨"model.norm", "LlamaRMSNorm", "norm"⟩,
  ⟨"lm_head", "Linear", "lm_head"⟩]

def tinyConfig : Worker.ModelConfig := ⟨"llama", 1, 2, 4, none⟩

/-- A session to which a llama of one layer has just been attached. -/
def tinySession : Session :=
  (Session.new.commitAttach ⟨"tiny", "llama", 1, none⟩ tinyConfig.modelType
    tinyConfig.numLayers 2 4 "0").2

lemma llamaModules_tinyLlama : LlamaModules tinyLlama 1 where
  layer := by decide
  embedTokens := by decide
  norm := by decide
  lmHead := by decide

/-- The pattern `*:*:*:*:*`. -/
def everything : DiscoverPattern := ⟨.wild, .wild, .wild, .wild⟩

theorem inspectable_tinyLlama :
    ∃ map containers,
      Worker.resolveWithContainers tinyLlama tinyConfig 0 = .ok (map, containers) ∧
      ∃ entry ∈ tinySession.selectedEntries everything,
        (Inspectable (Worker.applyExecutionOrder map []) entry ↔ entry.canonical = "lm_head") := by
  obtain ⟨containers, hresolve⟩ := @Worker.resolveWithContainers_of_family tinyConfig
    Worker.llamaDeclaration (by decide +kernel) tinyLlama 0
  have hentry : ⟨"llama", 0, "lm_head", "output", [1, 4], ["lm_head"]⟩ ∈
      tinySession.selectedEntries everything := by
    decide +kernel
  exact ⟨_, containers, hresolve, _, hentry,
    inspectable_iff (by decide) llamaModules_tinyLlama (by decide) hresolve hentry⟩

/-- The query projection is advertised, its target passes the validation, and no component of
the worker has its name. -/
theorem not_inspectable_queryProjection :
    ∃ map containers,
      Worker.resolveWithContainers tinyLlama tinyConfig 0 = .ok (map, containers) ∧
      ∃ entry ∈ tinySession.selectedEntries everything,
        entry.target = "llama:0:0:attn.q_proj:output" ∧ knownTarget entry.target = true ∧
        Worker.matchedComponents map entry.target = [] ∧
        ¬ Inspectable (Worker.applyExecutionOrder map []) entry := by
  obtain ⟨containers, hresolve⟩ := @Worker.resolveWithContainers_of_family tinyConfig
    Worker.llamaDeclaration (by decide +kernel) tinyLlama 0
  let entry : ProbePointEntry :=
    ⟨"llama", 0, "attn.q_proj", "output", [1, 4], ["blocks.0.attn.hook_q"]⟩
  have hentry : entry ∈ tinySession.selectedEntries everything := by decide +kernel
  have hnone : ∀ comp ∈
      tinyLlama.filterMap (Worker.resolveModule Worker.llamaDeclaration tinyConfig.modelType 0),
      ¬ Worker.probeMatchesTarget comp.probePoint entry.target = true := by
    intro comp hcomp hmatch
    have hhead := @canonical_of_matches tinyConfig tinyLlama entry 1 2 4 (by decide) (by decide)
      (mem_selectedEntries.mp hentry).1 comp hcomp hmatch
    exact absurd hhead (by decide)
  refine ⟨_, containers, hresolve, entry, hentry, by decide +kernel, by decide +kernel,
    filter_eq_nil_iff.mpr hnone, ?_⟩
  rintro ⟨-, comp, hcomp, hmatch⟩
  exact hnone comp hcomp hmatch

end RocketSurgeon.Daemon
