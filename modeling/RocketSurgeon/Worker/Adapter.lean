import RocketSurgeon.Worker.Interventions

/-!
# From modules to components

`resolve_with_containers` names the modules of a loaded model.  A family of models declares
what its modules stand for, by their class and attribute name; the first declaration that fits
a module decides.  A module that computes one component is mapped to it, one that computes
several at once is kept as a fused component, containers and modules without interest are
left out, and a module that no declaration fits becomes a raw component named after its path.

What the source records about the parts of a fused module and the vocabulary it collects is
read by no function modelled here and is left out.
-/

namespace RocketSurgeon.Worker

/-! ## Declarations -/

inductive ModuleMapping
  | direct (canonical : String)
  | fused
  | container
  | skip
  deriving DecidableEq, Repr

inductive ModuleMatcher
  | typeAndName (typeName attrName : String) (pathContains : Option String)
  | typeOnly (typeName : String)
  deriving DecidableEq, Repr

structure FamilyDeclaration where
  modelTypes : List String
  mappings : List (ModuleMatcher × ModuleMapping)
  deriving DecidableEq, Repr

def llamaDeclaration : FamilyDeclaration where
  modelTypes := ["llama", "mistral", "codellama"]
  mappings := [
    (.typeOnly "LlamaAttention", .container),
    (.typeOnly "LlamaSdpaAttention", .container),
    (.typeOnly "LlamaFlashAttention2", .container),
    (.typeOnly "MistralAttention", .container),
    (.typeOnly "MistralSdpaAttention", .container),
    (.typeOnly "MistralFlashAttention2", .container),
    (.typeOnly "LlamaMLP", .container),
    (.typeOnly "MistralMLP", .container),
    (.typeOnly "LlamaDecoderLayer", .container),
    (.typeOnly "MistralDecoderLayer", .container),
    (.typeAndName "LlamaRMSNorm" "input_layernorm" none, .direct "ln1"),
    (.typeAndName "LlamaRMSNorm" "post_attention_layernorm" none, .direct "ln2"),
    (.typeAndName "LlamaRMSNorm" "norm" none, .direct "ln_final"),
    (.typeAndName "MistralRMSNorm" "input_layernorm" none, .direct "ln1"),
    (.typeAndName "MistralRMSNorm" "post_attention_layernorm" none, .direct "ln2"),
    (.typeAndName "MistralRMSNorm" "norm" none, .direct "ln_final"),
    (.typeAndName "Linear" "q_proj" none, .direct "q_proj"),
    (.typeAndName "Linear" "k_proj" none, .direct "k_proj"),
    (.typeAndName "Linear" "v_proj" none, .direct "v_proj"),
    (.typeAndName "Linear" "o_proj" none, .direct "o_proj"),
    (.typeAndName "Linear" "gate_proj" none, .direct "gate_proj"),
    (.typeAndName "Linear" "up_proj" none, .direct "up_proj"),
    (.typeAndName "Linear" "down_proj" none, .direct "down_proj"),
    (.typeOnly "LlamaRotaryEmbedding", .skip),
    (.typeAndName "Embedding" "embed_tokens" none, .direct "embed"),
    (.typeAndName "Linear" "lm_head" none, .direct "lm_head")]

def gpt2Declaration : FamilyDeclaration where
  modelTypes := ["gpt2"]
  mappings := [
    (.typeOnly "GPT2Attention", .container),
    (.typeOnly "GPT2MLP", .container),
    (.typeOnly "GPT2Block", .container),
    (.typeAndName "LayerNorm" "ln_1" none, .direct "ln1"),
    (.typeAndName "LayerNorm" "ln_2" none, .direct "ln2"),
    (.typeAndName "LayerNorm" "ln_f" none, .direct "ln_final"),
    (.typeAndName "Conv1D" "c_attn" none, .fused),
    (.typeAndName "Conv1D" "c_proj" (some "attn"), .direct "o_proj"),
    (.typeAndName "Conv1D" "c_fc" none, .direct "up_proj"),
    (.typeAndName "Conv1D" "c_proj" (some "mlp"), .direct "down_proj"),
    (.typeAndName "Embedding" "wte" none, .direct "embed"),
    (.typeAndName "Embedding" "wpe" none, .direct "pos_embed"),
    (.typeAndName "Linear" "lm_head" none, .direct "lm_head"),
    (.typeOnly "Dropout", .skip),
    (.typeOnly "NewGELUActivation", .skip)]

def families : List FamilyDeclaration := [llamaDeclaration, gpt2Declaration]

def familyDeclaration (modelType : String) : Option FamilyDeclaration :=
  families.find? fun decl => modelType ∈ decl.modelTypes

/-! ## Modules -/

structure RawModule where
  path : String
  typeName : String
  attrName : String
  deriving DecidableEq, Repr

structure ModelConfig where
  modelType : String
  numLayers : ℕ
  numHeads : ℕ
  hiddenSize : ℕ
  numKvHeads : Option ℕ
  deriving DecidableEq, Repr

/-- `extract_layer_index`: the first segment of the path that is a number. -/
def extractLayerIndex (path : String) : Option ℕ := (path.toList.splitOn '.').findSome? parseU32

def matchesModule (matcher : ModuleMatcher) (module : RawModule) : Bool :=
  match matcher with
  | .typeOnly typeName => module.typeName = typeName
  | .typeAndName typeName attrName pathContains =>
      decide (module.typeName = typeName) && decide (module.attrName = attrName) &&
        match pathContains with
        | none => true
        | some text => decide (text.toList <:+: module.path.toList)

/-- The mapping a module falls under: that of the first matcher that fits. -/
def FamilyDeclaration.mappingOf (decl : FamilyDeclaration) (module : RawModule) :
    Option ModuleMapping :=
  (decl.mappings.find? fun entry => matchesModule entry.1 module).map Prod.snd

/-- The component of a module under the given canonical name. -/
def mappedComponent (family : String) (rank : ℕ) (module : RawModule) (canonical : String) :
    MappedComponent :=
  let layerIndex := extractLayerIndex module.path
  let layer := layerIndex.getD 0
  { modulePath := module.path
    canonical
    layerIndex
    callIndex := 0
    probePoint := s!"{family}:{rank}:{layer}:{canonical}:0:output" }

/-- What one round of the loop of `resolve_with_containers` pushes for a module. -/
def resolveModule (decl : FamilyDeclaration) (family : String) (rank : ℕ) (module : RawModule) :
    Option MappedComponent :=
  match decl.mappingOf module with
  | some (.direct canonical) => some (mappedComponent family rank module canonical)
  | some .fused => some (mappedComponent family rank module s!"_fused.{module.attrName}")
  | some .container => none
  | some .skip => none
  | none => some (mappedComponent family rank module s!"_raw.{module.path}")

/-- `resolve_with_containers`: the components of the modules, and the paths of the containers. -/
def resolveWithContainers (modules : List RawModule) (config : ModelConfig) (rank : ℕ) :
    Except String (ComponentMap × List String) :=
  match familyDeclaration config.modelType with
  | none => .error s!"unsupported model family: {config.modelType}"
  | some decl =>
      .ok ({ components := modules.filterMap (resolveModule decl config.modelType rank)
             modelFamily := config.modelType },
        (modules.filter fun module => decl.mappingOf module = some .container).map RawModule.path)

/-- `apply_execution_order`: components in the order of their calls, those never called last. -/
def applyExecutionOrder (map : ComponentMap) (executionOrder : List (String × ℕ)) : ComponentMap :=
  let position (comp : MappedComponent) : ℕ :=
    -- the source collects into a hash map, so the last of two equal keys counts
    match executionOrder.reverse.findIdx? (· = (comp.modulePath, comp.callIndex)) with
    | some idx => executionOrder.length - 1 - idx
    | none => executionOrder.length
  { map with
    components := map.components.insertionSort fun first second => position first ≤ position second }

lemma mem_applyExecutionOrder :
    comp ∈ (applyExecutionOrder map executionOrder).components ↔ comp ∈ map.components :=
  (List.perm_insertionSort _ _).mem_iff

/-! ## What is resolved -/

lemma resolveWithContainers_of_family {cfg : ModelConfig} {decl : FamilyDeclaration}
    (hdeclared : familyDeclaration cfg.modelType = some decl) (modules : List RawModule)
    (rank : ℕ) :
    ∃ conts, resolveWithContainers modules cfg rank =
      .ok (⟨modules.filterMap (resolveModule decl cfg.modelType rank), cfg.modelType⟩,
        conts) := by
  rw [resolveWithContainers, hdeclared]
  exact ⟨_, rfl⟩

lemma resolveWithContainers_eq_ok
    (hresolved : resolveWithContainers modules cfg rank = .ok (map, conts)) :
    ∃ decl, familyDeclaration cfg.modelType = some decl ∧ map.modelFamily = cfg.modelType ∧
      map.components = modules.filterMap (resolveModule decl cfg.modelType rank) := by
  unfold resolveWithContainers at hresolved
  split at hresolved
  · cases hresolved
  next decl hdeclared =>
    cases hresolved
    exact ⟨decl, hdeclared, rfl, rfl⟩

lemma resolveModule_eq_some (hcomp : resolveModule decl family rank module = some comp) :
    ∃ canon, comp = mappedComponent family rank module canon ∧
      (decl.mappingOf module = some (.direct canon) ∨
        decl.mappingOf module = some .fused ∧ canon = s!"_fused.{module.attrName}" ∨
        decl.mappingOf module = none ∧ canon = s!"_raw.{module.path}") := by
  unfold resolveModule at hcomp
  split at hcomp
  next canon hmapping =>
    exact ⟨canon, (Option.some.inj hcomp).symm, .inl hmapping⟩
  next hmapping => exact ⟨_, (Option.some.inj hcomp).symm, .inr (.inl ⟨hmapping, rfl⟩)⟩
  · cases hcomp
  · cases hcomp
  next hmapping => exact ⟨_, (Option.some.inj hcomp).symm, .inr (.inr ⟨hmapping, rfl⟩)⟩

lemma familyDeclaration_mem (hdeclared : familyDeclaration modelType = some decl) :
    decl ∈ families ∧ modelType ∈ decl.modelTypes :=
  ⟨List.mem_of_find?_eq_some hdeclared, by simpa using List.find?_some hdeclared⟩

lemma mappingOf_mem {decl : FamilyDeclaration} (hmapping : decl.mappingOf module = some mapping) :
    ∃ matcher, (matcher, mapping) ∈ decl.mappings ∧ matchesModule matcher module = true := by
  obtain ⟨⟨matcher, found⟩, hfind, rfl⟩ := Option.map_eq_some_iff.mp hmapping
  exact ⟨matcher, List.mem_of_find?_eq_some hfind, by simpa using List.find?_some hfind⟩

lemma parseU32_lt (hparse : parseU32 text = some value) :
    value < 2 ^ 32 := by
  unfold parseU32 at hparse
  dsimp only at hparse
  split_ifs at hparse with hdigits
  obtain rfl := Option.some.inj hparse
  exact hdigits.2.2

lemma extractLayerIndex_lt (hlayer : extractLayerIndex path = some layer) : layer < 2 ^ 32 := by
  obtain ⟨seg, -, hparse⟩ := List.exists_of_findSome?_eq_some hlayer
  exact parseU32_lt hparse

lemma layerIndex_getD_lt (family : String) (rank : ℕ) (module : RawModule)
    (canon : String) :
    (mappedComponent family rank module canon).layerIndex.getD 0 < 2 ^ 32 := by
  show (extractLayerIndex module.path).getD 0 < 2 ^ 32
  cases hlayer : extractLayerIndex module.path with
  | none => decide
  | some layer => exact extractLayerIndex_lt hlayer

example : extractLayerIndex "model.layers.12.mlp.up_proj" = some 12 := by decide

end RocketSurgeon.Worker
