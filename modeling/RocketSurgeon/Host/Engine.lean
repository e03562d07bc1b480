import RocketSurgeon.Host.Recipes
import RocketSurgeon.Lib.Result
import RocketSurgeon.Worker.State

/-!
# The intervention engine

`apply_interventions_at_point` takes the output of a module and a list of recipes, keeps the
recipes whose target names the point, and applies them in the order of their priorities.  A
recipe in `replace` mode starts over from the output as it came.

The tensors are an arbitrary type with the operations of PyTorch the engine uses, each of
which may raise.  Python's regular expressions take more characters for digits than ASCII has;
which ones is the parameter `isDecimal`.  A type that `parse_recipe` refuses (`callback`) never
reaches the engine, and its branch is left out.
-/

namespace RocketSurgeon.Host

open Lib Protocol Worker

/-! ## Matching -/

/-- `strip_bracket`, with the expression `\[(\d+)\]$`: the end may stand before a last line
feed. -/
def stripBracket (isDecimal : Char → Bool) (segment : List Char) : List Char :=
  let ending := if segment.getLast? = some '\n' then ['\n'] else []
  let body := segment.take (segment.length - ending.length)
  match body.reverse with
  | ']' :: rest =>
      match rest.takeWhile isDecimal, rest.dropWhile isDecimal with
      | _ :: _, '[' :: before => before.reverse ++ ending
      | _, _ => segment
  | _ => segment

def segmentMatches (isDecimal : Char → Bool) (pattern : List Char) (actual : String) : Bool :=
  pattern = ['*'] || stripBracket isDecimal pattern = actual.toList

/-- `target_matches`. -/
def targetMatches (isDecimal : Char → Bool) (target : String) (point : InterventionPoint) : Bool :=
  match target.toList.splitOn ':' with
  | [family, rank, layer, component, event] =>
      segmentMatches isDecimal family point.family &&
        segmentMatches isDecimal rank (toString point.rank) &&
        segmentMatches isDecimal layer (toString point.layer) &&
        segmentMatches isDecimal component point.component &&
        segmentMatches isDecimal event point.event
  | _ => false

/-! ## Composition -/

/-- Whether a recipe applies at a point: conditional recipes never do. -/
def applies (isDecimal : Char → Bool) (point : InterventionPoint) (recipe : Recipe) : Bool :=
  recipe.condition.isNone && targetMatches isDecimal recipe.target point

def filterRecipes (isDecimal : Char → Bool) (point : InterventionPoint) (recipes : List Recipe) :
    List Recipe :=
  recipes.filter (applies isDecimal point)

/-- A stable sort. -/
def sortByPriority (recipes : List Recipe) : List Recipe :=
  recipes.insertionSort fun first second => first.priority ≤ second.priority

/-! ## Operations -/

/-- The tensor operations of the engine. -/
structure TensorOps (T : Type) where
  zero : T → Except String T
  fillMean : T → Except String T
  resample : T → Except String T
  mul : T → ℚ → Except String T
  addVector : T → List ℚ → Except String T
  addTensor : T → T → Except String T
  copy : T → T → Except String T
  clamp : T → ℚ → ℚ → Except String T

/-- What an exception of the engine is: a recipe that does not parse, or anything else. -/
inductive HostError
  | recipeError (message : String)
  | raised (message : String)
  deriving DecidableEq, Repr

def HostError.display : HostError → String
  | .recipeError message => "RecipeError: " ++ message
  | .raised message => message

variable {T : Type}

/-- `params[key]` where a number is expected. -/
def number (params : WireParams) (key : String) : Except String ℚ :=
  match FMap.get params key with
  | some (.num value) => .ok value
  | some _ => .error "TypeError"
  | none => .error s!"KeyError: '{key}'"

def applyAblate (ops : TensorOps T) (tensor : T) (params : WireParams) : Except String T :=
  match ablateMode params with
  | .text name =>
      match ablateModeOf name with
      | some .zero => ops.zero tensor
      | some .mean => ops.fillMean tensor
      | some .resample => ops.resample tensor
      | none => .ok tensor
  | _ => .ok tensor

/-- The tensor a reference names; none without a store. -/
def resolve (tensorStore : Option (String → Option T)) (tensorId : String) : Option T :=
  tensorStore.bind fun store => store tensorId

/-- `_apply_add`: a reference that cannot be resolved is logged, and nothing is added. -/
def applyAdd (ops : TensorOps T) (tensorStore : Option (String → Option T)) (tensor : T)
    (params : WireParams) : Except String T :=
  match FMap.get params "vector" with
  | some (.list values) => ops.addVector tensor values
  | some (.text tensorId) =>
      match resolve tensorStore tensorId with
      | some source => ops.addTensor tensor source
      | none => .ok tensor
  | some (.num _) => .ok tensor
  | none => .error "KeyError: 'vector'"

/-- `_apply_patch`: likewise. -/
def applyPatch (ops : TensorOps T) (tensorStore : Option (String → Option T)) (tensor : T)
    (params : WireParams) : Except String T :=
  match FMap.get params "source_tensor_id" with
  | some (.text tensorId) =>
      match resolve tensorStore tensorId with
      | some source => ops.copy tensor source
      | none => .ok tensor
  | some _ => .ok tensor
  | none => .error "KeyError: 'source_tensor_id'"

/-- `_apply_single`. -/
def applySingle (ops : TensorOps T) (tensorStore : Option (String → Option T)) (recipe : Recipe)
    (tensor : T) : Except String T :=
  match recipe.interventionType with
  | .ablate => applyAblate ops tensor recipe.params
  | .scale => do ops.mul tensor (← number recipe.params "factor")
  | .add => applyAdd ops tensorStore tensor recipe.params
  | .patch => applyPatch ops tensorStore tensor recipe.params
  | .clamp => do
      ops.clamp tensor (← number recipe.params "min") (← number recipe.params "max")
  | _ => .ok tensor

/-! ## The engine -/

/-- The loop of `apply_interventions`: the tensor and the recipes fired so far. -/
def applyInOrder (ops : TensorOps T) (tensorStore : Option (String → Option T)) (original : T) :
    List Recipe → T × List String → Except String (T × List String)
  | [], state => .ok state
  | recipe :: rest, (current, fired) => do
      let start := if recipe.mode = .replace then original else current
      let current ← applySingle ops tensorStore recipe start
      applyInOrder ops tensorStore original rest (current, fired ++ [recipe.id])

/-- `apply_interventions`. -/
def applyInterventions (isDecimal : Char → Bool) (ops : TensorOps T)
    (tensorStore : Option (String → Option T)) (tensor : T) (recipes : List Recipe)
    (point : InterventionPoint) : Except String (T × List String) :=
  let matched := filterRecipes isDecimal point recipes
  if matched = [] then .ok (tensor, [])
  else applyInOrder ops tensorStore tensor (sortByPriority matched) (tensor, [])

/-- `apply_interventions_at_point`: the recipes are parsed first, and there is no tensor
store. -/
def applyInterventionsAtPoint (isDecimal : Char → Bool) (ops : TensorOps T) (tensor : T)
    (point : InterventionPoint) : Except HostError (T × List String) :=
  match point.recipes.mapM fun recipe => parseRecipe (wire recipe) with
  | .error message => .error (.recipeError message)
  | .ok recipes =>
      (applyInterventions isDecimal ops none tensor recipes point).mapError .raised

/-- The Python side of a worker, with this engine. -/
def withEngine (isDecimal : Char → Bool) (ops : TensorOps T) (bridge : Bridge T) : Bridge T :=
  { bridge with
    applyInterventionsAtPoint := fun tensor point =>
      (applyInterventionsAtPoint isDecimal ops tensor point).mapError HostError.display }

/-! ## What a recipe does -/

/-- The operations of the engine, with their parameters. -/
inductive Operation
  | ablate (mode : AblateMode)
  | scale (factor : ℚ)
  | addVector (values : List ℚ)
  | addReference (tensorId : String)
  | patch (tensorId : String)
  | clamp (min max : ℚ)
  deriving DecidableEq, Repr

def Operation.run (ops : TensorOps T) (tensorStore : Option (String → Option T)) :
    Operation → T → Except String T
  | .ablate .zero, tensor => ops.zero tensor
  | .ablate .mean, tensor => ops.fillMean tensor
  | .ablate .resample, tensor => ops.resample tensor
  | .scale factor, tensor => ops.mul tensor factor
  | .addVector values, tensor => ops.addVector tensor values
  | .addReference tensorId, tensor =>
      match resolve tensorStore tensorId with
      | some source => ops.addTensor tensor source
      | none => .ok tensor
  | .patch tensorId, tensor =>
      match resolve tensorStore tensorId with
      | some source => ops.copy tensor source
      | none => .ok tensor
  | .clamp min max, tensor => ops.clamp tensor min max

/-- The operation of a recipe whose parameters have been checked.  An ablation whose parameters
carry no mode is one to zero. -/
def operation (recipe : InterventionRecipe) : Option Operation :=
  match recipe.interventionType, recipe.params with
  | .ablate, .ablate mode _ _ => some (.ablate mode)
  | .ablate, _ => some (.ablate .zero)
  | .scale, .scale factor => some (.scale factor)
  | .add, .add (.inline values) => some (.addVector values)
  | .add, .add (.tensorRef tensorId) => some (.addReference tensorId)
  | .patch, .patch sourceTensorId => some (.patch sourceTensorId)
  | .clamp, .clamp min max => some (.clamp min max)
  | _, _ => none

/-- A recipe that `parse_recipe` accepts. -/
structure Parses (recipe : InterventionRecipe) : Prop where
  id : recipe.id.getD "" ≠ ""
  type : recipe.interventionType ∈ validTypes
  params : validateParams recipe.interventionType (wireParams recipe.params) = .ok ()

lemma parseRecipe_eq_ok_iff {recipe : InterventionRecipe} {result : Recipe} :
    parseRecipe (wire recipe) = .ok result ↔ Parses recipe ∧ result = parsed recipe := by
  rw [parseRecipe_wire_eq_ok_iff]
  exact ⟨fun ⟨hid, htype, hparams, hres⟩ => ⟨⟨hid, htype, hparams⟩, hres⟩,
    fun ⟨⟨hid, htype, hparams⟩, hres⟩ => ⟨hid, htype, hparams, hres⟩⟩

lemma exists_operation {recipe : InterventionRecipe} (hparses : Parses recipe) :
    ∃ op, operation recipe = some op ∧
      ∀ (ops : TensorOps T) (tensorStore : Option (String → Option T)) (tensor : T),
        applySingle ops tensorStore (parsed recipe) tensor = op.run ops tensorStore tensor := by
  obtain ⟨-, htype, hparams⟩ := hparses
  obtain ⟨id, interventionType, target, params, condition, priority, mode⟩ := recipe
  replace htype : interventionType ∈ validTypes := htype
  -- the keys of a dictionary are known once its options are
  rcases params with factor | ⟨values | tensorId⟩ | sourceTensorId | ⟨min, max⟩ | ⟨token, experts⟩ |
    ⟨sources, targets, maskValue⟩ | ⟨position, newTokenId⟩ | ⟨position, std, _ | seed⟩ |
    ⟨_ | _ | _, _ | referenceRun, _ | referenceTensorId⟩
  all_goals cases interventionType
  all_goals first
    | exact absurd htype (by decide)
    | exact ⟨_, rfl, fun _ _ _ => rfl⟩
    | cases hparams

/-! ## Runs of the engine -/

/-- The recipes that fire at a point, in the order they are applied. -/
def firedRecipes (isDecimal : Char → Bool) (point : InterventionPoint)
    (recipes : List InterventionRecipe) : List Recipe :=
  sortByPriority (filterRecipes isDecimal point (recipes.map parsed))

lemma mem_firedRecipes :
    fired ∈ firedRecipes isDecimal point recipes ↔
      ∃ recipe ∈ recipes, parsed recipe = fired ∧ applies isDecimal point fired = true := by
  unfold firedRecipes sortByPriority
  rw [(List.perm_insertionSort _ _).mem_iff, filterRecipes, List.mem_filter, List.mem_map]
  exact ⟨fun ⟨⟨recipe, hmem, hfired⟩, happlies⟩ => ⟨recipe, hmem, hfired, happlies⟩,
    fun ⟨recipe, hmem, hfired, happlies⟩ => ⟨⟨recipe, hmem, hfired⟩, happlies⟩⟩

/-- The engine returns if every recipe parses and no operation raises.  A point at which nothing
fires is the case of an empty run. -/
lemma applyInterventionsAtPoint_eq_ok_iff {result : T × List String} :
    applyInterventionsAtPoint isDecimal ops tensor point = .ok result ↔
      (∀ recipe ∈ point.recipes, Parses recipe) ∧
        applyInOrder ops none tensor (firedRecipes isDecimal point point.recipes) (tensor, []) =
          .ok result := by
  have hmapM := mapM_eq_ok_iff (fun recipe result => @parseRecipe_eq_ok_iff recipe result)
    point.recipes
  unfold applyInterventionsAtPoint
  cases hparsed : point.recipes.mapM fun recipe => parseRecipe (wire recipe) with
  | error message =>
    refine iff_of_false nofun fun ⟨hall, _⟩ => ?_
    rw [(hmapM _).mpr ⟨hall, rfl⟩] at hparsed
    cases hparsed
  | ok recipes =>
    obtain ⟨hall, rfl⟩ := (hmapM recipes).mp hparsed
    have hrun : applyInterventions isDecimal ops none tensor (point.recipes.map parsed) point =
        applyInOrder ops none tensor (firedRecipes isDecimal point point.recipes)
          (tensor, []) := by
      unfold applyInterventions firedRecipes
      dsimp only
      split_ifs with hempty
      · rw [hempty]
        rfl
      · rfl
    simp only [hrun]
    cases applyInOrder ops none tensor (firedRecipes isDecimal point point.recipes)
        (tensor, []) with
    | error message => exact iff_of_false nofun fun ⟨_, hok⟩ => nomatch hok
    | ok value =>
      show Except.ok value = Except.ok result ↔ _
      rw [Except.ok.injEq, Except.ok.injEq]
      exact ⟨fun heq => ⟨hall, heq⟩, fun ⟨_, heq⟩ => heq⟩

lemma applyInOrder_append (ops : TensorOps T) (tensorStore : Option (String → Option T))
    (original : T) (first second : List Recipe) (state : T × List String) :
    applyInOrder ops tensorStore original (first ++ second) state =
      applyInOrder ops tensorStore original first state >>=
        applyInOrder ops tensorStore original second := by
  induction first generalizing state with
  | nil => rfl
  | cons recipe first ih =>
    rw [List.cons_append, applyInOrder, applyInOrder, bind_assoc]
    refine bind_congr fun current => ?_
    exact ih _

lemma fired_applyInOrder {result : T × List String}
    (hok : applyInOrder ops tensorStore original recipes state = .ok result) :
    result.2 = state.2 ++ recipes.map Recipe.id := by
  induction recipes generalizing state with
  | nil =>
    cases hok
    simp
  | cons recipe rest ih =>
    obtain ⟨current, -, hok⟩ := bind_eq_ok hok
    rw [ih hok]
    simp

/-- No operation raises. -/
structure TensorOps.Total (ops : TensorOps T) : Prop where
  zero : ∀ tensor, ∃ result, ops.zero tensor = .ok result
  fillMean : ∀ tensor, ∃ result, ops.fillMean tensor = .ok result
  resample : ∀ tensor, ∃ result, ops.resample tensor = .ok result
  mul : ∀ tensor factor, ∃ result, ops.mul tensor factor = .ok result
  addVector : ∀ tensor values, ∃ result, ops.addVector tensor values = .ok result
  addTensor : ∀ tensor source, ∃ result, ops.addTensor tensor source = .ok result
  copy : ∀ tensor source, ∃ result, ops.copy tensor source = .ok result
  clamp : ∀ tensor min max, ∃ result, ops.clamp tensor min max = .ok result

lemma TensorOps.Total.run (htotal : ops.Total) (tensorStore : Option (String → Option T))
    (op : Operation) (tensor : T) :
    ∃ result, op.run ops tensorStore tensor = .ok result := by
  cases op with
  | ablate mode =>
    cases mode with
    | zero => exact htotal.zero tensor
    | mean => exact htotal.fillMean tensor
    | resample => exact htotal.resample tensor
  | scale factor => exact htotal.mul tensor factor
  | addVector values => exact htotal.addVector tensor values
  | addReference tensorId =>
    rw [Operation.run]
    cases resolve tensorStore tensorId with
    | none => exact ⟨tensor, rfl⟩
    | some source => exact htotal.addTensor tensor source
  | patch tensorId =>
    rw [Operation.run]
    cases resolve tensorStore tensorId with
    | none => exact ⟨tensor, rfl⟩
    | some source => exact htotal.copy tensor source
  | clamp min max => exact htotal.clamp tensor min max

lemma exists_applyInOrder (htotal : ops.Total) (tensorStore : Option (String → Option T))
    (original : T) (hrecipes : ∀ fired ∈ recipes, ∃ recipe, Parses recipe ∧ parsed recipe = fired)
    (state : T × List String) :
    ∃ tensor, applyInOrder ops tensorStore original recipes state =
      .ok (tensor, state.2 ++ recipes.map Recipe.id) := by
  induction recipes generalizing state with
  | nil => exact ⟨state.1, by simp [applyInOrder]⟩
  | cons fired rest ih =>
    obtain ⟨hfired, hrest⟩ := List.forall_mem_cons.mp hrecipes
    obtain ⟨recipe, hparses, rfl⟩ := hfired
    obtain ⟨op, -, hrun⟩ := @exists_operation T recipe hparses
    obtain ⟨current, hcurrent⟩ := htotal.run tensorStore op
      (if (parsed recipe).mode = .replace then original else state.1)
    obtain ⟨tensor, htensor⟩ := ih hrest _
    refine ⟨tensor, ?_⟩
    rw [applyInOrder, hrun, hcurrent]
    show applyInOrder ops tensorStore original rest _ = _
    rw [htensor]
    simp

end RocketSurgeon.Host
