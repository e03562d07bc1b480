import RocketSurgeon.Daemon.Targets
import RocketSurgeon.Lib.FiniteMap

/-!
# Recipes on the Python side

The worker hands recipes to Python as JSON.  `parse_recipe` reads one dictionary: it insists on
an id, a type it knows and the parameters of that type, and fills in defaults for the rest.

The dictionary is modelled as `json.loads` leaves it: every key may be missing, and a
parameter is a number, a text or a list of numbers.  `InterventionRecipe.wire` is what
`serde_json` writes for a recipe: absent options are left out, the parameters are untagged.
-/

namespace RocketSurgeon.Host

open Lib Protocol

variable {recipe : InterventionRecipe}

/-! ## The dictionary -/

inductive WireValue
  | num (value : ℚ)
  | text (value : String)
  | list (values : List ℚ)
  deriving DecidableEq, Repr

abbrev WireParams := List (String × WireValue)

structure RawRecipe where
  id : Option String
  type : Option String
  target : Option String
  params : Option WireParams
  condition : Option String
  priority : Option ℤ
  mode : Option String
  deriving DecidableEq, Repr

/-! ## What `serde_json` writes -/

def typeName : InterventionType → String
  | .ablate => "ablate"
  | .scale => "scale"
  | .add => "add"
  | .patch => "patch"
  | .clamp => "clamp"
  | .routeOverride => "route_override"
  | .attentionMask => "attention_mask"
  | .embedSwap => "embed_swap"
  | .embedNoise => "embed_noise"

def ablateModeName : AblateMode → String
  | .zero => "zero"
  | .mean => "mean"
  | .resample => "resample"

def compositionModeName : CompositionMode → String
  | .additive => "additive"
  | .replace => "replace"

/-- An entry for an option, left out if there is none. -/
def optional (key : String) (value : Option WireValue) : WireParams :=
  value.toList.map fun value => (key, value)

def positions (values : List ℕ) : WireValue := .list (values.map fun value => (value : ℚ))

def wireParams : InterventionParams → WireParams
  | .scale factor => [("factor", .num factor)]
  | .add (.inline values) => [("vector", .list values)]
  | .add (.tensorRef tensorId) => [("vector", .text tensorId)]
  | .patch sourceTensorId => [("source_tensor_id", .text sourceTensorId)]
  | .clamp min max => [("min", .num min), ("max", .num max)]
  | .routeOverride token experts => [("token", .num token), ("experts", positions experts)]
  | .attentionMask sourcePositions targetPositions maskValue =>
      [("source_positions", positions sourcePositions),
        ("target_positions", positions targetPositions), ("mask_value", .num maskValue)]
  | .embedSwap position newTokenId =>
      [("position", .num position), ("new_token_id", .num newTokenId)]
  | .embedNoise position std seed =>
      [("position", .num position), ("std", .num std)] ++
        optional "seed" (seed.map fun seed => .num seed)
  | .ablate mode referenceRun referenceTensorId =>
      [("mode", .text (ablateModeName mode))] ++
        optional "reference_run" (referenceRun.map .text) ++
        optional "reference_tensor_id" (referenceTensorId.map .text)

def wire (recipe : InterventionRecipe) : RawRecipe where
  id := recipe.id
  type := some (typeName recipe.interventionType)
  target := some recipe.target
  params := some (wireParams recipe.params)
  condition := recipe.condition
  priority := some recipe.priority
  mode := some (compositionModeName recipe.mode)

/-! ## Parsing -/

/-- A recipe with its guaranteed fields. -/
structure Recipe where
  id : String
  interventionType : InterventionType
  target : String
  params : WireParams
  priority : ℤ
  mode : CompositionMode
  condition : Option String
  deriving DecidableEq, Repr

/-- `VALID_TYPES`. -/
def validTypes : List InterventionType := [.ablate, .scale, .add, .patch, .clamp]

def typeOf (name : String) : Option InterventionType :=
  validTypes.find? fun known => typeName known = name

/-- `VALID_MODES`. -/
def validModes : List CompositionMode := [.additive, .replace]

def compositionModeOf (name : String) : Option CompositionMode :=
  validModes.find? fun known => compositionModeName known = name

/-- `VALID_ABLATE_MODES`. -/
def validAblateModes : List AblateMode := [.zero, .mean, .resample]

def ablateModeOf (name : String) : Option AblateMode :=
  validAblateModes.find? fun known => ablateModeName known = name

def hasKey (params : WireParams) (key : String) : Bool := (FMap.get params key).isSome

/-- `params.get("mode", "zero")`. -/
def ablateMode (params : WireParams) : WireValue := (FMap.get params "mode").getD (.text "zero")

/-- `_validate_params`. -/
def validateParams (interventionType : InterventionType) (params : WireParams) :
    Except String Unit :=
  match interventionType with
  | .scale =>
      if hasKey params "factor" then .ok ()
      else .error "scale intervention requires 'factor' in params"
  | .add =>
      if hasKey params "vector" then .ok ()
      else .error "add intervention requires 'vector' in params"
  | .patch =>
      if hasKey params "source_tensor_id" then .ok ()
      else .error "patch intervention requires 'source_tensor_id' in params"
  | .clamp =>
      if hasKey params "min" && hasKey params "max" then .ok ()
      else .error "clamp intervention requires 'min' and 'max' in params"
  | .ablate =>
      match ablateMode params with
      | .text name =>
          if (ablateModeOf name).isSome then .ok () else .error s!"invalid ablate mode: '{name}'"
      | _ => .error "invalid ablate mode"
  | _ => .ok ()

/-- `parse_recipe`. -/
def parseRecipe (raw : RawRecipe) : Except String Recipe :=
  let id := raw.id.getD ""
  let interventionType := raw.type.getD ""
  let mode := raw.mode.getD "additive"
  let params := raw.params.getD []
  if id = "" then .error "recipe missing required field: id"
  else
    match typeOf interventionType with
    | none => .error s!"unknown intervention type: '{interventionType}'"
    | some known =>
        match validateParams known params with
        | .error message => .error message
        | .ok () =>
            match compositionModeOf mode with
            | none => .error s!"invalid composition mode: '{mode}'"
            | some mode =>
                .ok {
                  id
                  interventionType := known
                  target := raw.target.getD ""
                  params
                  priority := raw.priority.getD 0
                  mode
                  condition := raw.condition }

/-! ## What serialised recipes parse to -/

lemma typeOf_typeName (interventionType : InterventionType) :
    typeOf (typeName interventionType) =
      if interventionType ∈ validTypes then some interventionType else none := by
  cases interventionType <;> decide

lemma compositionModeOf_compositionModeName (mode : CompositionMode) :
    compositionModeOf (compositionModeName mode) = some mode := by
  cases mode <;> decide

/-- The recipe a serialised recipe is parsed to. -/
def parsed (recipe : InterventionRecipe) : Recipe where
  id := recipe.id.getD ""
  interventionType := recipe.interventionType
  target := recipe.target
  params := wireParams recipe.params
  priority := recipe.priority
  mode := recipe.mode
  condition := recipe.condition

/-- A serialised recipe parses if it has an id, a type that Python knows and the parameters of
that type; nothing of it is changed then. -/
lemma parseRecipe_wire_eq_ok_iff {res : Recipe} :
    parseRecipe (wire recipe) = .ok res ↔
      recipe.id.getD "" ≠ "" ∧ recipe.interventionType ∈ validTypes ∧
        validateParams recipe.interventionType (wireParams recipe.params) = .ok () ∧
        res = parsed recipe := by
  have hparse : parseRecipe (wire recipe) =
      if recipe.id.getD "" = "" then .error "recipe missing required field: id"
      else
        match typeOf (typeName recipe.interventionType) with
        | none => .error s!"unknown intervention type: '{typeName recipe.interventionType}'"
        | some known =>
          match validateParams known (wireParams recipe.params) with
          | .error msg => .error msg
          | .ok () =>
            match compositionModeOf (compositionModeName recipe.mode) with
            | none => .error s!"invalid composition mode: '{compositionModeName recipe.mode}'"
            | some mode => .ok { parsed recipe with interventionType := known, mode } := rfl
  rw [hparse, typeOf_typeName, compositionModeOf_compositionModeName]
  by_cases hid : recipe.id.getD "" = ""
  · simp [hid]
  · by_cases htype : recipe.interventionType ∈ validTypes
    · rw [if_neg hid, if_pos htype]
      cases hparams : validateParams recipe.interventionType (wireParams recipe.params) with
      | error msg => simp [hparams]
      | ok valid =>
        simp only [hparams, Except.ok.injEq, ne_eq, hid, not_false_eq_true, htype, true_and]
        exact eq_comm
    · simp [hid, htype]

end RocketSurgeon.Host
