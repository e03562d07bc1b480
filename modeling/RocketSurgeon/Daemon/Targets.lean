import RocketSurgeon.Protocol.Messages

/-!
# Targets and recipes

The daemon's check of an intervention recipe: it has an id, its target names a known
component, and its parameters are of its declared type.  An unknown component is answered
with the nearest known ones, by edit distance.
-/

namespace RocketSurgeon.Daemon

open Protocol

def canonicalComponents : List String :=
  ["embed", "q_proj", "k_proj", "v_proj", "o_proj", "scores", "mlp", "gate_proj", "up_proj",
    "down_proj", "router", "residual_pre", "residual_post", "ln1", "ln2", "ln_final", "lm_head"]

/-- `component_leaf`: the last dotted segment, without an index. -/
def componentLeaf (component : List Char) : List Char :=
  let leaf := (component.splitOn '.').getLast?.getD component
  leaf.takeWhile (· ≠ '[')

/-- `target_component`: the third of four fields, else the fourth one. -/
def targetComponent (target : String) : Option (List Char) :=
  let parts := target.toList.splitOn ':'
  (parts[if parts.length = 4 then 2 else 3]?).filter fun component => !component.isEmpty

/-! ## Edit distance -/

/-- The rest of a row of the distance table: `left` is the entry before, `prev` the row above from
the column before. -/
def editRow (ca : Char) : List Char → List ℕ → ℕ → List ℕ
  | cb :: bs, diagonal :: above :: prev, left =>
      let cost := if ca = cb then 0 else 1
      let entry := min (min (above + 1) (left + 1)) (diagonal + cost)
      entry :: editRow ca bs (above :: prev) entry
  | _, _, _ => []

/-- The rows of the table, one for each character of `a`. -/
def editRows (b : List Char) : List Char → ℕ → List ℕ → List ℕ
  | [], _, prev => prev
  | ca :: as, i, prev => editRows b as (i + 1) ((i + 1) :: editRow ca b prev (i + 1))

def editDistance (a b : List Char) : ℕ :=
  (editRows b a 0 (List.range (b.length + 1))).getLast?.getD 0

/-- `nearest_components`: the nearest ones, and those within two of them, at most five. -/
def nearestComponents (attempted : List Char) : List String :=
  let scored := (canonicalComponents.map fun c => (editDistance attempted c.toList, c)).insertionSort
    fun x y => x.1 < y.1 ∨ x.1 = y.1 ∧ ¬ y.2 < x.2
  match scored with
  | [] => []
  | best :: _ => ((scored.filter fun entry => entry.1 ≤ best.1 + 2).take 5).map Prod.snd

def invalidTargetError (target : String) : ErrorData :=
  let attempted := (targetComponent target).getD target.toList
  let name := String.ofList attempted
  errorWithHint .invalidTarget <|
    match nearestComponents (componentLeaf attempted) with
    | best :: _ => s!"Unknown component '{name}' in target — did you mean '{best}'?"
    | [] => s!"Unknown component '{name}' in target"

/-- Whether the daemon can resolve the component a target names. -/
def knownTarget (target : String) : Bool :=
  match targetComponent target with
  | none => true
  | some component =>
      component = ['*'] || canonicalComponents.any fun c => c.toList = componentLeaf component

/-! ## Recipes -/

def recipeTypeMatchesParams (recipe : InterventionRecipe) : Bool :=
  match recipe.interventionType, recipe.params with
  | .ablate, .ablate _ _ _ => true
  | .scale, .scale _ => true
  | .add, .add _ => true
  | .patch, .patch _ => true
  | .clamp, .clamp _ _ => true
  | .routeOverride, .routeOverride _ _ => true
  | .attentionMask, .attentionMask _ _ _ => true
  | .embedSwap, .embedSwap _ _ => true
  | .embedNoise, .embedNoise _ _ _ => true
  | _, _ => false

def validateRecipe (recipe : InterventionRecipe) : Except ErrorData Unit :=
  if recipe.id = none ∨ recipe.id = some "" then
    .error (errorWithHint .invalidRecipe "Intervention recipe must carry a non-empty 'id'")
  else if !knownTarget recipe.target then .error (invalidTargetError recipe.target)
  else if !recipeTypeMatchesParams recipe then
    .error (errorWithHint .invalidRecipe
      "Recipe params do not match the declared intervention 'type'")
  else .ok ()

end RocketSurgeon.Daemon
