import RocketSurgeon.Worker.State

/-!
# Interventions at a tick

`try_apply_interventions` decides what the worker answers a hook with.  Recipes
whose target names one attention head (`model:rank:layer:o_proj[3]:event`) work on
that head's slice of the output, one after the other and before all others; the
remaining recipes go to the Python side in one call.

A panic of the source (a malformed head index, a division by zero heads) is a
failure here.
-/

namespace RocketSurgeon.Worker

open Lib Protocol Probes

variable {T : Type}

/-- `str::parse::<u32>`: digits, with an optional plus sign. -/
def parseU32 (text : List Char) : Option ℕ :=
  let digits := match text with
    | '+' :: rest => rest
    | _ => text
  if digits ≠ [] ∧ digits.all Char.isDigit ∧ digitsValue digits < 2 ^ 32 then
    some (digitsValue digits)
  else none

def attentionHeadComponents : List String := ["o_proj", "q_proj", "k_proj", "v_proj"]

/-- `extract_head_index`: the target without its head index, and the index.  The source cuts
off the last byte behind the bracket whatever it is, and panics where that is not a character. -/
def extractHeadIndex (target : String) : Except String (Option (String × ℕ)) :=
  match target.toList.splitOn ':' with
  | [model, rank, layer, component, event] =>
      match component.dropWhile (· ≠ '[') with
      | [] => .ok none
      | _ :: behind =>
          match behind.getLast? with
          | none => .error "slice index starts past its end"
          | some last =>
              if last.utf8Size ≠ 1 then .error "byte index is not a char boundary"
              else
                let base := component.takeWhile (· ≠ '[')
                let stripped := ":".intercalate
                  ([model, rank, layer, base, event].map String.ofList)
                .ok ((parseU32 behind.dropLast).map fun index => (stripped, index))
  | _ => .ok none

/-- The component field of a five-field target. -/
def targetComponent (target : String) : String :=
  String.ofList ((target.toList.splitOn ':').getD 3 [])

/-- Recipes for single heads of this component, and recipes without a head index.  A head
recipe for another component is dropped. -/
def splitRecipes (canonical : String) : List InterventionRecipe →
    Except String (List (InterventionRecipe × ℕ) × List InterventionRecipe)
  | [] => .ok ([], [])
  | recipe :: rest => do
      let found ← extractHeadIndex recipe.target
      let (heads, regular) ← splitRecipes canonical rest
      match found with
      | some (target, index) =>
          let base := targetComponent target
          if base ∈ attentionHeadComponents ∧ base = canonical then
            return (({ recipe with target }, index) :: heads, regular)
          else
            return (heads, regular)
      | none => return (heads, recipe :: regular)

/-- One head recipe: cut the head's slice, apply the recipe to it and write it back. -/
def applyHeadRecipe (bridge : Bridge T) (numHeads : ℕ) (point : InterventionPoint)
    (recipe : InterventionRecipe) (index : ℕ) (output : T) (fired : List String) :
    Except String (T × List String) := do
  match bridge.lastDim output with
  | none => .error "called Option::unwrap() on a None value"
  | some dim =>
      if numHeads = 0 then .error "attempt to divide by zero"
      else
        let headDim := dim % 2 ^ 32 / numHeads
        let start := index * headDim % 2 ^ 32
        let stop := (start + headDim) % 2 ^ 32
        let slice ← bridge.getHeadSlice output start stop
        let (modified, more) ← bridge.applyInterventionsAtPoint slice
          { point with recipes := [recipe] }
        let output ← bridge.setHeadSlice output start stop modified
        return (output, fired ++ more)

def applyHeadRecipes (bridge : Bridge T) (numHeads : ℕ) (point : InterventionPoint) :
    List (InterventionRecipe × ℕ) → T → List String → Except String (T × List String)
  | [], output, fired => .ok (output, fired)
  | (recipe, index) :: rest, output, fired => do
      let (output, fired) ← applyHeadRecipe bridge numHeads point recipe index output fired
      applyHeadRecipes bridge numHeads point rest output fired

/-- `try_apply_interventions`: the modified output and the recipes that fired, or nothing when
none did. -/
def tryApplyInterventions (bridge : Bridge T) (st : WorkerState T) (tickId : ℕ)
    (recipes : List InterventionRecipe) (event : HookEvent T) (layer : ℕ) (canonical : String)
    (handle : ℕ) : Except String (Option (T × List String)) :=
  match recipes, event.output with
  | [], _ => .ok none
  | _, none => .ok none
  | recipes, some output => do
      let point : InterventionPoint := {
        recipes
        family := st.family
        rank := st.rank
        layer
        component := canonical
        event := "output"
        tickId
        handle }
      let (heads, regular) ← splitRecipes canonical recipes
      let (output, fired) ← applyHeadRecipes bridge st.numHeads point heads output []
      let (output, fired) ←
        if regular = [] then pure (output, fired)
        else do
          let (modified, more) ← bridge.applyInterventionsAtPoint output
            { point with recipes := regular }
          pure (modified, fired ++ more)
      if fired = [] then return none else return some (output, fired)

end RocketSurgeon.Worker
