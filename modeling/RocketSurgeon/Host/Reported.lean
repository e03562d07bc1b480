import RocketSurgeon.Host.Engine

/-!
# What a fired recipe has done

The engine reports a recipe as fired once its step of the loop has returned.  For a recipe that
names a tensor of the daemon's store that says little: the bridge calls the engine without a
tensor store, so a `patch` and an `add` by reference are logged and leave the tensor alone, and
are reported all the same.

Performing a recipe is what the engine does when every reference can be resolved.  After each
of the fired recipes the tensor is the result of performing them in sequence exactly if none of
them works by reference.
-/

namespace RocketSurgeon.Host

open Lib Protocol Worker List

variable {T : Type}

/-- A recipe that takes a tensor from the store. -/
def byReference (recipe : InterventionRecipe) : Bool :=
  match operation recipe with
  | some (.addReference _) => true
  | some (.patch _) => true
  | _ => false

lemma applySingle_of_byReference (hreference : byReference recipe = true) (ops : TensorOps T)
    (tensor : T) :
    applySingle ops none (parsed recipe) tensor = .ok tensor := by
  obtain ⟨id, interventionType, target, params, condition, priority, mode⟩ := recipe
  rcases params with factor | ⟨values | tid⟩ | sourceTensorId | _ | _ | _ | _ | _ | _
  all_goals cases interventionType
  all_goals first
    | rfl
    | exact absurd hreference (by simp [byReference, operation])

lemma applySingle_eq_of_not_byReference (hparses : Parses recipe)
    (hown : byReference recipe = false) (ops : TensorOps T)
    (first second : Option (String → Option T)) (tensor : T) :
    applySingle ops first (parsed recipe) tensor = applySingle ops second (parsed recipe) tensor := by
  obtain ⟨op, hop, hrun⟩ := @exists_operation T recipe hparses
  rw [hrun, hrun]
  unfold byReference at hown
  rw [hop] at hown
  cases op with
  | addReference tid | patch tid => cases hown
  | ablate mode => cases mode <;> rfl
  | _ => rfl

lemma applyInOrder_eq_of_not_byReference
    (hfired : ∀ recipe ∈ fired, ∃ source, Parses source ∧ byReference source = false ∧
      parsed source = recipe) (ops : TensorOps T) (first second : Option (String → Option T))
    (original : T) (state : T × List String) :
    applyInOrder ops first original fired state = applyInOrder ops second original fired state := by
  induction fired generalizing state with
  | nil => rfl
  | cons recipe fired ih =>
    obtain ⟨⟨source, hparses, hown, rfl⟩, hrest⟩ := forall_mem_cons.mp hfired
    rw [applyInOrder, applyInOrder,
      applySingle_eq_of_not_byReference hparses hown ops first second]
    exact bind_congr fun cur => ih hrest _

/-- What is reported as fired has been performed: after each number of fired recipes the tensor
is what performing them in sequence gives, with every referenced tensor at hand. -/
def PerformsWhatItReports (isDecimal : Char → Bool) (point : InterventionPoint) : Prop :=
  ∀ (T : Type) (ops : TensorOps T) (source : String → T) (tensor result : T)
    (reported : List String),
    applyInterventionsAtPoint isDecimal ops tensor point = .ok (result, reported) →
    let fired := firedRecipes isDecimal point point.recipes
    reported = fired.map Recipe.id ∧
      ∀ count, applyInOrder ops none tensor (fired.take count) (tensor, []) =
        applyInOrder ops (some fun tensorId => some (source tensorId)) tensor (fired.take count)
          (tensor, [])

/-! ## A tensor that shows who touched it -/

/-- Tensors that remember one thing: whether another tensor went into them. -/
def flagOps : TensorOps Bool where
  zero := .ok
  fillMean := .ok
  resample := .ok
  mul := fun tensor _ => .ok tensor
  addVector := fun tensor _ => .ok tensor
  addTensor := fun _ _ => .ok true
  copy := fun _ _ => .ok true
  clamp := fun tensor _ _ => .ok tensor

lemma total_flagOps : flagOps.Total where
  zero := fun tensor => ⟨tensor, rfl⟩
  fillMean := fun tensor => ⟨tensor, rfl⟩
  resample := fun tensor => ⟨tensor, rfl⟩
  mul := fun tensor _ => ⟨tensor, rfl⟩
  addVector := fun tensor _ => ⟨tensor, rfl⟩
  addTensor := fun _ _ => ⟨true, rfl⟩
  copy := fun _ _ => ⟨true, rfl⟩
  clamp := fun tensor _ _ => ⟨tensor, rfl⟩

lemma applySingle_flagOps_none (hparses : Parses recipe) :
    applySingle flagOps none (parsed recipe) false = .ok false := by
  obtain ⟨op, -, hrun⟩ := @exists_operation Bool recipe hparses
  rw [hrun]
  cases op with
  | ablate mode => cases mode <;> rfl
  | _ => rfl

lemma applyInOrder_flagOps_none
    (hfired : ∀ recipe ∈ fired, ∃ source, Parses source ∧ parsed source = recipe)
    (reported : List String) :
    applyInOrder flagOps none false fired (false, reported) =
      .ok (false, reported ++ fired.map Recipe.id) := by
  induction fired generalizing reported with
  | nil => simp [applyInOrder]
  | cons recipe fired ih =>
    obtain ⟨⟨source, hparses, rfl⟩, hrest⟩ := forall_mem_cons.mp hfired
    rw [applyInOrder, ite_self, applySingle_flagOps_none hparses]
    show applyInOrder flagOps none false fired _ = _
    rw [ih hrest]
    simp

lemma applySingle_flagOps_some {recipe : InterventionRecipe} (hparses : Parses recipe)
    (hreference : byReference recipe = true) (tensor : Bool) :
    applySingle flagOps (some fun _ => some false) (parsed recipe) tensor = .ok true := by
  obtain ⟨op, hop, hrun⟩ := @exists_operation Bool recipe hparses
  rw [hrun]
  unfold byReference at hreference
  rw [hop] at hreference
  cases op with
  | addReference tid | patch tid => rfl
  | _ => cases hreference

/-- Whatever is fired has been performed exactly if, of the recipes the engine accepts, none that
applies at the point works by reference. -/
theorem performsWhatItReports_iff (isDecimal : Char → Bool) (point : InterventionPoint) :
    PerformsWhatItReports isDecimal point ↔
      ((∀ recipe ∈ point.recipes, Parses recipe) →
        ∀ recipe ∈ point.recipes, applies isDecimal point (parsed recipe) = true →
          byReference recipe = false) := by
  constructor
  · intro hperforms hparses recipe hrecipe happlies
    by_contra hreference
    rw [Bool.not_eq_false] at hreference
    have hfired : ∀ fired ∈ firedRecipes isDecimal point point.recipes,
        ∃ source, Parses source ∧ parsed source = fired := by
      intro fired hmem
      obtain ⟨source, hsource, hparsed, -⟩ := mem_firedRecipes.mp hmem
      exact ⟨source, hparses source hsource, hparsed⟩
    have hok := applyInterventionsAtPoint_eq_ok_iff.mpr
      ⟨hparses, applyInOrder_flagOps_none hfired []⟩
    obtain ⟨-, hprefix⟩ := hperforms Bool flagOps (fun _ => false) false _ _ hok
    obtain ⟨before, after, hsplit⟩ := append_of_mem
      (mem_firedRecipes.mpr ⟨recipe, hrecipe, rfl, happlies⟩)
    -- compare the two runs right behind the recipe
    have htake : (firedRecipes isDecimal point point.recipes).take (before.length + 1) =
        before ++ [parsed recipe] := by
      rw [hsplit, append_cons]
      exact take_left' (by simp)
    have hbefore : ∀ fired ∈ before ++ [parsed recipe],
        ∃ source, Parses source ∧ parsed source = fired := by
      intro fired hmem
      exact hfired fired (mem_of_mem_take (htake ▸ hmem))
    have hequal := hprefix (before.length + 1)
    rw [htake, applyInOrder_flagOps_none hbefore, applyInOrder_append] at hequal
    obtain ⟨current, hcurrent⟩ := exists_applyInOrder total_flagOps
      (some fun _ => some false) false
      (fun fired hmem => hbefore fired (mem_append_left _ hmem)) _
    rw [hcurrent] at hequal
    simp only [Bind.bind, Except.bind] at hequal
    rw [applyInOrder, applySingle_flagOps_some (hparses recipe hrecipe) hreference] at hequal
    cases hequal
  · intro hown T ops source tensor result reported hok
    obtain ⟨hparses, hrun⟩ := applyInterventionsAtPoint_eq_ok_iff.mp hok
    refine ⟨by simpa using fired_applyInOrder hrun, fun count => ?_⟩
    apply applyInOrder_eq_of_not_byReference
    intro fired hmem
    obtain ⟨recipe, hrecipe, rfl, happlies⟩ := mem_firedRecipes.mp (mem_of_mem_take hmem)
    exact ⟨recipe, hparses recipe hrecipe, hown hparses recipe hrecipe happlies, rfl⟩

/-- A patch of the output of `o_proj` by a tensor of the store. -/
def patchRecipe : InterventionRecipe where
  id := some "p"
  interventionType := .patch
  target := "llama:0:3:o_proj:output"
  params := .patch "tensor-1"
  condition := none
  priority := 0
  mode := .additive

def patchPoint : InterventionPoint :=
  ⟨[patchRecipe], "llama", 0, 3, "o_proj", "output", 1, 1⟩

/-- The patch is reported as fired, and the tensor is not the referenced one. -/
theorem not_performs_patch :
    applyInterventionsAtPoint Char.isDigit flagOps false patchPoint = .ok (false, ["p"]) ∧
      applySingle flagOps (some fun _ => some true) (parsed patchRecipe) false = .ok true ∧
      ¬ PerformsWhatItReports Char.isDigit patchPoint := by
  have hok : applyInterventionsAtPoint Char.isDigit flagOps false patchPoint =
      .ok (false, ["p"]) := by
    decide +kernel
  refine ⟨hok, rfl, fun hperforms => ?_⟩
  obtain ⟨-, hprefix⟩ := hperforms Bool flagOps (fun _ => true) false _ _ hok
  have hfired : firedRecipes Char.isDigit patchPoint patchPoint.recipes = [parsed patchRecipe] := by
    decide +kernel
  have hequal := hprefix 1
  cases hequal

end RocketSurgeon.Host
