import RocketSurgeon.Host.Engine
import RocketSurgeon.Lib.Text
import RocketSurgeon.Worker.Replay
import RocketSurgeon.Worker.StepSplit

/-!
# The interventions of one tick

A step hands the output of a module to the recipes of the request and answers the hook with what
comes back.  It first takes the recipes apart: those whose target names a single head of an attention
projection are applied to that head's slice, those with a head index on another component are
dropped, and the rest goes to the Python side in one call.

A step fails at a tick if a head index cannot be read, a recipe that is not dropped does not parse,
or an operation on tensors raises.  As far as raising is a matter of the shape of a tensor, which no
operation changes, a tick fails over a list of recipes exactly if it fails over one of them.
-/

namespace RocketSurgeon.Worker

open Lib Protocol

variable {T : Type} {canonical : String} {reaction : Option (T × List String)} {fired : List String}
  {result : T × List String}

/-! ## Head indices -/

/-- A target with a head index has five fields; without the index it differs in the component
alone. -/
lemma extractHeadIndex_eq_some {target stripped : String} {idx : ℕ}
    (hextract : extractHeadIndex target = .ok (some (stripped, idx))) :
    ∃ model rank layer component event behind,
      target.toList.splitOn ':' = [model, rank, layer, component, event] ∧
      component = component.takeWhile (· ≠ '[') ++ '[' :: behind ∧
      parseU32 behind.dropLast = some idx ∧
      stripped.toList.splitOn ':' =
        [model, rank, layer, component.takeWhile (· ≠ '['), event] := by
  unfold extractHeadIndex at hextract
  split at hextract
  next model rank layer component event hfields =>
    have hsplit : component.takeWhile (· ≠ '[') ++ component.dropWhile (· ≠ '[') = component :=
      List.takeWhile_append_dropWhile
    have hhead := List.head?_dropWhile_not (fun char : Char => char ≠ '[') component
    generalize component.dropWhile (· ≠ '[') = rest at hextract hsplit hhead
    cases rest with
    | nil => cases hextract
    | cons opening behind =>
      obtain rfl : opening = '[' := by simpa using hhead
      dsimp only at hextract
      split at hextract
      · cases hextract
      · split_ifs at hextract
        obtain ⟨parsed, hparse, heq⟩ := Option.map_eq_some_iff.mp (Except.ok.inj hextract)
        obtain ⟨rfl, rfl⟩ := Prod.mk.inj heq
        refine ⟨model, rank, layer, component, event, behind, hfields, hsplit.symm, hparse, ?_⟩
        have hcolon : ∀ part ∈ [model, rank, layer, component, event], ':' ∉ part :=
          fun part hpart => not_mem_of_mem_splitOn (hfields ▸ hpart)
        rw [String.toList_intercalate, List.map_map]
        simp only [Function.comp_def, String.toList_ofList, List.map_id']
        refine List.splitOn_intercalate ':' ?_ (by simp)
        simp only [List.forall_mem_cons] at hcolon ⊢
        obtain ⟨hmodel, hrank, hlayer, hcomp, hevent, hnil⟩ := hcolon
        exact ⟨hmodel, hrank, hlayer,
          fun hmem => hcomp ((List.takeWhile_sublist _).subset hmem), hevent, hnil⟩
  · cases hextract

/-! ## Taking the recipes apart -/

/-- What a step makes of a recipe for a head of the component: the recipe for the whole component,
and the head. -/
def headRecipe (canonical : String) (recipe : InterventionRecipe) :
    Option (InterventionRecipe × ℕ) :=
  match extractHeadIndex recipe.target with
  | .ok (some (target, index)) =>
      if targetComponent target ∈ attentionHeadComponents ∧ targetComponent target = canonical then
        some ({ recipe with target }, index)
      else none
  | _ => none

/-- A recipe without a head index. -/
def isWhole (recipe : InterventionRecipe) : Bool :=
  match extractHeadIndex recipe.target with
  | .ok none => true
  | _ => false

lemma headRecipe_eq_some (hhead : headRecipe canonical recipe = some head) :
    ∃ target idx, extractHeadIndex recipe.target = .ok (some (target, idx)) ∧
      head = ({ recipe with target }, idx) ∧ canonical ∈ attentionHeadComponents ∧
      targetComponent target = canonical := by
  unfold headRecipe at hhead
  split at hhead
  next target idx hextract =>
    split_ifs at hhead with hattention
    exact ⟨target, idx, hextract, (Option.some.inj hhead).symm, hattention.2 ▸ hattention.1,
      hattention.2⟩
  · cases hhead

lemma isWhole_iff :
    isWhole recipe = true ↔ extractHeadIndex recipe.target = .ok none := by
  unfold isWhole
  split
  next hextract => simp [hextract]
  next hextract => exact iff_of_false nofun hextract

/-- Reading the head index of the recipe's target does not panic. -/
def Readable (recipe : InterventionRecipe) : Prop := (extractHeadIndex recipe.target).isOk = true

instance (recipe : InterventionRecipe) : Decidable (Readable recipe) :=
  inferInstanceAs (Decidable (_ = true))

lemma splitRecipes_eq_ok_iff {recipes : List InterventionRecipe}
    {parts : List (InterventionRecipe × ℕ) × List InterventionRecipe} :
    splitRecipes canonical recipes = .ok parts ↔
      (∀ recipe ∈ recipes, Readable recipe) ∧
        parts = (recipes.filterMap (headRecipe canonical), recipes.filter isWhole) := by
  induction recipes generalizing parts with
  | nil =>
    show Except.ok ([], []) = Except.ok parts ↔ _
    simp [eq_comm]
  | cons recipe recipes ih =>
    rw [splitRecipes, List.forall_mem_cons]
    cases hfound : extractHeadIndex recipe.target with
    | error msg =>
      refine iff_of_false nofun fun ⟨⟨hreadable, _⟩, _⟩ => ?_
      rw [Readable, hfound] at hreadable
      cases hreadable
    | ok found =>
      have hreadable : Readable recipe := by rw [Readable, hfound]; rfl
      cases hrest : splitRecipes canonical recipes with
      | error msg =>
        refine iff_of_false nofun fun ⟨⟨_, hall⟩, _⟩ => ?_
        rw [ih.mpr ⟨hall, rfl⟩] at hrest
        cases hrest
      | ok rest =>
        obtain ⟨hall, rfl⟩ := ih.mp hrest
        have hiff : ∀ expected, (Except.ok expected : Except String _) = .ok parts ↔
            (Readable recipe ∧ ∀ other ∈ recipes, Readable other) ∧ parts = expected :=
          fun expected => ⟨fun heq => ⟨⟨hreadable, hall⟩, (Except.ok.inj heq).symm⟩,
            fun heq => congrArg _ heq.2.symm⟩
        simp only [Bind.bind, Except.bind]
        rcases found with _ | ⟨target, idx⟩
        · have hwhole : isWhole recipe = true := by rw [isWhole, hfound]
          have hhead : headRecipe canonical recipe = none := by rw [headRecipe, hfound]
          rw [List.filter_cons_of_pos hwhole, List.filterMap_cons_none hhead]
          exact hiff _
        · have hwhole : ¬ isWhole recipe = true := by rw [isWhole, hfound]; nofun
          rw [List.filter_cons_of_neg hwhole]
          by_cases hattention : targetComponent target ∈ attentionHeadComponents ∧
              targetComponent target = canonical
          · have hhead : headRecipe canonical recipe =
                some ({ recipe with target }, idx) := by
              rw [headRecipe, hfound]
              exact if_pos hattention
            rw [List.filterMap_cons_some hhead]
            simp only [if_pos hattention]
            exact hiff _
          · have hhead : headRecipe canonical recipe = none := by
              rw [headRecipe, hfound]
              exact if_neg hattention
            rw [List.filterMap_cons_none hhead]
            simp only [if_neg hattention]
            exact hiff _

/-! ## The calls of a tick -/

section Calls

variable (bridge : Bridge T) (st : WorkerState T) (handle tickId : ℕ)
  (recipes : List InterventionRecipe) (event : HookEvent T) {output : T}

/-- The arguments of the Python side at a tick, with the recipes still to come. -/
def tickPoint (component : String × ℕ) (recipes : List InterventionRecipe) : InterventionPoint where
  recipes := recipes
  family := st.family
  rank := st.rank
  layer := component.2
  component := component.1
  event := "output"
  tickId := tickId
  handle := handle

variable {recipes event}

/-- The call for the recipes without a head index; it is left out if there are none. -/
def applyWhole (tensor : T) (point : InterventionPoint) : Except String (T × List String) :=
  if point.recipes = [] then .ok (tensor, []) else bridge.applyInterventionsAtPoint tensor point

lemma applyWhole_of_eq_nil (tensor : T) (hnil : point.recipes = []) :
    applyWhole bridge tensor point = .ok (tensor, []) := if_pos hnil

lemma applyWhole_of_ne_nil (tensor : T) (hne : point.recipes ≠ []) :
    applyWhole bridge tensor point = bridge.applyInterventionsAtPoint tensor point := if_neg hne

section

variable (hrecipes : recipes ≠ []) (houtput : event.output = some output)

include hrecipes houtput

/-- The step's side of a tick that has recipes and an output. -/
lemma react_eq :
    react bridge st handle recipes tickId event =
      (do
        let component := st.lookupComponent event.path event.callIndex
        let point := tickPoint st handle tickId component
        let (heads, regular) ← splitRecipes component.1 recipes
        let (cur, fired) ← applyHeadRecipes bridge st.numHeads (point recipes) heads output []
        let (modified, more) ← applyWhole bridge cur (point regular)
        if fired ++ more = [] then return none else return some (modified, fired ++ more)) := by
  obtain ⟨recipe, rest, rfl⟩ := List.exists_cons_of_ne_nil hrecipes
  obtain ⟨path, callIndex, found⟩ := event
  obtain rfl : found = some output := houtput
  unfold react tryApplyInterventions
  dsimp only
  cases splitRecipes (st.lookupComponent path callIndex).1 (recipe :: rest) with
  | error msg => rfl
  | ok parts =>
    obtain ⟨heads, regular⟩ := parts
    simp only [Bind.bind, Except.bind]
    refine congrArg _ (funext fun state => ?_)
    by_cases hregular : regular = []
    · rw [applyWhole_of_eq_nil _ _ hregular, if_pos hregular]
      simp [pure, Except.pure]
    · rw [applyWhole_of_ne_nil _ _ hregular, if_neg hregular]
      simp only [tickPoint]
      cases bridge.applyInterventionsAtPoint state.1 _ <;> rfl

/-- A tick is not failed if the head indices can be read and no call fails. -/
lemma react_eq_ok_iff :
    react bridge st handle recipes tickId event = .ok reaction ↔
      (∀ recipe ∈ recipes, Readable recipe) ∧
      let component := st.lookupComponent event.path event.callIndex
      let point := tickPoint st handle tickId component
      ∃ cur fired modified more,
        applyHeadRecipes bridge st.numHeads (point recipes)
          (recipes.filterMap (headRecipe component.1)) output [] = .ok (cur, fired) ∧
        applyWhole bridge cur (point (recipes.filter isWhole)) = .ok (modified, more) ∧
        reaction = if fired ++ more = [] then none else some (modified, fired ++ more) := by
  rw [react_eq bridge st handle tickId hrecipes houtput]
  constructor
  · intro hok
    obtain ⟨⟨heads, regular⟩, hsplit, hbehind⟩ := bind_eq_ok hok
    obtain ⟨hreadable, hparts⟩ := splitRecipes_eq_ok_iff.mp hsplit
    obtain ⟨rfl, rfl⟩ := Prod.mk.inj hparts
    obtain ⟨⟨cur, fired⟩, hheads, hbehind⟩ := bind_eq_ok hbehind
    obtain ⟨⟨modified, more⟩, hwhole, hbehind⟩ := bind_eq_ok hbehind
    refine ⟨hreadable, cur, fired, modified, more, hheads, hwhole, ?_⟩
    dsimp only at hbehind
    split_ifs at hbehind ⊢ <;> exact (Except.ok.inj hbehind).symm
  · rintro ⟨hreadable, cur, fired, modified, more, hheads, hwhole, rfl⟩
    have hsplit := fun canonical =>
      (@splitRecipes_eq_ok_iff canonical recipes _).mpr ⟨hreadable, rfl⟩
    simp only [hsplit, hheads, hwhole, Bind.bind, Except.bind]
    split_ifs <;> rfl

end

end Calls

/-- Tensors of one row; a vector that is added has to have its length. -/
def rowOps : Host.TensorOps (List ℚ) where
  zero := fun row => .ok (row.map fun _ => 0)
  fillMean := fun row => .ok (row.map fun _ => row.sum / row.length)
  resample := .ok
  mul := fun row factor => .ok (row.map (· * factor))
  addVector := fun row values =>
    if values.length = row.length then .ok (List.zipWith (· + ·) row values)
    else .error "The size of tensor a must match the size of tensor b"
  addTensor := fun row source => .ok (List.zipWith (· + ·) row source)
  copy := fun _ source => .ok source
  clamp := fun row min max => .ok (row.map fun value => if value < min then min else
    if max < value then max else value)

/-- Their slices. -/
def rowSlices : Bridge (List ℚ) :=
  { Bridge.quiet fun _ => [] with
    lastDim := fun row => some row.length
    getHeadSlice := fun row start stop => .ok ((row.take stop).drop start)
    setHeadSlice := fun row start stop slice =>
      if slice.length = ((row.take stop).drop start).length then
        .ok (if start ≤ stop then row.take start ++ slice ++ row.drop stop else row)
      else .error "The expanded size of the tensor must match the existing size" }

/-- A Python side for them, with the engine. -/
def rowBridge : Bridge (List ℚ) := Host.withEngine Char.isDigit rowOps rowSlices

/-- A worker whose attention has two heads. -/
def twoHeads : WorkerState (List ℚ) := attachModel WorkerState.new { twoLayerModel with numHeads := 2 }

/-- The output of the first layer's `o_proj`. -/
def rowEvent : HookEvent (List ℚ) := ⟨"layers.0.o_proj", 0, some [1, 2, 3, 4]⟩

/-- Double the output of a component, or of one head of it. -/
def doubling (component : String) : InterventionRecipe where
  id := some "double"
  interventionType := .scale
  target := "llama:0:0:" ++ component ++ ":output"
  params := .scale 2
  condition := none
  priority := 0
  mode := .additive

/-! ## With the engine -/

section Engine

open Host

variable {isDecimal : Char → Bool} {ops : TensorOps T} {base : Bridge T} (point : InterventionPoint)

/-- The recipes for heads that fire at a point, in the order they are registered in. -/
def firedHeads (isDecimal : Char → Bool) (point : InterventionPoint)
    (heads : List (InterventionRecipe × ℕ)) : List (InterventionRecipe × ℕ) :=
  heads.filter fun head => applies isDecimal point (parsed head.1)

/-- What a tick reports as fired: the recipes for heads, then the others by priority. -/
def tickFired (isDecimal : Char → Bool) (point : InterventionPoint)
    (recipes : List InterventionRecipe) : List String :=
  (firedHeads isDecimal point (recipes.filterMap (headRecipe point.component))).map
      (fun head => (parsed head.1).id) ++
    (firedRecipes isDecimal point (recipes.filter isWhole)).map Recipe.id

lemma applies_with_recipes (recipes : List InterventionRecipe) (recipe : Recipe) :
    applies isDecimal { point with recipes } recipe = applies isDecimal point recipe := rfl

lemma firedRecipes_singleton (recipe : InterventionRecipe) :
    firedRecipes isDecimal point [recipe] =
      if applies isDecimal point (parsed recipe) then [parsed recipe] else [] := by
  unfold firedRecipes filterRecipes
  rw [List.map_singleton, List.filter_singleton]
  cases applies isDecimal point (parsed recipe) <;> rfl

/-- A call returns if every recipe parses and those that fire at its point can be run. -/
lemma withEngine_eq_ok_iff {point : InterventionPoint} :
    (withEngine isDecimal ops base).applyInterventionsAtPoint tensor point = .ok result ↔
      (∀ recipe ∈ point.recipes, Parses recipe) ∧
        applyInOrder ops none tensor (firedRecipes isDecimal point point.recipes) (tensor, []) =
          .ok result := by
  rw [← applyInterventionsAtPoint_eq_ok_iff]
  simp only [withEngine]
  cases applyInterventionsAtPoint isDecimal ops tensor point with
  | error failure => exact iff_of_false nofun nofun
  | ok value => exact ⟨fun heq => congrArg _ (Except.ok.inj heq),
      fun heq => congrArg _ (Except.ok.inj heq)⟩

lemma fired_withEngine {point : InterventionPoint}
    (hok : (withEngine isDecimal ops base).applyInterventionsAtPoint tensor point = .ok result) :
    result.2 = (firedRecipes isDecimal point point.recipes).map Recipe.id := by
  simpa using fired_applyInOrder (withEngine_eq_ok_iff.mp hok).2

lemma applyWhole_withEngine (tensor : T) (point : InterventionPoint) :
    applyWhole (withEngine isDecimal ops base) tensor point =
      (withEngine isDecimal ops base).applyInterventionsAtPoint tensor point := by
  unfold applyWhole
  split_ifs with hnil
  · simp only [withEngine, applyInterventionsAtPoint, hnil]
    rfl
  · rfl

/-- Change one head of a tensor. -/
def onHead (base : Bridge T) (numHeads index : ℕ) (change : T → Except String T) (tensor : T) :
    Except String T :=
  match base.lastDim tensor with
  | none => .error "called Option::unwrap() on a None value"
  | some dim =>
      if numHeads = 0 then .error "attempt to divide by zero"
      else do
        let headDim := dim % 2 ^ 32 / numHeads
        let start := index * headDim % 2 ^ 32
        let stop := (start + headDim) % 2 ^ 32
        let slice ← base.getHeadSlice tensor start stop
        base.setHeadSlice tensor start stop (← change slice)

/-- What a call for one recipe does to a tensor: nothing if the recipe does not fire. -/
def performIfFired (isDecimal : Char → Bool) (ops : TensorOps T) (point : InterventionPoint)
    (recipe : InterventionRecipe) (tensor : T) : Except String T :=
  if applies isDecimal point (parsed recipe) then applySingle ops none (parsed recipe) tensor
  else .ok tensor

lemma withEngine_singleton_eq_ok_iff {point : InterventionPoint} {recipe : InterventionRecipe} :
    (withEngine isDecimal ops base).applyInterventionsAtPoint tensor
        { point with recipes := [recipe] } = .ok result ↔
      Parses recipe ∧ performIfFired isDecimal ops point recipe tensor = .ok result.1 ∧
        result.2 = (firedRecipes isDecimal point [recipe]).map Recipe.id := by
  obtain ⟨modified, more⟩ := result
  rw [withEngine_eq_ok_iff, List.forall_mem_singleton, performIfFired, firedRecipes_singleton,
    firedRecipes_singleton, applies_with_recipes]
  refine and_congr_right fun _ => ?_
  split_ifs
  · rw [applyInOrder, ite_self]
    cases applySingle ops none (parsed recipe) tensor with
    | error message =>
      refine iff_of_false (fun hok => ?_) fun hok => ?_
      · cases hok
      · cases hok.1
    | ok current =>
      show Except.ok (current, [(parsed recipe).id]) = _ ↔ _
      rw [Except.ok.injEq, Except.ok.injEq, Prod.mk.injEq]
      exact and_congr_right fun _ => eq_comm
  · show Except.ok (tensor, []) = _ ↔ _
    rw [Except.ok.injEq, Except.ok.injEq, Prod.mk.injEq]
    exact and_congr_right fun _ => eq_comm

/-- A call for a head changes its slice if the recipe fires, and reports the recipe then. -/
lemma applyHeadRecipe_eq_ok_iff {point : InterventionPoint} {recipe : InterventionRecipe}
    {index : ℕ} :
    applyHeadRecipe (withEngine isDecimal ops base) numHeads point recipe index output fired =
        .ok result ↔
      Parses recipe ∧
        onHead base numHeads index (performIfFired isDecimal ops point recipe) output =
          .ok result.1 ∧
        result.2 = fired ++ (firedRecipes isDecimal point [recipe]).map Recipe.id := by
  have hdim : (withEngine isDecimal ops base).lastDim output = base.lastDim output := rfl
  unfold applyHeadRecipe onHead
  rw [hdim]
  cases base.lastDim output with
  | none => exact iff_of_false nofun fun hright => nomatch hright.2.1
  | some dim =>
    dsimp only
    split_ifs with hzero
    · exact iff_of_false nofun fun hright => nomatch hright.2.1
    · constructor
      · intro hok
        obtain ⟨slice, hslice, hok⟩ := bind_eq_ok hok
        obtain ⟨⟨modified, more⟩, hcall, hok⟩ := bind_eq_ok hok
        obtain ⟨written, hwritten, hok⟩ := bind_eq_ok hok
        cases hok
        replace hslice : base.getHeadSlice output _ _ = .ok slice := hslice
        obtain ⟨hparses, hperformed, hmore⟩ := withEngine_singleton_eq_ok_iff.mp hcall
        replace hmore : more = _ := hmore
        refine ⟨hparses, ?_, by rw [hmore]⟩
        rw [hslice]
        simp only [Bind.bind, Except.bind, hperformed]
        exact hwritten
      · rintro ⟨hparses, hchanged, hfired⟩
        obtain ⟨slice, hslice, hchanged⟩ := bind_eq_ok hchanged
        obtain ⟨modified, hperformed, hwritten⟩ := bind_eq_ok hchanged
        have hcall : (withEngine isDecimal ops base).applyInterventionsAtPoint slice
            { point with recipes := [recipe] } =
              .ok (modified, (firedRecipes isDecimal point [recipe]).map Recipe.id) :=
          withEngine_singleton_eq_ok_iff.mpr ⟨hparses, hperformed, rfl⟩
        replace hslice : (withEngine isDecimal ops base).getHeadSlice output _ _ = .ok slice := hslice
        replace hwritten : (withEngine isDecimal ops base).setHeadSlice output _ _ modified = _ :=
          hwritten
        rw [hslice]
        simp only [Bind.bind, Except.bind, hcall, hwritten]
        exact congrArg Except.ok (Prod.ext rfl hfired.symm)

lemma fired_applyHeadRecipes {point : InterventionPoint}
    (hok : applyHeadRecipes (withEngine isDecimal ops base) numHeads point heads output fired =
      .ok result) :
    result.2 = fired ++ (firedHeads isDecimal point heads).map fun head => (parsed head.1).id := by
  induction heads generalizing output fired with
  | nil =>
    cases hok
    simp [firedHeads]
  | cons head heads ih =>
    obtain ⟨first, hfirst, hok⟩ := bind_eq_ok hok
    rw [ih hok, (applyHeadRecipe_eq_ok_iff.mp hfirst).2.2, firedRecipes_singleton, firedHeads,
      firedHeads, List.filter_cons]
    split_ifs <;> simp

section Tick

variable {st : WorkerState T} {handle tickId : ℕ} {recipes : List InterventionRecipe}
  {event : HookEvent T} {output : T}

/-- A tick that is not failed reports `tickFired`, and answers the hook if that is not empty. -/
lemma fired_react (hrecipes : recipes ≠ []) (houtput : event.output = some output)
    (hok : react (withEngine isDecimal ops base) st handle recipes tickId event = .ok reaction) :
    (∀ recipe ∈ recipes, Readable recipe) ∧
      reactionFired reaction = tickFired isDecimal
        (tickPoint st handle tickId (st.lookupComponent event.path event.callIndex) recipes)
        recipes := by
  obtain ⟨hreadable, cur, fired, modified, more, hheads, hwhole, rfl⟩ :=
    (react_eq_ok_iff _ st handle tickId hrecipes houtput).mp hok
  refine ⟨hreadable, ?_⟩
  rw [applyWhole_withEngine] at hwhole
  have hfired := fired_applyHeadRecipes hheads
  have hmore := fired_withEngine hwhole
  simp only [List.nil_append] at hfired hmore
  have hall : tickFired isDecimal (tickPoint st handle tickId
      (st.lookupComponent event.path event.callIndex) recipes) recipes = fired ++ more := by
    rw [hfired, hmore]
    rfl
  rw [hall]
  split_ifs with hempty
  · exact hempty.symm
  · rfl

end Tick

/-! ## Who fires -/

/-- The recipe fires at the point: as a recipe for a head, or with the others. -/
def FiresAt (isDecimal : Char → Bool) (point : InterventionPoint) (recipe : InterventionRecipe) :
    Prop :=
  (∃ head, headRecipe point.component recipe = some head ∧
      applies isDecimal point (parsed head.1) = true) ∨
    isWhole recipe = true ∧ applies isDecimal point (parsed recipe) = true

lemma mem_tickFired {point : InterventionPoint} {id : String} :
    id ∈ tickFired isDecimal point recipes ↔
      ∃ recipe ∈ recipes, FiresAt isDecimal point recipe ∧ recipe.id.getD "" = id := by
  have hheads : id ∈ (firedHeads isDecimal point
      (recipes.filterMap (headRecipe point.component))).map (fun head => (parsed head.1).id) ↔
      ∃ recipe ∈ recipes, (∃ head, headRecipe point.component recipe = some head ∧
        applies isDecimal point (parsed head.1) = true) ∧ recipe.id.getD "" = id := by
    simp only [firedHeads, List.mem_map, List.mem_filter, List.mem_filterMap]
    constructor
    · rintro ⟨head, ⟨⟨recipe, hrecipe, hhead⟩, happlies⟩, rfl⟩
      obtain ⟨target, idx, -, rfl, -⟩ := headRecipe_eq_some hhead
      exact ⟨recipe, hrecipe, ⟨_, hhead, happlies⟩, rfl⟩
    · rintro ⟨recipe, hrecipe, ⟨head, hhead, happlies⟩, rfl⟩
      refine ⟨head, ⟨⟨recipe, hrecipe, hhead⟩, happlies⟩, ?_⟩
      obtain ⟨target, idx, -, rfl, -⟩ := headRecipe_eq_some hhead
      rfl
  have hwhole : id ∈ (firedRecipes isDecimal point (recipes.filter isWhole)).map Recipe.id ↔
      ∃ recipe ∈ recipes, (isWhole recipe = true ∧
        applies isDecimal point (parsed recipe) = true) ∧ recipe.id.getD "" = id := by
    simp only [List.mem_map, mem_firedRecipes, List.mem_filter]
    constructor
    · rintro ⟨_, ⟨recipe, ⟨hrecipe, hwhole⟩, rfl, happlies⟩, rfl⟩
      exact ⟨recipe, hrecipe, ⟨hwhole, happlies⟩, rfl⟩
    · rintro ⟨recipe, hrecipe, ⟨hwhole, happlies⟩, rfl⟩
      exact ⟨_, ⟨recipe, ⟨hrecipe, hwhole⟩, rfl, happlies⟩, rfl⟩
  rw [tickFired, List.mem_append, hheads, hwhole, ← exists_or]
  refine exists_congr fun recipe => ?_
  rw [← and_or_left, ← or_and_right]
  rfl

/-! ## Calls that return -/

/-- What a tick asks of a recipe: its head index can be read and, unless it is dropped as one for
a head of another component, it parses. -/
def Handled (canonical : String) (recipe : InterventionRecipe) : Prop :=
  Readable recipe ∧ ((headRecipe canonical recipe).isSome ∨ isWhole recipe = true → Parses recipe)

lemma parses_headRecipe (hhead : headRecipe canonical recipe = some head) :
    Parses head.1 ↔ Parses recipe := by
  obtain ⟨target, idx, -, rfl, -⟩ := headRecipe_eq_some hhead
  exact ⟨fun ⟨hid, htype, hparams⟩ => ⟨hid, htype, hparams⟩,
    fun ⟨hid, htype, hparams⟩ => ⟨hid, htype, hparams⟩⟩

lemma parses_of_applyHeadRecipes {point : InterventionPoint}
    (hok : applyHeadRecipes (withEngine isDecimal ops base) numHeads point heads output fired =
      .ok result) : ∀ head ∈ heads, Parses head.1 := by
  induction heads generalizing output fired with
  | nil => exact fun _ hmem => nomatch hmem
  | cons head heads ih =>
    obtain ⟨first, hfirst, hok⟩ := bind_eq_ok hok
    exact List.forall_mem_cons.mpr ⟨(applyHeadRecipe_eq_ok_iff.mp hfirst).1, ih hok⟩

lemma handled_of_react_eq_ok {handle : ℕ} (houtput : event.output = some output)
    (hok : react (withEngine isDecimal ops base) st handle recipes tickId event = .ok reaction) :
    ∀ recipe ∈ recipes, Handled (st.lookupComponent event.path event.callIndex).1 recipe := by
  intro recipe hrecipe
  obtain ⟨hreadable, current, fired, modified, more, hheads, hwhole, -⟩ :=
    (react_eq_ok_iff _ st handle tickId (List.ne_nil_of_mem hrecipe) houtput).mp hok
  refine ⟨hreadable recipe hrecipe, fun htaken => ?_⟩
  rcases htaken with hhead | hall
  · obtain ⟨head, hhead⟩ := Option.isSome_iff_exists.mp hhead
    exact (parses_headRecipe hhead).mp (parses_of_applyHeadRecipes hheads head
      (List.mem_filterMap.mpr ⟨recipe, hrecipe, hhead⟩))
  · rw [applyWhole_withEngine] at hwhole
    exact (withEngine_eq_ok_iff.mp hwhole).1 recipe (List.mem_filter.mpr ⟨hrecipe, hall⟩)

/-- Whether an operation on a tensor raises is a matter of its shape, which no operation changes.
`Alike` tells the tensors of one shape. -/
structure ShapeBound (ops : TensorOps T) (base : Bridge T) (Alike : T → T → Prop) : Prop where
  equivalence : Equivalence Alike
  returns : ∀ (op : Operation) {tensor other}, Alike tensor other →
    (op.run ops none tensor).isOk = true → (op.run ops none other).isOk = true
  keeps : ∀ (op : Operation) {tensor result}, op.run ops none tensor = .ok result →
    Alike tensor result
  lastDim : ∀ {tensor other}, Alike tensor other → base.lastDim other = base.lastDim tensor
  get : ∀ {tensor other start stop slice}, Alike tensor other →
    base.getHeadSlice tensor start stop = .ok slice →
    ∃ slice', base.getHeadSlice other start stop = .ok slice' ∧ Alike slice slice'
  set : ∀ {tensor other start stop slice slice' result}, Alike tensor other → Alike slice slice' →
    base.setHeadSlice tensor start stop slice = .ok result → Alike tensor result ∧
      ∃ result', base.setHeadSlice other start stop slice' = .ok result'

namespace ShapeBound

variable {point} {Alike : T → T → Prop} (hbound : ShapeBound ops base Alike)
include hbound

lemma applySingle {tensor other result : T} (hparses : Parses recipe) (halike : Alike tensor other)
    (hok : Host.applySingle ops none (parsed recipe) tensor = .ok result) :
    Alike tensor result ∧ ∃ result', Host.applySingle ops none (parsed recipe) other = .ok result' := by
  obtain ⟨op, -, hrun⟩ := @exists_operation T recipe hparses
  rw [hrun] at hok ⊢
  have hreturns := hbound.returns op halike (by rw [hok]; rfl)
  exact ⟨hbound.keeps op hok, exists_ok_of_isOk hreturns⟩

lemma performIfFired {tensor other result : T} (hparses : Parses recipe)
    (halike : Alike tensor other)
    (hok : Worker.performIfFired isDecimal ops point recipe tensor = .ok result) :
    Alike tensor result ∧
      ∃ result', Worker.performIfFired isDecimal ops point recipe other = .ok result' := by
  unfold Worker.performIfFired at hok ⊢
  split_ifs at hok ⊢
  · exact hbound.applySingle hparses halike hok
  · exact ⟨Except.ok.inj hok ▸ hbound.equivalence.refl _, other, rfl⟩

lemma onHead {tensor other result : T} (hparses : Parses recipe) (halike : Alike tensor other)
    (hok : Worker.onHead base numHeads index
      (Worker.performIfFired isDecimal ops point recipe) tensor = .ok result) :
    Alike tensor result ∧ ∃ result', Worker.onHead base numHeads index
      (Worker.performIfFired isDecimal ops point recipe) other = .ok result' := by
  unfold Worker.onHead at hok ⊢
  rw [hbound.lastDim halike]
  split at hok
  · cases hok
  next dim hdim =>
    split_ifs at hok ⊢ with hzero
    obtain ⟨slice, hslice, hok⟩ := bind_eq_ok hok
    obtain ⟨modified, hperformed, hwritten⟩ := bind_eq_ok hok
    obtain ⟨slice', hslice', hslices⟩ := hbound.get halike hslice
    obtain ⟨hkept, modified', hperformed'⟩ := hbound.performIfFired hparses hslices hperformed
    have hkept' := (hbound.performIfFired hparses (hbound.equivalence.refl _) hperformed').1
    obtain ⟨hresult, written', hwritten'⟩ := hbound.set halike (hbound.equivalence.trans
      (hbound.equivalence.symm hkept) (hbound.equivalence.trans hslices hkept')) hwritten
    refine ⟨hresult, written', ?_⟩
    simp only [hslice', hperformed', Bind.bind, Except.bind]
    exact hwritten'

lemma exists_applyInOrder_iff {recipes : List Recipe}
    (hrecipes : ∀ recipe ∈ recipes, ∃ source, Parses source ∧ parsed source = recipe)
    {original : T} {state : T × List String} (horiginal : Alike tensor original)
    (hstate : Alike tensor state.1) :
    (∃ result, applyInOrder ops none original recipes state = .ok result) ↔
      ∀ recipe ∈ recipes, (Host.applySingle ops none recipe tensor).isOk = true := by
  induction recipes generalizing state with
  | nil => exact ⟨fun _ _ hmem => (nomatch hmem), fun _ => ⟨state, rfl⟩⟩
  | cons recipe recipes ih =>
    obtain ⟨⟨source, hparses, rfl⟩, hrest⟩ := List.forall_mem_cons.mp hrecipes
    have hstart : Alike tensor (if (parsed source).mode = .replace then original else state.1) := by
      split_ifs
      · exact horiginal
      · exact hstate
    rw [List.forall_mem_cons, applyInOrder]
    constructor
    · rintro ⟨result, hok⟩
      obtain ⟨current, hsingle, hok⟩ := bind_eq_ok hok
      obtain ⟨hkept, result', hresult'⟩ :=
        hbound.applySingle hparses (hbound.equivalence.symm hstart) hsingle
      refine ⟨by rw [hresult']; rfl, (ih hrest ?_).mp ⟨result, hok⟩⟩
      exact hbound.equivalence.trans hstart hkept
    · rintro ⟨hsingle, hall⟩
      obtain ⟨result, hresult⟩ := exists_ok_of_isOk hsingle
      obtain ⟨-, current, hcurrent⟩ := hbound.applySingle hparses hstart hresult
      have hkept := (hbound.applySingle hparses (hbound.equivalence.refl _) hcurrent).1
      obtain ⟨result', hok⟩ := (@ih hrest (current, state.2 ++ [(parsed source).id])
        (hbound.equivalence.trans hstart hkept)).mpr hall
      refine ⟨result', ?_⟩
      rw [hcurrent]
      exact hok

lemma exists_withEngine_iff (halike : Alike tensor other) :
    (∃ result, (withEngine isDecimal ops base).applyInterventionsAtPoint other point =
        .ok result) ↔
      ∀ recipe ∈ point.recipes, Parses recipe ∧
        (Worker.performIfFired isDecimal ops point recipe tensor).isOk = true := by
  simp only [withEngine_eq_ok_iff, exists_and_left]
  rw [forall₂_and]
  refine and_congr_right fun hparses => ?_
  have hfired : ∀ fired ∈ firedRecipes isDecimal point point.recipes,
      ∃ source, Parses source ∧ parsed source = fired := by
    intro fired hfired
    obtain ⟨recipe, hrecipe, hparsed, -⟩ := mem_firedRecipes.mp hfired
    exact ⟨recipe, hparses recipe hrecipe, hparsed⟩
  rw [hbound.exists_applyInOrder_iff hfired halike halike]
  constructor
  · intro hall recipe hrecipe
    unfold Worker.performIfFired
    split_ifs with happlies
    · exact hall _ (mem_firedRecipes.mpr ⟨recipe, hrecipe, rfl, happlies⟩)
    · rfl
  · intro hall fired hmem
    obtain ⟨recipe, hrecipe, rfl, happlies⟩ := mem_firedRecipes.mp hmem
    have hperforms := hall recipe hrecipe
    rwa [Worker.performIfFired, if_pos happlies] at hperforms

lemma alike_applyHeadRecipes {output : T} {fired : List String} {result : T × List String}
    (halike : Alike tensor output)
    (hok : applyHeadRecipes (withEngine isDecimal ops base) numHeads point heads output fired =
      .ok result) : Alike tensor result.1 := by
  induction heads generalizing output fired with
  | nil => exact Except.ok.inj hok ▸ halike
  | cons head heads ih =>
    obtain ⟨first, hfirst, hok⟩ := bind_eq_ok hok
    obtain ⟨hparses, hchanged, -⟩ := applyHeadRecipe_eq_ok_iff.mp hfirst
    have hkept := (hbound.onHead hparses (hbound.equivalence.refl _) hchanged).1
    exact ih (hbound.equivalence.trans halike hkept) hok

lemma exists_applyHeadRecipes_iff {output : T} {fired : List String} (halike : Alike tensor output) :
    (∃ result, applyHeadRecipes (withEngine isDecimal ops base) numHeads point heads output fired =
        .ok result) ↔
      ∀ head ∈ heads, Parses head.1 ∧ (Worker.onHead base numHeads head.2
        (Worker.performIfFired isDecimal ops point head.1) tensor).isOk = true := by
  induction heads generalizing output fired with
  | nil => exact ⟨fun _ _ hmem => (nomatch hmem), fun _ => ⟨(output, fired), rfl⟩⟩
  | cons head heads ih =>
    rw [List.forall_mem_cons]
    constructor
    · rintro ⟨result, hok⟩
      obtain ⟨first, hfirst, hok⟩ := bind_eq_ok hok
      obtain ⟨hparses, hchanged, -⟩ := applyHeadRecipe_eq_ok_iff.mp hfirst
      obtain ⟨hkept, changed, hchanged'⟩ :=
        hbound.onHead hparses (hbound.equivalence.symm halike) hchanged
      refine ⟨⟨hparses, by rw [hchanged']; rfl⟩, (ih ?_).mp ⟨result, hok⟩⟩
      exact hbound.equivalence.trans halike hkept
    · rintro ⟨⟨hparses, hchanged⟩, hall⟩
      obtain ⟨changed, hchanged⟩ := exists_ok_of_isOk hchanged
      obtain ⟨-, current, hcurrent⟩ := hbound.onHead hparses halike hchanged
      have hkept := (hbound.onHead hparses (hbound.equivalence.refl _) hcurrent).1
      have hfirst : applyHeadRecipe (withEngine isDecimal ops base) numHeads point head.1 head.2
          output fired = .ok (current, _) := applyHeadRecipe_eq_ok_iff.mpr ⟨hparses, hcurrent, rfl⟩
      obtain ⟨result, hok⟩ := (ih (hbound.equivalence.trans halike hkept)).mpr hall
      refine ⟨result, ?_⟩
      rw [applyHeadRecipes, hfirst]
      exact hok

end ShapeBound

/-- The point of a call, as far as recipes are matched with it. -/
def pointOf (st : WorkerState T) (event : HookEvent T) : InterventionPoint :=
  tickPoint st 0 0 (st.lookupComponent event.path event.callIndex) []

/-- The recipe does not fail a call with this output: its head index can be read, and if it is not
dropped it parses and, where it fires, can be performed on the output or on the slice of its head. -/
structure Performable (isDecimal : Char → Bool) (ops : TensorOps T) (base : Bridge T)
    (st : WorkerState T) (event : HookEvent T) (output : T) (recipe : InterventionRecipe) :
    Prop where
  readable : Readable recipe
  head : ∀ head, headRecipe (pointOf st event).component recipe = some head → Parses recipe ∧
    (onHead base st.numHeads head.2 (performIfFired isDecimal ops (pointOf st event) head.1)
      output).isOk = true
  whole : isWhole recipe = true → Parses recipe ∧
    (performIfFired isDecimal ops (pointOf st event) recipe output).isOk = true

/-- A tick fails over a list of recipes exactly if it fails over one of them. -/
lemma exists_react_iff {Alike : T → T → Prop} (hbound : ShapeBound ops base Alike)
    {st : WorkerState T} {handle tickId : ℕ} {recipes : List InterventionRecipe}
    {event : HookEvent T} {output : T} (houtput : event.output = some output) :
    (∃ reaction, react (withEngine isDecimal ops base) st handle recipes tickId event =
        .ok reaction) ↔
      ∀ recipe ∈ recipes, Performable isDecimal ops base st event output recipe := by
  by_cases hrecipes : recipes = []
  · subst hrecipes
    exact ⟨fun _ _ hmem => (nomatch hmem), fun _ => ⟨none, rfl⟩⟩
  have hrefl := hbound.equivalence.refl output
  have hreact : (∃ reaction, react (withEngine isDecimal ops base) st handle recipes tickId event =
      .ok reaction) ↔ (∀ recipe ∈ recipes, Readable recipe) ∧
        (∀ head ∈ recipes.filterMap (headRecipe (pointOf st event).component), Parses head.1 ∧
          (onHead base st.numHeads head.2 (performIfFired isDecimal ops (pointOf st event) head.1)
            output).isOk = true) ∧
        ∀ recipe ∈ recipes.filter isWhole, Parses recipe ∧
          (performIfFired isDecimal ops (pointOf st event) recipe output).isOk = true := by
    constructor
    · rintro ⟨reaction, hok⟩
      obtain ⟨hreadable, current, fired, modified, more, hheads, hwhole, -⟩ :=
        (react_eq_ok_iff _ st handle tickId hrecipes houtput).mp hok
      rw [applyWhole_withEngine] at hwhole
      have halike := hbound.alike_applyHeadRecipes hrefl hheads
      have hheads := (hbound.exists_applyHeadRecipes_iff hrefl).mp ⟨_, hheads⟩
      have hwhole := (hbound.exists_withEngine_iff halike).mp ⟨_, hwhole⟩
      exact ⟨hreadable, hheads, hwhole⟩
    · rintro ⟨hreadable, hheads, hwhole⟩
      obtain ⟨⟨current, fired⟩, hheads⟩ := (@ShapeBound.exists_applyHeadRecipes_iff T isDecimal ops base
        (tickPoint st handle tickId (st.lookupComponent event.path event.callIndex) recipes)
        Alike hbound output st.numHeads _ output [] hrefl).mpr hheads
      have halike := hbound.alike_applyHeadRecipes hrefl hheads
      obtain ⟨⟨modified, more⟩, hwhole⟩ := (@ShapeBound.exists_withEngine_iff T isDecimal ops base
        (tickPoint st handle tickId (st.lookupComponent event.path event.callIndex)
          (recipes.filter isWhole)) Alike hbound output current halike).mpr hwhole
      refine ⟨_, (react_eq_ok_iff _ st handle tickId hrecipes houtput).mpr
        ⟨hreadable, current, fired, modified, more, hheads, ?_, rfl⟩⟩
      rw [applyWhole_withEngine]
      exact hwhole
  rw [hreact]
  constructor
  · rintro ⟨hreadable, hheads, hwhole⟩ recipe hrecipe
    refine ⟨hreadable recipe hrecipe, fun head hhead => ?_,
      fun hisWhole => hwhole recipe (List.mem_filter.mpr ⟨hrecipe, hisWhole⟩)⟩
    obtain ⟨hparses, hreturns⟩ := hheads head (List.mem_filterMap.mpr ⟨recipe, hrecipe, hhead⟩)
    exact ⟨(parses_headRecipe hhead).mp hparses, hreturns⟩
  · intro hall
    refine ⟨fun recipe hrecipe => (hall recipe hrecipe).readable, fun head hmem => ?_,
      fun recipe hmem => ?_⟩
    · obtain ⟨recipe, hrecipe, hhead⟩ := List.mem_filterMap.mp hmem
      obtain ⟨hparses, hreturns⟩ := (hall recipe hrecipe).head head hhead
      exact ⟨(parses_headRecipe hhead).mpr hparses, hreturns⟩
    · obtain ⟨hrecipe, hisWhole⟩ := List.mem_filter.mp hmem
      exact (hall recipe hrecipe).whole hisWhole

end Engine

end RocketSurgeon.Worker
