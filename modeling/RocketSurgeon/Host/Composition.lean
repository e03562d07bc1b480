import RocketSurgeon.Host.Engine
import RocketSurgeon.Lib.StableSort

/-!
# Composition in place

PyTorch changes tensors in place.  Here a tensor is an address: a clone takes a free one, and an
operation writes to the address it is given.  The engine writes only to clones of its own, so other
addresses hold what they held before, and it computes what it computes on values.
-/

namespace RocketSurgeon.Host

open Lib Protocol Worker List Function

variable {T : Type} {isDecimal : Char → Bool} {ops : TensorOps T} {point : InterventionPoint}

/-! ## Memory -/

/-- The tensors in memory; the addresses from `next` on are free. -/
structure Memory (T : Type) where
  cells : ℕ → T
  next : ℕ

namespace Memory

/-- `tensor.clone()`, with the address of the copy. -/
def clone (memory : Memory T) (address : ℕ) : Memory T × ℕ :=
  (⟨Function.update memory.cells memory.next (memory.cells address), memory.next + 1⟩, memory.next)

def write (memory : Memory T) (address : ℕ) (value : T) : Memory T :=
  ⟨Function.update memory.cells address value, memory.next⟩

/-- The tensors a store of addresses holds now. -/
def read (memory : Memory T) (tensorStore : Option (String → Option ℕ)) :
    Option (String → Option T) :=
  tensorStore.map fun store tensorId => (store tensorId).map memory.cells

/-- What the store names is in memory. -/
def Backs (memory : Memory T) (tensorStore : Option (String → Option ℕ)) : Prop :=
  ∀ store ∈ tensorStore, ∀ tensorId, ∀ address ∈ store tensorId, address < memory.next

end Memory

/-- The loop of `apply_interventions`: memory with the address of `current`, and what has fired. -/
def applyInOrderInPlace (ops : TensorOps T) (tensorStore : Option (String → Option ℕ))
    (original : ℕ) :
    List Recipe → Memory T × ℕ → List String → Except String ((Memory T × ℕ) × List String)
  | [], state, fired => .ok (state, fired)
  | recipe :: rest, state, fired => do
      let (memory, current) := if recipe.mode = .replace then state.1.clone original else state
      let value ← applySingle ops (memory.read tensorStore) recipe (memory.cells current)
      applyInOrderInPlace ops tensorStore original rest (memory.write current value, current)
        (fired ++ [recipe.id])

/-- `apply_interventions` on the address of a tensor. -/
def applyInterventionsInPlace (isDecimal : Char → Bool) (ops : TensorOps T)
    (tensorStore : Option (String → Option ℕ)) (memory : Memory T) (tensor : ℕ)
    (recipes : List Recipe) (point : InterventionPoint) :
    Except String ((Memory T × ℕ) × List String) :=
  let matched := filterRecipes isDecimal point recipes
  if matched = [] then .ok ((memory, tensor), [])
  else
    let (memory, original) := memory.clone tensor
    applyInOrderInPlace ops tensorStore original (sortByPriority matched) (memory.clone tensor) []

/-! ## The engine writes to its own clones -/

/-- What was in memory is still there, and a clone of the engine at `original` holds `value`. -/
structure Saved (before : Memory T) (value : T) (original : ℕ) (memory : Memory T) : Prop where
  kept : ∀ address < before.next, memory.cells address = before.cells address
  own : before.next ≤ original ∧ original < memory.next
  copy : memory.cells original = value

section Loop

variable {before memory : Memory T} {value : T} {original address : ℕ}
  {tensorStore : Option (String → Option ℕ)}

lemma Saved.update {next : ℕ} (hsaved : Saved before value original memory)
    (hcell : before.next ≤ address ∧ address ≠ original) (hnext : memory.next ≤ next) (entry : T) :
    Saved before value original ⟨update memory.cells address entry, next⟩ where
  kept other hother :=
    (update_of_ne (hother.trans_le hcell.1).ne _ _).trans (hsaved.kept other hother)
  own := ⟨hsaved.own.1, hsaved.own.2.trans_le hnext⟩
  copy := (update_of_ne hcell.2.symm _ _).trans hsaved.copy

lemma Saved.next (hsaved : Saved before value original memory) :
    before.next ≤ memory.next ∧ memory.next ≠ original :=
  ⟨hsaved.own.1.trans hsaved.own.2.le, hsaved.own.2.ne'⟩

lemma saved_clone (memory : Memory T) (tensor : ℕ) :
    Saved memory (memory.cells tensor) memory.next (memory.clone tensor).1 where
  kept _ haddress := update_of_ne haddress.ne _ _
  own := ⟨le_rfl, Nat.lt_succ_self _⟩
  copy := update_self ..

lemma Saved.read (hsaved : Saved before value original memory) (hstore : before.Backs tensorStore) :
    memory.read tensorStore = before.read tensorStore := by
  unfold Memory.read
  refine Option.map_congr fun store hmem => funext fun tensorId => ?_
  exact Option.map_congr fun address haddress =>
    hsaved.kept address (hstore store hmem tensorId address haddress)

lemma applyInOrderInPlace_of_ok {state : Memory T × ℕ}
    (hsaved : Saved before value original state.1)
    (hcurrent : before.next ≤ state.2 ∧ state.2 ≠ original) (hstore : before.Backs tensorStore)
    (hok : applyInOrder ops (before.read tensorStore) value recipes
      (state.1.cells state.2, fired) = .ok result) :
    ∃ last, applyInOrderInPlace ops tensorStore original recipes state fired = .ok (last, result.2) ∧
      last.1.cells last.2 = result.1 ∧ Saved before value original last.1 := by
  induction recipes generalizing state fired with
  | nil =>
    cases hok
    exact ⟨state, rfl, rfl, hsaved⟩
  | cons recipe rest ih =>
    obtain ⟨entry, hentry, hok⟩ := bind_eq_ok hok
    -- a recipe in `replace` mode goes on with a new clone
    obtain ⟨start, hstart, hsaved, hcurrent, hcell⟩ : ∃ start,
        (if recipe.mode = .replace then state.1.clone original else state) = start ∧
        Saved before value original start.1 ∧ (before.next ≤ start.2 ∧ start.2 ≠ original) ∧
        start.1.cells start.2 =
          if recipe.mode = .replace then value else state.1.cells state.2 := by
      split_ifs
      · exact ⟨_, rfl, hsaved.update hsaved.next (Nat.le_succ _) _, hsaved.next,
          (update_self ..).trans hsaved.copy⟩
      · exact ⟨_, rfl, hsaved, hcurrent, rfl⟩
    have hwritten : (start.1.write start.2 entry).cells start.2 = entry := update_self ..
    obtain ⟨last, hlast, hres⟩ := @ih _ (start.1.write start.2 entry, start.2)
      (hsaved.update hcurrent le_rfl entry) hcurrent (by rwa [hwritten])
    refine ⟨last, ?_, hres⟩
    rw [applyInOrderInPlace, hstart, ← hlast]
    dsimp only
    rw [hsaved.read hstore, hcell, hentry]
    rfl

end Loop

/-! ## The last recipe that replaces -/

/-- The recipes from the last one in `replace` mode on, all of them if there is none. -/
def fromLastReplace : List Recipe → List Recipe
  | [] => []
  | recipe :: rest =>
      if rest.any (·.mode = .replace) then fromLastReplace rest else recipe :: rest

lemma fromLastReplace_of_any_eq_false (hnone : recipes.any (·.mode = .replace) = false) :
    fromLastReplace recipes = recipes := by
  cases recipes with
  | nil => rfl
  | cons recipe rest =>
    rw [any_cons, Bool.or_eq_false_iff] at hnone
    rw [fromLastReplace, if_neg (by simp [hnone.2])]

/-- Operations that take every tensor that fits, and leave one that fits. -/
def Fitting (Fits : T → Prop) (apply : Recipe → T → Except String T) (recipes : List Recipe) :
    Prop :=
  ∀ recipe ∈ recipes, ∀ tensor, Fits tensor → ∃ result, apply recipe tensor = .ok result ∧ Fits result

lemma applyInOrder_eq_foldlM {Fits : T → Prop} {original current : T}
    (hfitting : Fitting Fits (applySingle ops tensorStore) recipes)
    (horiginal : Fits original) (hcurrent : Fits current) (fired : List String) :
    ∃ result, applyInOrder ops tensorStore original recipes (current, fired) =
        .ok (result, fired ++ recipes.map Recipe.id) ∧
      (fromLastReplace recipes).foldlM (fun tensor recipe => applySingle ops tensorStore recipe tensor)
        (if recipes.any (·.mode = .replace) then original else current) = .ok result := by
  induction recipes generalizing current fired with
  | nil => exact ⟨current, by simp [applyInOrder], rfl⟩
  | cons recipe rest ih =>
    obtain ⟨hrecipe, hrest⟩ := forall_mem_cons.mp hfitting
    have hstart : Fits (if recipe.mode = .replace then original else current) := by
      split_ifs
      · exact horiginal
      · exact hcurrent
    obtain ⟨value, hvalue, hfits⟩ := hrecipe _ hstart
    obtain ⟨result, hrun, hfold⟩ := ih hrest hfits _
    refine ⟨result, ?_, ?_⟩
    · rw [applyInOrder, hvalue]
      exact hrun.trans (by simp)
    · cases hany : rest.any (·.mode = .replace) with
      | true => simpa [fromLastReplace, hany] using hfold
      | false =>
        rw [hany, fromLastReplace_of_any_eq_false hany] at hfold
        simp only [fromLastReplace, any_cons, hany, Bool.or_false, Bool.false_eq_true, if_false,
          decide_eq_true_eq, foldlM_cons, hvalue]
        exact hfold

/-! ## Composition -/

/-- A stable sort by priority of the recipes that apply. -/
structure Selection (isDecimal : Char → Bool) (point : InterventionPoint)
    (recipes selected : List Recipe) : Prop where
  perm : selected.Perm (recipes.filter (applies isDecimal point))
  sorted : selected.Pairwise fun first second => first.priority ≤ second.priority
  stable : ∀ priority, selected.filter (·.priority = priority) =
    (recipes.filter (applies isDecimal point)).filter (·.priority = priority)

lemma selection_sortByPriority (recipes : List Recipe) :
    Selection isDecimal point recipes (sortByPriority (filterRecipes isDecimal point recipes)) where
  perm := perm_sortOn Recipe.priority _
  sorted := pairwise_sortOn Recipe.priority _
  stable priority := by
    let kept := filterRecipes isDecimal point recipes
    have hkept : (kept.filter (·.priority = priority)).Pairwise fun first second =>
        first.priority ≤ second.priority := by
      refine pairwise_of_forall_mem_list fun first hfirst second hsecond => ?_
      have hfirst := (mem_filter.mp hfirst).2
      have hsecond := (mem_filter.mp hsecond).2
      simp_all
    have hsub := (sublist_insertionSort hkept filter_sublist).filter (·.priority = priority)
    rw [filter_filter] at hsub
    simp only [Bool.and_self] at hsub
    exact (hsub.eq_of_length ((perm_sortOn Recipe.priority kept).filter _).length_eq.symm).symm

/-- The operations of the recipes that apply, from the last one in `replace` mode on, are applied to
what the tensor holds.  All of the recipes are reported, and what was in memory stays. -/
def Composes (isDecimal : Char → Bool) (ops : TensorOps T)
    (tensorStore : Option (String → Option ℕ)) (memory : Memory T) (tensor : ℕ)
    (recipes : List Recipe) (point : InterventionPoint) : Prop :=
  ∃ selected result last, Selection isDecimal point recipes selected ∧
    (fromLastReplace selected).foldlM
      (fun tensor recipe => applySingle ops (memory.read tensorStore) recipe tensor)
      (memory.cells tensor) = .ok result ∧
    applyInterventionsInPlace isDecimal ops tensorStore memory tensor recipes point =
      .ok (last, selected.map Recipe.id) ∧
    last.1.cells last.2 = result ∧
    ∀ address < memory.next, last.1.cells address = memory.cells address

/-- **Composition.**  This is so wherever the parameters fit the tensors. -/
theorem applyInterventionsInPlace_composes {Fits : T → Prop} {memory : Memory T}
    (htensor : tensor < memory.next) (hstore : memory.Backs tensorStore)
    (hfits : Fits (memory.cells tensor))
    (hfitting : Fitting Fits (applySingle ops (memory.read tensorStore)) recipes) :
    Composes isDecimal ops tensorStore memory tensor recipes point := by
  have hselection := @selection_sortByPriority isDecimal point recipes
  by_cases hnone : filterRecipes isDecimal point recipes = []
  · refine ⟨_, memory.cells tensor, (memory, tensor), hselection, ?_, ?_, rfl, fun _ _ => rfl⟩
    · rw [hnone]
      rfl
    · rw [applyInterventionsInPlace, if_pos hnone, hnone]
      rfl
  · have hsaved := saved_clone memory tensor
    have hcurrent : ((memory.clone tensor).1.clone tensor).1.cells
        ((memory.clone tensor).1.clone tensor).2 = memory.cells tensor :=
      (update_self ..).trans (update_of_ne htensor.ne _ _)
    obtain ⟨result, hrun, hfold⟩ := applyInOrder_eq_foldlM (fun recipe hrecipe =>
      hfitting recipe (mem_of_mem_filter (hselection.perm.mem_iff.mp hrecipe))) hfits hfits []
    obtain ⟨last, hlast, hresult, hkept⟩ :=
      applyInOrderInPlace_of_ok (hsaved.update hsaved.next (Nat.le_succ _) _) hsaved.next hstore
        (by rw [hcurrent]; exact hrun)
    refine ⟨_, result, last, hselection, ?_, ?_, hresult, hkept.kept⟩
    · simpa using hfold
    · rw [applyInterventionsInPlace, if_neg hnone]
      exact hlast

/-- Numbers for tensors. -/
def numberOps : TensorOps ℚ :=
  ⟨.ok, .ok, .ok, fun x factor => .ok (x * factor), fun x _ => .ok x, fun x y => .ok (x + y),
    fun _ y => .ok y, fun x _ _ => .ok x⟩

/-- By priority: a scaling, a sum that starts again from the input, and another scaling. -/
def threeRecipes : List Recipe :=
  [⟨"late", .scale, "*:*:*:*:*", [("factor", .num 2)], 5, .additive, none⟩,
    ⟨"early", .scale, "*:*:*:*:*", [("factor", .num 7)], 0, .additive, none⟩,
    ⟨"again", .add, "*:*:*:*:*", [("vector", .text "stored")], 1, .replace, none⟩]

def threeAndTen : Memory ℚ := ⟨fun address => if address = 1 then 10 else 3, 2⟩

def storedTen (tensorId : String) : Option ℕ := if tensorId = "stored" then some 1 else none

/-- What the first scaling does is lost: the result is (3 + 10) * 2. -/
theorem applyInterventionsInPlace_composes_again :
    Composes (fun _ => false) numberOps (some storedTen) threeAndTen 0 threeRecipes
      ⟨[], "llama", 0, 1, "mlp", "output", 0, 0⟩ ∧
    (applyInterventionsInPlace (fun _ => false) numberOps (some storedTen) threeAndTen 0
      threeRecipes ⟨[], "llama", 0, 1, "mlp", "output", 0, 0⟩).map
        (fun result => (result.1.1.cells result.1.2, result.2)) =
      .ok (26, ["early", "again", "late"]) := by
  refine ⟨@applyInterventionsInPlace_composes _ _ _ _ _ _ _ (fun _ => True) _ Nat.two_pos ?_
    trivial ?_, by decide +kernel⟩
  · intro store hstore tensorId address haddress
    obtain rfl : storedTen = store := Option.some.inj hstore
    rw [storedTen] at haddress
    split_ifs at haddress
    · cases haddress
      exact Nat.one_lt_two
    · cases haddress
  · intro recipe hrecipe x _
    simp only [threeRecipes, mem_cons, not_mem_nil, or_false] at hrecipe
    rcases hrecipe with rfl | rfl | rfl
    · exact ⟨x * 2, rfl, trivial⟩
    · exact ⟨x * 7, rfl, trivial⟩
    · exact ⟨x + 10, rfl, trivial⟩

end RocketSurgeon.Host
