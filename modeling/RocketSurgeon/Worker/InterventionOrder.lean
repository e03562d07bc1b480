import RocketSurgeon.Lib.StableSort
import RocketSurgeon.Worker.InterventionRuns

/-!
# The order of the interventions of a tick

Of several recipes that fire at a tick those of smaller priority are to be applied first, and of
those of equal priority the ones registered first; a recipe in `replace` mode starts over from
the output of the module.  Python does so for the recipes of one call.  A step makes more calls
than one: one for each recipe for a head, in the order they are registered in, and one for all
others.  So the recipes for heads always come first, in whatever order they were registered,
and what a `replace` starts over from is the output as the calls before have left it.

A tick reports the recipes that fire in the order of their priorities, and delivers what
performing them in that order gives, exactly if every two of them are in harmony.
-/

namespace RocketSurgeon.Worker

open Lib Protocol Host List
open scoped List

variable {T : Type} {output : T} {entries : List (InterventionRecipe × Option ℕ)}
  {entry : InterventionRecipe × Option ℕ} {fired : List String} {result : T × List String}
  {numHeads : ℕ} (canonical : String)

/-! ## The recipes that fire -/

/-- What a tick makes of a recipe: one for the whole output, or one for a head.  Recipes for heads
of other components are dropped. -/
def placed (canonical : String) (recipe : InterventionRecipe) :
    Option (InterventionRecipe × Option ℕ) :=
  if isWhole recipe then some (recipe, none)
  else (headRecipe canonical recipe).map fun head => (head.1, some head.2)

/-- The recipes that fire at a point, in the order they are registered in. -/
def firing (isDecimal : Char → Bool) (point : InterventionPoint)
    (recipes : List InterventionRecipe) : List (InterventionRecipe × Option ℕ) :=
  (recipes.filterMap (placed point.component)).filter fun entry =>
    applies isDecimal point (parsed entry.1)

def priority (entry : InterventionRecipe × Option ℕ) : ℤ := entry.1.priority

def isForHead (entry : InterventionRecipe × Option ℕ) : Bool := entry.2.isSome

def reportedId (entry : InterventionRecipe × Option ℕ) : String := entry.1.id.getD ""

/-- The order in which a tick applies them. -/
def applicationOrder (entries : List (InterventionRecipe × Option ℕ)) :
    List (InterventionRecipe × Option ℕ) :=
  entries.filter isForHead ++ sortOn priority (entries.filter fun entry => !isForHead entry)

/-- The order of their priorities. -/
def priorityOrder (entries : List (InterventionRecipe × Option ℕ)) :
    List (InterventionRecipe × Option ℕ) :=
  sortOn priority entries

/-- A recipe is for the whole output, for a head of this component, or dropped. -/
lemma placed_cases (recipe : InterventionRecipe) :
    isWhole recipe = true ∧ headRecipe canonical recipe = none ∧
        placed canonical recipe = some (recipe, none) ∨
      (∃ head, isWhole recipe = false ∧ headRecipe canonical recipe = some head ∧
        placed canonical recipe = some (head.1, some head.2)) ∨
      isWhole recipe = false ∧ headRecipe canonical recipe = none ∧
        placed canonical recipe = none := by
  unfold placed
  cases hhead : headRecipe canonical recipe with
  | none => cases isWhole recipe <;> simp
  | some head =>
    obtain ⟨target, index, hextract, -⟩ := headRecipe_eq_some hhead
    have hwhole : isWhole recipe = false := by rw [isWhole, hextract]
    simp [hwhole]

lemma filterMap_headRecipe_eq (recipes : List InterventionRecipe) :
    (recipes.filterMap (headRecipe canonical)).map (fun head => (head.1, some head.2)) =
      (recipes.filterMap (placed canonical)).filter isForHead := by
  induction recipes with
  | nil => rfl
  | cons recipe rest ih =>
    rcases placed_cases canonical recipe with ⟨-, hhead, hplaced⟩ | ⟨head, -, hhead, hplaced⟩ |
      ⟨-, hhead, hplaced⟩
    · rw [filterMap_cons_none hhead, filterMap_cons_some hplaced, ih]
      rfl
    · rw [filterMap_cons_some hhead, filterMap_cons_some hplaced, map_cons, ih]
      rfl
    · rw [filterMap_cons_none hhead, filterMap_cons_none hplaced, ih]

lemma filter_isWhole_eq (recipes : List InterventionRecipe) :
    recipes.filter isWhole =
      ((recipes.filterMap (placed canonical)).filter fun entry => !isForHead entry).map Prod.fst := by
  induction recipes with
  | nil => rfl
  | cons recipe rest ih =>
    rcases placed_cases canonical recipe with ⟨hwhole, -, hplaced⟩ | ⟨head, hwhole, -, hplaced⟩ |
      ⟨hwhole, -, hplaced⟩
    · rw [filter_cons_of_pos hwhole, filterMap_cons_some hplaced, ih]
      rfl
    · rw [filter_cons_of_neg (by simp [hwhole]), filterMap_cons_some hplaced, ih]
      rfl
    · rw [filter_cons_of_neg (by simp [hwhole]), filterMap_cons_none hplaced, ih]

section Order

variable (isDecimal : Char → Bool) (point : InterventionPoint) (recipes : List InterventionRecipe)

lemma firedHeads_eq :
    (firedHeads isDecimal point (recipes.filterMap (headRecipe point.component))).map
        (fun head => (head.1, some head.2)) =
      (firing isDecimal point recipes).filter isForHead := by
  rw [firedHeads, firing, filter_comm, ← filterMap_headRecipe_eq, filter_map]
  rfl

lemma firedRecipes_eq :
    firedRecipes isDecimal point (recipes.filter isWhole) =
      (sortOn priority ((firing isDecimal point recipes).filter fun entry => !isForHead entry)).map
        fun entry => parsed entry.1 := by
  have hsort : firedRecipes isDecimal point (recipes.filter isWhole) =
      sortOn Recipe.priority (((recipes.filter isWhole).map parsed).filter
        (applies isDecimal point)) := rfl
  rw [hsort, filter_isWhole_eq point.component, map_map, filter_map, ← map_sortOn, firing,
    filter_comm]
  rfl

lemma tickFired_eq :
    tickFired isDecimal point recipes =
      (applicationOrder (firing isDecimal point recipes)).map reportedId := by
  rw [tickFired, firedRecipes_eq, applicationOrder, map_append, ← firedHeads_eq, map_map,
    map_map]
  rfl

end Order

/-! ## Performing recipes -/

/-- Writing back a slice as it was read changes nothing. -/
def LawfulSlices (base : Bridge T) : Prop :=
  ∀ tensor start stop slice, base.getHeadSlice tensor start stop = .ok slice →
    base.setHeadSlice tensor start stop slice = .ok tensor

section Perform

variable (ops : TensorOps T) (base : Bridge T) (numHeads : ℕ) {original tensor : T}

/-- Perform a recipe on a tensor, or on its head. -/
def performOn (entry : InterventionRecipe × Option ℕ) : T → Except String T :=
  match entry.2 with
  | none => applySingle ops none (parsed entry.1)
  | some index => onHead base numHeads index (applySingle ops none (parsed entry.1))

/-- Perform recipes one after the other; those in `replace` mode start over from `original`. -/
def perform (original : T) (entries : List (InterventionRecipe × Option ℕ)) (tensor : T) :
    Except String T :=
  entries.foldlM (fun current entry =>
    performOn ops base numHeads entry (if entry.1.mode = .replace then original else current)) tensor

/-- Perform recipes one after the other, none of which starts over. -/
def performPlain (entries : List (InterventionRecipe × Option ℕ)) (tensor : T) : Except String T :=
  entries.foldlM (fun current entry => performOn ops base numHeads entry current) tensor

variable {ops base numHeads}

lemma perform_cons (original : T) (entry : InterventionRecipe × Option ℕ)
    (entries : List (InterventionRecipe × Option ℕ)) (tensor : T) :
    perform ops base numHeads original (entry :: entries) tensor =
      performOn ops base numHeads entry (if entry.1.mode = .replace then original else tensor) >>=
        perform ops base numHeads original entries := rfl

lemma perform_append (original : T) (first second : List (InterventionRecipe × Option ℕ))
    (tensor : T) :
    perform ops base numHeads original (first ++ second) tensor =
      perform ops base numHeads original first tensor >>=
        perform ops base numHeads original second :=
  foldlM_append

/-- A call for one recipe performs it if it applies, and does nothing otherwise. -/
lemma applyHeadRecipe_eq_ok (isDecimal : Char → Bool) (hlawful : LawfulSlices base)
    (hok : applyHeadRecipe (withEngine isDecimal ops base) numHeads point recipe index output
      fired = .ok result) :
    if applies isDecimal point (parsed recipe) then
      performOn ops base numHeads (recipe, some index) output = .ok result.1
    else result.1 = output := by
  obtain ⟨-, hchanged, -⟩ := applyHeadRecipe_eq_ok_iff.mp hok
  split_ifs with happlies
  · have hperform : performIfFired isDecimal ops point recipe = applySingle ops none (parsed recipe) :=
      funext fun slice => if_pos happlies
    rwa [hperform] at hchanged
  · unfold onHead at hchanged
    split at hchanged
    · cases hchanged
    · split_ifs at hchanged
      obtain ⟨slice, hslice, hchanged⟩ := bind_eq_ok hchanged
      rw [performIfFired, if_neg happlies] at hchanged
      exact (Except.ok.inj ((hlawful _ _ _ _ hslice).symm.trans hchanged)).symm

/-- The calls for heads perform the recipes that fire, none of which starts over. -/
lemma performPlain_of_applyHeadRecipes (isDecimal : Char → Bool) (hlawful : LawfulSlices base)
    (hok : applyHeadRecipes (withEngine isDecimal ops base) numHeads point heads output fired =
      .ok result) :
    performPlain ops base numHeads
      ((firedHeads isDecimal point heads).map fun head => (head.1, some head.2)) output =
      .ok result.1 := by
  induction heads generalizing output fired with
  | nil =>
    cases hok
    rfl
  | cons head heads ih =>
    obtain ⟨⟨current, firedNow⟩, hfirst, hok⟩ := bind_eq_ok hok
    have hstep := applyHeadRecipe_eq_ok isDecimal hlawful hfirst
    have hrest := ih hok
    rw [firedHeads, filter_cons]
    split_ifs at hstep ⊢ with happlies
    · rw [map_cons, performPlain, foldlM_cons, hstep]
      exact hrest
    · obtain rfl : current = output := hstep
      exact hrest

/-- A call for recipes without heads performs them, starting over from what it was given. -/
lemma perform_of_applyInOrder (hwhole : ∀ entry ∈ entries, entry.2 = none)
    (hok : applyInOrder ops none original (entries.map fun entry => parsed entry.1)
      (tensor, fired) = .ok result) :
    perform ops base numHeads original entries tensor = .ok result.1 := by
  induction entries generalizing tensor fired with
  | nil =>
    cases hok
    rfl
  | cons entry entries ih =>
    obtain ⟨hentry, hrest⟩ := forall_mem_cons.mp hwhole
    obtain ⟨recipe, head⟩ := entry
    obtain rfl : head = none := hentry
    obtain ⟨current, hsingle, hok⟩ := bind_eq_ok hok
    rw [perform_cons]
    have hstep : performOn ops base numHeads (recipe, none)
        (if recipe.mode = .replace then original else tensor) = .ok current := hsingle
    rw [hstep]
    exact ih hrest hok

/-! ## When starting over makes no difference -/

/-- The recipe changes the tensor it is performed on: it is not one that names a tensor of the
store. -/
def hasEffect (entry : InterventionRecipe × Option ℕ) : Bool := !byReference entry.1

/-- Nothing is done to a tensor by a recipe that names a tensor of the store. -/
lemma performOn_of_not_hasEffect (hlawful : LawfulSlices base) (hnone : hasEffect entry = false)
    {result : T} (hok : performOn ops base numHeads entry tensor = .ok result) :
    result = tensor := by
  obtain ⟨recipe, head⟩ := entry
  have hreference : byReference recipe = true := by simpa [hasEffect] using hnone
  have hsingle := applySingle_of_byReference hreference ops
  cases head with
  | none => exact (Except.ok.inj ((hsingle tensor).symm.trans hok)).symm
  | some index =>
    replace hok : onHead base numHeads index (applySingle ops none (parsed recipe)) tensor =
      .ok result := hok
    unfold onHead at hok
    split at hok
    · cases hok
    · split_ifs at hok
      obtain ⟨slice, hslice, hok⟩ := bind_eq_ok hok
      rw [hsingle] at hok
      exact (Except.ok.inj ((hlawful _ _ _ _ hslice).symm.trans hok)).symm

/-- Of recipes that are performed in this order, none in `replace` mode comes behind one for a head
that has an effect. -/
def NothingToDiscard (first second : InterventionRecipe × Option ℕ) : Prop :=
  hasEffect first = true → second.1.mode ≠ .replace

/-- If a tensor is still the original one, or no recipe starts over, it does not matter whether
recipes do. -/
lemma performPlain_eq_perform (hlawful : LawfulSlices base)
    (hentries : entries.Pairwise NothingToDiscard)
    (hstart : tensor = original ∨ ∀ entry ∈ entries, entry.1.mode ≠ .replace) :
    performPlain ops base numHeads entries tensor =
      perform ops base numHeads original entries tensor := by
  induction entries generalizing tensor with
  | nil => rfl
  | cons entry entries ih =>
    obtain ⟨hentry, hrest⟩ := pairwise_cons.mp hentries
    have hsame : (if entry.1.mode = .replace then original else tensor) = tensor := by
      split_ifs with hreplace
      · exact (hstart.resolve_right fun hnone =>
          hnone entry mem_cons_self hreplace).symm
      · rfl
    rw [perform_cons, performPlain, foldlM_cons, hsame]
    cases hstep : performOn ops base numHeads entry tensor with
    | error message => rfl
    | ok current =>
      refine ih hrest ?_
      cases heffect : hasEffect entry with
      | true => exact .inr fun other hother => hentry other hother heffect
      | false =>
        rw [performOn_of_not_hasEffect hlawful heffect hstep]
        exact hstart.imp id fun hnone other hother =>
          hnone other (mem_cons_of_mem _ hother)

lemma eq_of_performPlain (hlawful : LawfulSlices base)
    (hnone : ∀ entry ∈ entries, hasEffect entry = false) {result : T}
    (hok : performPlain ops base numHeads entries tensor = .ok result) : result = tensor := by
  induction entries generalizing tensor with
  | nil =>
    cases hok
    rfl
  | cons entry entries ih =>
    obtain ⟨hentry, hrest⟩ := forall_mem_cons.mp hnone
    obtain ⟨current, hstep, hbehind⟩ := bind_eq_ok hok
    obtain rfl := performOn_of_not_hasEffect hlawful hentry hstep
    exact ih hrest hbehind

/-- It does not matter from where recipes start over that do not. -/
lemma perform_congr (hentries : other = original ∨ ∀ entry ∈ entries, entry.1.mode ≠ .replace)
    (tensor : T) :
    perform ops base numHeads other entries tensor =
      perform ops base numHeads original entries tensor := by
  rcases hentries with rfl | hentries
  · rfl
  induction entries generalizing tensor with
  | nil => rfl
  | cons entry entries ih =>
    obtain ⟨hentry, hrest⟩ := forall_mem_cons.mp hentries
    rw [perform_cons, perform_cons, if_neg hentry, if_neg hentry]
    exact bind_congr fun current => ih current hrest

end Perform

/-! ## Harmony -/

/-- Two recipes that fire, the first of them registered first, of which the one for a head may be
applied first: by their priorities, and because a `replace` has nothing to discard. -/
def InHarmony (first second : InterventionRecipe × Option ℕ) : Prop :=
  if isForHead first then
    priority first ≤ priority second ∧ NothingToDiscard first second
  else if isForHead second then
    priority second < priority first ∧ NothingToDiscard second first
  else True

instance : DecidableRel NothingToDiscard := fun first second =>
  inferInstanceAs (Decidable (hasEffect first = true → second.1.mode ≠ .replace))

instance : DecidableRel InHarmony := fun first second => by
  unfold InHarmony
  infer_instance

/-- The order of a tick is the order of the priorities. -/
lemma applicationOrder_eq_iff (hnodup : entries.Nodup) :
    applicationOrder entries = priorityOrder entries ↔
      entries.Pairwise (MayLead priority isForHead) :=
  filter_append_sortOn_filter_iff hnodup isForHead

/-- A `replace` has nothing to discard: not among the recipes for heads, and not among the others. -/
def DiscardsNothing (entries : List (InterventionRecipe × Option ℕ)) : Prop :=
  (entries.filter isForHead).Pairwise NothingToDiscard ∧
    ∀ first ∈ entries, isForHead first = true → ∀ second ∈ entries, isForHead second = false →
      NothingToDiscard first second

lemma pairwise_inHarmony_iff :
    entries.Pairwise InHarmony ↔
      entries.Pairwise (MayLead priority isForHead) ∧ DiscardsNothing entries := by
  constructor
  · intro hharmony
    have hpair : ∀ {first second}, [first, second] <+ entries → InHarmony first second :=
      pairwise_iff_forall_sublist.mp hharmony
    refine ⟨hharmony.imp fun {first second} h => ?_, ?_, ?_⟩
    · unfold InHarmony at h
      split_ifs at h with hfirst hsecond
      · exact ⟨fun _ => h.1, fun hnot => by simp [hfirst] at hnot⟩
      · exact ⟨fun hyes => absurd hyes hfirst, fun _ _ => h.1⟩
      · exact ⟨fun hyes => absurd hyes hfirst, fun _ hyes => absurd hyes hsecond⟩
    · refine pairwise_iff_forall_sublist.mpr fun {first second} hsub => ?_
      have hfirst : isForHead first = true := (mem_filter.mp (hsub.subset (by simp))).2
      have h := hpair (hsub.trans filter_sublist)
      rw [InHarmony, if_pos hfirst] at h
      exact h.2
    · intro first hmem hfirst second hmem' hsecond
      have hne : first ≠ second := fun heq => by simp [heq, hsecond] at hfirst
      rcases pair_sublist_or hmem hmem' hne with hsub | hsub
      · have h := hpair hsub
        rw [InHarmony, if_pos hfirst] at h
        exact h.2
      · have h := hpair hsub
        rw [InHarmony, if_neg (by simp [hsecond]), if_pos hfirst] at h
        exact h.2
  · rintro ⟨hlead, hheads, hcross⟩
    refine pairwise_iff_forall_sublist.mpr fun {first second} hsub => ?_
    obtain ⟨hle, hlt⟩ := pairwise_iff_forall_sublist.mp hlead hsub
    have hmem : first ∈ entries := hsub.subset (by simp)
    have hmem' : second ∈ entries := hsub.subset (by simp)
    unfold InHarmony
    split_ifs with hfirst hsecond
    · refine ⟨hle hfirst, ?_⟩
      cases hsecond : isForHead second with
      | true =>
        have hfilter : [first, second] <+ entries.filter isForHead := by
          have hfiltered := hsub.filter isForHead
          simpa [filter_cons, hfirst, hsecond] using hfiltered
        exact pairwise_iff_forall_sublist.mp hheads hfilter
      | false => exact hcross first hmem hfirst second hmem' hsecond
    · have hfirst : isForHead first = false := by simpa using hfirst
      exact ⟨hlt hfirst hsecond, hcross second hmem' hsecond first hmem hfirst⟩

/-! ## Where nothing raises -/

/-- Slices of every tensor can be read and written. -/
structure Sliceable (base : Bridge T) : Prop where
  lastDim : ∀ tensor, ∃ dim, base.lastDim tensor = some dim
  get : ∀ tensor start stop, ∃ slice, base.getHeadSlice tensor start stop = .ok slice
  set : ∀ tensor start stop slice, ∃ result, base.setHeadSlice tensor start stop slice = .ok result

section Total

variable {ops : TensorOps T} {base : Bridge T} (htotal : ops.Total) (hslices : Sliceable base)
include htotal hslices

lemma shapeBound_of_total (hdim : ∀ tensor other, base.lastDim other = base.lastDim tensor) :
    ShapeBound ops base fun _ _ => True where
  equivalence := ⟨fun _ => trivial, fun _ => trivial, fun _ _ => trivial⟩
  returns := fun op _ other _ _ => by
    obtain ⟨result, hok⟩ := htotal.run none op other
    rw [hok]
    rfl
  keeps := fun _ _ _ _ => trivial
  lastDim := fun _ => hdim _ _
  get := fun _ _ => (hslices.get _ _ _).imp fun _ hslice => ⟨hslice, trivial⟩
  set := fun _ _ _ => ⟨trivial, hslices.set _ _ _ _⟩

/-- Recipes that a tick handles can be performed. -/
lemma performable_of_total {st : WorkerState T} (hnumHeads : st.numHeads ≠ 0)
    (hhandled : Handled (pointOf st event).component recipe) (output : T) :
    Performable isDecimal ops base st event output recipe := by
  have hperforms : ∀ {recipe tensor}, Parses recipe →
      ∃ result, performIfFired isDecimal ops (pointOf st event) recipe tensor = .ok result := by
    intro recipe tensor hparses
    unfold performIfFired
    split_ifs
    · obtain ⟨op, -, hrun⟩ := @exists_operation T recipe hparses
      rw [hrun]
      exact htotal.run none op tensor
    · exact ⟨tensor, rfl⟩
  refine ⟨hhandled.1, fun head hhead => ?_, fun hwhole => ?_⟩
  · have hparses := hhandled.2 (.inl (Option.isSome_iff_exists.mpr ⟨head, hhead⟩))
    refine ⟨hparses, ?_⟩
    obtain ⟨dim, hdim⟩ := hslices.lastDim output
    rw [onHead, hdim]
    simp only [if_neg hnumHeads]
    obtain ⟨slice, hslice⟩ := hslices.get output (head.2 * (dim % 2 ^ 32 / st.numHeads) % 2 ^ 32)
      ((head.2 * (dim % 2 ^ 32 / st.numHeads) % 2 ^ 32 + dim % 2 ^ 32 / st.numHeads) % 2 ^ 32)
    obtain ⟨changed, hchanged⟩ := @hperforms head.1 slice ((parses_headRecipe hhead).mpr hparses)
    obtain ⟨result, hresult⟩ := hslices.set output _ _ changed
    simp only [hslice, Bind.bind, Except.bind, hchanged]
    rw [hresult]
    rfl
  · have hparses := hhandled.2 (.inr hwhole)
    obtain ⟨result, hok⟩ := @hperforms recipe output hparses
    exact ⟨hparses, by rw [hok]; rfl⟩

end Total

/-! ## Counting the operations

Tensors that count the operations they have been through tell whether something was
discarded. -/

def countOps : TensorOps ℕ where
  zero := fun count => .ok (count + 1)
  fillMean := fun count => .ok (count + 1)
  resample := fun count => .ok (count + 1)
  mul := fun count _ => .ok (count + 1)
  addVector := fun count _ => .ok (count + 1)
  addTensor := fun count _ => .ok (count + 1)
  copy := fun count _ => .ok (count + 1)
  clamp := fun count _ _ => .ok (count + 1)

lemma total_countOps : countOps.Total where
  zero := fun count => ⟨count + 1, rfl⟩
  fillMean := fun count => ⟨count + 1, rfl⟩
  resample := fun count => ⟨count + 1, rfl⟩
  mul := fun count _ => ⟨count + 1, rfl⟩
  addVector := fun count _ => ⟨count + 1, rfl⟩
  addTensor := fun count _ => ⟨count + 1, rfl⟩
  copy := fun count _ => ⟨count + 1, rfl⟩
  clamp := fun count _ _ => ⟨count + 1, rfl⟩

lemma sliceable_slicing : Sliceable (slicing T) where
  lastDim := fun _ => ⟨1, rfl⟩
  get := fun tensor _ _ => ⟨tensor, rfl⟩
  set := fun _ _ _ slice => ⟨slice, rfl⟩

lemma lawfulSlices_slicing : LawfulSlices (slicing T) := by
  intro tensor start stop slice hslice
  cases hslice
  rfl

def effect (entry : InterventionRecipe × Option ℕ) : ℕ := if hasEffect entry then 1 else 0

/-- The count after performing recipes, those in `replace` mode from `restart` on. -/
def count (restart : ℕ) : List (InterventionRecipe × Option ℕ) → ℕ → ℕ
  | [], current => current
  | entry :: entries, current =>
      count restart entries ((if entry.1.mode = .replace then restart else current) + effect entry)

def total (entries : List (InterventionRecipe × Option ℕ)) : ℕ := (entries.map effect).sum

lemma total_cons (entry : InterventionRecipe × Option ℕ)
    (entries : List (InterventionRecipe × Option ℕ)) :
    total (entry :: entries) = effect entry + total entries := sum_cons

lemma performOn_countOps (hparses : Parses entry.1) (hnumHeads : numHeads ≠ 0) (current : ℕ) :
    performOn countOps (slicing ℕ) numHeads entry current = .ok (current + effect entry) := by
  obtain ⟨recipe, head⟩ := entry
  have hsingle : ∀ current, applySingle countOps none (parsed recipe) current =
      .ok (current + effect (recipe, head)) := by
    intro current
    obtain ⟨op, hop, hrun⟩ := @exists_operation ℕ recipe hparses
    rw [hrun]
    unfold effect hasEffect byReference
    rw [hop]
    cases op with
    | ablate mode => cases mode <;> rfl
    | _ => rfl
  cases head with
  | none => exact hsingle current
  | some index =>
    show onHead (slicing ℕ) numHeads index (applySingle countOps none (parsed recipe)) current = _
    have hdim : (slicing ℕ).lastDim current = some 1 := rfl
    rw [onHead, hdim]
    simp only [if_neg hnumHeads, slicing, Bridge.quiet, Bind.bind, Except.bind, hsingle]

section Count

variable {entries : List (InterventionRecipe × Option ℕ)}

lemma perform_countOps (hparses : ∀ entry ∈ entries, Parses entry.1) (hnumHeads : numHeads ≠ 0)
    (restart current : ℕ) :
    perform countOps (slicing ℕ) numHeads restart entries current =
      .ok (count restart entries current) := by
  induction entries generalizing current with
  | nil => rfl
  | cons entry entries ih =>
    obtain ⟨hentry, hrest⟩ := forall_mem_cons.mp hparses
    rw [perform_cons, performOn_countOps hentry hnumHeads]
    exact ih hrest _

lemma performPlain_countOps (hparses : ∀ entry ∈ entries, Parses entry.1)
    (hnumHeads : numHeads ≠ 0) (current : ℕ) :
    performPlain countOps (slicing ℕ) numHeads entries current = .ok (current + total entries) := by
  induction entries generalizing current with
  | nil => rfl
  | cons entry entries ih =>
    obtain ⟨hentry, hrest⟩ := forall_mem_cons.mp hparses
    rw [performPlain, foldlM_cons, performOn_countOps hentry hnumHeads]
    refine (ih hrest _).trans ?_
    rw [total_cons, Nat.add_assoc]

lemma count_append (restart current : ℕ) (first second : List (InterventionRecipe × Option ℕ)) :
    count restart (first ++ second) current =
      count restart second (count restart first current) := by
  induction first generalizing current with
  | nil => rfl
  | cons entry first ih => exact ih _

lemma count_of_ne_replace (hentries : ∀ entry ∈ entries, entry.1.mode ≠ .replace)
    (restart current : ℕ) : count restart entries current = current + total entries := by
  induction entries generalizing current with
  | nil => rfl
  | cons entry entries ih =>
    obtain ⟨hentry, hrest⟩ := forall_mem_cons.mp hentries
    rw [count, if_neg hentry, ih hrest, total_cons, Nat.add_assoc]

lemma exists_count_eq (hentries : ∃ entry ∈ entries, entry.1.mode = .replace) :
    ∃ behind, ∀ restart current, count restart entries current = restart + behind := by
  induction entries with
  | nil =>
    obtain ⟨_, hmem, -⟩ := hentries
    cases hmem
  | cons entry entries ih =>
    by_cases hrest : ∃ entry ∈ entries, entry.1.mode = .replace
    · obtain ⟨behind, hbehind⟩ := ih hrest
      exact ⟨behind, fun restart current => hbehind restart _⟩
    · have hnone : ∀ other ∈ entries, other.1.mode ≠ .replace :=
        fun other hother hreplace => hrest ⟨other, hother, hreplace⟩
      have hentry : entry.1.mode = .replace := by
        obtain ⟨other, hother, hreplace⟩ := hentries
        rcases mem_cons.mp hother with rfl | hother
        · exact hreplace
        · exact absurd hreplace (hnone other hother)
      refine ⟨effect entry + total entries, fun restart current => ?_⟩
      rw [count, if_pos hentry, count_of_ne_replace hnone, Nat.add_assoc]

lemma count_zero_le (current : ℕ) : count 0 entries current ≤ current + total entries := by
  induction entries generalizing current with
  | nil => exact le_rfl
  | cons entry entries ih =>
    have hrest := ih ((if entry.1.mode = .replace then 0 else current) + effect entry)
    rw [count, total_cons]
    split_ifs at hrest ⊢ <;> omega

lemma pairwise_of_count_zero_eq (heq : count 0 entries current = current + total entries) :
    (current ≠ 0 → ∀ entry ∈ entries, entry.1.mode ≠ .replace) ∧
      entries.Pairwise NothingToDiscard := by
  induction entries generalizing current with
  | nil => exact ⟨fun _ _ hmem => (nomatch hmem), List.Pairwise.nil⟩
  | cons entry entries ih =>
    rw [count, total_cons] at heq
    have hle := @count_zero_le entries
      ((if entry.1.mode = .replace then 0 else current) + effect entry)
    have hstart : (if entry.1.mode = .replace then 0 else current) = current := by
      split_ifs at hle heq ⊢ <;> omega
    rw [hstart] at heq
    obtain ⟨hnone, hrest⟩ := @ih (current + effect entry) (by omega)
    refine ⟨fun hne => forall_mem_cons.mpr ⟨fun hreplace => ?_, hnone (by omega)⟩,
      pairwise_cons.mpr ⟨fun other hother heffect => ?_, hrest⟩⟩
    · rw [if_pos hreplace] at hstart
      exact hne hstart.symm
    · refine hnone ?_ other hother
      rw [effect, if_pos heffect]
      omega

/-- If performing recipes for heads and then others, which start over from what the first have
left, counts as much as performing them in sequence, there was nothing to discard. -/
lemma discardsNothing_of_count_eq
    (hothers : ∀ entry, entry ∈ others ↔ entry ∈ entries ∧ isForHead entry = false)
    (heq : count (total (entries.filter isForHead)) others (total (entries.filter isForHead)) =
      count 0 (entries.filter isForHead ++ others) 0) : DiscardsNothing entries := by
  rw [count_append] at heq
  have hle := @count_zero_le (entries.filter isForHead) 0
  have hboth : count 0 (entries.filter isForHead) 0 = 0 + total (entries.filter isForHead) ∧
      (total (entries.filter isForHead) = 0 ∨ ∀ entry ∈ others, entry.1.mode ≠ .replace) := by
    by_cases hreplace : ∃ entry ∈ others, entry.1.mode = .replace
    · obtain ⟨behind, hbehind⟩ := exists_count_eq hreplace
      rw [hbehind, hbehind] at heq
      exact ⟨by omega, .inl (by omega)⟩
    · have hnone : ∀ entry ∈ others, entry.1.mode ≠ .replace :=
        fun entry hentry hmode => hreplace ⟨entry, hentry, hmode⟩
      rw [count_of_ne_replace hnone, count_of_ne_replace hnone] at heq
      exact ⟨by omega, .inr hnone⟩
  refine ⟨(pairwise_of_count_zero_eq hboth.1).2, ?_⟩
  intro first hfirst hhead second hsecond hother heffect
  refine hboth.2.resolve_left (fun hzero => ?_) second ((hothers second).mpr ⟨hsecond, hother⟩)
  have hmem : effect first ∈ (entries.filter isForHead).map effect :=
    mem_map_of_mem (mem_filter.mpr ⟨hfirst, hhead⟩)
  have hpos : effect first = 1 := by rw [effect, if_pos heffect]
  have hsum := le_sum_of_mem hmem
  rw [total] at hzero
  omega

end Count

/-! ## Ticks -/

/-- At the point, whatever a tick delivers is what performing the recipes that fire in the order of
their priorities gives, and it reports them in that order. -/
def AppliesInPriorityOrder (isDecimal : Char → Bool) (point : InterventionPoint) : Prop :=
  ∀ (T : Type) (ops : TensorOps T) (base : Bridge T) (st : WorkerState T) (event : HookEvent T)
    (output delivered : T) (fired : List String),
    LawfulSlices base → event.output = some output →
    tickPoint st point.handle point.tickId (st.lookupComponent event.path event.callIndex)
      point.recipes = point →
    react (withEngine isDecimal ops base) st point.handle point.recipes point.tickId event =
      .ok (some (delivered, fired)) →
    let order := priorityOrder (firing isDecimal point point.recipes)
    fired = order.map reportedId ∧
      perform ops base st.numHeads output order output = .ok delivered

section Ticks

variable {isDecimal : Char → Bool} {ops : TensorOps T} {base : Bridge T} {point : InterventionPoint}
  {st : WorkerState T} {event : HookEvent T} {output : T}

/-- What a tick delivers: the recipes for heads are performed plainly, then the others, which start
over from what the first have left. -/
lemma exists_of_react_eq_ok (hlawful : LawfulSlices base) (houtput : event.output = some output)
    (htick : tickPoint st point.handle point.tickId
      (st.lookupComponent event.path event.callIndex) point.recipes = point) {delivered : T}
    (hok : react (withEngine isDecimal ops base) st point.handle point.recipes point.tickId event =
      .ok (some (delivered, fired))) :
    let entries := firing isDecimal point point.recipes
    fired = (applicationOrder entries).map reportedId ∧
      ∃ current, performPlain ops base st.numHeads (entries.filter isForHead) output = .ok current ∧
        perform ops base st.numHeads current
          (sortOn priority (entries.filter fun entry => !isForHead entry)) current =
            .ok delivered := by
  have hrecipes : point.recipes ≠ [] := by
    intro hnil
    rw [hnil] at hok
    cases hok
  have hreported := (fired_react hrecipes houtput hok).2
  obtain ⟨-, current, fired', modified, more, hheads, hwhole, hreaction⟩ :=
    (react_eq_ok_iff _ st point.handle point.tickId hrecipes houtput).mp hok
  have hcomp : (st.lookupComponent event.path event.callIndex).1 = point.component :=
    congrArg InterventionPoint.component htick
  rw [htick, tickFired_eq] at hreported
  rw [htick, hcomp] at hheads
  rw [applyWhole_withEngine] at hwhole
  obtain rfl : delivered = modified := by
    split_ifs at hreaction
    exact (Prod.mk.inj (Option.some.inj hreaction)).1
  refine ⟨hreported, current, ?_, ?_⟩
  · rw [← firedHeads_eq]
    exact performPlain_of_applyHeadRecipes isDecimal hlawful hheads
  · have hrun := (withEngine_eq_ok_iff.mp hwhole).2
    have hpoint : tickPoint st point.handle point.tickId
        (st.lookupComponent event.path event.callIndex) (point.recipes.filter isWhole) =
          { point with recipes := point.recipes.filter isWhole } := by
      rw [← htick]
      rfl
    rw [hpoint] at hrun
    have hfired : firedRecipes isDecimal { point with recipes := point.recipes.filter isWhole }
        (point.recipes.filter isWhole) = firedRecipes isDecimal point
          (point.recipes.filter isWhole) := rfl
    rw [hfired, firedRecipes_eq] at hrun
    refine perform_of_applyInOrder (fun entry hentry => ?_) hrun
    have hother := (mem_filter.mp (mem_sortOn.mp hentry)).2
    simpa [isForHead] using hother

lemma placed_eq_some {canonical : String} (hentry : placed canonical recipe = some entry) :
    entry.1.id = recipe.id ∧ (Handled canonical recipe → Parses entry.1) := by
  rcases placed_cases canonical recipe with ⟨hwhole, -, hplaced⟩ | ⟨head, -, hhead, hplaced⟩ |
    ⟨-, -, hplaced⟩
  · cases hplaced.symm.trans hentry
    exact ⟨rfl, fun hhandled => hhandled.2 (.inr hwhole)⟩
  · cases hplaced.symm.trans hentry
    refine ⟨?_, fun hhandled => (parses_headRecipe hhead).mpr
      (hhandled.2 (.inl (Option.isSome_iff_exists.mpr ⟨head, hhead⟩)))⟩
    obtain ⟨target, index, -, rfl, -⟩ := headRecipe_eq_some hhead
    rfl
  · cases hplaced.symm.trans hentry

lemma nodup_ids_firing (isDecimal : Char → Bool)
    (hids : (point.recipes.map InterventionRecipe.id).Nodup) :
    ((firing isDecimal point point.recipes).map fun entry => entry.1.id).Nodup := by
  refine List.Nodup.sublist (filter_sublist.map _) ?_
  rw [List.Nodup, pairwise_map, pairwise_filterMap]
  refine (pairwise_map.mp hids).imp ?_
  intro first second hne entry hentry other hother heq
  rw [(placed_eq_some hentry).1, (placed_eq_some hother).1] at heq
  exact hne heq

lemma parses_of_mem_firing (hhandled : ∀ recipe ∈ point.recipes, Handled point.component recipe)
    (hentry : entry ∈ firing isDecimal point point.recipes) :
    Parses entry.1 := by
  obtain ⟨recipe, hrecipe, hplaced⟩ := mem_filterMap.mp (mem_filter.mp hentry).1
  exact (placed_eq_some hplaced).2 (hhandled recipe hrecipe)

lemma reportedId_inj (hids : (point.recipes.map InterventionRecipe.id).Nodup)
    (hhandled : ∀ recipe ∈ point.recipes, Handled point.component recipe)
    (hfirst : first ∈ firing isDecimal point point.recipes)
    (hsecond : second ∈ firing isDecimal point point.recipes)
    (heq : reportedId first = reportedId second) : first = second := by
  have hsome : ∀ entry ∈ firing isDecimal point point.recipes,
      entry.1.id = some (reportedId entry) := by
    intro entry hentry
    have hid := (parses_of_mem_firing hhandled hentry).id
    unfold reportedId
    cases hvalue : entry.1.id with
    | none => simp [hvalue] at hid
    | some id => rfl
  refine inj_on_of_nodup_map (nodup_ids_firing isDecimal hids) hfirst hsecond ?_
  rw [hsome first hfirst, hsome second hsecond, heq]

/-- Recipes in harmony are applied as their priorities say. -/
lemma appliesInPriorityOrder_of_inHarmony
    (hids : (point.recipes.map InterventionRecipe.id).Nodup)
    (hharmony : (∀ recipe ∈ point.recipes, Handled point.component recipe) →
      (firing isDecimal point point.recipes).Pairwise InHarmony) :
    AppliesInPriorityOrder isDecimal point := by
  intro T ops base st event output delivered fired hlawful houtput htick hok
  have hcomp : (st.lookupComponent event.path event.callIndex).1 = point.component :=
    congrArg InterventionPoint.component htick
  have hhandled := handled_of_react_eq_ok houtput hok
  rw [hcomp] at hhandled
  obtain ⟨hlead, hheads, hcross⟩ := pairwise_inHarmony_iff.mp (hharmony hhandled)
  have hnodup := (nodup_ids_firing isDecimal hids).of_map
  have horder := (applicationOrder_eq_iff hnodup).mpr hlead
  obtain ⟨hfired, current, hplain, hothers⟩ := exists_of_react_eq_ok hlawful houtput htick hok
  refine ⟨horder ▸ hfired, ?_⟩
  rw [← horder, applicationOrder, perform_append,
    ← performPlain_eq_perform hlawful hheads (.inl rfl), hplain]
  rw [← hothers]
  refine (perform_congr ?_ current).symm
  by_cases hnone : ∀ entry ∈ (firing isDecimal point point.recipes).filter isForHead,
      hasEffect entry = false
  · exact .inl (eq_of_performPlain hlawful hnone hplain)
  · right
    push Not at hnone
    obtain ⟨head, hhead, heffect⟩ := hnone
    obtain ⟨hmem, hfor⟩ := mem_filter.mp hhead
    intro entry hentry
    obtain ⟨hentry, hother⟩ := mem_filter.mp (mem_sortOn.mp hentry)
    exact hcross head hmem hfor entry hentry (by simpa using hother) (by simpa using heffect)

end Ticks

/-- A worker, with one head, whose only module is at the point. -/
def workerAt (T : Type) (point : InterventionPoint) : WorkerState T :=
  attachModel WorkerState.new { twoLayerModel with
    rank := point.rank
    componentMap := ⟨[⟨"module", point.component, some point.layer, 0, ""⟩], point.family⟩ }

lemma tickPoint_workerAt {point : InterventionPoint} (hevent : point.event = "output") :
    tickPoint (workerAt T point) point.handle point.tickId
      ((workerAt T point).lookupComponent "module" 0) point.recipes = point := by
  obtain ⟨recipes, family, rank, layer, component, event, tickId, handle⟩ := point
  obtain rfl : event = "output" := hevent
  rfl

lemma perm_applicationOrder (entries : List (InterventionRecipe × Option ℕ)) :
    (applicationOrder entries).Perm entries :=
  ((perm_sortOn _ _).append_left _).trans (filter_append_perm isForHead entries)

lemma firing_eq_nil_of_react (houtput : event.output = some output)
    (htick : tickPoint st point.handle point.tickId
      (st.lookupComponent event.path event.callIndex) point.recipes = point)
    (hok : react (withEngine isDecimal ops base) st point.handle point.recipes point.tickId event =
      .ok none) : firing isDecimal point point.recipes = [] := by
  by_cases hrecipes : point.recipes = []
  · rw [hrecipes]
    rfl
  · have hreported := (fired_react hrecipes houtput hok).2
    rw [htick, tickFired_eq] at hreported
    have hnil := map_eq_nil_iff.mp hreported.symm
    exact List.Perm.nil_eq (hnil ▸ perm_applicationOrder _) |>.symm

/-- Recipes that are applied as their priorities say, whatever the operations are, are in
harmony. -/
lemma inHarmony_of_appliesInPriorityOrder (hids : (point.recipes.map InterventionRecipe.id).Nodup)
    (hevent : point.event = "output") (happlies : AppliesInPriorityOrder isDecimal point)
    (hhandled : ∀ recipe ∈ point.recipes, Handled point.component recipe) :
    (firing isDecimal point point.recipes).Pairwise InHarmony := by
  let event : HookEvent ℕ := ⟨"module", 0, some 0⟩
  have htick := @tickPoint_workerAt ℕ point hevent
  have hperformable : ∀ recipe ∈ point.recipes,
      Performable isDecimal countOps (slicing ℕ) (workerAt ℕ point) event 0 recipe := by
    intro recipe hrecipe
    refine performable_of_total total_countOps sliceable_slicing Nat.one_ne_zero ?_ 0
    exact hhandled recipe hrecipe
  obtain ⟨reaction, hok⟩ := (@exists_react_iff ℕ isDecimal countOps _ _
    (shapeBound_of_total total_countOps sliceable_slicing fun _ _ => rfl) (workerAt ℕ point)
    point.handle point.tickId point.recipes event 0 rfl).mpr hperformable
  cases reaction with
  | none =>
    rw [firing_eq_nil_of_react rfl htick hok]
    exact List.Pairwise.nil
  | some answer =>
    obtain ⟨delivered, fired⟩ := answer
    obtain ⟨hfired, current, hplain, hothers⟩ :=
      exists_of_react_eq_ok lawfulSlices_slicing rfl htick hok
    obtain ⟨hexpected, hperform⟩ := happlies ℕ countOps _ _ event 0
      delivered fired lawfulSlices_slicing rfl htick hok
    have hparses : ∀ entry ∈ firing isDecimal point point.recipes, Parses entry.1 :=
      fun entry => parses_of_mem_firing hhandled
    -- the reported ids are those of both orders
    have horder : applicationOrder (firing isDecimal point point.recipes) =
        priorityOrder (firing isDecimal point point.recipes) := by
      refine eq_of_map_eq_map (fun first hfirst second hsecond => ?_)
        (hfired.symm.trans hexpected)
      exact reportedId_inj hids hhandled ((perm_applicationOrder _).mem_iff.mp hfirst)
        (mem_sortOn.mp hsecond)
    refine pairwise_inHarmony_iff.mpr ⟨(applicationOrder_eq_iff
      (nodup_ids_firing isDecimal hids).of_map).mp horder, ?_⟩
    -- and the counts tell whether something was discarded
    have hnumHeads : (workerAt ℕ point).numHeads ≠ 0 := Nat.one_ne_zero
    rw [performPlain_countOps (fun entry hentry => hparses entry (mem_filter.mp hentry).1)
      hnumHeads, Nat.zero_add] at hplain
    obtain rfl := Except.ok.inj hplain
    rw [perform_countOps (fun entry hentry =>
      hparses entry (mem_filter.mp (mem_sortOn.mp hentry)).1) hnumHeads] at hothers
    rw [← horder, perform_countOps (fun entry hentry =>
      hparses entry ((perm_applicationOrder _).mem_iff.mp hentry)) hnumHeads] at hperform
    refine discardsNothing_of_count_eq (fun entry => ?_)
      ((Except.ok.inj hothers).trans (Except.ok.inj hperform).symm)
    rw [mem_sortOn, mem_filter, Bool.not_eq_true']

/-- A tick applies the recipes that fire in the order of their priorities, whatever the operations
are, exactly if every two of them are in harmony; unless there is one over which it fails. -/
theorem appliesInPriorityOrder_iff (isDecimal : Char → Bool) {point : InterventionPoint}
    (hids : (point.recipes.map InterventionRecipe.id).Nodup) (hevent : point.event = "output") :
    AppliesInPriorityOrder isDecimal point ↔
      ((∀ recipe ∈ point.recipes, Handled point.component recipe) →
        (firing isDecimal point point.recipes).Pairwise InHarmony) :=
  ⟨inHarmony_of_appliesInPriorityOrder hids hevent, appliesInPriorityOrder_of_inHarmony hids⟩

/-- Ten more on every entry of the output of `o_proj`. -/
def shifting (priority : ℤ) : InterventionRecipe where
  id := some "shift"
  interventionType := .add
  target := "llama:0:0:o_proj:output"
  params := .add (.inline [10, 10, 10, 10])
  condition := none
  priority := priority
  mode := .additive

/-- The output of `o_proj`, with the doubling of a head and the shift registered. -/
def shiftedPoint (priority : ℤ) : InterventionPoint :=
  ⟨[doubling "o_proj[1]", shifting priority], "llama", 0, 0, "o_proj", "output", 1, 1⟩

/-- A shift of the same priority, registered later, is applied later. -/
theorem appliesInPriorityOrder_shifted :
    AppliesInPriorityOrder Char.isDigit (shiftedPoint 0) :=
  (appliesInPriorityOrder_iff Char.isDigit (by decide) rfl).mpr fun _ => by decide +kernel

lemma lawfulSlices_rowBridge : LawfulSlices rowBridge := by
  intro row start stop slice hslice
  obtain rfl := Except.ok.inj hslice
  show (if _ = _ then Except.ok (if start ≤ stop then _ else row) else _) = Except.ok row
  rw [if_pos rfl]
  split_ifs with hle
  · have htake : row.take start = (row.take stop).take start := by
      rw [take_take, Nat.min_eq_left hle]
    rw [htake, take_append_drop, take_append_drop]
  · rfl

/-- A shift of smaller priority is to be applied first; a tick applies the doubling of the head
before it, and delivers something else. -/
theorem not_appliesInPriorityOrder_shifted :
    react rowBridge twoHeads 1 (shiftedPoint (-1)).recipes 1 rowEvent =
        .ok (some ([11, 12, 16, 18], ["double", "shift"])) ∧
      (let order := priorityOrder (firing Char.isDigit (shiftedPoint (-1)) (shiftedPoint (-1)).recipes)
      order.map reportedId = ["shift", "double"] ∧
        perform rowOps rowBridge 2 [1, 2, 3, 4] order [1, 2, 3, 4] = .ok [11, 12, 26, 28]) ∧
      ¬ AppliesInPriorityOrder Char.isDigit (shiftedPoint (-1)) := by
  have hreact : react rowBridge twoHeads 1 (shiftedPoint (-1)).recipes 1 rowEvent =
      .ok (some ([11, 12, 16, 18], ["double", "shift"])) := by
    decide +kernel
  have horder : (priorityOrder (firing Char.isDigit (shiftedPoint (-1))
      (shiftedPoint (-1)).recipes)).map reportedId = ["shift", "double"] := by
    decide +kernel
  refine ⟨hreact, ⟨horder, by decide +kernel⟩, fun happlies => ?_⟩
  obtain ⟨hfired, -⟩ := happlies _ rowOps rowBridge twoHeads rowEvent _ _ _
    lawfulSlices_rowBridge rfl (by decide +kernel) hreact
  exact absurd hfired (by decide)

end RocketSurgeon.Worker
