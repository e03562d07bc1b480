import Mathlib

/-!
# Stable sorting

Sorting by a key with insertion sort keeps the order of the elements whose keys are equal.  For a
list without duplicates this determines the result: `sortOn key l` is the one list with the
elements of `l` in which the first of two elements has the smaller key, or an equal key and the
earlier place in `l`.

`filter_append_sortOn_filter_iff` uses that to compare two ways of sorting: to put some of the
elements first, unsorted, and to sort the others only.
-/

namespace RocketSurgeon.Lib

open List

open scoped List

variable {α κ : Type*} [LinearOrder κ]

/-! ## Places in a list -/

section Places

variable {l : List α} {a b : α}

lemma pair_sublist_or (ha : a ∈ l) (hb : b ∈ l) (hne : a ≠ b) : [a, b] <+ l ∨ [b, a] <+ l := by
  induction l with
  | nil => cases ha
  | cons first rest ih =>
    rcases mem_cons.mp ha with rfl | ha'
    · have hb' := (mem_cons.mp hb).resolve_left hne.symm
      exact .inl ((singleton_sublist.mpr hb').cons_cons _)
    · rcases mem_cons.mp hb with rfl | hb'
      · exact .inr ((singleton_sublist.mpr ha').cons_cons _)
      · exact (ih ha' hb').imp (fun h => h.cons _) fun h => h.cons _

lemma not_pair_sublist_swap (hl : l.Nodup) (hab : [a, b] <+ l) : ¬ [b, a] <+ l := by
  induction l with
  | nil => exact fun h => nomatch h
  | cons first rest ih =>
    obtain ⟨hfirst, hrest⟩ := nodup_cons.mp hl
    have hmem : ∀ {x y : α}, [x, y] <+ rest → y ∈ rest := fun h => h.subset (by simp)
    intro hba
    cases hab with
    | cons _ hab =>
      cases hba with
      | cons _ hba => exact ih hrest hab hba
      | cons_cons _ _ => exact hfirst (hmem hab)
    | cons_cons _ hb =>
      cases hba with
      | cons _ hba => exact hfirst (hmem hba)
      | cons_cons _ _ => exact hfirst (singleton_sublist.mp hb)

lemma ne_of_pair_sublist (hl : l.Nodup) (hab : [a, b] <+ l) : a ≠ b := by
  have hpair : [a, b].Nodup := hl.sublist hab
  simpa using hpair

end Places

lemma eq_of_map_eq_map {label : α → β} {second : List α}
    (hlabel : ∀ a ∈ first, ∀ b ∈ second, label a = label b → a = b)
    (heq : first.map label = second.map label) : first = second := by
  induction first generalizing second with
  | nil => exact (map_eq_nil_iff.mp heq.symm).symm
  | cons a first ih =>
    obtain ⟨b, rest, rfl, hab, hrest⟩ := map_eq_cons_iff.mp heq.symm
    obtain rfl := hlabel a mem_cons_self b mem_cons_self hab.symm
    rw [ih (fun x hx y hy => hlabel x (mem_cons_of_mem _ hx) y (mem_cons_of_mem _ hy))
      hrest.symm]

/-! ## Sorting -/

/-- Sort by a key, keeping the order of elements with equal keys. -/
def sortOn (key : α → κ) (l : List α) : List α := l.insertionSort fun x y => key x ≤ key y

variable {key : α → κ} {l : List α} {a b : α}

lemma perm_sortOn (key : α → κ) (l : List α) : (sortOn key l).Perm l := perm_insertionSort _ l

@[simp] lemma mem_sortOn : a ∈ sortOn key l ↔ a ∈ l := (perm_sortOn key l).mem_iff

lemma map_sortOn (f : α → β) (key : β → κ) (l : List α) :
    (sortOn (fun x => key (f x)) l).map f = sortOn key (l.map f) :=
  map_insertionSort _ _ f l fun _ _ _ _ => Iff.rfl

instance transKeyLe (key : α → κ) : IsTrans α fun x y => key x ≤ key y := ⟨fun _ _ _ => le_trans⟩

instance totalKeyLe (key : α → κ) : Std.Total fun x y : α => key x ≤ key y :=
  ⟨fun _ _ => le_total _ _⟩

lemma pairwise_sortOn (key : α → κ) (l : List α) :
    (sortOn key l).Pairwise fun x y => key x ≤ key y :=
  pairwise_insertionSort (fun x y => key x ≤ key y) l

/-- Sorting is stable. -/
lemma pair_sublist_sortOn (hle : key a ≤ key b) (hab : [a, b] <+ l) : [a, b] <+ sortOn key l :=
  pair_sublist_insertionSort (r := fun x y => key x ≤ key y) hle hab

/-- The order of a stable sort: by the key, then by the place. -/
def Precedes (key : α → κ) (l : List α) (a b : α) : Prop :=
  key a < key b ∨ key a = key b ∧ [a, b] <+ l

lemma precedes_of_pair_sublist (hle : key a ≤ key b) (hab : [a, b] <+ l) : Precedes key l a b :=
  hle.lt_or_eq.imp id fun heq => ⟨heq, hab⟩

lemma Precedes.asymm (hl : l.Nodup) (hab : Precedes key l a b) : ¬ Precedes key l b a := by
  rcases hab with hlt | ⟨heq, hab⟩
  · rintro (hlt' | ⟨heq, -⟩)
    · exact lt_asymm hlt hlt'
    · exact hlt.ne heq.symm
  · rintro (hlt | ⟨-, hba⟩)
    · exact hlt.ne heq.symm
    · exact not_pair_sublist_swap hl hab hba

lemma pairwise_precedes_sortOn (key : α → κ) (hl : l.Nodup) :
    (sortOn key l).Pairwise (Precedes key l) := by
  refine pairwise_iff_forall_sublist.mpr fun {a b} hab => ?_
  have hsorted : (sortOn key l).Nodup := (perm_sortOn key l).nodup_iff.mpr hl
  have hle := pairwise_iff_forall_sublist.mp (pairwise_sortOn key l) hab
  have ha : a ∈ l := mem_sortOn.mp (hab.subset (by simp))
  have hb : b ∈ l := mem_sortOn.mp (hab.subset (by simp))
  rcases pair_sublist_or ha hb (ne_of_pair_sublist hsorted hab) with hplace | hplace
  · exact precedes_of_pair_sublist hle hplace
  · refine .inl (lt_of_not_ge fun hge => ?_)
    exact not_pair_sublist_swap hsorted hab (pair_sublist_sortOn hge hplace)

/-- A stable sort is determined by its order. -/
lemma eq_sortOn_iff (hl : l.Nodup) (hperm : sorted.Perm l) :
    sorted = sortOn key l ↔ sorted.Pairwise (Precedes key l) := by
  constructor
  · rintro rfl
    exact pairwise_precedes_sortOn key hl
  · intro hpairwise
    refine (hperm.trans (perm_sortOn key l).symm).eq_of_pairwise ?_ hpairwise
      (pairwise_precedes_sortOn key hl)
    exact fun x y _ _ hxy hyx => absurd hyx (hxy.asymm hl)

/-- Sorting distinct keys leaves them in strictly increasing order. -/
lemma pairwise_lt_sortOn (hkeys : (l.map key).Nodup) :
    (sortOn key l).Pairwise fun x y => key x < key y := by
  have hnodup : ((sortOn key l).map key).Nodup := ((perm_sortOn key l).map key).nodup_iff.mpr hkeys
  have hne : (sortOn key l).Pairwise fun x y => key x ≠ key y := pairwise_map.mp hnodup
  exact ((pairwise_sortOn key l).and hne).imp fun h => lt_of_le_of_ne h.1 h.2

lemma filter_sortOn (keep : α → Bool) (hl : l.Nodup) :
    (sortOn key l).filter keep = sortOn key (l.filter keep) := by
  refine (eq_sortOn_iff (hl.filter keep) ((perm_sortOn key l).filter keep)).mpr ?_
  refine ((pairwise_precedes_sortOn key hl).filter keep).imp_of_mem fun ha hb hab => ?_
  refine hab.imp id fun h => ⟨h.1, ?_⟩
  have hsub := h.2.filter keep
  simpa [filter_cons, (mem_filter.mp ha).2, (mem_filter.mp hb).2] using hsub

/-! ## Sorting a part only -/

/-- Two elements of which the selected ones may go first: a selected one that comes first has no
larger key, and a selected one that comes second has a smaller one. -/
def MayLead (key : α → κ) (selected : α → Bool) (a b : α) : Prop :=
  (selected a = true → key a ≤ key b) ∧ (selected a = false → selected b = true → key b < key a)

/-- The selected elements, as they come, followed by the others, sorted, is the whole list sorted
exactly if the selected elements may lead. -/
lemma filter_append_sortOn_filter_iff (hl : l.Nodup) (selected : α → Bool) :
    l.filter selected ++ sortOn key (l.filter fun x => !selected x) = sortOn key l ↔
      l.Pairwise (MayLead key selected) := by
  have hperm : (l.filter selected ++ sortOn key (l.filter fun x => !selected x)).Perm l :=
    ((perm_sortOn key _).append_left _).trans (filter_append_perm selected l)
  rw [eq_sortOn_iff hl hperm, pairwise_append]
  constructor
  · rintro ⟨hfirst, -, hcross⟩
    refine pairwise_iff_forall_sublist.mpr fun {a b} hab => ?_
    have ha : a ∈ l := hab.subset (by simp)
    have hb : b ∈ l := hab.subset (by simp)
    have hpair : ∀ {x y}, x ∈ l → y ∈ l → selected x = true → selected y = false →
        Precedes key l x y := by
      intro x y hx hy hselected hother
      exact hcross x (mem_filter.mpr ⟨hx, hselected⟩) y
        (mem_sortOn.mpr (mem_filter.mpr ⟨hy, by simp [hother]⟩))
    refine ⟨fun hselected => ?_, fun hother hselected => ?_⟩
    · have hprecedes : Precedes key l a b := by
        cases hsecond : selected b with
        | true =>
          have hsub : [a, b] <+ l.filter selected := by
            have := hab.filter selected
            simpa [filter_cons, hselected, hsecond] using this
          exact pairwise_iff_forall_sublist.mp hfirst hsub
        | false => exact hpair ha hb hselected hsecond
      exact hprecedes.elim le_of_lt fun h => h.1.le
    · rcases hpair hb ha hselected hother with hlt | ⟨-, hba⟩
      · exact hlt
      · exact absurd hba (not_pair_sublist_swap hl hab)
  · intro hlead
    have hlead' : ∀ {a b}, [a, b] <+ l → MayLead key selected a b :=
      pairwise_iff_forall_sublist.mp hlead
    refine ⟨?_, ?_, ?_⟩
    · refine pairwise_iff_forall_sublist.mpr fun {a b} hab => ?_
      have hsub : [a, b] <+ l := hab.trans filter_sublist
      have ha : selected a = true := (mem_filter.mp (hab.subset (by simp))).2
      exact precedes_of_pair_sublist ((hlead' hsub).1 ha) hsub
    · have hrest := pairwise_precedes_sortOn key (hl.filter fun x => !selected x)
      refine hrest.imp fun {a b} hab => hab.imp id fun h => ⟨h.1, h.2.trans filter_sublist⟩
    · intro a ha b hb
      obtain ⟨ha, hselected⟩ := mem_filter.mp ha
      obtain ⟨hb, hother⟩ := mem_filter.mp (mem_sortOn.mp hb)
      have hother : selected b = false := by simpa using hother
      have hne : a ≠ b := fun heq => by simp [heq, hother] at hselected
      rcases pair_sublist_or ha hb hne with hab | hba
      · exact precedes_of_pair_sublist ((hlead' hab).1 hselected) hab
      · exact .inl ((hlead' hba).2 hother hselected)

end RocketSurgeon.Lib
