import RocketSurgeon.Daemon.Targets
import RocketSurgeon.Lib.EditDistance

/-!
# The nearest components

A row of the distance table holds the distances of one prefix of the first name to all prefixes of
the second.  The source keeps two rows and writes each new one over the older of them, from its
beginning to its end, so nothing of the old contents is left.
-/

namespace RocketSurgeon.Daemon

open Lib List

/-! ## Rows -/

/-- The distances of a reversed prefix to a reversed prefix of the second name and to those that
continue it. -/
def distanceRow (front : List Char) : List Char → List Char → List ℕ
  | seen, [] => [distance front seen]
  | seen, cb :: bs => distance front seen :: distanceRow front (cb :: seen) bs

lemma distanceRow_eq_cons (front seen bs : List Char) :
    distanceRow front seen bs = distance front seen :: (distanceRow front seen bs).tail := by
  cases bs <;> rfl

lemma distanceRow_nil (seen bs : List Char) :
    distanceRow [] seen bs = range' seen.length (bs.length + 1) := by
  induction bs generalizing seen with
  | nil => simp [distanceRow, distance]
  | cons cb bs ih => rw [distanceRow, ih, length_cons, range'_succ, distance]; rfl

lemma getLast?_distanceRow (front seen bs : List Char) :
    (distanceRow front seen bs).getLast? = some (distance front (bs.reverse ++ seen)) := by
  induction bs generalizing seen with
  | nil => rfl
  | cons cb bs ih =>
    rw [distanceRow, distanceRow_eq_cons, getLast?_cons_cons, ← distanceRow_eq_cons, ih]
    simp

lemma editRow_distanceRow (ca : Char) (front seen bs : List Char) :
    editRow ca bs (distanceRow front seen bs) (distance (ca :: front) seen) =
      (distanceRow (ca :: front) seen bs).tail := by
  induction bs generalizing seen with
  | nil => rfl
  | cons cb bs ih =>
    rw [distanceRow, distanceRow_eq_cons front, editRow, ← distanceRow_eq_cons, ← distance, ih]
    exact (distanceRow_eq_cons _ _ _).symm

lemma editRows_distanceRow (b as front : List Char) :
    editRows b as front.length (distanceRow front [] b) = distanceRow (as.reverse ++ front) [] b := by
  induction as generalizing front with
  | nil => rfl
  | cons ca as ih =>
    have hfirst : front.length + 1 = distance (ca :: front) [] := (distance_nil (ca :: front)).symm
    rw [editRows]
    nth_rewrite 2 [hfirst]
    rw [hfirst, editRow_distanceRow, ← distanceRow_eq_cons, ← hfirst]
    simpa using ih (ca :: front)

lemma isLeast_editDistance (a b : List Char) : IsLeast {n | Edits n a b} (editDistance a b) := by
  have hrows := editRows_distanceRow b a []
  rw [distanceRow_nil, length_nil, ← range_eq_range', append_nil] at hrows
  rw [editDistance, hrows, getLast?_distanceRow, append_nil]
  exact isLeast_distance_reverse a b

/-! ## Two buffers -/

/-- The inner loop of `edit_distance`: it overwrites `curr` behind its first entry. -/
def fillRow (ca : Char) (prev : List ℕ) : List Char → ℕ → List ℕ → List ℕ
  | [], _, curr => curr
  | cb :: bs, j, curr =>
      let cost := if ca = cb then 0 else 1
      fillRow ca prev bs (j + 1) (curr.set (j + 1)
        (min (min (prev.getD (j + 1) 0 + 1) (curr.getD j 0 + 1)) (prev.getD j 0 + cost)))

/-- The outer loop of `edit_distance`, which swaps the two rows. -/
def swapRows (b : List Char) : List Char → ℕ → List ℕ → List ℕ → List ℕ
  | [], _, prev, _ => prev
  | ca :: as, i, prev, curr =>
      swapRows b as (i + 1) (fillRow ca prev b 0 (curr.set 0 (i + 1))) prev

lemma length_editRow {prev : List ℕ}
    (ca : Char) (left : ℕ) (hprev : prev.length = bs.length + 1) :
    (editRow ca bs prev left).length = bs.length := by
  induction bs generalizing prev left with
  | nil => cases prev <;> rfl
  | cons cb bs ih =>
    obtain ⟨diagonal, _ | ⟨above, prev⟩, rfl⟩ := exists_cons_of_length_eq_add_one hprev
    · simp at hprev
    · rw [editRow, length_cons, ih _ (by simpa using hprev), length_cons]

lemma fillRow_eq (ca : Char) {prev done stale : List ℕ} {bs : List Char} {left : ℕ}
    (hprev : prev.length = done.length + bs.length + 1) (hstale : stale.length = bs.length) :
    fillRow ca prev bs done.length (done ++ left :: stale) =
      done ++ left :: editRow ca bs (prev.drop done.length) left := by
  induction bs generalizing done stale left with
  | nil =>
    obtain rfl := length_eq_zero_iff.mp hstale
    cases prev.drop done.length <;> rfl
  | cons cb bs ih =>
    obtain ⟨old, stale, rfl⟩ := exists_cons_of_length_eq_add_one hstale
    have habove : done.length + 1 < prev.length := by
      rw [hprev, length_cons]
      omega
    have hdiagonal : done.length < prev.length := Nat.lt_of_succ_lt habove
    have hnext := fun entry => @ih (done ++ [left]) stale entry (by simp [hprev]; omega)
      (by simpa using hstale)
    simp only [length_append, length_singleton, append_assoc,
      singleton_append] at hnext
    rw [drop_eq_getElem_cons hdiagonal, drop_eq_getElem_cons habove, editRow, fillRow]
    simp [getElem?_eq_getElem hdiagonal, getElem?_eq_getElem habove, hnext,
      ← drop_eq_getElem_cons habove]

/-- The loops of the source come to the same row, whatever is in the second buffer. -/
lemma swapRows_eq {prev : List ℕ} (b as : List Char) (i : ℕ) (hprev : prev.length = b.length + 1)
    (hcurrent : curr.length = b.length + 1) :
    swapRows b as i prev curr = editRows b as i prev := by
  induction as generalizing i prev curr with
  | nil => rfl
  | cons ca as ih =>
    obtain ⟨old, stale, rfl⟩ := exists_cons_of_length_eq_add_one hcurrent
    have hfilled := @fillRow_eq ca prev [] stale b (i + 1) (by simpa using hprev)
      (by simpa using hcurrent)
    rw [nil_append, length_nil] at hfilled
    rw [swapRows, set_cons_zero, hfilled]
    exact ih _ (congrArg Nat.succ (length_editRow ca _ hprev)) hprev

/-- `edit_distance` with the two buffers of the source. -/
def editDistanceBuffered (a b : List Char) : ℕ :=
  (swapRows b a 0 (List.range (b.length + 1)) (List.replicate (b.length + 1) 0)).getD b.length 0

lemma length_editRows {prev : List ℕ}
    (b as : List Char) (i : ℕ) (hprev : prev.length = b.length + 1) :
    (editRows b as i prev).length = b.length + 1 := by
  induction as generalizing i prev with
  | nil => exact hprev
  | cons ca as ih => exact ih _ (congrArg Nat.succ (length_editRow ca _ hprev))

lemma editDistanceBuffered_eq (a b : List Char) : editDistanceBuffered a b = editDistance a b := by
  have hlen := length_editRows b a 0 length_range
  rw [editDistanceBuffered, swapRows_eq b a 0 length_range length_replicate, editDistance,
    getLast?_eq_getElem?, hlen, getD_eq_getElem?_getD]
  rfl

/-! ## The nearest names -/

/-- The order of the suggestions: by distance, and then by name. -/
abbrev Nearer (x y : ℕ × String) : Prop := x.1 < y.1 ∨ x.1 = y.1 ∧ ¬ y.2 < x.2

lemma nearer_iff : Nearer x y ↔ toLex x ≤ toLex y := by
  rw [Prod.Lex.toLex_le_toLex, Nearer, not_lt]

instance transNearer : IsTrans (ℕ × String) Nearer where
  trans _ _ _ hxy hyz := nearer_iff.mpr ((nearer_iff.mp hxy).trans (nearer_iff.mp hyz))

instance totalNearer : Std.Total Nearer where
  total x y := by
    rw [nearer_iff, nearer_iff]
    exact le_total _ _

lemma nearestComponents_eq (attempted : List Char) :
    ∃ best rest, (best :: rest).Pairwise Nearer ∧
      (best :: rest).Perm (canonicalComponents.map fun c => (editDistance attempted c.toList, c)) ∧
      nearestComponents attempted =
        ((best :: rest.filter fun entry => entry.1 ≤ best.1 + 2).take 5).map Prod.snd := by
  have hsorted := pairwise_insertionSort Nearer
    (canonicalComponents.map fun c => (editDistance attempted c.toList, c))
  have hperm := perm_insertionSort Nearer
    (canonicalComponents.map fun c => (editDistance attempted c.toList, c))
  unfold nearestComponents
  generalize insertionSort Nearer _ = scored at hsorted hperm ⊢
  match scored with
  | [] => exact absurd hperm.length_eq (by simp [canonicalComponents])
  | best :: rest =>
    refine ⟨best, rest, hsorted, hperm, ?_⟩
    dsimp only
    rw [filter_cons_of_pos (by simp)]

/-- **The nearest components.**  The distance is the least number of edits, also as the source
computes it in two buffers.  What is suggested are one to five different components by distance,
and no component is nearer than the first of them. -/
theorem nearestComponents_nearest :
    (∀ a b, IsLeast {n | Edits n a b} (editDistance a b) ∧
      editDistanceBuffered a b = editDistance a b) ∧
    ∀ attempted, let nearest := nearestComponents attempted
      nearest ≠ [] ∧ nearest.length ≤ 5 ∧ nearest.Nodup ∧ nearest ⊆ canonicalComponents ∧
        nearest.Pairwise (fun x y =>
          editDistance attempted x.toList ≤ editDistance attempted y.toList) ∧
        ∀ first ∈ nearest.head?, ∀ name ∈ canonicalComponents,
          editDistance attempted first.toList ≤ editDistance attempted name.toList := by
  refine ⟨fun a b => ⟨isLeast_editDistance a b, editDistanceBuffered_eq a b⟩, fun attempted => ?_⟩
  obtain ⟨best, rest, hsorted, hperm, heq⟩ := nearestComponents_eq attempted
  have hnames : ((best :: rest).map Prod.snd).Perm canonicalComponents := by
    simpa [Function.comp_def] using hperm.map Prod.snd
  have hsub : (nearestComponents attempted).Sublist ((best :: rest).map Prod.snd) := by
    rw [heq]
    exact ((take_sublist _ _).trans (filter_sublist.cons_cons best)).map _
  have hscore : ∀ entry ∈ best :: rest, entry.1 = editDistance attempted entry.2.toList := by
    intro entry hentry
    obtain ⟨c, -, rfl⟩ := mem_map.mp (hperm.mem_iff.mp hentry)
    rfl
  have hle : ((best :: rest).map Prod.snd).Pairwise fun x y =>
      editDistance attempted x.toList ≤ editDistance attempted y.toList := by
    refine pairwise_map.mpr (hsorted.imp_of_mem fun {x y} hx hy hxy => ?_)
    rw [← hscore x hx, ← hscore y hy]
    exact hxy.elim le_of_lt fun h => h.1.le
  refine ⟨by simp [heq], by simp [heq], hsub.nodup (hnames.nodup_iff.mpr (by decide)),
    fun name hname => hnames.mem_iff.mp (hsub.subset hname), hle.sublist hsub, ?_⟩
  intro first hfirst name hname
  obtain rfl : best.2 = first := by simpa [heq] using hfirst
  obtain rfl | hname := mem_cons.mp (hnames.mem_iff.mpr hname)
  · exact le_refl _
  · exact (pairwise_cons.mp hle).1 name hname

end RocketSurgeon.Daemon
