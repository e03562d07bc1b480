import Mathlib

/-!
# Edit distance

The least number of insertions, deletions and substitutions that turn one list into another, and
the recursion that computes it.  An edit changes the computed distance to any list by at most
one, so no sequence of edits is shorter.
-/

namespace RocketSurgeon.Lib

variable {α : Type*} {a b c : List α} {n m : ℕ}

/-- One edit. -/
inductive Edit : List α → List α → Prop
  | insertion (front back : List α) (x : α) : Edit (front ++ back) (front ++ x :: back)
  | deletion (front back : List α) (x : α) : Edit (front ++ x :: back) (front ++ back)
  | substitution (front back : List α) (x y : α) : Edit (front ++ x :: back) (front ++ y :: back)

/-- A number of edits. -/
inductive Edits : ℕ → List α → List α → Prop
  | refl (a : List α) : Edits 0 a a
  | head {n : ℕ} {a b c : List α} (hedit : Edit a b) (hedits : Edits n b c) : Edits (n + 1) a c

lemma Edit.cons (hedit : Edit a b) (x : α) : Edit (x :: a) (x :: b) := by
  cases hedit with
  | insertion front back y => exact .insertion (x :: front) back y
  | deletion front back y => exact .deletion (x :: front) back y
  | substitution front back y z => exact .substitution (x :: front) back y z

lemma Edit.reverse (hedit : Edit a b) : Edit a.reverse b.reverse := by
  cases hedit with
  | insertion front back x => simpa using Edit.insertion back.reverse front.reverse x
  | deletion front back x => simpa using Edit.deletion back.reverse front.reverse x
  | substitution front back x y => simpa using Edit.substitution back.reverse front.reverse x y

lemma Edits.cons (hedits : Edits n a b) (x : α) : Edits n (x :: a) (x :: b) := by
  induction hedits with
  | refl a => exact .refl (x :: a)
  | head hedit _ ih => exact .head (hedit.cons x) ih

lemma Edits.reverse (hedits : Edits n a b) : Edits n a.reverse b.reverse := by
  induction hedits with
  | refl a => exact .refl a.reverse
  | head hedit _ ih => exact .head hedit.reverse ih

variable [DecidableEq α]

/-- The distance by recursion on both lists. -/
def distance : List α → List α → ℕ
  | [], b => b.length
  | x :: a, [] => (x :: a).length
  | x :: a, y :: b =>
      min (min (distance a (y :: b) + 1) (distance (x :: a) b + 1))
        (distance a b + if x = y then 0 else 1)
termination_by a b => a.length + b.length

lemma distance_nil (a : List α) : distance a [] = a.length := by
  cases a <;> simp [distance]

lemma distance_self (a : List α) : distance a a = 0 := by
  induction a with
  | nil => simp [distance]
  | cons x a ih => simp [distance, ih]

lemma edits_distance (a b : List α) : Edits (distance a b) a b := by
  induction a generalizing b with
  | nil =>
    rw [distance]
    induction b with
    | nil => exact .refl []
    | cons y b ih => exact .head (.insertion [] [] y) (ih.cons y)
  | cons x a iha =>
    induction b with
    | nil => exact distance_nil (x :: a) ▸ .head (.deletion [] a x) (distance_nil a ▸ iha [])
    | cons y b ihb =>
      rw [distance]
      rcases min_choice (min (distance a (y :: b) + 1) (distance (x :: a) b + 1))
        (distance a b + if x = y then 0 else 1) with hmin | hmin
      · rw [hmin]
        rcases min_choice (distance a (y :: b) + 1) (distance (x :: a) b + 1) with hmin | hmin
        · rw [hmin]
          exact .head (.deletion [] a x) (iha (y :: b))
        · rw [hmin]
          exact .head (.insertion [] (x :: a) y) (ihb.cons y)
      · rw [hmin]
        split_ifs with hsame
        · exact hsame ▸ (iha b).cons x
        · exact .head (.substitution [] a x y) ((iha b).cons y)

/-- The distance from the first list to any other is at most one more than from the second. -/
def Close (a b : List α) : Prop := ∀ c, distance a c ≤ distance b c + 1

lemma close_cons (hclose : Close a b) (x y : α) (hheads : x ≠ y → a = b) :
    Close (x :: a) (y :: b) := by
  intro c
  induction c with
  | nil =>
    have hnil := hclose []
    rw [distance_nil, distance_nil] at hnil ⊢
    exact Nat.succ_le_succ hnil
  | cons z c ih =>
    have hfront := hclose (z :: c)
    have hback := hclose c
    rw [distance, distance]
    by_cases hsame : x = y
    · subst hsame
      omega
    · obtain rfl := hheads hsame
      split_ifs <;> omega

lemma close_insertion (a : List α) (x : α) : Close a (x :: a) := by
  intro c
  induction c with
  | nil =>
    rw [distance_nil, distance_nil, List.length_cons]
    omega
  | cons z c ih =>
    have hlonger : distance a (z :: c) ≤ distance a c + 1 := by
      cases a with
      | nil => simp [distance]
      | cons y a => rw [distance]; omega
    rw [distance]
    omega

lemma close_deletion (a : List α) (x : α) : Close (x :: a) a := by
  intro c
  cases c with
  | nil => simp [distance_nil]
  | cons z c => rw [distance]; omega

lemma close_of_edit (hedit : Edit a b) : Close a b := by
  have hfront : ∀ (front : List α) {a b : List α}, Close a b → Close (front ++ a) (front ++ b) := by
    intro front a b hclose
    induction front with
    | nil => exact hclose
    | cons x front ih => exact close_cons ih x x fun hne => absurd rfl hne
  cases hedit with
  | insertion front back x => exact hfront front (close_insertion back x)
  | deletion front back x => exact hfront front (close_deletion back x)
  | substitution front back x y =>
    exact hfront front (close_cons (fun _ => Nat.le_succ _) x y fun _ => rfl)

/-- The recursion computes the least number of edits. -/
lemma isLeast_distance (a b : List α) : IsLeast {n | Edits n a b} (distance a b) := by
  refine ⟨edits_distance a b, fun n hedits => ?_⟩
  change Edits n a b at hedits
  induction hedits with
  | refl a => exact (distance_self a).le
  | @head n a b c hedit _ ih => exact (close_of_edit hedit c).trans (Nat.succ_le_succ ih)

lemma isLeast_distance_reverse (a b : List α) :
    IsLeast {n | Edits n a b} (distance a.reverse b.reverse) := by
  have hreversed : {n | Edits n a b} = {n | Edits n a.reverse b.reverse} := by
    ext n
    refine ⟨Edits.reverse, fun hedits => ?_⟩
    have hagain := Edits.reverse hedits
    rwa [List.reverse_reverse, List.reverse_reverse] at hagain
  rw [hreversed]
  exact isLeast_distance a.reverse b.reverse

end RocketSurgeon.Lib
