import Mathlib

/-!
# Bounded FIFO queues

A bounded single-producer queue, kept as its whole history: the items that were
ever accepted, in order, and the number of them that have left.  Whatever runs
on such a queue hands items over in the order they were accepted, and holds at
most `capacity` of them at a time.

The second half is the index arithmetic of a queue that lives in a cyclic array:
the power-of-two test behind a masked index, and that two positions less than
one turn apart never share a cell.
-/

namespace RocketSurgeon.Lib

/-- The history of a queue: what it accepted, and how many items have left. -/
structure Fifo (α : Type*) where
  accepted : List α
  taken : ℕ

namespace Fifo

variable {α : Type*} {capacity : ℕ} {q q' : Fifo α}

def empty : Fifo α := ⟨[], 0⟩

/-- One step of a queue of the given capacity, or a step that leaves it alone. -/
inductive Step (capacity : ℕ) : Fifo α → Fifo α → Prop
  | stutter (q : Fifo α) : Step capacity q q
  | enqueue (q : Fifo α) (item : α) (hroom : q.accepted.length < q.taken + capacity) :
      Step capacity q ⟨q.accepted ++ [item], q.taken⟩
  | dequeue (q : Fifo α) (hitem : q.taken < q.accepted.length) :
      Step capacity q ⟨q.accepted, q.taken + 1⟩

/-- The histories a queue of the given capacity can have. -/
def Reachable (capacity : ℕ) (q : Fifo α) : Prop :=
  Relation.ReflTransGen (Step capacity) empty q

lemma Reachable.empty : Reachable capacity (empty : Fifo α) := .refl

lemma Reachable.step (hreach : Reachable capacity q) (hstep : Step capacity q q') :
    Reachable capacity q' :=
  Relation.ReflTransGen.tail hreach hstep

lemma Reachable.bounds (hreach : Reachable capacity q) :
    q.taken ≤ q.accepted.length ∧ q.accepted.length ≤ q.taken + capacity := by
  induction hreach with
  | refl => simp [Fifo.empty]
  | tail _ hstep ih =>
    cases hstep with
    | stutter => exact ih
    | enqueue item hroom =>
      simp only [List.length_append, List.length_singleton]
      omega
    | dequeue hitem =>
      exact ⟨hitem, ih.2.trans (by simp only; omega)⟩

end Fifo

/-! ## Cyclic indices -/

lemma exists_two_pow_of_and_sub_one_eq_zero {n : ℕ} (hpos : n ≠ 0) (hand : n &&& (n - 1) = 0) :
    ∃ k, n = 2 ^ k := by
  refine ⟨n.log2, ?_⟩
  by_contra hne
  have hlow : 2 ^ n.log2 ≤ n := Nat.log2_self_le hpos
  have hhigh : n < 2 ^ (n.log2 + 1) := Nat.lt_log2_self
  -- Both `n` and `n - 1` lie in the same power-of-two block, so they share its top bit.
  have hbit : ∀ m, 2 ^ n.log2 ≤ m → m < 2 ^ (n.log2 + 1) → m.testBit n.log2 = true := by
    intro m hm hm'
    have hdiv : m / 2 ^ n.log2 = 1 := by
      exact Nat.div_eq_of_lt_le (by omega) (by omega)
    simp [Nat.testBit_eq_decide_div_mod_eq, hdiv]
  have htop : (n &&& (n - 1)).testBit n.log2 = true := by
    rw [Nat.testBit_and, hbit n hlow hhigh, hbit _ (by omega) (by omega)]
    rfl
  simp [hand] at htop

/-- Two positions less than one turn apart fall on different cells. -/
lemma mod_ne_mod_of_lt_window {capacity i j : ℕ} (hlt : i < j) (hwindow : j < i + capacity) :
    i % capacity ≠ j % capacity := by
  intro heq
  have hdvd : capacity ∣ j - i := (Nat.modEq_iff_dvd' hlt.le).mp heq
  have hle : capacity ≤ j - i := Nat.le_of_dvd (by omega) hdvd
  omega

lemma cell_disjoint {i j : ℕ} (size : ℕ) (hne : i ≠ j) :
    i * size + size ≤ j * size ∨ j * size + size ≤ i * size := by
  rcases Nat.lt_or_gt_of_ne hne with hlt | hlt
  · exact .inl (by simpa [Nat.succ_mul] using Nat.mul_le_mul_right size hlt)
  · exact .inr (by simpa [Nat.succ_mul] using Nat.mul_le_mul_right size hlt)

end RocketSurgeon.Lib
