import Mathlib

/-!
# The order of first insertion

A list of keys that grows at its end: a key that is put in again keeps its place, and one
that was dropped in between goes to the end.  Such a list is compared with the history of
what was done to it, newest event first.  The place of a key is decided by the moment at
which it was first put in since it was last dropped.
-/

namespace RocketSurgeon.Lib

open List

inductive KeyEvent (α : Type)
  | put (key : α)
  | drop (key : α)
  | dropAll
  deriving DecidableEq, Repr

variable {α : Type} [DecidableEq α]

/-- When a key was first put in since it was last dropped, counted in events; `none` if it is not
in. -/
def firstPut (key : α) : List (KeyEvent α) → Option ℕ
  | [] => none
  | .put k :: earlier =>
      match firstPut key earlier with
      | some time => some time
      | none => if k = key then some earlier.length else none
  | .drop k :: earlier => if k = key then none else firstPut key earlier
  | .dropAll :: _ => none

lemma firstPut_lt_length {log : List (KeyEvent α)} (htime : firstPut key log = some time) :
    time < log.length := by
  induction log with
  | nil => cases htime
  | cons ev earlier ih =>
    have hearlier : firstPut key earlier = some time → time < (ev :: earlier).length :=
      fun h => Nat.lt_succ_of_lt (ih h)
    cases ev with
    | put k =>
      rw [firstPut] at htime
      split at htime
      next hsome => exact hearlier (hsome.trans htime)
      · split_ifs at htime
        cases htime
        exact Nat.lt_succ_self _
    | drop k =>
      rw [firstPut] at htime
      split_ifs at htime
      exact hearlier htime
    | dropAll => cases htime

/-- A key that is in keeps its moment when it, or another one, is put in. -/
lemma firstPut_put_of_isSome (hin : (firstPut key log).isSome = true) (k : α) :
    firstPut key (.put k :: log) = firstPut key log := by
  obtain ⟨time, htime⟩ := Option.isSome_iff_exists.mp hin
  rw [firstPut, htime]

lemma firstPut_put_of_ne (hne : k ≠ key) (log : List (KeyEvent α)) :
    firstPut key (.put k :: log) = firstPut key log := by
  rw [firstPut]
  split
  next htime => exact htime.symm
  next hnone => rw [if_neg hne, hnone]

lemma firstPut_put_self {log : List (KeyEvent α)} (hout : firstPut key log = none) :
    firstPut key (.put key :: log) = some log.length := by
  rw [firstPut, hout]
  exact if_pos rfl

lemma firstPut_drop_of_ne (hne : k ≠ key) (log : List (KeyEvent α)) :
    firstPut key (.drop k :: log) = firstPut key log :=
  if_neg hne

/-- Both keys are in, the first one for longer. -/
def PutBefore (log : List (KeyEvent α)) (first second : α) : Prop :=
  ∃ time later, firstPut first log = some time ∧ firstPut second log = some later ∧ time < later

/-- The keys that are in, each once, in the order of their first insertion. -/
structure InPutOrder (log : List (KeyEvent α)) (keys : List α) : Prop where
  mem_iff : ∀ key, key ∈ keys ↔ (firstPut key log).isSome = true
  ordered : keys.Pairwise (PutBefore log)

namespace InPutOrder

variable {log log' : List (KeyEvent α)} {keys : List α}

lemma nil : InPutOrder ([] : List (KeyEvent α)) [] :=
  ⟨fun _ => iff_of_false not_mem_nil nofun, List.Pairwise.nil⟩

section

variable (horder : InPutOrder log keys)

include horder

lemma nodup : keys.Nodup := by
  refine horder.ordered.imp ?_
  rintro first _ ⟨time, later, htime, hlater, hlt⟩ rfl
  rw [htime] at hlater
  cases hlater
  exact Nat.lt_irrefl _ hlt

/-- Keys whose moments have not changed are still in order. -/
lemma pairwise_of_agree {kept : List α} (hkept : kept.Sublist keys)
    (hagree : ∀ key ∈ kept, firstPut key log' = firstPut key log) :
    kept.Pairwise (PutBefore log') := by
  refine (horder.ordered.sublist hkept).imp_of_mem ?_
  rintro first second hfirst hsecond ⟨time, later, htime, hlater, hlt⟩
  exact ⟨time, later, (hagree first hfirst).trans htime, (hagree second hsecond).trans hlater, hlt⟩

lemma put_of_mem {k : α} (hk : k ∈ keys) :
    InPutOrder (.put k :: log) keys := by
  have hin : ∀ key, (firstPut key (.put k :: log)) = firstPut key log := by
    intro key
    by_cases hkey : k = key
    · exact firstPut_put_of_isSome ((horder.mem_iff key).mp (hkey ▸ hk)) k
    · exact firstPut_put_of_ne hkey log
  refine ⟨fun key => ?_, horder.pairwise_of_agree (List.Sublist.refl keys) fun key _ => hin key⟩
  rw [hin, horder.mem_iff]

lemma put_of_not_mem {k : α} (hk : k ∉ keys) :
    InPutOrder (.put k :: log) (keys ++ [k]) := by
  have hout : firstPut k log = none := by
    rw [← Option.not_isSome_iff_eq_none, ← horder.mem_iff]
    exact hk
  have hagree : ∀ key ∈ keys, firstPut key (.put k :: log) = firstPut key log :=
    fun key hkey => firstPut_put_of_isSome ((horder.mem_iff key).mp hkey) k
  constructor
  · intro key
    rw [mem_append, mem_singleton]
    by_cases hkey : k = key
    · subst hkey
      rw [firstPut_put_self hout]
      exact iff_of_true (Or.inr rfl) rfl
    · rw [firstPut_put_of_ne hkey, horder.mem_iff]
      exact or_iff_left (Ne.symm hkey)
  · refine pairwise_append.mpr
      ⟨horder.pairwise_of_agree (List.Sublist.refl keys) hagree, pairwise_singleton _ _, ?_⟩
    intro first hfirst second hsecond
    obtain rfl := mem_singleton.mp hsecond
    obtain ⟨time, htime⟩ := Option.isSome_iff_exists.mp ((horder.mem_iff first).mp hfirst)
    exact ⟨time, log.length, (hagree first hfirst).trans htime, firstPut_put_self hout,
      firstPut_lt_length htime⟩

lemma drop (k : α) :
    InPutOrder (.drop k :: log) (keys.filter fun key => key ≠ k) := by
  constructor
  · intro key
    rw [mem_filter, decide_eq_true_eq]
    by_cases hkey : k = key
    · subst hkey
      rw [firstPut, if_pos rfl]
      exact iff_of_false (fun h => h.2 rfl) nofun
    · rw [firstPut_drop_of_ne hkey, horder.mem_iff]
      exact and_iff_left (Ne.symm hkey)
  · refine horder.pairwise_of_agree filter_sublist fun key hkey => ?_
    exact firstPut_drop_of_ne (Ne.symm (of_decide_eq_true (mem_filter.mp hkey).2)) log

end

lemma dropAll (log : List (KeyEvent α)) : InPutOrder (.dropAll :: log) [] :=
  ⟨fun _ => iff_of_false not_mem_nil nofun, List.Pairwise.nil⟩

end InPutOrder

end RocketSurgeon.Lib
