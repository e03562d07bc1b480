import Mathlib

/-!
# Maximal runs of a list

The runs of a list under a key: its maximal segments of neighbours with equal keys.  An element that
is appended goes on with the last run or begins a new one.
-/

namespace RocketSurgeon.Lib

open List

variable {α β : Type*} [DecidableEq β] (key : α → β)

/-- The maximal segments of elements with equal keys. -/
def runs (xs : List α) : List (List α) := xs.splitBy fun x y => key x = key y

/-- The last element of a list begins no new run. -/
def Continues (xs : List α) (x : α) : Prop := ∃ last, xs.getLast? = some last ∧ key last = key x

variable {key} {xs : List α} {x : α}

lemma flatten_runs (xs : List α) : (runs key xs).flatten = xs := flatten_splitBy _ xs

lemma runs_append_cons (hnew : ¬ Continues key xs x) (rest : List α) :
    runs key (xs ++ x :: rest) = runs key xs ++ runs key (x :: rest) := by
  refine splitBy_append_cons rest fun last hlast => ?_
  exact decide_eq_false fun hkey => hnew ⟨last, hlast, hkey⟩

lemma head?_runs_cons (x : α) (rest : List α) :
    (runs key (x :: rest)).head?.bind head? = some x := by
  have hne : runs key (x :: rest) ≠ [] := splitBy_ne_nil.mpr (cons_ne_nil _ _)
  rw [head?_eq_some_head hne, Option.bind_some]
  have hhead := head_head_splitBy (fun x y => decide (key x = key y)) (cons_ne_nil x rest)
  exact (head?_eq_some_head _).trans (congrArg some hhead)

lemma length_runs_singleton (x : α) : (runs key [x]).length = 1 := rfl

/-- An element of the same key belongs to the last run. -/
lemma length_runs_concat_of_continues (hsame : Continues key xs x) :
    (runs key (xs ++ [x])).length = (runs key xs).length := by
  obtain ⟨previous, hprevious, hkey⟩ := hsame
  have hne : xs ≠ [] := by
    rintro rfl
    cases hprevious
  obtain ⟨front, last, hsplit⟩ :=
    (eq_nil_or_concat (runs key xs)).resolve_left (splitBy_ne_nil.mpr hne)
  rw [concat_eq_append] at hsplit
  obtain ⟨hflatten, hnil, hchain, hbreaks⟩ := splitBy_eq_iff.mp hsplit
  have hlast : last ≠ [] := fun hlast => hnil (by simp [hlast])
  have hextended : runs key (xs ++ [x]) = front ++ [last ++ [x]] := by
    refine splitBy_eq_iff.mpr ⟨by simp [hflatten], ?_, fun run hrun => ?_, ?_⟩
    · exact fun hmem => hnil (mem_append_left _ (by simpa using hmem))
    · rcases mem_append.mp hrun with hfront | hrun
      · exact hchain run (mem_append_left _ hfront)
      · rw [mem_singleton.mp hrun]
        refine isChain_append.mpr ⟨hchain last (by simp), .singleton x, ?_⟩
        intro a ha b hb
        have hsame : xs.getLast? = last.getLast? := by
          rw [hflatten, flatten_concat, getLast?_append_of_ne_nil _ hlast]
        rw [← hsame, hprevious] at ha
        cases ha
        cases hb
        exact decide_eq_true hkey
    · obtain ⟨hfront, -, hbreak⟩ := isChain_append.mp hbreaks
      refine isChain_append.mpr ⟨hfront, .singleton _, fun run hrun next hnext => ?_⟩
      obtain ⟨hrunNe, hlastNe, hkeys⟩ := hbreak run hrun last rfl
      cases hnext
      exact ⟨hrunNe, append_ne_nil_of_left_ne_nil hlastNe _, by
        rwa [head_append_of_ne_nil hlastNe]⟩
  rw [hextended, hsplit, length_append, length_append, length_singleton,
    length_singleton]

lemma length_runs_concat_of_not_continues (hnew : ¬ Continues key xs x) :
    (runs key (xs ++ [x])).length = (runs key xs).length + 1 := by
  rw [runs_append_cons hnew, length_append, length_runs_singleton]

lemma length_runs_lt (hnew : ¬ Continues key xs x) (rest : List α) :
    (runs key xs).length < (runs key (xs ++ x :: rest)).length := by
  rw [runs_append_cons hnew, length_append]
  have hpos : 0 < (runs key (x :: rest)).length :=
    length_pos_iff.mpr (splitBy_ne_nil.mpr (cons_ne_nil x rest))
  omega

end RocketSurgeon.Lib
