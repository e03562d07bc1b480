import Mathlib

/-!
# Properties along a run

A system that takes a step for every action of a list.  `Along step P` says that `P`
holds of every state the run passes through, together with the action taken there.
-/

namespace RocketSurgeon.Lib

variable {σ α : Type*}

/-- `P` holds at every step of the run that takes the actions in order. -/
def Along (step : σ → α → σ) (P : σ → α → Prop) : σ → List α → Prop
  | _, [] => True
  | state, action :: actions =>
      P state action ∧ Along step P (step state action) actions

variable {step : σ → α → σ} {P Q : σ → α → Prop} {Inv : σ → Prop}

/-- Two properties hold along the same runs of admissible actions if they agree wherever an
invariant holds that the first one preserves. -/
lemma along_iff_of_forall_mem {Admissible : α → Prop}
    (hiff : ∀ state act, Admissible act → Inv state → (P state act ↔ Q state act))
    (hstep : ∀ state act, Admissible act → Inv state → P state act → Inv (step state act))
    {state : σ} (hstate : Inv state) {actions : List α}
    (hactions : ∀ act ∈ actions, Admissible act) :
    Along step P state actions ↔ Along step Q state actions := by
  induction actions generalizing state with
  | nil => exact Iff.rfl
  | cons act actions ih =>
      obtain ⟨haction, hactions⟩ := List.forall_mem_cons.mp hactions
      constructor
      · rintro ⟨hnow, hrest⟩
        have hnext := hstep state act haction hstate hnow
        exact ⟨(hiff state act haction hstate).mp hnow, (ih hnext hactions).mp hrest⟩
      · rintro ⟨hnow, hrest⟩
        have hnow' := (hiff state act haction hstate).mpr hnow
        have hnext := hstep state act haction hstate hnow'
        exact ⟨hnow', (ih hnext hactions).mpr hrest⟩

lemma along_iff_of_invariant (hiff : ∀ state act, Inv state → (P state act ↔ Q state act))
    (hstep : ∀ state act, Inv state → P state act → Inv (step state act)) {state : σ}
    (hstate : Inv state) (actions : List α) :
    Along step P state actions ↔ Along step Q state actions :=
  along_iff_of_forall_mem (fun state act _ => hiff state act)
    (fun state act _ => hstep state act) hstate fun _ _ => trivial

/-- An invariant that every step of a run preserves holds where the run ends. -/
lemma Along.invariant
    (hstep : ∀ state act, Inv state → P state act → Inv (step state act))
    {state : σ} (hstate : Inv state) {actions : List α} (hrun : Along step P state actions) :
    Inv (actions.foldl step state) := by
  induction actions generalizing state with
  | nil => exact hstate
  | cons act actions ih => exact ih (hstep state act hstate hrun.1) hrun.2

lemma Along.and (hfirst : Along step P state actions) (hsecond : Along step Q state actions) :
    Along step (fun state act => P state act ∧ Q state act) state actions := by
  induction actions generalizing state with
  | nil => trivial
  | cons act actions ih => exact ⟨⟨hfirst.1, hsecond.1⟩, ih hfirst.2 hsecond.2⟩

lemma along_append (earlier later : List α) :
    Along step P state (earlier ++ later) ↔
      Along step P state earlier ∧ Along step P (earlier.foldl step state) later := by
  induction earlier generalizing state with
  | nil => exact ⟨fun hlater => ⟨trivial, hlater⟩, fun h => h.2⟩
  | cons act earlier ih => exact (and_congr_right fun _ => ih).trans and_assoc.symm

end RocketSurgeon.Lib
