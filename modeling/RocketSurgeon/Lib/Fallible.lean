import Mathlib

/-!
# Failing with a changed state

Computations on a state that may fail part of the way.  What was changed before the failure stays,
as it does when a method returns early.

A failure may be one that the caller goes on from or one that nothing goes on from; `Never bad`
rules out failures of a kind.  `Triple` says what is known of the states a computation ends in, by
what is known of the state it starts from.
-/

namespace RocketSurgeon.Lib

/-- A computation on a state that may fail; what it has changed before stays. -/
abbrev Fallible (ε σ α : Type) := ExceptT ε (StateM σ) α

namespace Fallible

variable {ε σ α β : Type} {action : Fallible ε σ α} {state : σ} {next : α → Fallible ε σ β}

/-- The outcome from a given state, and the state it leaves. -/
def outcome (action : Fallible ε σ α) (state : σ) : Except ε α × σ := action.run.run state

lemma outcome_bind (action : Fallible ε σ α) (next : α → Fallible ε σ β) (state : σ) :
    outcome (action >>= next) state =
      match outcome action state with
      | (.ok value, state') => outcome (next value) state'
      | (.error error, state') => (.error error, state') := by
  unfold outcome
  change (match action.run.run state with
    | (res, state') => (ExceptT.bindCont next res).run state') = _
  rcases action.run.run state with ⟨res, state'⟩
  cases res with
  | error error | ok value => rfl

lemma outcome_get_bind (next : σ → Fallible ε σ β) (state : σ) :
    outcome (get >>= next) state = outcome (next state) state :=
  rfl

lemma outcome_modify_bind (change : σ → σ) (next : PUnit → Fallible ε σ β) (state : σ) :
    outcome (modify change >>= next) state = outcome (next ⟨⟩) (change state) :=
  rfl

/-- The computation does not fail in a bad way, whatever state it starts from. -/
def Never (bad : ε → Prop) (action : Fallible ε σ α) : Prop :=
  ∀ state error, (outcome action state).1 = .error error → ¬ bad error

variable {bad : ε → Prop}

lemma Never.pure (value : α) : Never bad (pure value : Fallible ε σ α) := by
  intro state error hfail
  cases hfail

lemma Never.throw (hgood : ¬ bad error) :
    Never bad (throw error : Fallible ε σ α) := by
  intro state failure hfail
  cases hfail
  exact hgood

lemma Never.bind (haction : Never bad action) (hnext : ∀ value, Never bad (next value)) :
    Never bad (action >>= next) := by
  intro state error hfail
  rw [outcome_bind] at hfail
  have hfirst := haction state
  revert hfail hfirst
  rcases outcome action state with ⟨res, state'⟩
  cases res with
  | error failure =>
    intro hfail hfirst
    cases hfail
    exact hfirst error rfl
  | ok value => exact fun hfail _ => hnext value state' error hfail

lemma Never.get : Never bad (get : Fallible ε σ σ) := by
  intro state error hfail
  cases hfail

lemma Never.modify (change : σ → σ) : Never bad (modify change : Fallible ε σ PUnit) := by
  intro state error hfail
  cases hfail

/-! ## Pre- and postconditions -/

/-- From a state with `pre`, the computation succeeds with a value and a state of `post`, or it fails
in a state of `failed`. -/
def Triple (pre : σ → Prop) (action : Fallible ε σ α) (post : α → σ → Prop)
    (failed : σ → Prop) : Prop :=
  ∀ state, pre state →
    match outcome action state with
    | (.ok value, state') => post value state'
    | (.error _, state') => failed state'

namespace Triple

variable {pre : σ → Prop} {post : α → σ → Prop} {failed : σ → Prop}

lemma pure (hpost : ∀ state, pre state → post value state) :
    Triple pre (pure value : Fallible ε σ α) post failed := hpost

lemma throw (hfail : ∀ state, pre state → failed state) :
    Triple pre (throw error : Fallible ε σ α) post failed := hfail

lemma get : Triple pre (get : Fallible ε σ σ) (fun value state => value = state ∧ pre state)
    failed :=
  fun _ hpre => ⟨rfl, hpre⟩

lemma of_and (haction : assumed → Triple pre action post failed) :
    Triple (fun state => assumed ∧ pre state) action post failed :=
  fun state hpre => haction hpre.1 state hpre.2

lemma get_bind {next : σ → Fallible ε σ α} (hnext : Triple (· = state) (next state) post failed) :
    Triple (· = state) (MonadStateOf.get >>= next) post failed := by
  rintro _ rfl
  exact hnext _ rfl

lemma modify {post : PUnit → σ → Prop} (hpost : ∀ state, pre state → post ⟨⟩ (change state)) :
    Triple pre (modify change : Fallible ε σ PUnit) post failed := hpost

lemma bind {post : β → σ → Prop} (haction : Triple pre action between failed)
    (hnext : ∀ value, Triple (between value) (next value) post failed) :
    Triple pre (action >>= next) post failed := by
  intro state hpre
  have hfirst := haction state hpre
  rw [outcome_bind]
  revert hfirst
  rcases outcome action state with ⟨res, state'⟩
  cases res with
  | error error => exact id
  | ok value => exact hnext value state'

lemma imp (htriple : Triple pre action post failed) (hpre : ∀ state, pre' state → pre state)
    (hpost : ∀ value state, post value state → post' value state)
    (hfail : ∀ state, failed state → failed' state) : Triple pre' action post' failed' := by
  intro state hstate
  have houtcome := htriple state (hpre state hstate)
  revert houtcome
  rcases outcome action state with ⟨res, state'⟩
  cases res with
  | error error => exact hfail state'
  | ok value => exact hpost value state'

lemma snd {ended : σ → Prop} (htriple : Triple pre action (fun _ => ended) ended)
    (hpre : pre state) :
    ended (outcome action state).2 := by
  have houtcome := htriple state hpre
  revert houtcome
  rcases outcome action state with ⟨res, state'⟩
  cases res with
  | error error | ok value => exact id

end Triple

/-- The computation keeps an invariant, however it ends. -/
def Keeps (inv : σ → Prop) (action : Fallible ε σ α) : Prop :=
  Triple inv action (fun _ => inv) inv

namespace Keeps

variable {inv : σ → Prop}

lemma pure (value : α) : Keeps inv (pure value : Fallible ε σ α) := Triple.pure fun _ => id

lemma throw (error : ε) : Keeps inv (throw error : Fallible ε σ α) := Triple.throw fun _ => id

lemma throw_bind (error : ε) (next : α → Fallible ε σ β) :
    Keeps inv ((MonadExcept.throw error : Fallible ε σ α) >>= next) := fun _ => id

lemma get : Keeps inv (get : Fallible ε σ σ) :=
  Triple.get.imp (fun _ => id) (fun _ _ hread => hread.2) fun _ => id

lemma modify (hchange : ∀ state, inv state → inv (change state)) :
    Keeps inv (modify change : Fallible ε σ PUnit) := Triple.modify hchange

lemma bind (haction : Keeps inv action) (hnext : ∀ value, Keeps inv (next value)) :
    Keeps inv (action >>= next) :=
  Triple.bind haction hnext

lemma snd (hkeeps : Keeps inv action) (hstate : inv state) : inv (outcome action state).2 :=
  Triple.snd hkeeps hstate

end Keeps

end Fallible

end RocketSurgeon.Lib
