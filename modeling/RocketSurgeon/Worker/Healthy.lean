import RocketSurgeon.Worker.Requests

/-!
# A healthy Python side

On a Python side on which no call fails, a replay either is refused before it has done anything,
or it succeeds: provided that its recipes can be applied, and that no earlier pass has left its
hooks on the model.  Such hooks stop the pass on the first module it calls.
-/

namespace RocketSurgeon.Worker

open Lib Protocol

variable {T : Type}

/-- The Python side starts every pass, the model comes to an end on every input if no hook holds it
up, and comparing tensors does not fail. -/
structure Bridge.Healthy (bridge : Bridge T) : Prop where
  starts : bridge.startFailure = none
  completes : ∀ input, ∃ events : List (HookEvent T),
    bridge.forward input = events.map MailItem.hook ++ [.forwardComplete]
  compares : ∀ stored dtype shape output cosine mre, ∃ found,
    bridge.compareActivations stored dtype shape output cosine mre = .ok found
  switches : ∀ on, bridge.useDeterministicAlgorithms on = .ok ()

/-- The Python side applies the recipes, if there are any, at every point and to every tensor. -/
def Bridge.Applies (bridge : Bridge T) (recipes : List InterventionRecipe) : Prop :=
  ∀ tensor point, point.recipes = recipes → recipes ≠ [] →
    ∃ applied, bridge.applyInterventionsAtPoint tensor point = .ok applied

section Replay

variable {bridge : Bridge T} {st : WorkerState T} {req : HostReplayRequest}

lemma Bridge.Healthy.verifyEvent (hhealthy : bridge.Healthy) (tickId preReplayTick : ℕ)
    (event : HookEvent T) :
    ∃ divergences, verifyEvent bridge st req tickId preReplayTick event = .ok divergences := by
  unfold Worker.verifyEvent checkDivergenceAtBoundary
  dsimp only
  split
  · split
    · split
      · exact ⟨_, rfl⟩
      · split
        · exact ⟨_, rfl⟩
        next arena offset header _ _ output _ =>
          obtain ⟨found, hfound⟩ := hhealthy.compares (arena.dataAt offset header.byteLen)
            header.dtype.toTorchStr ((header.shape.take header.ndim).map Int.ofNat) output
            req.cosineThreshold req.mreThreshold
          rw [hfound]
          cases found with
          | none | some scores => exact ⟨_, rfl⟩
    · exact ⟨_, rfl⟩
  · exact ⟨_, rfl⟩

/-- The pass of a replay starts, and the loop runs over what it puts. -/
lemma Bridge.Healthy.runReplayLoop_eq (hhealthy : bridge.Healthy) (handle : ℕ) :
    ∃ st', let pass := freshPass bridge st (inputTensor none)
      runReplayLoop bridge st handle req = finishReplay st' pass st.tickState.tickId
        (replayLoop bridge st' handle req st.tickState.tickId pass.pending
          ⟨st'.progress pass, 0, []⟩) := by
  rcases runReplayLoop_cases bridge st handle req with
    ⟨message, st', hensured, _⟩ | ⟨st', _, _, _, hrun⟩
  · have hstarted : (ensureForwardPass bridge { st with forwardPass := none } none).1 = .ok () := by
      simp [ensureForwardPass, hhealthy.starts]
    rw [hensured] at hstarted
    cases hstarted
  · exact ⟨st', hrun⟩

lemma Bridge.Applies.replayReaction {recipes : List InterventionRecipe}
    (happlies : bridge.Applies recipes) (handle tickId : ℕ) (event : HookEvent T) :
    ∃ value, replayReaction bridge st handle recipes tickId event = .ok value := by
  unfold Worker.replayReaction
  cases recipes with
  | nil => exact ⟨_, rfl⟩
  | cons recipe rest =>
    cases event.output with
    | none => exact ⟨_, rfl⟩
    | some output =>
      obtain ⟨⟨modified, fired⟩, happlied⟩ := happlies output {
        recipes := recipe :: rest
        family := st.family
        rank := st.rank
        layer := (st.lookupComponent event.path event.callIndex).2
        component := (st.lookupComponent event.path event.callIndex).1
        event := "output"
        tickId
        handle } rfl (List.cons_ne_nil _ _)
      dsimp only
      rw [happlied]
      by_cases hfired : fired = []
      · exact ⟨none, if_pos hfired⟩
      · exact ⟨some modified, if_neg hfired⟩

section

variable (hhealthy : bridge.Healthy) (happlies : bridge.Applies req.interventions)

include hhealthy happlies

lemma Bridge.Healthy.replayLoop (handle preReplayTick : ℕ) (events : List (HookEvent T))
    (cursor : ReplayCursor T) :
    ∃ complete, (replayLoop bridge st handle req preReplayTick
      (events.map MailItem.hook ++ [.forwardComplete]) cursor).result = .ok complete := by
  induction events generalizing cursor with
  | nil => exact ⟨true, rfl⟩
  | cons event events ih =>
    simp only [List.map_cons, List.cons_append, Worker.replayLoop]
    obtain ⟨divergences, hverify⟩ := @Bridge.Healthy.verifyEvent T bridge st req hhealthy
      (cursor.progress.receive st event).tick.tickId preReplayTick event
    simp only [hverify]
    split
    · exact ⟨false, rfl⟩
    · obtain ⟨value, hreact⟩ := @Bridge.Applies.replayReaction T bridge st _ happlies handle
        (cursor.progress.receive st event).tick.tickId event
      simp only [hreact]
      exact ih _

lemma Bridge.Healthy.runReplayLoop (hunhooked : st.registeredHooks = []) (handle : ℕ) :
    ∃ response, (runReplayLoop bridge st handle req).1 = .ok response := by
  obtain ⟨st', hrun⟩ := hhealthy.runReplayLoop_eq handle
  obtain ⟨events, hevents⟩ := hhealthy.completes (inputTensor none)
  have hpending : (freshPass bridge st (inputTensor none)).pending =
      events.map MailItem.hook ++ [.forwardComplete] :=
    (forwardItems_of_unhooked hunhooked bridge _).trans hevents
  obtain ⟨complete, hresult⟩ := @Bridge.Healthy.replayLoop T bridge st' req hhealthy happlies
    handle st.tickState.tickId events ⟨st'.progress (freshPass bridge st (inputTensor none)), 0, []⟩
  rw [hrun, hpending, finishReplay, hresult]
  exact ⟨_, rfl⟩

/-- A replay that fails on a model without hooks has been refused: it has left the state alone. -/
lemma Bridge.Healthy.handleHostReplay_of_error (hunhooked : st.registeredHooks = [])
    {message : String} (hfail : (handleHostReplay bridge st req).1 = .error message) :
    (handleHostReplay bridge st req).2 = st := by
  rcases handleHostReplay_cases bridge st req with ⟨_, message, hrejected⟩ | ⟨⟨arena, hadmitted⟩, _, _⟩
  · rw [hrejected]
  · obtain ⟨response, hran⟩ := @Bridge.Healthy.runReplayLoop T bridge st req hhealthy happlies
      hunhooked req.modelHandle
    have hreplayed : (replayDeterministically bridge st req.modelHandle req).1 = .ok response := by
      unfold replayDeterministically
      rcases hloop : Worker.runReplayLoop bridge st req.modelHandle req with ⟨outcome, st'⟩
      rw [hloop] at hran
      obtain rfl : outcome = .ok response := hran
      simp only [hhealthy.switches, ite_self]
    have hhandled : (handleHostReplay bridge st req).1 = .ok response := by
      simp only [handleHostReplay, hadmitted.handle, hadmitted.stored, hadmitted.slots,
        hadmitted.outputs, hadmitted.restored, ne_eq, not_true_eq_false, if_false,
        Bool.false_eq_true, hreplayed]
      rfl
    cases hhandled.symm.trans hfail

end

end Replay

lemma Bridge.healthy_quiet (net : List ℤ → List (HookEvent T)) :
    (Bridge.quiet fun input => (net input).map MailItem.hook ++ [.forwardComplete]).Healthy where
  starts := rfl
  completes := fun input => ⟨net input, rfl⟩
  compares := fun _ _ _ _ _ _ => ⟨none, rfl⟩
  switches := fun _ => rfl

end RocketSurgeon.Worker
