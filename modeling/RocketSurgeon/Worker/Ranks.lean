import RocketSurgeon.Worker.StepRun

/-!
# Ranks

A worker reports positions and probe events under its rank.  Events take the rank from the worker
itself and positions from its clock, which is given the rank when the model is attached and each
time a completed pass is dropped, and keeps it in between.
-/

namespace RocketSurgeon.Worker

open Lib Protocol Probes

variable {T : Type} {st : WorkerState T}

/-- The clock of a worker has the worker's rank. -/
def Ranked (st : WorkerState T) : Prop := st.tickState.rank = st.rank

/-! ## Steps -/

/-- The clock and the events of a step loop have the worker's rank. -/
structure StepCursor.Ranked (st : WorkerState T) (cursor : StepCursor T) : Prop where
  clock : cursor.progress.tick.rank = st.rank
  events : ∀ event ∈ cursor.allEvents, event.rank = st.rank

lemma rank_of_mem_evaluateProbes (hevents : ∀ ev ∈ events, ev.rank = rank) :
    ∀ ev ∈ (evaluateProbes rank tickId point budget probes events).1, ev.rank = rank := by
  induction probes generalizing events with
  | nil => exact hevents
  | cons probe probes ih =>
    rw [evaluateProbes]
    split
    · split
      · exact hevents
      · refine ih fun ev hevent => ?_
        rcases List.mem_append.mp hevent with hevent | hevent
        · exact hevents ev hevent
        · rw [List.mem_singleton.mp hevent]
    · exact ih hevents

namespace StepCursor.Ranked

variable {cursor : StepCursor T} (hrank : cursor.Ranked st) (req : HostStepRequest)

include hrank

lemma observe (ev : HookEvent T) :
    (cursor.observe st req ev).Ranked st := by
  unfold StepCursor.observe StepCursor.probe
  split
  · exact ⟨hrank.clock, hrank.events⟩
  · refine ⟨hrank.clock, fun fired hfired => ?_⟩
    rcases List.mem_append.mp hfired with hfired | hfired
    · exact hrank.events fired hfired
    · exact rank_of_mem_evaluateProbes (List.forall_mem_nil _) fired hfired

lemma count (plan : StepPlan) (layer : ℕ) : (cursor.count plan layer).2.Ranked st := by
  unfold StepCursor.count
  split
  · split
    · split
      · exact hrank
      · exact ⟨hrank.clock, hrank.events⟩
    · exact ⟨hrank.clock, hrank.events⟩
  · exact ⟨hrank.clock, hrank.events⟩

lemma answer (reaction : Option (T × List String)) : (cursor.answer reaction).Ranked st := by
  cases reaction with
  | none | some reaction => exact ⟨hrank.clock, hrank.events⟩

lemma take (ev : HookEvent T) :
    (cursor.take st req ev).2.Ranked st :=
  (hrank.observe req ev).count _ _

lemma stepLoop (bridge : Bridge T) (handle : ℕ) (req : HostStepRequest)
    (items : List (MailItem T)) :
    (stepLoop bridge st handle req items cursor).cursor.Ranked st := by
  apply @stepLoop_rule T bridge st handle req (fun _ cursor => cursor.Ranked st)
    (fun ended => ended.cursor.Ranked st)
  · exact fun _ => id
  · exact fun _ _ => id
  · exact fun ev _ _ _ hcurrent => hcurrent.observe req ev
  · exact fun ev _ _ hcurrent _ => hcurrent.take req ev
  · exact fun ev _ _ reaction hcurrent _ => (hcurrent.take req ev).answer reaction
  · exact hrank

end StepCursor.Ranked

lemma ranked_dropCompletedPass (hrank : Ranked st) : Ranked (dropCompletedPass st) := by
  unfold dropCompletedPass
  split
  · split
    · rfl
    · exact hrank
  · exact hrank

lemma ranked_ensureForwardPass (hrank : Ranked st) (bridge : Bridge T)
    (inputIds : Option (List ℕ)) : Ranked (ensureForwardPass bridge st inputIds).2 := by
  unfold Ranked
  rw [tickState_ensureForwardPass, (onlyPass_ensureForwardPass bridge st inputIds).sameStore.rank]
  exact hrank

lemma ranked_runStepLoop (hrank : Ranked st) (bridge : Bridge T) (handle : ℕ)
    (req : HostStepRequest) :
    Ranked (runStepLoop bridge st handle req).2 ∧
      ∀ resp, (runStepLoop bridge st handle req).1 = .ok resp →
        resp.position.rank = some st.rank ∧
          ∀ ev ∈ resp.events, ev.rank = st.rank := by
  have hstart := ranked_ensureForwardPass (ranked_dropCompletedPass hrank) bridge req.inputIds
  have hsame := ((onlyPass_dropCompletedPass st).trans
    (onlyPass_ensureForwardPass bridge _ req.inputIds)).sameStore.rank
  unfold runStepLoop
  dsimp only
  revert hstart hsame
  rcases ensureForwardPass bridge (dropCompletedPass st) req.inputIds with ⟨msg | ⟨⟩, st'⟩
  · exact fun hstart _ => ⟨hstart, fun _ hresponse => nomatch hresponse⟩
  · intro hstart hsame
    dsimp only
    split
    · exact ⟨hstart, fun _ hresponse => nomatch hresponse⟩
    next pass hpass =>
      have hcursor :
          (startCursor st' pass (dropCompletedPass st).forwardPass.isSome).Ranked st' := by
        refine ⟨?_, List.forall_mem_nil _⟩
        unfold startCursor
        split
        · exact hstart
        · exact hstart
      have hended := hcursor.stepLoop bridge handle req pass.pending
      unfold finishStep
      split
      · exact ⟨hended.clock, fun _ hresponse => nomatch hresponse⟩
      next complete _ =>
        rw [← hsame]
        cases complete with
        | false | true =>
          refine ⟨hended.clock, fun resp hresponse => ?_⟩
          cases hresponse
          exact ⟨congrArg some hended.clock, hended.events⟩

lemma ranked_handleHostStep (hrank : Ranked st) (bridge : Bridge T) (req : HostStepRequest) :
    Ranked (handleHostStep bridge st req).2 ∧
      ∀ resp, (handleHostStep bridge st req).1 = .ok resp →
        resp.position.rank = some st.rank ∧
          ∀ ev ∈ resp.events, ev.rank = st.rank := by
  rcases handleHostStep_cases bridge st req with ⟨-, msg, hrejected⟩ | ⟨-, hstate, hok⟩
  · rw [hrejected]
    exact ⟨hrank, fun _ hresponse => nomatch hresponse⟩
  · obtain ⟨hleft, hreport⟩ := ranked_runStepLoop hrank bridge req.modelHandle req
    rw [hstate]
    exact ⟨hleft, fun resp hresponse => hreport resp ((hok resp).mp hresponse)⟩

/-! ## Replays -/

lemma rank_replayLoop (bridge : Bridge T) (handle : ℕ) (req : HostReplayRequest)
    (preReplayTick : ℕ) (items : List (MailItem T)) (cursor : ReplayCursor T) :
    (replayLoop bridge st handle req preReplayTick items cursor).cursor.progress.tick.rank =
      cursor.progress.tick.rank := by
  induction items generalizing cursor with
  | nil => rfl
  | cons item items ih =>
    cases item with
    | forwardComplete => rfl
    | hook ev =>
      rw [replayLoop]
      split
      · rfl
      · split
        · rfl
        · split
          · rfl
          · exact ih _

lemma ranked_runReplayLoop (hrank : Ranked st) (bridge : Bridge T) (handle : ℕ)
    (req : HostReplayRequest) :
    Ranked (runReplayLoop bridge st handle req).2 ∧
      ∀ resp, (runReplayLoop bridge st handle req).1 = .ok resp →
        resp.stoppedAt.rank = some st.rank := by
  have hstart : Ranked (ensureForwardPass bridge { st with forwardPass := none } none).2 :=
    @ranked_ensureForwardPass T { st with forwardPass := none } hrank bridge none
  have hsame :=
    (onlyPass_ensureForwardPass bridge { st with forwardPass := none } none).sameStore.rank
  unfold runReplayLoop
  revert hstart hsame
  rcases ensureForwardPass bridge { st with forwardPass := none } none with ⟨msg | ⟨⟩, st'⟩
  · exact fun hstart _ => ⟨hstart, fun _ hresponse => nomatch hresponse⟩
  · intro hstart hsame
    dsimp only
    split
    · exact ⟨hstart, fun _ hresponse => nomatch hresponse⟩
    next pass hpass =>
      have hended := (@rank_replayLoop T st' bridge handle req st.tickState.tickId pass.pending
        ⟨st'.progress pass, 0, []⟩).trans hstart
      unfold finishReplay
      split
      · exact ⟨hended, fun _ hresponse => nomatch hresponse⟩
      · refine ⟨hended, fun resp hresponse => ?_⟩
        cases hresponse
        exact congrArg some (hended.trans hsame)

lemma ranked_handleHostReplay (hrank : Ranked st) (bridge : Bridge T)
    (req : HostReplayRequest) :
    Ranked (handleHostReplay bridge st req).2 ∧
      ∀ resp, (handleHostReplay bridge st req).1 = .ok resp →
        resp.stoppedAt.rank = some st.rank := by
  rcases handleHostReplay_cases bridge st req with ⟨-, msg, hrejected⟩ | ⟨-, hstate, hok⟩
  · rw [hrejected]
    exact ⟨hrank, fun _ hresponse => nomatch hresponse⟩
  · obtain ⟨hleft, hreport⟩ := ranked_runReplayLoop hrank bridge req.modelHandle req
    rw [hstate]
    exact ⟨hleft, fun resp hresponse => hreport resp (hok resp hresponse)⟩

end RocketSurgeon.Worker
