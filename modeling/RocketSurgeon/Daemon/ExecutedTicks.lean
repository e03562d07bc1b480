import RocketSurgeon.Daemon.Ticks
import RocketSurgeon.Worker.StepRun

/-!
# The number of ticks a step reports

A step by components stops on the event its count names, and on the first if the count is 0; where the
pass ends before, it has received what was left.  The session does not ask: it reports the count of the
request as the number of ticks that were executed.
-/

namespace RocketSurgeon.Worker

open Lib Protocol StepCursor

variable {T : Type} {bridge : Bridge T} {st : WorkerState T} {handle : ℕ} {req : HostStepRequest}

/-! ## What the worker receives -/

lemma StepCursor.take_component (hcomp : req.granularity ≠ some .layer)
    (cursor : StepCursor T) (ev : HookEvent T) :
    cursor.take st req ev = (decide (req.count ≤ cursor.ticksConsumed + 1),
      { cursor.observe st req ev with ticksConsumed := cursor.ticksConsumed + 1 }) := by
  rw [take, count_component _ _ hcomp, ticksConsumed_observe]

/-- How many events a loop has received by its end: one for every tick of the count, or fewer if the
pass is complete. -/
def HasTaken (seen count : ℕ) (ended : StepEnd T) : Prop :=
  (ended.result = .ok true → ended.cursor.progress.seen.length < seen + max count 1) ∧
    (ended.result = .ok false → ended.cursor.progress.seen.length = seen + max count 1)

lemma stepLoop_hasTaken (hcomp : req.granularity ≠ some .layer) (items : List (MailItem T))
    {cursor : StepCursor T} (hstart : cursor.ticksConsumed = 0) :
    HasTaken cursor.progress.seen.length req.count
      (stepLoop bridge st handle req items cursor) := by
  refine @stepLoop_rule T bridge st handle req (fun _ cur =>
    cur.progress.seen.length = cursor.progress.seen.length + cur.ticksConsumed ∧
      cur.ticksConsumed < max req.count 1)
    (HasTaken cursor.progress.seen.length req.count) ?_ ?_ ?_ ?_ ?_ _ _
    ⟨by rw [hstart]; rfl, by rw [hstart]; omega⟩
  · exact fun cur _ => ⟨nofun, nofun⟩
  · rintro rest cur ⟨hseen, hleft⟩
    refine ⟨fun _ => ?_, nofun⟩
    dsimp only
    omega
  · exact fun ev rest cur msg _ => ⟨nofun, nofun⟩
  · rintro ev rest cur ⟨hseen, hleft⟩ hstop
    refine ⟨nofun, fun _ => ?_⟩
    rw [StepCursor.take_component hcomp, decide_eq_true_eq] at hstop
    simp only [progress_take, PassProgress.receive, List.length_append,
      List.length_singleton, hseen]
    omega
  · rintro ev rest cur reaction ⟨hseen, hleft⟩ hgoes
    have hticks : ((cur.take st req ev).2.answer reaction).ticksConsumed =
        cur.ticksConsumed + 1 := by
      rw [ticksConsumed_answer, StepCursor.take_component hcomp]
    rw [StepCursor.take_component hcomp, decide_eq_false_iff_not] at hgoes
    simp only [progress_answer, progress_take, PassProgress.receive,
      PassProgress.put, List.length_append, List.length_singleton, hseen]
    omega

/-- A step by components that succeeds has received as many events as its count says, at least one,
or all that were left. -/
lemma runStepLoop_observed (hcomp : req.granularity ≠ some .layer)
    (hok : (runStepLoop bridge st handle req).1 = .ok resp) :
    ∃ pass observed, (runStepLoop bridge st handle req).2.forwardPass = some pass ∧
      pass.seen = (passUnder bridge st req).seen ++ observed ∧
      observed.length =
        min (max req.count 1) (passEvents (passUnder bridge st req).pending).length := by
  rcases runStepLoop_start bridge st handle req with
    ⟨msg, st', -, -, -, hrun⟩ | ⟨st', pass, resuming, hstart, hrun⟩
  · rw [hrun] at hok
    cases hok
  · rw [hrun] at hok ⊢
    obtain ⟨events, hseen, -, hpending, -⟩ :=
      @stepLoop_received T bridge st' handle req pass.pending
      (startCursor st' pass resuming)
    have htaken := @stepLoop_hasTaken T bridge st' handle req hcomp pass.pending
      (startCursor st' pass resuming) rfl
    generalize stepLoop bridge st' handle req pass.pending (startCursor st' pass resuming) =
      ended at hok hseen hpending htaken ⊢
    rw [HasTaken, hseen, List.length_append, Nat.add_lt_add_iff_left, Nat.add_left_cancel_iff]
      at htaken
    rw [seen_startCursor] at hseen
    rw [← hstart.pass_eq]
    rcases finishStep_cases st' pass ended with ⟨msg, -, hfinish⟩ | ⟨hres, hfinish⟩ |
      ⟨hres, hfinish⟩
    · rw [hfinish] at hok
      cases hok
    · rw [hfinish]
      refine ⟨_, events, rfl, hseen, ?_⟩
      have hfewer := htaken.1 hres
      rw [hpending, if_pos hres]
      omega
    · rw [hfinish]
      refine ⟨_, events, rfl, hseen, ?_⟩
      have hall := htaken.2 hres
      rw [hpending, if_neg (hres ▸ nofun), List.length_append]
      omega

end RocketSurgeon.Worker

namespace RocketSurgeon.Daemon

open Lib Protocol Worker

variable {T : Type} {env : Env T} {d : DaemonState T} {req : StepRequest}

/-! ## What the session reports -/

lemma data_handleStepRequest (hhost : (tryOrchestratorStep env d (.valid req)).1 = some host)
    (hok : (handleRequest env d (.step ⟨false, .valid req⟩)).1 = .ok body) :
    body.data = .step ⟨req.count, host.position, host.firedInterventions⟩ := by
  have hanswer : (handleRequest env d (.step ⟨false, .valid req⟩)).1 =
      (handleStep (tryOrchestratorStep env d (.valid req)).2.session (.valid req) (some host)).1 := by
    rw [← hhost]
    exact fst_finishStepRequest env _ _
  rw [hanswer] at hok
  generalize (tryOrchestratorStep env d (.valid req)).2.session = sess at hok
  change (respond sess (sess.step req host.position host.firedInterventions)).1 = _ at hok
  by_cases hstopped : sess.state.status = .stopped
  · rw [Session.step_of_stopped hstopped] at hok
    cases hok
    exact Session.envelopeWithMode_data _ _ _
  · obtain ⟨data, hrejected⟩ :=
      Session.step_of_ne hstopped req host.position host.firedInterventions
    rw [hrejected] at hok
    cases hok

/-- The events the worker has received during a step: those of its pass that it had not seen. -/
def ObservedDuring (bridge : Bridge T) (worker : WorkerState T) (req : HostStepRequest)
    (observed : List (HookEvent T)) : Prop :=
  ∃ pass, (handleHostStep bridge worker req).2.forwardPass = some pass ∧
    pass.seen = (passUnder bridge worker req).seen ++ observed

/-- **The number of ticks.**  A step by components that the worker has answered reports the number of
events the worker has received exactly if its count is one of 1 up to the number of events left, or 0
where none is left. -/
theorem ticksExecuted_iff {worker : WorkerState T} {handle : ℕ}
    (hattached : d.attached = some (worker, handle))
    (hcomponent : resolveGranularity req.granularity d.granularityScopes ≠ some .layer)
    {host : HostStepResponse} (hhost : (tryOrchestratorStep env d (.valid req)).1 = some host)
    {body : SuccessBody} (hok : (handleRequest env d (.step ⟨false, .valid req⟩)).1 = .ok body) :
    ∃ response observed, body.data = .step response ∧
      ObservedDuring env.forwarded.bridge worker (hostStepRequest d handle req) observed ∧
      (response.ticksExecuted = observed.length ↔
        let left := (passEvents (passUnder env.forwarded.bridge worker
          (hostStepRequest d handle req)).pending).length
        1 ≤ req.count ∧ req.count ≤ left ∨ req.count = 0 ∧ left = 0) := by
  obtain ⟨worker', handle', req', hattached', hparams, hhandled, -⟩ :=
    tryOrchestratorStep_of_some hhost
  cases hattached.symm.trans hattached'
  cases hparams
  rcases handleHostStep_cases env.forwarded.bridge worker (hostStepRequest d handle req) with
    ⟨-, message, hrefused⟩ | ⟨-, hstate, hran⟩
  · rw [hrefused] at hhandled
    cases hhandled
  · obtain ⟨pass, observed, hpass, hseen, hlength⟩ :=
      runStepLoop_observed hcomponent ((hran host).mp hhandled)
    refine ⟨_, observed, data_handleStepRequest hhost hok, ⟨pass, hstate ▸ hpass, hseen⟩, ?_⟩
    change observed.length = min (max req.count 1) _ at hlength
    dsimp only
    omega

/-! ### A pass of two events -/

def twoEventEnv : Env ℕ := Env.calm addOneBridge "r"

def countStep (count : ℕ) : StepRequest := ⟨.forward, count, none, .full, none⟩

def stoppedAtTwo : TickPosition :=
  ⟨2, .forward, some 0, 1, "o_proj", .output, none, .prefill, some 0, some ⟨0, 2⟩⟩

/-- Both events are received, and two ticks are reported. -/
theorem ticksExecuted_two :
    ∃ response observed, StepResponse.ticksExecuted response = observed.length ∧
      ObservedDuring addOneBridge twoLayerWorker
        (hostStepRequest (opened addOneBridge) 1 (countStep 2)) observed := by
  have hhost : (tryOrchestratorStep twoEventEnv (opened addOneBridge) (.valid (countStep 2))).1 =
      some ⟨stoppedAtTwo, [], false, false, []⟩ := by decide +kernel
  obtain ⟨body, hok⟩ := exists_ok_of_isOk (show (handleRequest twoEventEnv (opened addOneBridge)
    (.step ⟨false, .valid (countStep 2)⟩)).1.isOk = true by decide +kernel)
  obtain ⟨response, observed, -, hobserved, hcount⟩ :=
    ticksExecuted_iff rfl (by decide) hhost hok
  exact ⟨response, observed, hcount.mpr (.inl (by decide +kernel)), hobserved⟩

/-- Two events are received, and five ticks are reported. -/
theorem ticksExecuted_five :
    ∃ body response, (handleRequest twoEventEnv (opened addOneBridge)
        (.step ⟨false, .valid (countStep 5)⟩)).1 = .ok body ∧ body.data = .step response ∧
      response.ticksExecuted ≠ twoEvents.length ∧
      ObservedDuring addOneBridge twoLayerWorker
        (hostStepRequest (opened addOneBridge) 1 (countStep 5)) twoEvents := by
  obtain ⟨body, hok⟩ := exists_ok_of_isOk (show (handleRequest twoEventEnv (opened addOneBridge)
    (.step ⟨false, .valid (countStep 5)⟩)).1.isOk = true by decide +kernel)
  have hhost : ∃ host, (tryOrchestratorStep twoEventEnv (opened addOneBridge)
      (.valid (countStep 5))).1 = some host :=
    Option.isSome_iff_exists.mp (by decide +kernel)
  obtain ⟨host, hhost⟩ := hhost
  exact ⟨body, _, hok, data_handleStepRequest hhost hok, by change 5 ≠ 2; decide,
    ⟨_, rfl, by decide +kernel⟩⟩

end RocketSurgeon.Daemon
