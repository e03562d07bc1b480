import RocketSurgeon.Daemon.Failures
import RocketSurgeon.Daemon.Linked
import RocketSurgeon.Lib.Runs
import RocketSurgeon.Worker.StepSplit

/-!
# Two clocks

The session keeps the tick of the position it shows, and the worker its own clock.  A step
and a replay that the worker has answered leave both at the same tick.  Restoring a
checkpoint moves the session alone: afterwards the clocks agree only if the worker
happened to stand at the tick of the checkpoint.
-/

namespace RocketSurgeon.Daemon

open Lib Protocol Worker Session

variable {T : Type}

/-- The tick of the worker's clock. -/
def DaemonState.workerTick (d : DaemonState T) : Option ℕ :=
  d.orchestrator.map fun worker => worker.tickState.tickId

def TicksAgree (d : DaemonState T) : Prop := d.session.state.tickId = d.workerTick

/-! ## Positions the worker reports -/

section Worker

variable {bridge : Bridge T} {st : WorkerState T} {resp : HostStepResponse}

lemma tickId_finishStep {pass : ForwardPassState T}
    (hok : (finishStep st pass ended).1 = .ok resp) :
    resp.position.tickId = (finishStep st pass ended).2.tickState.tickId := by
  unfold finishStep at hok ⊢
  split
  next hres =>
    rw [hres] at hok
    cases hok
  next hres =>
    rw [hres] at hok
    cases hok
    rfl

lemma tickId_handleHostStep (hok : (handleHostStep bridge st req).1 = .ok resp) :
    resp.position.tickId = (handleHostStep bridge st req).2.tickState.tickId := by
  rcases handleHostStep_cases bridge st req with ⟨_, msg, hrejected⟩ | ⟨_, hstate, hran⟩
  · rw [hrejected] at hok
    cases hok
  · have hloop := (hran resp).mp hok
    rw [hstate]
    rcases runStepLoop_cases bridge st req.modelHandle req with
      ⟨msg, st', _, hrun⟩ | ⟨st', pass, ended, _, _, hrun⟩
    · rw [hrun] at hloop
      cases hloop
    · rw [hrun] at hloop ⊢
      exact tickId_finishStep hloop

lemma tickId_handleHostReplay {resp : HostReplayResponse}
    (hok : (handleHostReplay bridge st req).1 = .ok resp) :
    resp.stoppedAt.tickId = (handleHostReplay bridge st req).2.tickState.tickId := by
  rcases handleHostReplay_cases bridge st req with ⟨_, msg, hrejected⟩ | ⟨_, hstate, hran⟩
  · rw [hrejected] at hok
    cases hok
  · obtain ⟨st', complete, -, -, -, htick, hresponse⟩ :=
      runReplayLoop_loop (Prod.ext (hran resp hok) rfl)
    rw [hstate, htick, hresponse]
    rfl

/-- The next thing the forward thread puts is a hook event. -/
def AtEvent (pass : ForwardPassState T) : Prop :=
  ∃ event rest, pass.pending = MailItem.hook event :: rest

/-- A single component step of a running pass ticks the clock once, unless the pass is at its end:
then the clock starts over. -/
lemma tickId_stepOnce {pass : ForwardPassState T} (hpass : st.forwardPass = some pass)
    (hrunning : pass.forwardComplete = false) (hcount : req.count = 1)
    (hcomp : req.granularity ≠ some .layer)
    (hok : (runStepLoop bridge st handle req).1 = .ok resp) :
    (AtEvent pass ∧ resp.position.tickId = st.tickState.tickId + 1) ∨
      (¬ AtEvent pass ∧ resp.position.tickId = 0) := by
  have hdrop : dropCompletedPass st = st := by simp [dropCompletedPass, hpass, hrunning]
  have hensure : ensureForwardPass bridge st req.inputIds = (.ok (), st) := by
    simp [ensureForwardPass, hpass]
  have hrun : runStepLoop bridge st handle req = finishStep st pass
      (stepLoop bridge st handle req pass.pending (startCursor st pass true)) := by
    simp only [runStepLoop, hdrop, hensure, hpass, Option.isSome_some]
  obtain ⟨hres, hprogress, _, _⟩ := stepLoop_component bridge st handle req hcomp
    pass.pending _
  rw [hrun] at hok
  generalize stepLoop bridge st handle req pass.pending (startCursor st pass true) = ended at *
  cases hpending : pass.pending with
  | nil =>
    -- The worker waits in vain, and the step fails.
    rw [hpending] at hres
    simp [finishStep, hres, componentLoop] at hok
  | cons item rest =>
    rw [hpending] at hres hprogress
    cases item with
    | forwardComplete =>
      refine .inr ⟨?_, ?_⟩
      · rintro ⟨event, rest', hevent⟩
        cases hpending.symm.trans hevent
      · rw [finishStep, hres] at hok
        cases hok
        rfl
    | hook event =>
      refine .inl ⟨⟨event, rest, hpending⟩, ?_⟩
      -- One event is received and ends the step, unless an intervention fails on it.
      have hleft : req.count - (startCursor st pass true).ticksConsumed ≤ 1 := by
        rw [hcount]
        exact Nat.sub_le 1 _
      simp only [componentLoop, hleft, if_true] at hres hprogress
      cases hreact : react bridge st handle req.interventions
          ((startCursor st pass true).progress.receive st event).tick.tickId event with
      | error msg =>
        rw [hreact] at hres
        simp [finishStep, hres] at hok
      | ok reaction =>
        rw [hreact] at hres hprogress
        rw [finishStep, hres] at hok
        cases hok
        rw [if_neg Bool.false_ne_true, hprogress]
        rfl

end Worker

/-! ## Steps and replays -/

section Moves

variable {env : Env T} {d : DaemonState T} {params : Params StepRequest} {host : HostStepResponse}

lemma tryOrchestratorStep_of_some (hsome : (tryOrchestratorStep env d params).1 = some host) :
    ∃ worker handle req, d.attached = some (worker, handle) ∧
      params.parse (.ok defaultStep) = .ok req ∧
      (handleHostStep env.forwarded.bridge worker (hostStepRequest d handle req)).1 = .ok host ∧
      (tryOrchestratorStep env d params).2.orchestrator =
        some (handleHostStep env.forwarded.bridge worker (hostStepRequest d handle req)).2 := by
  unfold tryOrchestratorStep at hsome ⊢
  split at hsome
  next worker handle req hattached hparams =>
    obtain ⟨hhandled, hcall⟩ := Link.call_of_toOption hsome
    refine ⟨worker, handle, req, hattached, hparams, hhandled, ?_⟩
    simp only [hcall]
  · cases hsome

lemma tryOrchestratorReplay_of_some {params : Params ReplayRequest} {host : HostReplayResponse}
    (hsome : (tryOrchestratorReplay env d params).1 = some host) :
    ∃ worker handle req, d.attached = some (worker, handle) ∧ params = .valid req ∧
      (handleHostReplay env.forwarded.bridge worker (hostReplayRequest handle req)).1 = .ok host ∧
      (tryOrchestratorReplay env d params).2.orchestrator =
        some (handleHostReplay env.forwarded.bridge worker (hostReplayRequest handle req)).2 := by
  unfold tryOrchestratorReplay at hsome ⊢
  split at hsome
  next worker handle req hattached =>
    obtain ⟨hhandled, hcall⟩ := Link.call_of_toOption hsome
    refine ⟨worker, handle, req, hattached, rfl, hhandled, ?_⟩
    simp only [hcall]
  · cases hsome

lemma workerTick_tryOrchestratorStep (hsome : (tryOrchestratorStep env d params).1 = some host) :
    (tryOrchestratorStep env d params).2.workerTick = some host.position.tickId := by
  obtain ⟨worker, handle, req, -, -, hhandled, hworker⟩ := tryOrchestratorStep_of_some hsome
  rw [DaemonState.workerTick, hworker, tickId_handleHostStep hhandled]
  rfl

lemma workerTick_tryOrchestratorReplay {params : Params ReplayRequest}
    {host : HostReplayResponse} (hsome : (tryOrchestratorReplay env d params).1 = some host) :
    (tryOrchestratorReplay env d params).2.workerTick = some host.stoppedAt.tickId := by
  obtain ⟨worker, handle, req, -, -, hhandled, hworker⟩ := tryOrchestratorReplay_of_some hsome
  rw [DaemonState.workerTick, hworker, tickId_handleHostReplay hhandled]
  rfl

/-- A backward step reports where its replay has left the worker: a whole pass ahead. -/
lemma tryBackwardStep_of_some (hattached : d.attached = some (worker, handle))
    (hsome : (tryBackwardStep env d).1 = some host) :
    host.position.tickId = worker.tickState.tickId +
        (passEvents (env.forwarded.bridge.forward (inputTensor none))).length ∧
      (tryBackwardStep env d).2.workerTick = some host.position.tickId := by
  unfold tryBackwardStep at hsome ⊢
  dsimp only at hsome ⊢
  split
  next ckpt _ worker' handle' hfound hattached' =>
    cases hattached.symm.trans hattached'
    simp only [hfound, hattached] at hsome
    -- The sub-checkpoint leaves the clock alone, so the replay counts on from it.
    have htick := tickState_takeSubCheckpoint env d.session worker handle
    generalize takeSubCheckpoint env d.session worker handle = saved at *
    cases hcall : (env.forwarded.call saved.2 fun bridge st =>
        handleHostReplay bridge st (backwardReplay saved.1 handle ckpt)).1 with
    | error msg =>
      rw [hcall] at hsome
      cases hsome
    | ok replayed =>
      rw [hcall] at hsome
      cases hsome
      have hhandled := Link.call_of_ok hcall
      rw [hhandled] at hcall
      have hwhole := handleHostReplay_of_ok rfl hcall
      rw [hhandled, hwhole.stoppedAt, hwhole.tick, htick]
      refine ⟨rfl, congrArg some (hwhole.tick.trans ?_)⟩
      rw [htick]
  next hnone =>
    split at hsome
    next hfound hattached' => exact absurd hattached' (hnone _ _ _ _ hfound)
    · cases hsome

lemma ticks_takeAutoCheckpoint (pos : TickPosition) :
    (takeAutoCheckpoint env d pos).session.state.tickId = d.session.state.tickId ∧
      (takeAutoCheckpoint env d pos).workerTick = d.workerTick := by
  unfold takeAutoCheckpoint
  split
  · split
    · exact ⟨rfl, rfl⟩
    next worker handle hattached =>
      dsimp only
      have hworker : some worker.tickState.tickId = d.workerTick := by
        rw [DaemonState.workerTick, (attached_eq_some_iff.mp hattached).1]
        rfl
      have hkept : some (env.autoCheckpoint.call worker fun bridge st =>
          handleHostCheckpoint bridge st (.create handle ("auto-" ++ env.autoUuid) .activation
            (d.session.state.tickId.getD 0) pos.layer)).2.tickState.tickId = d.workerTick :=
        @Link.call_induct T _ (fun st => some st.tickState.tickId = d.workerTick) _ _ _ hworker
          (by rw [tickState_handleHostCheckpoint, hworker])
      split
      · exact ⟨rfl, hkept⟩
      · exact ⟨rfl, hkept⟩
  · exact ⟨rfl, rfl⟩

lemma tickId_handleStep (hok : (handleStep session params (some host)).1 = .ok body) :
    (handleStep session params (some host)).2.state.tickId = some host.position.tickId := by
  unfold handleStep withParams at hok ⊢
  cases hparse : params.parse (missingField "direction") with
  | error msg =>
    rw [hparse] at hok
    cases hok
  | ok req =>
    rw [hparse] at hok
    dsimp only at hok ⊢
    by_cases hstop : session.state.status = .stopped
    · rw [step_of_stopped hstop]
      rfl
    · obtain ⟨data, hdata⟩ :=
        step_of_ne hstop req host.position host.firedInterventions
      rw [hdata] at hok
      cases hok

/-- A step that has succeeded with an answer of the worker has moved the session there. -/
lemma ticks_finishStepRequest (hhost : tried.1 = some host)
    (hok : (finishStepRequest env params tried).1 = .ok body) :
    (finishStepRequest env params tried).2.session.state.tickId = some host.position.tickId ∧
      (finishStepRequest env params tried).2.workerTick = tried.2.workerTick := by
  obtain ⟨answer, d'⟩ := tried
  obtain rfl : answer = some host := hhost
  unfold finishStepRequest at hok ⊢
  dsimp only [DaemonState.conclude] at hok ⊢
  split at hok
  next hanswered hsome =>
    cases hsome
    obtain ⟨hsession, hworker⟩ := @ticks_takeAutoCheckpoint T env
      { d' with session := (handleStep d'.session params (some host)).2 } host.position
    exact ⟨hsession.trans (tickId_handleStep hanswered), hworker⟩
  next hneither => exact absurd rfl (hneither body host hok)

end Moves

/-! ## Runs -/

/-- What the worker answers to a restore. -/
def restoreReply (env : Env T) (d : DaemonState T) (checkpointId : String) :
    Except String HostCheckpointResponse :=
  match d.attached with
  | none => .error "no worker"
  | some (worker, handle) => (env.forwarded.call worker fun bridge st =>
      handleHostCheckpoint bridge st (.restore handle checkpointId)).1

/-- The worker call a request is forwarded by succeeds. -/
def CallsSucceed (env : Env T) (d : DaemonState T) : ClientRequest → Prop
  | .step ⟨false, .valid req⟩ => ((ForwardedRequest.step req).reply env d).isOk = true
  | .replay (.valid req) => ((ForwardedRequest.replay req).reply env d).isOk = true
  | .checkpoint (.valid (.restore id)) => (restoreReply env d id).isOk = true
  | _ => True

/-- The requests that move the session. -/
def Moves : ClientRequest → Prop
  | .step _ | .replay _ | .checkpoint (.valid (.restore _)) => True
  | _ => False

/-- A step, a replay or a restore that succeeds, here and on the worker, leaves both clocks at the
same tick. -/
def AgreesAfter (d : DaemonState T) (action : Env T × ClientRequest) : Prop :=
  Moves action.2 → CallsSucceed action.1 d action.2 →
    (handleRequest action.1 d action.2).1.isOk = true → TicksAgree (served d action)

/-- A restore finds the worker's clock at the tick of the checkpoint. -/
def RestoresInPlace (d : DaemonState T) : Env T × ClientRequest → Prop
  | (env, .checkpoint (.valid (.restore id))) => (restoreReply env d id).isOk = true →
      ∀ ref, d.session.findCheckpoint id = some ref →
        d.workerTick = some (d.session.checkpointOrigin ref).tickId
  | _ => True

section Agreement

variable {d : DaemonState T}

lemma tryOrchestratorStep_of_reply
    (hreply : ((ForwardedRequest.step req).reply env d).isOk = true) :
    ∃ host, (tryOrchestratorStep env d (.valid req)).1 = some host := by
  cases hattached : d.attached with
  | none =>
    rw [ForwardedRequest.reply, hattached] at hreply
    cases hreply
  | some linked =>
    rw [reply_step hattached req] at hreply
    simp only [tryOrchestratorStep, hattached, Params.parse]
    generalize (env.forwarded.call linked.1 fun bridge st =>
      handleHostStep bridge st (hostStepRequest d linked.2 req)).1 = outcome at hreply ⊢
    cases outcome with
    | error msg => cases hreply
    | ok host => exact ⟨host, rfl⟩

lemma tryOrchestratorReplay_of_reply
    (hreply : ((ForwardedRequest.replay req).reply env d).isOk = true) :
    ∃ host, (tryOrchestratorReplay env d (.valid req)).1 = some host := by
  cases hattached : d.attached with
  | none =>
    rw [ForwardedRequest.reply, hattached] at hreply
    cases hreply
  | some linked =>
    rw [reply_replay hattached req] at hreply
    simp only [tryOrchestratorReplay, hattached]
    generalize (env.forwarded.call linked.1 fun bridge st =>
      handleHostReplay bridge st (hostReplayRequest linked.2 req)).1 = outcome at hreply ⊢
    cases outcome with
    | error msg => cases hreply
    | ok host => exact ⟨host, rfl⟩

lemma agreesAfter_step (env : Env T) (step : StepParams) : AgreesAfter d (env, .step step) := by
  intro _ hcalls hok
  obtain ⟨body, hbody⟩ := exists_ok_of_isOk hok
  obtain ⟨saysBackward, params⟩ := step
  cases saysBackward with
  | false =>
    have hanswer := (fst_finishStepRequest env params _).symm.trans hbody
    cases params with
    | absent | malformed msg => cases hanswer
    | valid req =>
      obtain ⟨host, hhost⟩ := tryOrchestratorStep_of_reply hcalls
      obtain ⟨hsession, hworker⟩ := ticks_finishStepRequest hhost hbody
      exact hsession.trans (hworker.trans (workerTick_tryOrchestratorStep hhost)).symm
  | true =>
    cases htried : (tryBackwardStep env d).1 with
    | none =>
      simp only [handleRequest, handleStepRequest, htried] at hbody
      cases hbody
    | some host =>
      rw [handleRequest_of_replayed env d htried] at hbody
      obtain ⟨hsession, hworker⟩ := ticks_finishStepRequest htried hbody
      obtain ⟨worker, handle, hattached⟩ :
          ∃ worker handle, d.attached = some (worker, handle) := by
        unfold tryBackwardStep at htried
        dsimp only at htried
        split at htried
        next hattached => exact ⟨_, _, hattached⟩
        · cases htried
      have hreplaced := (tryBackwardStep_of_some hattached htried).2
      change (handleRequest env d _).2.session.state.tickId = (handleRequest env d _).2.workerTick
      rw [handleRequest_of_replayed env d htried]
      exact hsession.trans (hworker.trans hreplaced).symm

lemma agreesAfter_replay (env : Env T) (params : Params ReplayRequest) :
    AgreesAfter d (env, .replay params) := by
  intro _ hcalls hok
  obtain ⟨body, hbody⟩ := exists_ok_of_isOk hok
  cases params with
  | absent | malformed msg => cases hbody
  | valid req =>
    obtain ⟨host, hhost⟩ := tryOrchestratorReplay_of_reply hcalls
    have hworker := workerTick_tryOrchestratorReplay hhost
    change (respond _ (replay _ req (tryOrchestratorReplay env d (.valid req)).1)).1 = _
      at hbody
    change (respond _ (replay _ req
      (tryOrchestratorReplay env d (.valid req)).1)).2.state.tickId =
        (tryOrchestratorReplay env d (.valid req)).2.workerTick
    rw [hworker]
    rw [hhost] at hbody ⊢
    generalize (tryOrchestratorReplay env d (.valid req)).2.session = session at hbody ⊢
    by_cases hrejected : session.state.status ≠ .stopped ∨
        session.findCheckpoint req.fromCheckpoint = none
    · obtain ⟨data, hdata⟩ := replay_of_refused hrejected (some host)
      rw [hdata] at hbody
      cases hbody
    · obtain ⟨hstop, hfound⟩ := not_or.mp hrejected
      obtain ⟨ref, href⟩ := Option.ne_none_iff_exists'.mp hfound
      rw [replay_of_stopped (not_not.mp hstop) href]
      rfl

lemma handleRequest_restore (env : Env T) (hstop : d.session.state.status = .stopped)
    (id : String) :
    handleRequest env d (.checkpoint (.valid (.restore id))) =
      d.conclude (respond d.session (d.session.checkpointRestore id)) := by
  simp only [handleRequest, handleCheckpoint, withParams, Params.parse,
    requireStopped_of_stopped hstop, checkpointAction, forwardCheckpoint_restore]

lemma checkpointRestore_of_found {session : Session} {id : String} {ref : CheckpointRef}
    (href : session.findCheckpoint id = some ref) :
    ∃ body, session.checkpointRestore id = .ok (body, { session with
      state := { session.state with
        tickId := some (session.checkpointOrigin ref).tickId
        position := some (session.checkpointOrigin ref) } }) := by
  rw [checkpointRestore, href]
  exact ⟨_, rfl⟩

lemma agreesAfter_restore_iff (hlink : Linked d) (env : Env T) (id : String) :
    AgreesAfter d (env, .checkpoint (.valid (.restore id))) ↔
      RestoresInPlace d (env, .checkpoint (.valid (.restore id))) := by
  constructor
  · intro hagrees hreply ref href
    -- The worker has answered, so there is one, and the session is stopped.
    have hstop : d.session.state.status = .stopped := by
      refine hlink.mpr ?_
      cases hattached : d.attached with
      | none =>
        rw [restoreReply, hattached] at hreply
        cases hreply
      | some linked => rfl
    obtain ⟨body, hrestore⟩ := checkpointRestore_of_found href
    have hserved := handleRequest_restore env hstop id
    rw [hrestore] at hserved
    have hsame := hagrees trivial hreply (by rw [hserved]; rfl)
    rw [TicksAgree, served, hserved] at hsame
    exact hsame.symm
  · intro hplace _ hreply hok
    by_cases hstop : d.session.state.status = .stopped
    · have hserved := handleRequest_restore env hstop id
      cases hfound : d.session.findCheckpoint id with
      | none =>
        rw [hserved, checkpointRestore, hfound] at hok
        cases hok
      | some ref =>
        obtain ⟨body, hrestore⟩ := checkpointRestore_of_found hfound
        rw [hrestore] at hserved
        rw [TicksAgree, served, hserved]
        exact (hplace hreply ref hfound).symm
    · obtain ⟨data, hdata⟩ := requireStopped_of_ne hstop "rocket/checkpoint"
      simp only [handleRequest, handleCheckpoint, withParams, Params.parse, hdata] at hok
      cases hok

/-- What a request has to meet for the clocks to agree after it. -/
lemma agreesAfter_iff (hlink : Linked d) (action : Env T × ClientRequest) :
    AgreesAfter d action ↔ RestoresInPlace d action := by
  obtain ⟨env, request⟩ := action
  cases request with
  | step step => exact iff_of_true (agreesAfter_step env step) trivial
  | replay params => exact iff_of_true (agreesAfter_replay env params) trivial
  | checkpoint params =>
    cases params with
    | valid req =>
      cases req with
      | restore id => exact agreesAfter_restore_iff hlink env id
      | _ => exact iff_of_true nofun trivial
    | _ => exact iff_of_true nofun trivial
  | _ => exact iff_of_true nofun trivial

end Agreement

/-! ## A step after a restore -/

/-- A checkpoint is restored, and then a step is taken. -/
def restoreThenStep (env env' : Env T) (d : DaemonState T) (id : String) (req : StepRequest) :
    DaemonState T :=
  servedAll d [(env, .checkpoint (.valid (.restore id))), (env', .step ⟨false, .valid req⟩)]

/-- A daemon whose worker is paused in a pass, with a checkpoint to restore. -/
structure Paused (d : DaemonState T) (worker : WorkerState T) (pass : ForwardPassState T)
    (id : String) (ref : CheckpointRef) : Prop where
  stopped : d.session.state.status = .stopped
  attached : ∃ handle, d.attached = some (worker, handle)
  running : worker.forwardPass = some pass
  unfinished : pass.forwardComplete = false
  found : d.session.findCheckpoint id = some ref

/-- A single component step. -/
structure SingleStep (d : DaemonState T) (req : StepRequest) : Prop where
  count : req.count = 1
  component : resolveGranularity req.granularity d.granularityScopes ≠ some .layer

lemma tickId_restoreThenStep_iff {pass : ForwardPassState T} {env : Env T} {id : String}
    (hpaused : Paused d worker pass id ref) (hsingle : SingleStep d req)
    (hreply : ((ForwardedRequest.step req).reply env'
      (served d (env, .checkpoint (.valid (.restore id))))).isOk = true) :
    (restoreThenStep env env' d id req).session.state.tickId =
        some ((d.session.checkpointOrigin ref).tickId + 1) ↔
      worker.tickState.tickId = (d.session.checkpointOrigin ref).tickId ∧ AtEvent pass := by
  obtain ⟨handle, hattached⟩ := hpaused.attached
  obtain ⟨body, hrestore⟩ := checkpointRestore_of_found hpaused.found
  have hserved := handleRequest_restore env hpaused.stopped id
  rw [hrestore] at hserved
  -- The restored daemon has the same worker.
  generalize hrestored : served d (env, .checkpoint (.valid (.restore id))) = restored at hreply
  have hworker : restored.attached = some (worker, handle) := by
    rw [← hrestored, served, hserved]
    exact hattached
  have hstop : restored.session.state.status = .stopped := by
    rw [← hrestored, served, hserved]
    exact hpaused.stopped
  have hscopes : restored.granularityScopes = d.granularityScopes := by
    rw [← hrestored, served, hserved]
    rfl
  obtain ⟨host, hhost⟩ := tryOrchestratorStep_of_reply hreply
  have hok : (finishStepRequest env' (.valid req)
      (tryOrchestratorStep env' restored (.valid req))).1.isOk = true := by
    rw [fst_finishStepRequest]
    exact isOk_handleStep ((steady_tryOrchestratorStep env' restored _).status.trans hstop) req _
  obtain ⟨body', hbody'⟩ := exists_ok_of_isOk hok
  have htick : (restoreThenStep env env' d id req).session.state.tickId =
      some host.position.tickId := by
    change (served (served d (env, .checkpoint (.valid (.restore id)))) (env', _)).session.state.tickId
      = _
    rw [hrestored]
    exact (ticks_finishStepRequest hhost hbody').1
  rw [htick, Option.some_inj]
  have hhandled : (handleHostStep env'.forwarded.bridge worker
      (hostStepRequest restored handle req)).1 = .ok host := by
    obtain ⟨worker', handle', req', hattached', hparams, hhandled, -⟩ :=
      tryOrchestratorStep_of_some hhost
    cases hworker.symm.trans hattached'
    cases hparams
    exact hhandled
  have hrun : (runStepLoop env'.forwarded.bridge worker handle
      (hostStepRequest restored handle req)).1 = .ok host := by
    rcases handleHostStep_cases env'.forwarded.bridge worker (hostStepRequest restored handle req)
      with ⟨_, msg, hrejected⟩ | ⟨_, _, hran⟩
    · rw [hrejected] at hhandled
      cases hhandled
    · exact (hran host).mp hhandled
  have hcomp : (hostStepRequest restored handle req).granularity ≠ some .layer := by
    change resolveGranularity req.granularity restored.granularityScopes ≠ some .layer
    rw [hscopes]
    exact hsingle.component
  rcases tickId_stepOnce hpaused.running hpaused.unfinished hsingle.count hcomp hrun with
    ⟨hevent, hpos⟩ | ⟨hend, hpos⟩
  · rw [hpos, Nat.add_right_cancel_iff]
    exact ⟨fun hsame => ⟨hsame, hevent⟩, And.left⟩
  · rw [hpos]
    exact iff_of_false (Nat.succ_ne_zero _).symm fun hboth => hend hboth.2

/-- **Two clocks.**  In a run of a daemon, every step, replay and restore that succeeds leaves the
session at the worker's tick exactly when every restore finds the worker at the tick of its
checkpoint.  Likewise a single component step after a restore reports the tick after the
checkpoint's exactly when the worker stood at that tick, and the pass has another event. -/
theorem ticksAgree_iff (T : Type) :
    (∀ actions : List (Env T × ClientRequest),
      Along served AgreesAfter DaemonState.new actions ↔
        Along served RestoresInPlace DaemonState.new actions) ∧
    ∀ (env env' : Env T) (d : DaemonState T) (worker : WorkerState T) (pass : ForwardPassState T)
      (id : String) (ref : CheckpointRef) (req : StepRequest),
      Paused d worker pass id ref → SingleStep d req →
      ((ForwardedRequest.step req).reply env'
        (served d (env, .checkpoint (.valid (.restore id))))).isOk = true →
      ((restoreThenStep env env' d id req).session.state.tickId =
          some ((d.session.checkpointOrigin ref).tickId + 1) ↔
        worker.tickState.tickId = (d.session.checkpointOrigin ref).tickId ∧ AtEvent pass) := by
  constructor
  · intro actions
    refine @along_iff_of_invariant _ _ served AgreesAfter RestoresInPlace Linked
      (fun _ action hlinked => agreesAfter_iff hlinked action) ?_ _ linked_new actions
    intro d action hlinked _
    exact linked_served hlinked action
  · intro env env' d worker pass id ref req hpaused hsingle hreply
    exact tickId_restoreThenStep_iff hpaused hsingle hreply

/-! ### A restore behind the worker's back

A checkpoint is created after the first tick, when no layer container has put out anything
yet, and restored after the second one.
-/

/-- The requests up to a checkpoint `c1`, and `steps` further steps. -/
def beforeRestore (steps : ℕ) : List (Env ℤ × ClientRequest) :=
  [(Env.calm echoBridge "s", initializeRequest), (Env.calm echoBridge "m", attachRequest),
    (Env.calm echoBridge "s1", stepRequest .forward 1),
    (Env.calm echoBridge "c1", createRequest)] ++
  List.replicate steps (Env.calm echoBridge "s2", stepRequest .forward 1)

def restoreC1 : Env ℤ × ClientRequest :=
  (Env.calm echoBridge "r1", .checkpoint (.valid (.restore "c1")))

theorem not_agreesAfter_restore :
    ¬ Along served AgreesAfter DaemonState.new (beforeRestore 1 ++ [restoreC1]) := by
  rintro ⟨-, -, -, -, -, hrestore, -⟩
  have hcalls : (restoreReply restoreC1.1 (servedAll DaemonState.new (beforeRestore 1))
      "c1").isOk = true := by decide +kernel
  have hagree := hrestore trivial hcalls (by decide +kernel)
  have hsession : (servedAll DaemonState.new
      (beforeRestore 1 ++ [restoreC1])).session.state.tickId = some 1 := by decide +kernel
  have hworker : (servedAll DaemonState.new
      (beforeRestore 1 ++ [restoreC1])).workerTick = some 2 := by decide +kernel
  exact absurd (hsession.symm.trans (Eq.trans hagree hworker)) (by decide)

/-- A daemon with a checkpoint `c1` at the tick where its worker is paused. -/
def pausedAtC1 : DaemonState ℤ := servedAll DaemonState.new (beforeRestore 0)

/-- What the forward thread puts next. -/
def nextItem (d : DaemonState T) : Option (MailItem T) :=
  d.orchestrator.bind fun worker => worker.forwardPass.bind fun pass =>
    if pass.forwardComplete then none else pass.pending.head?

lemma exists_pass_of_nextItem {event : HookEvent T} (hnext : nextItem d = some (.hook event)) :
    ∃ worker pass, d.orchestrator = some worker ∧ worker.forwardPass = some pass ∧
      pass.forwardComplete = false ∧ AtEvent pass := by
  obtain ⟨worker, hworker, hrest⟩ := Option.bind_eq_some_iff.mp hnext
  obtain ⟨pass, hpass, hitem⟩ := Option.bind_eq_some_iff.mp hrest
  split at hitem
  · cases hitem
  next hrunning =>
    obtain ⟨rest, hpending⟩ := List.head?_eq_some_iff.mp hitem
    exact ⟨worker, pass, hworker, hpass, Bool.not_eq_true _ ▸ hrunning, event, rest, hpending⟩

/-- Restored at once, the checkpoint finds the worker where it was, and a step goes on from there. -/
theorem agreesAfter_restore_at_once :
    Along served AgreesAfter DaemonState.new (beforeRestore 0 ++ [restoreC1]) ∧
      (restoreThenStep restoreC1.1 (Env.calm echoBridge "s3") pausedAtC1 "c1"
        defaultStep).session.state.tickId = some 2 := by
  have hclock : pausedAtC1.workerTick = some 1 := by decide +kernel
  have horigin : (pausedAtC1.session.findCheckpoint "c1").map
      (fun ref => (pausedAtC1.session.checkpointOrigin ref).tickId) = some 1 := by
    decide +kernel
  constructor
  · refine ((ticksAgree_iff ℤ).1 (beforeRestore 0 ++ [restoreC1])).mpr
      ⟨trivial, trivial, trivial, trivial, ?_, trivial⟩
    intro _ ref href
    exact hclock.trans (horigin.symm.trans (congrArg _ href))
  · obtain ⟨ref, href, htick⟩ := Option.map_eq_some_iff.mp horigin
    have hnext : nextItem pausedAtC1 = some (.hook ⟨"layers.1.o_proj", 0, some 0⟩) := by
      decide +kernel
    obtain ⟨worker, pass, hworker, hpass, hrunning, hevent⟩ := exists_pass_of_nextItem hnext
    have hhandle : pausedAtC1.modelHandle = some 1 := by decide +kernel
    have hstep := ((ticksAgree_iff ℤ).2 restoreC1.1 (Env.calm echoBridge "s3") pausedAtC1 worker
      pass "c1" ref defaultStep ?_ ⟨rfl, by decide +kernel⟩ (by decide +kernel)).mpr ?_
    · rw [hstep, htick]
    · exact ⟨by decide +kernel, ⟨1, attached_eq_some_iff.mpr ⟨hworker, hhandle⟩⟩, hpass, hrunning, href⟩
    · rw [DaemonState.workerTick, hworker] at hclock
      exact ⟨(Option.some.inj hclock).trans htick.symm, hevent⟩

end RocketSurgeon.Daemon
