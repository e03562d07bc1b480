import RocketSurgeon.Daemon.Main
import RocketSurgeon.Lib.Result

/-!
# The session and the worker

A session is in the stopped state exactly while a worker is attached.  Attaching and
detaching change both; every other request changes neither, whatever the worker does.
-/

namespace RocketSurgeon.Daemon

open Lib Protocol Probes Worker

variable {T : Type} {d : DaemonState T} {p : Session → Prop} (env : Env T)

/-- The session is stopped exactly when there is a worker. -/
def Linked (d : DaemonState T) : Prop :=
  d.session.state.status = .stopped ↔ d.attached.isSome = true

lemma linked_new : Linked (DaemonState.new : DaemonState T) := by
  simp [Linked, DaemonState.new, Session.new, DaemonState.attached]

/-! ## Attached workers -/

lemma attached_eq_some_iff :
    d.attached = some (worker, handle) ↔
      d.orchestrator = some worker ∧ d.modelHandle = some handle := by
  unfold DaemonState.attached
  cases d.orchestrator <;> cases d.modelHandle <;> simp

lemma attached_withWorker (hattached : d.attached = some (worker, handle)) (session : Session)
    (worker' : WorkerState T) :
    { d with session, orchestrator := some worker' }.attached = some (worker', handle) :=
  attached_eq_some_iff.mpr ⟨rfl, (attached_eq_some_iff.mp hattached).2⟩

/-- The worker's arena holds slots of a checkpoint. -/
def HeldByWorker (worker : WorkerState T) (checkpointId : String) : Prop :=
  ∃ arena, worker.checkpointArena = some arena ∧
    (arena.slotInfoForCheckpoint checkpointId).isEmpty = false

/-- Neither the status of the session nor the presence of a worker has changed. -/
structure Steady (d d' : DaemonState T) : Prop where
  status : d'.session.state.status = d.session.state.status
  attached : d'.attached.isSome = d.attached.isSome

namespace Steady

variable {d d' d'' : DaemonState T}

lemma refl (d : DaemonState T) : Steady d d := ⟨rfl, rfl⟩

lemma trans (hfirst : Steady d d') (hsecond : Steady d' d'') : Steady d d'' :=
  ⟨hsecond.status.trans hfirst.status, hsecond.attached.trans hfirst.attached⟩

lemma conclude (hstatus : answered.2.state.status = d.session.state.status) :
    Steady d (d.conclude answered).2 :=
  ⟨hstatus, rfl⟩

lemma withWorker (hattached : d.attached = some (worker, handle))
    (hstatus : session.state.status = d.session.state.status) (worker' : WorkerState T) :
    Steady d { d with session, orchestrator := some worker' } :=
  ⟨hstatus, by rw [attached_withWorker hattached, hattached]; rfl⟩

lemma linked (hsteady : Steady d d') (hlink : Linked d) : Linked d' := by
  unfold Linked
  rw [hsteady.status, hsteady.attached]
  exact hlink

end Steady

/-! ## Sessions that keep their status -/

lemma respond_induct {session : Session} {res : Except ErrorData (SuccessBody × Session)}
    (hsession : p session) (hres : ∀ body session', res = .ok (body, session') → p session') :
    p (respond session res).2 := by
  cases res with
  | error data => exact hsession
  | ok success => exact hres success.1 success.2 rfl

lemma withParams_induct {α σ : Type} {p : σ → Prop} {state : σ} {empty : Except String α}
    {params : Params α} {handle : α → Response × σ} (hstate : p state)
    (hhandle : ∀ req, p (handle req).2) : p (withParams state empty params handle).2 := by
  unfold withParams
  cases params.parse empty with
  | error msg => exact hstate
  | ok req => exact hhandle req

lemma session_handleStep {session : Session} {params : Params StepRequest}
    {hostResponse : Option HostStepResponse} (hsession : p session)
    (hmove : ∀ pos, p (session.moveTo pos)) :
    p (handleStep session params hostResponse).2 := by
  refine withParams_induct hsession fun req => ?_
  have hstep : ∀ pos fired,
      p (respond session (session.step req pos fired)).2 := by
    intro pos fired
    refine respond_induct hsession fun body session' hok => ?_
    obtain ⟨_, _, hmoved⟩ := bind_eq_ok hok
    cases hmoved
    exact hmove pos
  cases hostResponse with
  | none | some host => exact hstep _ _

lemma session_handleReplay {session : Session} {params : Params ReplayRequest}
    {hostResponse : Option HostReplayResponse} (hsession : p session)
    (hmove : ∀ pos, p (session.moveTo pos)) :
    p (handleReplay session params hostResponse).2 := by
  refine withParams_induct hsession fun req => respond_induct hsession fun body session' hok => ?_
  obtain ⟨_, _, hreplaced⟩ := bind_eq_ok hok
  split at hreplaced
  · cases hreplaced
  · cases hreplaced
    exact hmove _

lemma session_handleIntervene {session : Session} {params : Params InterveneRequest}
    (hsession : p session) (hset : ∀ interventions, p { session with interventions }) :
    p (handleIntervene session params).2 := by
  refine withParams_induct hsession fun req => respond_induct hsession fun body session' hok => ?_
  obtain ⟨_, _, hanswer⟩ := bind_eq_ok hok
  cases req with
  | set recipe =>
    obtain ⟨_, _, hset'⟩ := bind_eq_ok hanswer
    cases hset'
    exact hset _
  | clear id =>
    cases hanswer
    exact hset _
  | list =>
    cases hanswer
    exact hsession

lemma session_handleViewDefine {session : Session} {params : Params ViewDefineRequest}
    (hsession : p session) (hdefine : ∀ definedViews, p { session with definedViews }) :
    p (handleViewDefine session params).2 := by
  refine withParams_induct hsession fun req => respond_induct hsession fun body session' hok => ?_
  obtain ⟨_, _, hanswer⟩ := bind_eq_ok hok
  split at hanswer
  · cases hanswer
  · cases hanswer
    exact hdefine _

lemma session_handleSubscribe {session : Session} {params : Params SubscribeRequest}
    (hsession : p session) (hfilter : ∀ eventFilter, p { session with eventFilter }) :
    p (handleSubscribe session params).2 := by
  refine withParams_induct hsession fun req => respond_induct hsession fun body session' hok => ?_
  obtain ⟨_, _, hanswer⟩ := bind_eq_ok hok
  cases hanswer
  exact hfilter _

/-! ## Requests that change neither -/

section Steady

variable (env : Env T) (d : DaemonState T)

lemma steady_tryOrchestratorStep (params : Params StepRequest) :
    Steady d (tryOrchestratorStep env d params).2 := by
  unfold tryOrchestratorStep
  split
  next hattached _ => exact Steady.withWorker hattached rfl _
  · exact Steady.refl d

lemma steady_tryOrchestratorReplay (params : Params ReplayRequest) :
    Steady d (tryOrchestratorReplay env d params).2 := by
  unfold tryOrchestratorReplay
  split
  next hattached => exact Steady.withWorker hattached rfl _
  · exact Steady.refl d

lemma session_takeSubCheckpoint (session : Session) (worker : WorkerState T) (handle : ℕ) :
    ∃ utilization, (takeSubCheckpoint env session worker handle).1 =
      { session with arenaUtilization := utilization } := by
  unfold takeSubCheckpoint
  split
  · dsimp only
    split
    · unfold Session.updateArenaUtilization
      split
      · exact ⟨_, rfl⟩
      · exact ⟨session.arenaUtilization, rfl⟩
    · exact ⟨session.arenaUtilization, rfl⟩
  · exact ⟨session.arenaUtilization, rfl⟩

lemma takeSubCheckpoint_induct {p : WorkerState T → Prop} {env : Env T} {session : Session}
    {worker : WorkerState T} {handle : ℕ} (hworker : p worker)
    (hcreate : session.arenaUtilization < 3 / 5 →
      p (handleHostCheckpoint env.subCheckpoint.bridge worker
        (subCheckpointRequest session handle)).2) :
    p (takeSubCheckpoint env session worker handle).2 := by
  unfold takeSubCheckpoint
  split
  next hroom =>
    have hcalled : p (env.subCheckpoint.call worker fun bridge st =>
        handleHostCheckpoint bridge st (subCheckpointRequest session handle)).2 :=
      Link.call_induct hworker (hcreate hroom)
    dsimp only
    split
    · exact hcalled
    · exact hcalled
  · exact hworker

lemma tickState_takeSubCheckpoint (session : Session) (worker : WorkerState T) (handle : ℕ) :
    (takeSubCheckpoint env session worker handle).2.tickState = worker.tickState :=
  @takeSubCheckpoint_induct T (fun st => st.tickState = worker.tickState) _ _ _ _ rfl
    fun _ => tickState_handleHostCheckpoint _ worker _

lemma steady_tryBackwardStep : Steady d (tryBackwardStep env d).2 := by
  unfold tryBackwardStep
  dsimp only
  split
  next worker handle _ hattached =>
    obtain ⟨utilization, hsession⟩ := session_takeSubCheckpoint env d.session worker handle
    split
    · refine Steady.withWorker hattached ?_ _
      rw [hsession]
      rfl
    · refine Steady.withWorker hattached ?_ _
      rw [hsession]
  · exact Steady.refl d

/-- A backward step that the worker has replayed is finished like any other step. -/
lemma handleRequest_of_replayed {host : HostStepResponse}
    (htried : (tryBackwardStep env d).1 = some host) (params : Params StepRequest) :
    handleRequest env d (.step ⟨true, params⟩) =
      finishStepRequest env params (tryBackwardStep env d) := by
  simp [handleRequest, handleStepRequest, htried]

lemma steady_takeAutoCheckpoint (pos : TickPosition) :
    Steady d (takeAutoCheckpoint env d pos) := by
  unfold takeAutoCheckpoint
  split
  · split
    · exact Steady.refl d
    next hattached =>
      dsimp only
      split
      · refine Steady.withWorker hattached ?_ _
        rfl
      · exact Steady.withWorker hattached rfl _
  · exact Steady.refl d

lemma steady_finishStepRequest (params : Params StepRequest)
    (tried : Option HostStepResponse × DaemonState T) :
    Steady tried.2 (finishStepRequest env params tried).2 := by
  have hanswered : Steady tried.2
      (tried.2.conclude (handleStep tried.2.session params tried.1)).2 :=
    Steady.conclude (@session_handleStep (fun session => session.state.status = _) _ _ _ rfl
      fun _ => rfl)
  unfold finishStepRequest
  dsimp only
  split
  · exact hanswered.trans (steady_takeAutoCheckpoint env _ _)
  · exact hanswered

lemma steady_handleStepRequest (step : StepParams) :
    Steady d (handleStepRequest env d step).2 := by
  unfold handleStepRequest
  split
  · dsimp only
    split
    · exact steady_tryBackwardStep env d
    · exact (steady_tryBackwardStep env d).trans (steady_finishStepRequest env step.params _)
  · exact (steady_tryOrchestratorStep env d step.params).trans
      (steady_finishStepRequest env step.params _)

lemma steady_forwardCheckpoint (request : ℕ → HostCheckpointRequest) :
    Steady d (forwardCheckpoint env d request) := by
  unfold forwardCheckpoint
  split
  · exact Steady.refl d
  next hattached => exact Steady.withWorker hattached rfl _

lemma forwardCheckpoint_restore (id : String) :
    forwardCheckpoint env d (fun handle => .restore handle id) = d := by
  unfold forwardCheckpoint
  split
  · rfl
  next worker handle hattached =>
    have hkept : (env.forwarded.call worker fun bridge st =>
        handleHostCheckpoint bridge st (.restore handle id)).2 = worker :=
      @Link.call_induct T _ (· = worker) _ _ _ rfl
        (handleHostCheckpoint_restore_snd _ worker handle id)
    rw [hkept, ← (attached_eq_some_iff.mp hattached).1]

lemma steady_checkpointAction (req : CheckpointRequest) :
    Steady d (checkpointAction env d req).2 := by
  cases req with
  | create tier =>
    refine (steady_forwardCheckpoint env d fun handle => .create handle env.uuid
      (tier.getD .activation) (d.session.state.tickId.getD 0) d.session.currentLayer).trans ?_
    exact Steady.conclude rfl
  | list => exact Steady.refl d
  | restore id =>
    refine (steady_forwardCheckpoint env d fun handle => .restore handle id).trans ?_
    refine Steady.conclude (@respond_induct (fun session => session.state.status = _) _ _ rfl ?_)
    intro body session hok
    unfold Session.checkpointRestore at hok
    split at hok
    · cases hok
    · cases hok
      rfl
  | delete id =>
    refine Steady.conclude (@respond_induct (fun session => session.state.status = _) _ _ rfl ?_)
    intro body session hok
    unfold Session.checkpointDelete at hok
    dsimp only at hok
    split at hok
    · cases hok
    · cases hok
      rfl
  | bookmark tickId name => exact Steady.conclude rfl

lemma steady_handleCheckpoint (params : Params CheckpointRequest) :
    Steady d (handleCheckpoint env d params).2 := by
  refine withParams_induct (Steady.refl d) fun req => ?_
  split
  · exact Steady.refl d
  · exact steady_checkpointAction env d req

lemma steady_propagateProbes : Steady d (propagateProbes env d) := by
  unfold propagateProbes
  split
  · exact Steady.refl d
  next hattached => exact Steady.withWorker hattached rfl _

lemma steady_storeGranularity (params : Params ProbeRequest) :
    Steady d (storeGranularity d params) := by
  unfold storeGranularity
  split
  · exact ⟨rfl, rfl⟩
  · exact Steady.refl d

lemma steady_handleProbeRequest (params : Params ProbeRequest) :
    Steady d (handleProbeRequest env d params).2 := by
  have hstored := steady_storeGranularity d params
  unfold handleProbeRequest
  dsimp only
  split
  · refine Steady.trans ?_ (steady_propagateProbes env _)
    exact ⟨hstored.status, hstored.attached⟩
  · exact ⟨hstored.status, hstored.attached⟩

end Steady

/-! ## Attaching and detaching -/

lemma handleAttach_of_ok (hok : handleAttach session params backend uuid = (.ok body, session')) :
    session'.state.status = .stopped ∧ session'.state.checkpoints = session.state.checkpoints := by
  unfold handleAttach withParams at hok
  split at hok
  · cases hok
  · split at hok
    · cases hok
    · split at hok
      · cases hok
      · dsimp only [respond] at hok
        split at hok
        next hcomm =>
          obtain ⟨_, _, hsession⟩ := bind_eq_ok hcomm
          cases hsession
          cases hok
          exact ⟨rfl, rfl⟩
        · cases hok

lemma status_of_validateAttach {session : Session} (hvalid : session.validateAttach req = .ok ()) :
    session.state.status ≠ .stopped := by
  unfold Session.validateAttach at hvalid
  split at hvalid
  · cases hvalid
  next hfree => exact fun hstop => hfree (.inl hstop)

lemma handleDetach_of_ok (hok : handleDetach session = (.ok body, session')) :
    session'.state.status = .initialized ∧ session'.state.checkpoints = [] := by
  unfold handleDetach respond at hok
  split at hok
  next hdetach =>
    unfold Session.detach at hdetach
    split at hdetach
    · cases hdetach
    · split at hdetach
      · cases hdetach
      · cases hdetach
        cases hok
        exact ⟨rfl, rfl⟩
  · cases hok

lemma handleAttach_error (session : Session) (params : Params AttachRequest)
    (msg uuid : String) :
    ∃ error, handleAttach session params (.error msg) uuid = (.error error, session) := by
  unfold handleAttach withParams
  split
  · exact ⟨_, rfl⟩
  · exact ⟨_, rfl⟩

lemma handleAttachRequest_cases (d : DaemonState T) (params : Params AttachRequest) :
    (∃ error, handleAttachRequest env d params = (.error error, d)) ∨
    ∃ (backend : Backend) (body : SuccessBody) (session : Session),
      d.session.state.status ≠ .stopped ∧ session.state.status = .stopped ∧
      session.state.checkpoints = d.session.state.checkpoints ∧
      handleAttachRequest env d params = (.ok body, { d with
        session
        orchestrator := some (attachModel WorkerState.new backend.model)
        modelHandle := some backend.model.handle }) := by
  have hfail : ∀ params msg, ∃ error,
      d.conclude (handleAttach d.session params (.error msg) env.uuid) = (.error error, d) := by
    intro params msg
    obtain ⟨error, herror⟩ := handleAttach_error d.session params msg env.uuid
    rw [herror]
    exact ⟨error, rfl⟩
  unfold handleAttachRequest
  split
  · split
    · exact .inl ⟨_, rfl⟩
    next hvalid =>
      split
      · exact .inl (hfail _ _)
      next backend _ =>
        split
        next error session hattach =>
          have hsession := handleAttach_of_error (congrArg Prod.fst hattach)
          rw [hattach] at hsession
          obtain rfl : session = d.session := hsession
          exact .inl ⟨error, rfl⟩
        next body session hattach =>
          obtain ⟨hstop, hlist⟩ := handleAttach_of_ok hattach
          refine .inr ⟨backend, body, { session with autoCheckpointLayers := _ },
            status_of_validateAttach hvalid, ?_, ?_, rfl⟩
          · exact hstop
          · exact hlist
  · exact .inl (hfail _ _)

lemma handleDetachRequest_cases (d : DaemonState T) :
    (∃ error, handleDetachRequest d = (.error error, d)) ∨
    ∃ body session, session.state.status = .initialized ∧ session.state.checkpoints = [] ∧
      handleDetachRequest d = (.ok body, { d with session, orchestrator := none, modelHandle := none }) := by
  unfold handleDetachRequest
  split
  next body session hdetach =>
    obtain ⟨hstatus, hlist⟩ := handleDetach_of_ok hdetach
    exact .inr ⟨body, session, hstatus, hlist, rfl⟩
  next error session hdetach =>
    have hsession := respond_of_error (congrArg Prod.fst hdetach)
    rw [show respond d.session d.session.detach = (.error error, session) from hdetach]
      at hsession
    obtain rfl : session = d.session := hsession
    exact .inl ⟨error, rfl⟩

/-! ## Every request -/

lemma linked_handleAttachRequest (hlink : Linked d) (params : Params AttachRequest) :
    Linked (handleAttachRequest env d params).2 := by
  rcases handleAttachRequest_cases env d params with
    ⟨error, hfail⟩ | ⟨backend, body, session, -, hstop, -, hattach⟩
  · rw [hfail]
    exact hlink
  · rw [hattach]
    exact iff_of_true hstop rfl

lemma linked_handleDetachRequest (hlink : Linked d) :
    Linked (handleDetachRequest d).2 := by
  rcases handleDetachRequest_cases d with ⟨error, hfail⟩ | ⟨body, session, hstatus, -, hdetach⟩
  · rw [hfail]
    exact hlink
  · rw [hdetach]
    refine iff_of_false ?_ nofun
    rw [hstatus]
    exact nofun

/-- A request keeps the session linked to the worker, however it ends. -/
lemma linked_served (hlink : Linked d) (action : Env T × ClientRequest) :
    Linked (served d action) := by
  obtain ⟨env, request⟩ := action
  cases request with
  | unparsable msg | status | unsubscribe params | query | unknown method => exact hlink
  | initialize_ params =>
    refine @withParams_induct InitializeRequest Session
      (fun session => Linked { d with session }) _ _ _ _ hlink fun req => ?_
    refine @respond_induct (fun session => Linked { d with session }) _ _ hlink
      fun body session hok => ?_
    unfold Session.initializeSession at hok
    split at hok
    · cases hok
    next hstatus =>
      split at hok
      · cases hok
      · cases hok
        -- A session that is being initialized has no worker yet.
        have hdetached := (not_congr hlink).mp (by rw [not_not.mp hstatus]; decide)
        exact iff_of_false nofun hdetached
  | attach params => exact linked_handleAttachRequest env hlink params
  | detach => exact linked_handleDetachRequest hlink
  | step params => exact (steady_handleStepRequest env d params).linked hlink
  | replay params =>
    refine Steady.linked ?_ hlink
    refine (steady_tryOrchestratorReplay env d params).trans ?_
    exact Steady.conclude (@session_handleReplay (fun session => session.state.status = _) _ _ _
      rfl fun _ => rfl)
  | checkpoint params => exact (steady_handleCheckpoint env d params).linked hlink
  | probe params => exact (steady_handleProbeRequest env d params).linked hlink
  | intervene params =>
    refine Steady.linked (Steady.conclude ?_) hlink
    exact @session_handleIntervene (fun session => session.state.status = _) _ _ rfl fun _ => rfl
  | subscribe params =>
    have hstatus := @session_handleSubscribe
      (fun session => session.state.status = d.session.state.status) d.session params rfl
      fun _ => rfl
    unfold served handleRequest
    dsimp only
    split
    · exact Steady.linked ⟨hstatus, rfl⟩ hlink
    · exact Steady.linked ⟨hstatus, rfl⟩ hlink
  | viewDefine params =>
    refine Steady.linked (Steady.conclude ?_) hlink
    exact @session_handleViewDefine (fun session => session.state.status = _) _ _ rfl fun _ => rfl

lemma linked_servedAll (hlink : Linked d) (actions : List (Env T × ClientRequest)) :
    Linked (servedAll d actions) := by
  induction actions generalizing d with
  | nil => exact hlink
  | cons action actions ih => exact ih (linked_served hlink action)

/-- **A session is stopped exactly while a worker is attached**, whatever is asked for and however
the worker fails. -/
theorem stopped_iff_attached (actions : List (Env T × ClientRequest)) :
    (servedAll DaemonState.new actions).session.state.status = .stopped ↔
      (servedAll DaemonState.new actions).attached.isSome = true :=
  linked_servedAll linked_new actions

end RocketSurgeon.Daemon
