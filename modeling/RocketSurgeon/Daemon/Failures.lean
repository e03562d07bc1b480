import RocketSurgeon.Daemon.Main
import RocketSurgeon.Worker.ReplayRun

/-!
# Worker failures

A forward step and a replay are forwarded to the worker, and the client is answered with
what the worker reports.  When the worker fails, or its answer is lost, the daemon does
not say so: it makes a position up and moves the session there.  Only a request the
session itself refuses is answered with an error then.
-/

namespace RocketSurgeon.Daemon

open Lib Protocol Worker Session

variable {T : Type}

/-- The client requests that are forwarded, with valid parameters. -/
inductive ForwardedRequest
  | step (req : StepRequest)
  | replay (req : ReplayRequest)

namespace ForwardedRequest

def toClient : ForwardedRequest → ClientRequest
  | .step req => .step ⟨false, .valid req⟩
  | .replay req => .replay (.valid req)

/-- The request the worker gets. -/
def toWorker (d : DaemonState T) (handle : ℕ) : ForwardedRequest → WorkerRequest
  | .step req => .step (hostStepRequest d handle req)
  | .replay req => .replay (hostReplayRequest handle req)

/-- What comes back from the worker. -/
def reply (env : Env T) (d : DaemonState T) (request : ForwardedRequest) :
    Except String WorkerResponse :=
  match d.attached with
  | none => .error "no worker"
  | some (worker, handle) =>
      (env.forwarded.call worker fun bridge st => serve bridge st (request.toWorker d handle)).1

/-- The session refuses the request by itself. -/
def Refused (session : Session) : ForwardedRequest → Prop
  | .step _ => session.state.status ≠ .stopped
  | .replay req =>
      session.state.status ≠ .stopped ∨ session.findCheckpoint req.fromCheckpoint = none

end ForwardedRequest

/-- A failure of the worker is reported as one: the client gets an error and the session stays
where it is; and a replay is reported as verified only if the worker has verified it. -/
structure FailureReported (env : Env T) (d : DaemonState T) (request : ForwardedRequest) :
    Prop where
  reported : (request.reply env d).isOk = false →
    (handleRequest env d request.toClient).1.isOk = false ∧
    let state := (handleRequest env d request.toClient).2.session.state
    state.tickId = d.session.state.tickId ∧ state.position = d.session.state.position ∧
      state.worldline = d.session.state.worldline
  verified : ∀ body response, (handleRequest env d request.toClient).1 = .ok body →
    body.data = .replay response → response.verified = true →
      ∃ host, request.reply env d = .ok (.replay host) ∧ host.verified = true

/-! ## What is answered -/

section Attached

variable {env : Env T} {d : DaemonState T} {worker : WorkerState T} {handle : ℕ}

lemma reply_step (hattached : d.attached = some (worker, handle)) (req : StepRequest) :
    (ForwardedRequest.step req).reply env d = (env.forwarded.call worker fun bridge st =>
      handleHostStep bridge st (hostStepRequest d handle req)).1.map WorkerResponse.step := by
  simp only [ForwardedRequest.reply, hattached, ForwardedRequest.toWorker, serve, Link.call]
  cases env.forwarded.transport <;> rfl

lemma reply_replay (hattached : d.attached = some (worker, handle)) (req : ReplayRequest) :
    (ForwardedRequest.replay req).reply env d = (env.forwarded.call worker fun bridge st =>
      handleHostReplay bridge st (hostReplayRequest handle req)).1.map WorkerResponse.replay := by
  simp only [ForwardedRequest.reply, hattached, ForwardedRequest.toWorker, serve, Link.call]
  cases env.forwarded.transport <;> rfl

lemma fst_finishStepRequest (env : Env T) (params : Params StepRequest)
    (tried : Option HostStepResponse × DaemonState T) :
    (finishStepRequest env params tried).1 = (handleStep tried.2.session params tried.1).1 := by
  unfold finishStepRequest
  dsimp only [DaemonState.conclude]
  split
  next hok _ => exact hok.symm
  · rfl

lemma handleRequest_step (hattached : d.attached = some (worker, handle)) (req : StepRequest) :
    ∃ host : Except String HostStepResponse,
      (ForwardedRequest.step req).reply env d = host.map WorkerResponse.step ∧
      (handleRequest env d (ForwardedRequest.step req).toClient).1 =
        (handleStep d.session (.valid req) host.toOption).1 ∧
      (host.toOption = none → (handleRequest env d (ForwardedRequest.step req).toClient).2.session =
        (handleStep d.session (.valid req) none).2) := by
  let ran := env.forwarded.call worker fun bridge st =>
    handleHostStep bridge st (hostStepRequest d handle req)
  have htried : tryOrchestratorStep env d (.valid req) =
      (ran.1.toOption, { d with orchestrator := some ran.2 }) := by
    simp only [tryOrchestratorStep, hattached, Params.parse]
    rfl
  have hserved : handleRequest env d (ForwardedRequest.step req).toClient =
      finishStepRequest env (.valid req) (ran.1.toOption, { d with orchestrator := some ran.2 }) :=
    congrArg (finishStepRequest env (.valid req)) htried
  refine ⟨ran.1, reply_step hattached req, ?_, ?_⟩
  · rw [hserved, fst_finishStepRequest]
  · intro hnone
    rw [hserved, hnone, finishStepRequest]
    split
    next hsome => cases hsome
    · rfl

lemma handleRequest_replay (hattached : d.attached = some (worker, handle))
    (req : ReplayRequest) :
    ∃ host : Except String HostReplayResponse,
      (ForwardedRequest.replay req).reply env d = host.map WorkerResponse.replay ∧
      (handleRequest env d (ForwardedRequest.replay req).toClient).1 =
        (respond d.session (d.session.replay req host.toOption)).1 ∧
      (handleRequest env d (ForwardedRequest.replay req).toClient).2.session =
        (respond d.session (d.session.replay req host.toOption)).2 := by
  let ran := env.forwarded.call worker fun bridge st =>
    handleHostReplay bridge st (hostReplayRequest handle req)
  have htried : tryOrchestratorReplay env d (.valid req) =
      (ran.1.toOption, { d with orchestrator := some ran.2 }) := by
    simp only [tryOrchestratorReplay, hattached]
    rfl
  refine ⟨ran.1, reply_replay hattached req, ?_, ?_⟩
  · simp only [handleRequest, ForwardedRequest.toClient, htried]
    rfl
  · simp only [handleRequest, ForwardedRequest.toClient, htried]
    rfl

lemma data_of_handleStep (hok : (handleStep session (.valid req) hostResponse).1 = .ok body) :
    ∃ response, body.data = .step response := by
  obtain ⟨position, fired, hstep⟩ : ∃ position fired,
      handleStep session (.valid req) hostResponse =
        respond session (session.step req position fired) := by
    cases hostResponse <;> exact ⟨_, _, rfl⟩
  rw [hstep] at hok
  by_cases hstop : session.state.status = .stopped
  · rw [step_of_stopped hstop] at hok
    cases hok
    exact ⟨_, envelopeWithMode_data _ _ _⟩
  · obtain ⟨data, hdata⟩ := step_of_ne hstop req position fired
    rw [hdata] at hok
    cases hok

lemma failureReported_step_iff (hattached : d.attached = some (worker, handle))
    (req : StepRequest) :
    FailureReported env d (.step req) ↔
      (((ForwardedRequest.step req).reply env d).isOk = false → d.session.state.status ≠ .stopped) := by
  obtain ⟨host, hreply, hresponse, hsession⟩ :=
    @handleRequest_step T env d worker handle hattached req
  have hdata : ∀ body response, (handleRequest env d (ForwardedRequest.step req).toClient).1 =
      .ok body → body.data ≠ .replay response := by
    intro body response hok hreplay
    obtain ⟨stepped, hstepped⟩ := data_of_handleStep (hresponse.symm.trans hok)
    cases hstepped.symm.trans hreplay
  constructor
  · intro hreported hfail hstop
    have hrejected := (hreported.reported hfail).1
    cases host with
    | ok response =>
      rw [hreply] at hfail
      cases hfail
    | error message =>
      -- The made-up position is taken for the worker's.
      have hmoved : (handleStep d.session (.valid req) none).1.isOk = true := by
        change (respond _ (d.session.step req _ [])).1.isOk = true
        rw [step_of_stopped hstop]
        rfl
      rw [hresponse] at hrejected
      exact absurd (hmoved.symm.trans hrejected) (by decide)
  · intro hcond
    refine ⟨fun hfail => ?_, fun body response hok hreplay => absurd hreplay (hdata body response hok)⟩
    cases host with
    | ok response =>
      rw [hreply] at hfail
      cases hfail
    | error message =>
      obtain ⟨data, hstep⟩ := step_of_ne (hcond hfail) req
        (fabricatedPosition d.session req) []
      have hanswer : handleStep d.session (.valid req) none = (refuse data, d.session) := by
        change respond _ (d.session.step req _ []) = _
        rw [hstep]
        rfl
      rw [hresponse, hsession rfl, hanswer]
      change (handleStep d.session (.valid req) none).1.isOk = false ∧ _
      rw [hanswer]
      exact ⟨rfl, rfl, rfl, rfl⟩

lemma failureReported_replay_iff (hattached : d.attached = some (worker, handle))
    (req : ReplayRequest) :
    FailureReported env d (.replay req) ↔
      (((ForwardedRequest.replay req).reply env d).isOk = false →
        (ForwardedRequest.replay req).Refused d.session) := by
  obtain ⟨host, hreply, hresponse, hsession⟩ :=
    @handleRequest_replay T env d worker handle hattached req
  constructor
  · intro hreported hfail
    have hrejected := (hreported.reported hfail).1
    rw [hresponse] at hrejected
    -- Otherwise the session would answer with a replay it has made up.
    by_contra hmoves
    obtain ⟨hstop, hfound⟩ := not_or.mp hmoves
    obtain ⟨ref, href⟩ := Option.ne_none_iff_exists'.mp hfound
    rw [replay_of_stopped (not_not.mp hstop) href] at hrejected
    cases hrejected
  · intro hcond
    by_cases hrejected : (ForwardedRequest.replay req).Refused d.session
    · obtain ⟨data, hreplay⟩ := replay_of_refused hrejected host.toOption
      rw [hreplay] at hresponse hsession
      refine ⟨fun _ => ?_, fun body response hok => ?_⟩
      · rw [hresponse, hsession]
        exact ⟨rfl, rfl, rfl, rfl⟩
      · rw [hresponse] at hok
        cases hok
    · cases host with
      | error message => exact absurd (hcond (by rw [hreply]; rfl)) hrejected
      | ok response =>
        obtain ⟨hstop, hfound⟩ := not_or.mp hrejected
        obtain ⟨ref, href⟩ := Option.ne_none_iff_exists'.mp hfound
        rw [replay_of_stopped (not_not.mp hstop) href] at hresponse
        refine ⟨fun hfail => ?_, fun body answer hok hdata hverdict => ?_⟩
        · rw [hreply] at hfail
          cases hfail
        · cases hresponse.symm.trans hok
          rw [envelopeWithMode_data] at hdata
          cases hdata
          exact ⟨response, hreply, hverdict⟩

end Attached

/-- **When a worker failure is reported.**  With a worker attached, a forwarded request reports a
failure of the worker exactly when the session refuses the request anyway. -/
theorem failureReported_iff (env : Env T) {d : DaemonState T} (hattached : d.attached.isSome)
    (request : ForwardedRequest) :
    FailureReported env d request ↔
      ((request.reply env d).isOk = false → request.Refused d.session) := by
  obtain ⟨⟨worker, handle⟩, hworker⟩ := Option.isSome_iff_exists.mp hattached
  cases request with
  | step req => exact failureReported_step_iff hworker req
  | replay req => exact failureReported_replay_iff hworker req

/-! ### A lost replay

One step into a pass a checkpoint is created and replayed; the request never reaches the
worker.
-/

/-- A daemon one step into a pass, with a checkpoint `c1`. -/
def checkpointed : DaemonState ℤ :=
  servedAll (opened echoBridge)
    [(Env.calm echoBridge "step", stepRequest .forward 1), (Env.calm echoBridge "c1", createRequest)]

def replayFrom (checkpointId : String) : ForwardedRequest := .replay {
  fromCheckpoint := checkpointId
  interventions := none
  stopAt := none
  verify := true
  envelope := .full
  deterministic := none
  cosineThreshold := none
  mreThreshold := none }

/-- A world in which the forwarded request is lost. -/
def lostEnv : Env ℤ :=
  { Env.calm echoBridge "lost" with forwarded := ⟨echoBridge, .requestLost⟩ }

theorem not_failureReported_lost :
    checkpointed.attached.isSome = true ∧ ¬ FailureReported lostEnv checkpointed (replayFrom "c1") := by
  refine ⟨by decide +kernel, fun hreported => ?_⟩
  have hlost : ((replayFrom "c1").reply lostEnv checkpointed).isOk = false := by decide +kernel
  have hsuccess : (handleRequest lostEnv checkpointed (replayFrom "c1").toClient).1.isOk = true := by
    decide +kernel
  exact absurd (hsuccess.symm.trans (hreported.reported hlost).1) (by decide)

/-- A lost replay of a checkpoint that the session does not know either. -/
theorem failureReported_unknown :
    ((replayFrom "c2").reply lostEnv checkpointed).isOk = false ∧
      FailureReported lostEnv checkpointed (replayFrom "c2") := by
  have hattached : checkpointed.attached.isSome = true := by decide +kernel
  refine ⟨by decide +kernel, (failureReported_iff _ hattached _).mpr fun _ => .inr ?_⟩
  show checkpointed.session.findCheckpoint "c2" = none
  decide +kernel

end RocketSurgeon.Daemon
