import RocketSurgeon.Daemon.Dispatch
import RocketSurgeon.Worker.Requests

/-!
# The request loop

The daemon with the worker it has attached.  It serves one client request at a time;
meanwhile it may send requests of its own to the worker, over a link that can lose a
request or a reply.  To the daemon a lost message and an error of the worker are the same.

`Env` is what the world does while one client request is served: the Python side of every
worker call, the fate of its messages, fresh identifiers, and the order in which a hash map
is iterated.

Requests that only read (`inspect`, `view`, `discover`, the key-value cache) are answered
by the environment.  The event stream, traces and shared memory are left out.
-/

namespace RocketSurgeon.Daemon

open Lib Protocol Probes Worker

variable {T : Type} {R : Type}

/-! ## The link to the worker -/

inductive Transport
  | delivered
  | requestLost
  | replyLost
  deriving DecidableEq, Repr

/-- One worker call: what the Python side does meanwhile, and the fate of the messages. -/
structure Link (T : Type) where
  bridge : Bridge T
  transport : Transport

/-- Call a handler of the worker. -/
def Link.call {R : Type} (link : Link T) (worker : WorkerState T)
    (handler : Bridge T → WorkerState T → Except String R × WorkerState T) :
    Except String R × WorkerState T :=
  match link.transport with
  | .delivered => handler link.bridge worker
  | .requestLost => (.error "failed to send request", worker)
  | .replyLost => (.error "failed to read response", (handler link.bridge worker).2)

lemma Link.call_induct {p : WorkerState T → Prop} {link : Link T} {worker : WorkerState T}
    {handler : Bridge T → WorkerState T → Except String R × WorkerState T} (hworker : p worker)
    (hhandled : p (handler link.bridge worker).2) :
    p (link.call worker handler).2 := by
  unfold Link.call
  cases link.transport with
  | delivered | replyLost => exact hhandled
  | requestLost => exact hworker

lemma Link.call_of_ok {link : Link T} {result : R}
    (hok : (link.call worker handler).1 = .ok result) :
    link.call worker handler = handler link.bridge worker := by
  unfold Link.call at hok ⊢
  cases htrans : link.transport with
  | delivered => rfl
  | requestLost | replyLost =>
    rw [htrans] at hok
    cases hok

lemma Link.call_of_toOption {link : Link T} {result : R}
    (hsome : (link.call worker handler).1.toOption = some result) :
    (handler link.bridge worker).1 = .ok result ∧
      link.call worker handler = handler link.bridge worker := by
  cases hcall : (link.call worker handler).1 with
  | error message =>
    rw [hcall] at hsome
    cases hsome
  | ok response =>
    rw [hcall] at hsome
    obtain rfl : response = result := Option.some.inj hsome
    have hhandled := Link.call_of_ok hcall
    exact ⟨hhandled ▸ hcall, hhandled⟩

lemma Link.call_snd_of_ne {link : Link T}
    {handler : Bridge T → WorkerState T → Except String R × WorkerState T}
    (hreach : link.transport ≠ .requestLost) :
    (link.call worker handler).2 = (handler link.bridge worker).2 := by
  unfold Link.call
  cases htrans : link.transport with
  | delivered | replyLost => rfl
  | requestLost => exact absurd htrans hreach

/-- What spawning a worker and loading a model yields. -/
structure Backend where
  model : AttachedModel
  modelType : String
  hiddenDim : ℕ

def Backend.response (backend : Backend) : HostAttachResponse where
  modelHandle := backend.model.handle
  modelType := backend.modelType
  numLayers := backend.model.numLayers
  numHeads := backend.model.numHeads
  hiddenDim := backend.hiddenDim

/-- The world while one client request is served. -/
structure Env (T : Type) where
  /-- The outcome of spawning and attaching. -/
  backend : Except String Backend
  /-- The worker call that a client request is forwarded by. -/
  forwarded : Link T
  /-- The worker call that takes a checkpoint before a backward step. -/
  subCheckpoint : Link T
  /-- The worker call that takes an automatic checkpoint after a step. -/
  autoCheckpoint : Link T
  /-- The worker call that passes probes on. -/
  probes : Link T
  uuid : String
  autoUuid : String
  /-- The order in which the map of checkpoint positions is iterated. -/
  hashOrder : List (String × TickPosition) → List (String × TickPosition)
  /-- The text of the parsing library about a probe point it rejects. -/
  parseError : String → String
  /-- The answer to a request that only reads. -/
  answer : Response

/-! ## The daemon -/

structure DaemonState (T : Type) where
  session : Session
  orchestrator : Option (WorkerState T)
  modelHandle : Option ℕ
  probeRegistry : ProbeRegistry
  granularityScopes : List GranularityScope
  eventsEnabled : Bool

namespace DaemonState

def new : DaemonState T where
  session := Session.new
  orchestrator := none
  modelHandle := none
  probeRegistry := ProbeRegistry.new
  granularityScopes := []
  eventsEnabled := false

/-- The worker and the handle of its model, when both are there. -/
def attached (d : DaemonState T) : Option (WorkerState T × ℕ) :=
  match d.orchestrator, d.modelHandle with
  | some worker, some handle => some (worker, handle)
  | _, _ => none

/-- The response of a handler that has changed the session. -/
def conclude (d : DaemonState T) (answered : Response × Session) : Response × DaemonState T :=
  (answered.1, { d with session := answered.2 })

end DaemonState

/-! ## Forwarding -/

def resolveGranularity (explicit : Option TickGranularity) (scopes : List GranularityScope) :
    Option TickGranularity :=
  match explicit with
  | some granularity => some granularity
  | none => scopes.head?.map GranularityScope.granularity

/-- The step that is forwarded for a request without parameters. -/
def defaultStep : StepRequest := ⟨.forward, 1, none, .full, none⟩

def hostStepRequest (d : DaemonState T) (handle : ℕ) (req : StepRequest) : HostStepRequest where
  modelHandle := handle
  count := req.count
  direction := req.direction
  granularity := resolveGranularity req.granularity d.granularityScopes
  maxEvents := none
  interventions := d.session.interventions
  inputIds := req.tokens

/-- `try_orchestrator_step`. -/
def tryOrchestratorStep (env : Env T) (d : DaemonState T) (params : Params StepRequest) :
    Option HostStepResponse × DaemonState T :=
  match d.attached, params.parse (.ok defaultStep) with
  | some (worker, handle), .ok req =>
      let ran := env.forwarded.call worker fun bridge st =>
        handleHostStep bridge st (hostStepRequest d handle req)
      (ran.1.toOption, { d with orchestrator := some ran.2 })
  | _, _ => (none, d)

def hostReplayRequest (handle : ℕ) (req : ReplayRequest) : HostReplayRequest where
  modelHandle := handle
  checkpointId := req.fromCheckpoint
  stopAt := req.stopAt
  interventions := req.interventions.getD []
  verify := req.verify
  deterministic := req.deterministic.getD false
  cosineThreshold := req.cosineThreshold.getD (999 / 1000)
  mreThreshold := req.mreThreshold.getD (1 / 20)

/-- `try_orchestrator_replay`. -/
def tryOrchestratorReplay (env : Env T) (d : DaemonState T) (params : Params ReplayRequest) :
    Option HostReplayResponse × DaemonState T :=
  match d.attached, params with
  | some (worker, handle), .valid req =>
      let ran := env.forwarded.call worker fun bridge st =>
        handleHostReplay bridge st (hostReplayRequest handle req)
      (ran.1.toOption, { d with orchestrator := some ran.2 })
  | _, _ => (none, d)

/-! ## Stepping backward -/

/-- The checkpoint that is taken before a backward step. -/
def subCheckpointRequest (session : Session) (handle : ℕ) : HostCheckpointRequest :=
  let currentTick := session.state.tickId.getD 0
  .create handle s!"sub-{session.state.worldline.currentSegment}-{currentTick}" .activation
    currentTick 0

/-- Take a checkpoint while the arena is at most three fifths full.  The session does not
register it. -/
def takeSubCheckpoint (env : Env T) (session : Session) (worker : WorkerState T) (handle : ℕ) :
    Session × WorkerState T :=
  if session.arenaUtilization < 3 / 5 then
    let ran := env.subCheckpoint.call worker fun bridge st =>
      handleHostCheckpoint bridge st (subCheckpointRequest session handle)
    match ran.1 with
    | .ok response => (session.updateArenaUtilization response.bytesCaptured, ran.2)
    | .error _ => (session, ran.2)
  else (session, worker)

/-- The tick a backward step aims at, whatever its count. -/
def backwardTarget (session : Session) : ℕ := session.state.tickId.getD 0 - 1

/-- The replay that stands for a backward step: from the checkpoint to the end of the pass. -/
def backwardReplay (session : Session) (handle : ℕ) (checkpointId : String) :
    HostReplayRequest where
  modelHandle := handle
  checkpointId := checkpointId
  stopAt := none
  interventions := session.interventions
  verify := false
  deterministic := false
  cosineThreshold := 999 / 1000
  mreThreshold := 1 / 20

/-- `try_backward_step`. -/
def tryBackwardStep (env : Env T) (d : DaemonState T) : Option HostStepResponse × DaemonState T :=
  let target := backwardTarget d.session
  match Session.findCheckpointBefore (target + 1) (env.hashOrder d.session.checkpointPositions)
      none, d.attached with
  | some (checkpointId, _), some (worker, handle) =>
      let saved := takeSubCheckpoint env d.session worker handle
      let ran := env.forwarded.call saved.2 fun bridge st =>
        handleHostReplay bridge st (backwardReplay saved.1 handle checkpointId)
      match ran.1 with
      | .ok host =>
          (some ⟨host.stoppedAt, [], false, false, []⟩, { d with
            session := saved.1.advanceWorldlineSegment target
            orchestrator := some ran.2 })
      | .error _ => (none, { d with session := saved.1, orchestrator := some ran.2 })
  | _, _ => (none, d)

/-! ## After a step -/

/-- The automatic checkpoint: taken when a step has stopped on a boundary layer, and registered
only if the worker has taken it. -/
def takeAutoCheckpoint (env : Env T) (d : DaemonState T) (position : TickPosition) :
    DaemonState T :=
  if position.layer ∈ d.session.autoCheckpointLayers then
    match d.attached with
    | none => d
    | some (worker, handle) =>
        let autoId := "auto-" ++ env.autoUuid
        let ran := env.autoCheckpoint.call worker fun bridge st =>
          handleHostCheckpoint bridge st (.create handle autoId .activation
            (d.session.state.tickId.getD 0) position.layer)
        match ran.1 with
        | .ok _ => { d with
            session := (d.session.checkpointCreateWithId (some .activation) autoId).2
            orchestrator := some ran.2 }
        | .error _ => { d with orchestrator := some ran.2 }
  else d

/-- The parameters of a step.  `saysBackward` is what looking up `direction` in them finds, which
also answers for parameters that are no step request. -/
structure StepParams where
  saysBackward : Bool
  params : Params StepRequest
  deriving DecidableEq, Repr

/-- What the worker, or the replay that stands for a backward step, has answered to a step. -/
def stepTried (env : Env T) (d : DaemonState T) (step : StepParams) :
    Option HostStepResponse × DaemonState T :=
  if step.saysBackward then tryBackwardStep env d else tryOrchestratorStep env d step.params

/-- Answer a step with what came back from the worker. -/
def finishStepRequest (env : Env T) (params : Params StepRequest)
    (tried : Option HostStepResponse × DaemonState T) : Response × DaemonState T :=
  let answered := tried.2.conclude (handleStep tried.2.session params tried.1)
  match answered.1, tried.1 with
  | .ok body, some host => (.ok body, takeAutoCheckpoint env answered.2 host.position)
  | _, _ => answered

def handleStepRequest (env : Env T) (d : DaemonState T) (step : StepParams) :
    Response × DaemonState T :=
  if step.saysBackward then
    let tried := tryBackwardStep env d
    if tried.1.isNone then
      (refuse (errorWithHint .capabilityNotSupported "No checkpoint available for backward step"),
        tried.2)
    else finishStepRequest env step.params tried
  else finishStepRequest env step.params (tryOrchestratorStep env d step.params)

/-! ## Checkpoints, probes and the life cycle -/

/-- Send a checkpoint request to the worker; a failure is only logged. -/
def forwardCheckpoint (env : Env T) (d : DaemonState T) (request : ℕ → HostCheckpointRequest) :
    DaemonState T :=
  match d.attached with
  | none => d
  | some (worker, handle) => { d with
      orchestrator := some (env.forwarded.call worker fun bridge st =>
        handleHostCheckpoint bridge st (request handle)).2 }

/-- `handle_checkpoint` behind its checks. -/
def checkpointAction (env : Env T) (d : DaemonState T) :
    CheckpointRequest → Response × DaemonState T
  | .create tier =>
      let d := forwardCheckpoint env d fun handle => .create handle env.uuid
        (tier.getD .activation) (d.session.state.tickId.getD 0) d.session.currentLayer
      let created := d.session.checkpointCreateWithId tier env.uuid
      d.conclude (.ok created.1, created.2)
  | .list => (.ok d.session.checkpointList, d)
  | .restore id =>
      let d := forwardCheckpoint env d fun handle => .restore handle id
      d.conclude (respond d.session (d.session.checkpointRestore id))
  | .delete id => d.conclude (respond d.session (d.session.checkpointDelete id))
  | .bookmark tickId name =>
      let marked := d.session.checkpointBookmark tickId name env.uuid
      d.conclude (.ok marked.1, marked.2)

def handleCheckpoint (env : Env T) (d : DaemonState T) (params : Params CheckpointRequest) :
    Response × DaemonState T :=
  withParams d (missingField "action") params fun req =>
    match d.session.requireStopped "rocket/checkpoint" with
    | .error data => (refuse data, d)
    | .ok () => checkpointAction env d req

/-- `propagate_probes`; a failure is only logged. -/
def propagateProbes (env : Env T) (d : DaemonState T) : DaemonState T :=
  match d.attached with
  | none => d
  | some (worker, handle) => { d with
      orchestrator := some (env.probes.call worker fun _ st =>
        let updated := handleHostUpdateProbes st
          ⟨handle, d.probeRegistry.list.filter ProbeDefinition.enabled⟩
        (.ok updated.1, updated.2)).2 }

/-- Granularity scopes are stored before the request is handled. -/
def storeGranularity (d : DaemonState T) : Params ProbeRequest → DaemonState T
  | .valid (.setGranularity scopes) => { d with granularityScopes := scopes }
  | _ => d

/-- The main loop's part of a probe request. -/
def handleProbeRequest (env : Env T) (d : DaemonState T) (params : Params ProbeRequest) :
    Response × DaemonState T :=
  let d := storeGranularity d params
  let probed := handleProbe d.session params d.probeRegistry env.parseError
  let d := { d with probeRegistry := probed.2 }
  match probed.1 with
  | .ok body => (.ok body, propagateProbes env d)
  | .error error => (.error error, d)

/-- The main loop's part of an attach request: the session is asked before a worker is spawned. -/
def handleAttachRequest (env : Env T) (d : DaemonState T) (params : Params AttachRequest) :
    Response × DaemonState T :=
  match params with
  | .valid req =>
      match d.session.validateAttach req with
      | .error data => (refuse data, d)
      | .ok () =>
          match env.backend with
          | .error message =>
              d.conclude (handleAttach d.session params (.error message) env.uuid)
          | .ok backend =>
              match handleAttach d.session params (.ok backend.response) env.uuid with
              | (.error error, session) => d.conclude (.error error, session)
              | (.ok body, session) => (.ok body, { d with
                  session := { session with
                    autoCheckpointLayers := checkpointLayers backend.model.numLayers }
                  orchestrator := some (attachModel WorkerState.new backend.model)
                  modelHandle := some backend.model.handle })
  | params =>
      d.conclude (handleAttach d.session params (.error "attach params missing or malformed")
        env.uuid)

/-- The main loop's part of a detach request: the worker is dropped. -/
def handleDetachRequest (d : DaemonState T) : Response × DaemonState T :=
  match handleDetach d.session with
  | (.ok body, session) =>
      (.ok body, { d with session, orchestrator := none, modelHandle := none })
  | (.error error, session) => d.conclude (.error error, session)

/-! ## The loop -/

inductive ClientRequest
  | unparsable (message : String)
  | initialize_ (params : Params InitializeRequest)
  | attach (params : Params AttachRequest)
  | detach
  | status
  | step (params : StepParams)
  | replay (params : Params ReplayRequest)
  | checkpoint (params : Params CheckpointRequest)
  | probe (params : Params ProbeRequest)
  | intervene (params : Params InterveneRequest)
  | subscribe (params : Params SubscribeRequest)
  | unsubscribe (params : Params UnsubscribeRequest)
  | viewDefine (params : Params ViewDefineRequest)
  | query
  | unknown (method : String)

/-- Serve one client request. -/
def handleRequest (env : Env T) (d : DaemonState T) : ClientRequest → Response × DaemonState T
  | .unparsable message => (.error ⟨parseError, s!"Parse error: {message}", none⟩, d)
  | .initialize_ params => d.conclude (handleInitialize d.session params env.uuid)
  | .attach params => handleAttachRequest env d params
  | .detach => handleDetachRequest d
  | .status => (handleStatus d.session, d)
  | .step params => handleStepRequest env d params
  | .replay params =>
      let tried := tryOrchestratorReplay env d params
      tried.2.conclude (handleReplay tried.2.session params tried.1)
  | .checkpoint params => handleCheckpoint env d params
  | .probe params => handleProbeRequest env d params
  | .intervene params => d.conclude (handleIntervene d.session params)
  | .subscribe params =>
      let answered := handleSubscribe d.session params
      match answered.1 with
      | .ok body => (.ok body, { d with session := answered.2, eventsEnabled := true })
      | .error error => d.conclude (.error error, answered.2)
  | .unsubscribe params => (handleUnsubscribe d.session params, { d with eventsEnabled := false })
  | .viewDefine params => d.conclude (handleViewDefine d.session params)
  | .query => (env.answer, d)
  | .unknown method => (.error ⟨methodNotFound, s!"Method not found: {method}", none⟩, d)

def served (d : DaemonState T) (action : Env T × ClientRequest) : DaemonState T :=
  (handleRequest action.1 d action.2).2

def servedAll (d : DaemonState T) (actions : List (Env T × ClientRequest)) : DaemonState T :=
  actions.foldl served d

/-! ## A session on a model of two layers -/

/-- A world in which no message is lost, and the Python side is `bridge` throughout. -/
def Env.calm (bridge : Bridge T) (uuid : String) : Env T where
  backend := .ok ⟨twoLayerModel, "llama", 8⟩
  forwarded := ⟨bridge, .delivered⟩
  subCheckpoint := ⟨bridge, .delivered⟩
  autoCheckpoint := ⟨bridge, .delivered⟩
  probes := ⟨bridge, .delivered⟩
  uuid := uuid
  autoUuid := uuid
  hashOrder := id
  parseError := id
  answer := .ok ⟨.none, .query ""⟩

def initializeRequest : ClientRequest := .initialize_ (.valid ⟨"0.3.0"⟩)
def attachRequest : ClientRequest := .attach (.valid ⟨"model", "llama", 1, none⟩)

/-- A component step of `count` ticks on the default input. -/
def stepRequest (direction : StepDirection) (count : ℕ) : ClientRequest :=
  .step ⟨direction = .backward, .valid ⟨direction, count, none, .full, none⟩⟩

def createRequest : ClientRequest := .checkpoint (.valid (.create none))

/-- A daemon that has just attached the model of two layers. -/
def opened (bridge : Bridge T) : DaemonState T :=
  servedAll DaemonState.new
    [(Env.calm bridge "s", initializeRequest), (Env.calm bridge "m", attachRequest)]

end RocketSurgeon.Daemon
