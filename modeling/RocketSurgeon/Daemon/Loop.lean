import RocketSurgeon.Daemon.InspectRelease
import RocketSurgeon.Daemon.Perfetto
import RocketSurgeon.Daemon.Queries

/-!
# A turn of the main loop

Everything the daemon does about one request: it is handled, what belongs to the model is opened or
dropped around attaching and detaching, the response is written, and what a step stopped at is
drawn into the trace.  A panic may end the daemon at several places, before the response is written
or after it.

Integers of the source that a request can drive out of their range are checked here; counters that
grow by one for a request or an event are natural numbers.  Writing to the client succeeds.
Heartbeats, notifications and the log of messages are left out.
-/

namespace RocketSurgeon.Daemon

open Lib Protocol Worker

variable {T : Type}

/-! ## State and requests -/

/-- The state of the main loop. -/
structure LoopState (T : Type) extends InspectState T where
  perfetto : Option PerfettoSink

/-- A daemon that has just been started. -/
def LoopState.start : LoopState T where
  toInspectState := .start DaemonState.new
  perfetto := none

/-- The world while one request is served. -/
structure LoopEnv (T : Type) where
  main : Env T
  inspect : InspectEnv T
  query : QueryEnv
  exporting : ExportEnv
  /-- The ring of a worker that is attached. -/
  shm : Option (String × UInt32 × UInt64)
  /-- Whether the daemon can open that ring. -/
  shmOpened : Bool
  traceCreated : Bool
  daemonPid : ℕ
  workerPid : Option ℕ
  /-- Which writes of the trace file succeed, by how many there were before. -/
  disk : ℕ → Bool
  /-- The order in which the map of component tracks is iterated. -/
  trackOrder : List ((ℕ × ℕ × String) × ℕ) → List ((ℕ × ℕ × String) × ℕ)

/-- A request that `handleRequest` answers itself. -/
abbrev PlainRequest := { request : ClientRequest // request ≠ .query }

inductive LoopRequest
  | plain (request : PlainRequest)
  | inspect (params : Params InspectRequest)
  | view (params : Params ViewRequest)
  | kvRead (params : Params KvReadRequest)
  | kvIntervene (params : Params KvInterveneRequest)
  | discover (params : Params DiscoverRequest)
  | exportSession (params : Params ExportRequest)

/-- How a turn ends: the responses that were written, the panic that has ended the daemon, and the
state. -/
structure Turn (T : Type) where
  written : List LoopResponse
  panic : Option String
  state : LoopState T

namespace Turn

/-- A panic before anything was written. -/
def crash (message : String) (state : LoopState T) : Turn T := ⟨[], some message, state⟩

def reply (response : LoopResponse) (state : LoopState T) : Turn T := ⟨[response], none, state⟩

end Turn

/-! ## Sums -/

def overflowMessage : String := "attempt to add with overflow"

/-- A tick that does not fit in 64 bits is computed for a step or a replay that no worker has
answered. -/
def overflows (env : Env T) (d : DaemonState T) : ClientRequest → Bool
  | .step step =>
      !step.saysBackward && (tryOrchestratorStep env d step.params).1.isNone &&
        match step.params.parse (missingField "direction") with
        | .ok req => 2 ^ 64 ≤ (fabricatedPosition d.session req).tickId
        | .error _ => false
  | .replay params =>
      (tryOrchestratorReplay env d params).1.isNone &&
        match params.parse (missingField "from_checkpoint") with
        | .ok req =>
            match d.session.requireStopped "rocket/replay",
                d.session.findCheckpoint req.fromCheckpoint with
            | .ok (), some ref => 2 ^ 64 ≤ (d.session.fabricatedReplay req ref).stoppedAt.tickId
            | _, _ => false
        | .error _ => false
  | _ => false

/-! ## Around a request -/

/-- Attaching opens the ring and the trace, and detaching drops both.  A trace that cannot be opened
is only logged. -/
def rewire (env : LoopEnv T) (st : LoopState T) (request : ClientRequest)
    (handled : Response × DaemonState T) : Except String (LoopState T) :=
  let inspecting := { st.toInspectState with daemon := handled.2 }
  match request, handled.1 with
  | .attach _, .ok _ => do
      let state := handled.2.session.state
      let opened ← PerfettoSink.openTrace env.disk env.traceCreated state.sessionId
        (state.modelId.getD "unknown") env.daemonPid (env.workerPid.getD 0)
      let connected := inspecting.connect env.shm
      let shmConsumer := if env.shmOpened then connected.shmConsumer else none
      return { toInspectState := { connected with shmConsumer }, perfetto := opened.or st.perfetto }
  | .detach, .ok _ => .ok { toInspectState := inspecting.disconnect, perfetto := none }
  | _, _ => .ok { st with daemon := handled.2 }

/-- Draw a step that has been answered, while events are enabled. -/
def traceRequest (env : LoopEnv T) (d : DaemonState T) (request : ClientRequest)
    (response : Response) (st : LoopState T) : Except String (Option PerfettoSink) :=
  match request, response, st.perfetto with
  | .step step, .ok _, some sink =>
      if st.daemon.eventsEnabled then
        let events := ((stepTried env.main d step).1.map HostStepResponse.events).getD []
        (sink.traceStep env.disk env.trackOrder st.daemon.session.state.position events).map some
      else .ok (some sink)
  | _, _, perfetto => .ok perfetto

def plainTurn (env : LoopEnv T) (st : LoopState T) (request : ClientRequest) : Turn T :=
  if overflows env.main st.daemon request then .crash overflowMessage st
  else
    let handled := handleRequest env.main st.daemon request
    match rewire env st request handled with
    | .error message => .crash message st
    | .ok rewired =>
        let response : LoopResponse := handled.1.map fun body => ⟨body.envelope, .plain body.data⟩
        match traceRequest env st.daemon request handled.1 rewired with
        | .error message => ⟨[response], some message, rewired⟩
        | .ok perfetto => .reply response { rewired with perfetto }

variable (lib : InspectLibrary)

/-- The envelope a request asks for; only valid parameters are answered with one. -/
def envelopeMode : Params InspectRequest → EnvelopeMode
  | .valid req => req.envelope
  | _ => .full

def inspectTurn (env : LoopEnv T) (st : LoopState T) (params : Params InspectRequest) : Turn T :=
  match inspectRequest lib env.inspect st.toInspectState params with
  | (.error (.panicked message), _) => .crash message st
  | (.error (.refused error), inspected) =>
      .reply (.error error) { st with toInspectState := inspected }
  | (.ok response, inspected) =>
      .reply (.ok ⟨inspected.daemon.session.envelopeOf (envelopeMode params), .inspect response⟩)
        { st with toInspectState := inspected }

/-- An export needs a worker before it is looked at. -/
def exportTurn (env : LoopEnv T) (st : LoopState T) (params : Params ExportRequest) : Turn T :=
  match st.daemon.orchestrator, st.daemon.modelHandle with
  | none, _ => .crash "orchestrator required for export" st
  | some _, none => .crash "model_handle required for export" st
  | some _, some modelHandle =>
      let exported := handleExport env.exporting st.daemon.session params st.store modelHandle
        st.perfetto.isSome
      .reply exported.1 { st with store := exported.2 }

/-- One turn of the loop. -/
def turn (env : LoopEnv T) (st : LoopState T) : LoopRequest → Turn T
  | .plain request => plainTurn env st request.1
  | .inspect params => inspectTurn lib env st params
  | .view params => .reply (viewRequest env.query st.daemon params) st
  | .kvRead params => .reply (kvReadRequest env.query st.daemon params) st
  | .kvIntervene params => .reply (kvInterveneRequest env.query st.daemon params) st
  | .discover params => .reply (handleDiscover st.daemon.session params) st
  | .exportSession params => exportTurn env st params

def turned (st : LoopState T) (action : LoopEnv T × LoopRequest) : LoopState T :=
  (turn lib action.1 st action.2).state

/-! ## Around a request, as lemmas -/

lemma connect_kept (st : InspectState T) (shm : Option (String × UInt32 × UInt64)) :
    (st.connect shm).daemon = st.daemon ∧ (st.connect shm).store = st.store := by
  unfold InspectState.connect
  split
  · exact ⟨rfl, rfl⟩
  · split
    · exact ⟨rfl, rfl⟩
    · exact ⟨rfl, rfl⟩

/-- Rewiring does not fail.  It leaves the ring as it is, drops it, or connects the one of the
worker, which the daemon may fail to open. -/
lemma rewire_cases (env : LoopEnv T) (st : LoopState T) (request : ClientRequest)
    (handled : Response × DaemonState T) :
    ∃ rewired, rewire env st request handled = .ok rewired ∧
      let inspecting := { st.toInspectState with daemon := handled.2 }
      let connected := inspecting.connect env.shm
      (rewired.toInspectState = inspecting ∨ rewired.toInspectState = inspecting.disconnect ∨
        rewired.toInspectState = { connected with
          shmConsumer := if env.shmOpened then connected.shmConsumer else none }) := by
  unfold rewire
  dsimp only
  split
  · obtain ⟨opened, hopened⟩ := PerfettoSink.openTrace_eq_ok env.disk env.traceCreated
      handled.2.session.state.sessionId (handled.2.session.state.modelId.getD "unknown")
      env.daemonPid _
    rw [hopened]
    exact ⟨_, rfl, .inr (.inr rfl)⟩
  · exact ⟨_, rfl, .inr (.inl rfl)⟩
  · exact ⟨_, rfl, .inl rfl⟩

lemma rewire_kept {rewired : LoopState T} (hrewired : rewire env st request handled = .ok rewired) :
    rewired.daemon = handled.2 ∧ rewired.store = st.store := by
  obtain ⟨_, hok, hkept | hdrop | hconnected⟩ := rewire_cases env st request handled
  · cases hrewired.symm.trans hok
    rw [hkept]
    exact ⟨rfl, rfl⟩
  · cases hrewired.symm.trans hok
    rw [hdrop]
    exact ⟨rfl, rfl⟩
  · cases hrewired.symm.trans hok
    rw [hconnected]
    exact connect_kept _ _

/-- A turn in which no sum overflows answers, and leaves what was rewired but for the trace. -/
lemma plainTurn_of_not_overflows {st : LoopState T}
    (hfits : overflows env.main st.daemon request = false) :
    let handled := handleRequest env.main st.daemon request
    ∃ rewired, rewire env st request handled = .ok rewired ∧
      (plainTurn env st request).written =
        [handled.1.map fun body => ⟨body.envelope, .plain body.data⟩] ∧
      (plainTurn env st request).state.toInspectState = rewired.toInspectState ∧
      ((plainTurn env st request).panic = none ↔
        (traceRequest env st.daemon request handled.1 rewired).isOk = true) := by
  intro handled
  obtain ⟨rewired, hrewired, _⟩ := rewire_cases env st request handled
  refine ⟨rewired, hrewired, ?_⟩
  unfold plainTurn
  dsimp only
  rw [hfits, hrewired, if_neg Bool.false_ne_true]
  dsimp only
  split
  next htrace =>
    rw [htrace]
    exact ⟨rfl, rfl, (nomatch ·), (nomatch ·)⟩
  next htrace =>
    rw [htrace]
    exact ⟨rfl, rfl, fun _ => rfl, fun _ => rfl⟩

/-! ## A calm world -/

/-- A world in which a worker without a ring is attached, and answers no query. -/
def LoopEnv.calm (uuid : String) : LoopEnv Unit where
  main := .calm (Bridge.quiet fun _ => []) uuid
  inspect := calmInspect
  query := ⟨fun _ => .empty, fun _ => .empty, fun _ => .empty⟩
  exporting := ⟨fun _ => .error "no environment", "", id, none, fun _ _ => .error "no bundle"⟩
  shm := none
  shmOpened := false
  traceCreated := false
  daemonPid := 1
  workerPid := none
  disk := fun _ => true
  trackOrder := id

lemma initializeRequest_ne_query : initializeRequest ≠ .query := nofun

lemma attachRequest_ne_query : attachRequest ≠ .query := nofun

/-- Initialize the session and attach the model. -/
def attachTurns : List (LoopEnv Unit × LoopRequest) :=
  [(.calm "s", .plain ⟨initializeRequest, initializeRequest_ne_query⟩),
    (.calm "m", .plain ⟨attachRequest, attachRequest_ne_query⟩)]

end RocketSurgeon.Daemon
