import RocketSurgeon.Daemon.Session
import RocketSurgeon.Daemon.Targets
import RocketSurgeon.Probes.Registry

/-!
# Handlers

What the daemon makes of a request on its own side: parse the parameters, check the
session, act, and build the response.  A handler that takes the worker's answer is given it
as an option; `none` stands for any failure on the way to the worker and back.

Every handler here that answers with an error leaves the session and the registry as they
were.
-/

namespace RocketSurgeon.Daemon

open Lib Protocol Probes

variable {session : Session}

abbrev Response := Except RpcError SuccessBody

def refuse (data : ErrorData) : Response := .error (RpcError.fromErrorData data)

/-- `invalid_params_response`. -/
def invalidParams (message : String) : Response :=
  refuse (errorWithHint .invalidParams s!"Invalid params: {message}")

/-- The response to what a method of the session came to. -/
def respond (session : Session) : Except ErrorData (SuccessBody × Session) → Response × Session
  | .ok (body, session) => (.ok body, session)
  | .error data => (refuse data, session)

lemma respond_of_error (hfail : (respond session res).1 = .error error) :
    (respond session res).2 = session := by
  cases res with
  | error data => rfl
  | ok success => cases hfail

/-- Parse the parameters, then go on. -/
def withParams {α σ : Type} (state : σ) (empty : Except String α) (params : Params α)
    (handle : α → Response × σ) : Response × σ :=
  match params.parse empty with
  | .error message => (invalidParams message, state)
  | .ok req => handle req

lemma withParams_error_induct {α σ : Type} {p : σ → Prop} {state : σ} {empty : Except String α}
    {params : Params α} {handle : α → Response × σ} {error : RpcError} (hstate : p state)
    (hframe : ∀ req, (handle req).1 = .error error → p (handle req).2)
    (hfail : (withParams state empty params handle).1 = .error error) :
    p (withParams state empty params handle).2 := by
  unfold withParams at hfail ⊢
  generalize params.parse empty = parsed at hfail ⊢
  cases parsed with
  | error msg => exact hstate
  | ok req => exact hframe req hfail

lemma withParams_of_error {handle : α → Response × σ}
    (hframe : ∀ req, (handle req).1 = .error error → (handle req).2 = state)
    (hfail : (withParams state empty params handle).1 = .error error) :
    (withParams state empty params handle).2 = state :=
  @withParams_error_induct α σ (· = state) _ _ _ _ _ rfl hframe hfail

/-- Parameters without which a request of this kind cannot be read. -/
def missingField {α : Type} (field : String) : Except String α := .error s!"missing field `{field}`"

/-! ## Life cycle -/

def handleInitialize (session : Session) (params : Params InitializeRequest) (uuid : String) :
    Response × Session :=
  withParams session (missingField "client_name") params fun req =>
    respond session (session.initializeSession req uuid)

/-- What the worker reports about the model it has loaded. -/
structure HostAttachResponse where
  modelHandle : ℕ
  modelType : String
  numLayers : ℕ
  numHeads : ℕ
  hiddenDim : ℕ
  deriving DecidableEq, Repr

/-- `handle_attach`: the backend's failure is passed on, and so are dimensions of zero. -/
def handleAttach (session : Session) (params : Params AttachRequest)
    (backend : Except String HostAttachResponse) (uuid : String) : Response × Session :=
  withParams session (missingField "model_path") params fun req =>
    match backend with
    | .error message => (refuse (errorWithHint .backendAttachFailed message), session)
    | .ok host =>
        if host.numLayers = 0 ∨ host.numHeads = 0 ∨ host.hiddenDim = 0 then
          (refuse (errorWithHint .backendAttachFailed
            s!"worker returned invalid metadata: num_layers={host.numLayers}, num_heads={host.numHeads}, hidden_dim={host.hiddenDim}"),
            session)
        else
          respond session <| do
            session.validateAttach req
            return session.commitAttach req host.modelType host.numLayers host.numHeads
              host.hiddenDim uuid

def handleDetach (session : Session) : Response × Session := respond session session.detach

def handleStatus (session : Session) : Response :=
  if session.state.status = .uninitialized then
    refuse (session.invalidStateError "status" [.initialized, .stopped])
  else .ok (session.envelope .status)

/-! ## Moving -/

/-- The position that is made up when no worker has answered a step. -/
def fabricatedPosition (session : Session) (req : StepRequest) : TickPosition where
  tickId := session.state.tickId.getD 0 + req.count
  direction := .forward
  rank := some 0
  layer := 0
  component := ""
  event := .output
  replayOf := none
  phase := .decode
  tokenPosition := none
  clock := none

def handleStep (session : Session) (params : Params StepRequest)
    (hostResponse : Option HostStepResponse) : Response × Session :=
  withParams session (missingField "direction") params fun req =>
    match hostResponse with
    | some host => respond session (session.step req host.position host.firedInterventions)
    | none => respond session (session.step req (fabricatedPosition session req) [])

lemma isOk_handleStep (hstop : session.state.status = .stopped) (req : StepRequest)
    (hostResponse : Option HostStepResponse) :
    (handleStep session (.valid req) hostResponse).1.isOk = true := by
  have hstep : ∀ pos fired,
      (respond session (session.step req pos fired)).1.isOk = true := by
    intro pos fired
    rw [Session.step_of_stopped hstop]
    rfl
  cases hostResponse with
  | none | some host => exact hstep _ _

def handleReplay (session : Session) (params : Params ReplayRequest)
    (hostResponse : Option HostReplayResponse) : Response × Session :=
  withParams session (missingField "from_checkpoint") params fun req =>
    respond session (session.replay req hostResponse)

/-! ## Probes -/

/-- `registry_error_to_response`; `parseError` is the text of the parsing library. -/
def registryErrorToResponse (parseError : String → String) : RegistryError → Response
  | .duplicateId id =>
      refuse (errorWithHint .duplicateProbeId s!"Probe with id '{id}' already exists")
  | .invalidPoint point =>
      refuse (errorWithHint .invalidPoint s!"Invalid probe point: {parseError point}")
  | .notFound id => refuse (errorWithHint .probeNotFound s!"Probe '{id}' not found")

/-- The response to an operation of the registry: the probes there are afterwards. -/
def probeResponse {α : Type} (session : Session) (parseError : String → String)
    (probeId : α → Option String) (result : Except RegistryError α × ProbeRegistry) :
    Response × ProbeRegistry :=
  match result with
  | (.ok value, registry) =>
      (.ok (session.envelope (.probe registry.list (probeId value))), registry)
  | (.error failure, registry) => (registryErrorToResponse parseError failure, registry)

def handleProbe (session : Session) (params : Params ProbeRequest) (registry : ProbeRegistry)
    (parseError : String → String) : Response × ProbeRegistry :=
  match session.requireStopped "rocket/probe" with
  | .error data => (refuse data, registry)
  | .ok () =>
      withParams registry (missingField "action") params fun
        | .define probe => probeResponse session parseError some (registry.define probe)
        | .list | .setGranularity _ =>
            probeResponse session parseError (fun () => none) (.ok (), registry)
        | .enable id => probeResponse session parseError (fun _ => some id) (registry.enable id)
        | .disable id => probeResponse session parseError (fun _ => some id) (registry.disable id)
        | .remove id => probeResponse session parseError (fun _ => some id) (registry.remove id)

/-! ## Subscriptions, views and interventions -/

def handleSubscribe (session : Session) (params : Params SubscribeRequest) : Response × Session :=
  withParams session (.ok ⟨none⟩) params fun req =>
    respond session <| do
      session.requireStopped "rocket/subscribe"
      let session := { session with eventFilter := req.filter }
      return (session.envelope
        (.subscribe [.tickStopped, .tickHeartbeat, .probeFired] session.state.status), session)

def handleUnsubscribe (session : Session) (params : Params UnsubscribeRequest) : Response :=
  match params.parse (.ok ⟨⟩) with
  | .error message => invalidParams message
  | .ok _ => .ok (session.envelope (.unsubscribe session.state.status))

def handleViewDefine (session : Session) (params : Params ViewDefineRequest) :
    Response × Session :=
  withParams session (missingField "name") params fun req =>
    respond session (session.defineView req.name req.spec)

def handleIntervene (session : Session) (params : Params InterveneRequest) : Response × Session :=
  withParams session (missingField "action") params fun req =>
    respond session <| do
      session.requireStopped "rocket/intervene"
      match req with
      | .set recipe =>
          validateRecipe recipe
          let session := session.setIntervention recipe
          return (session.envelope (.intervene session.interventions (some true)), session)
      | .clear id =>
          let session := session.clearIntervention id
          return (session.envelope (.intervene session.interventions none), session)
      | .list => return (session.envelope (.intervene session.interventions none), session)

/-! ## Errors leave everything as it was -/

lemma handleAttach_of_error
    (hfail : (handleAttach session params backend uuid).1 = .error error) :
    (handleAttach session params backend uuid).2 = session := by
  refine withParams_of_error (fun req hrequest => ?_) hfail
  cases backend with
  | error msg => rfl
  | ok host =>
    dsimp only at hrequest ⊢
    split
    · rfl
    next hmeta =>
      rw [if_neg hmeta] at hrequest
      exact respond_of_error hrequest

lemma handleStep_of_error (hfail : (handleStep session params hostResponse).1 = .error error) :
    (handleStep session params hostResponse).2 = session := by
  refine withParams_of_error (fun req hrequest => ?_) hfail
  cases hostResponse <;> exact respond_of_error hrequest

lemma handleReplay_of_error
    (hfail : (handleReplay session params hostResponse).1 = .error error) :
    (handleReplay session params hostResponse).2 = session :=
  withParams_of_error (fun _ => respond_of_error) hfail

lemma probeResponse_of_error {parseError : String → String}
    {res : Except RegistryError α × ProbeRegistry}
    (hframe : ∀ failure, res.1 = .error failure → res.2 = registry)
    (hfail : (probeResponse session parseError probeId res).1 = .error error) :
    (probeResponse session parseError probeId res).2 = registry := by
  obtain ⟨outcome, registry'⟩ := res
  cases outcome with
  | ok value => cases hfail
  | error failure => exact hframe failure rfl

lemma handleProbe_of_error {parseError : String → String}
    (hfail : (handleProbe session params registry parseError).1 = .error error) :
    (handleProbe session params registry parseError).2 = registry := by
  unfold handleProbe at hfail ⊢
  split at hfail
  · rfl
  · refine withParams_of_error (fun req hrequest => ?_) hfail
    cases req with
    | define probe =>
      exact probeResponse_of_error (fun _ => ProbeRegistry.define_of_error) hrequest
    | list | setGranularity scopes => rfl
    | enable id | disable id =>
      exact probeResponse_of_error (fun _ => ProbeRegistry.setEnabled_of_error) hrequest
    | remove id =>
      exact probeResponse_of_error (fun _ => ProbeRegistry.remove_of_error) hrequest

end RocketSurgeon.Daemon
