import RocketSurgeon.Daemon.Linked
import RocketSurgeon.Lib.InsertionOrder

/-!
# What can happen to a session

The session is changed by `dispatch` and by the handlers the main loop calls around it, with
whatever the worker has answered.  Everything they can do to it comes down to a few changes:
`Change` lists them, with the state each one needs and what it does to the interventions.
-/

namespace RocketSurgeon.Daemon

open Lib Protocol

variable {T : Type} {body : SuccessBody}

/-! ## Calls -/

/-- `handle_checkpoint` as far as the session goes. -/
def checkpointSession (session : Session) (params : Params CheckpointRequest) (uuid : String) :
    Response × Session :=
  withParams session (missingField "action") params fun req =>
    match session.requireStopped "rocket/checkpoint" with
    | .error data => (refuse data, session)
    | .ok () =>
        match req with
        | .create tier =>
            let created := session.checkpointCreateWithId tier uuid
            (.ok created.1, created.2)
        | .list => (.ok session.checkpointList, session)
        | .restore id => respond session (session.checkpointRestore id)
        | .delete id => respond session (session.checkpointDelete id)
        | .bookmark tickId name =>
            let marked := session.checkpointBookmark tickId name uuid
            (.ok marked.1, marked.2)

lemma forwardCheckpoint_session (env : Env T) (d : DaemonState T)
    (request : ℕ → HostCheckpointRequest) :
    (forwardCheckpoint env d request).session = d.session := by
  unfold forwardCheckpoint
  split
  · rfl
  · rfl

lemma session_handleCheckpoint (env : Env T) (d : DaemonState T)
    (params : Params CheckpointRequest) :
    let handled := handleCheckpoint env d params
    (handled.1, handled.2.session) = checkpointSession d.session params env.uuid := by
  unfold handleCheckpoint checkpointSession withParams
  cases params.parse (missingField "action") with
  | error msg => rfl
  | ok req =>
    cases d.session.requireStopped "rocket/checkpoint" with
    | error data => rfl
    | ok _ =>
      cases req with
      | create tier | restore id =>
        dsimp only [checkpointAction, DaemonState.conclude]
        rw [forwardCheckpoint_session]
      | list | delete id | bookmark tickId name => rfl

/-- `dispatch`; `answer` is what a request that only reads is answered with. -/
def dispatch (session : Session) (uuid : String) (answer : Response) :
    ClientRequest → Response × Session
  | .initialize_ params => handleInitialize session params uuid
  | .attach _ => (.error ⟨internalError, "attach must be dispatched via main loop", none⟩, session)
  | .detach => handleDetach session
  | .status => (handleStatus session, session)
  | .step params => handleStep session params.params none
  | .replay params => handleReplay session params none
  | .checkpoint params => checkpointSession session params uuid
  | .probe _ => (.error ⟨methodNotFound, "Method not found: rocket/probe", none⟩, session)
  | .intervene params => handleIntervene session params
  | .subscribe params => handleSubscribe session params
  | .unsubscribe params => (handleUnsubscribe session params, session)
  | .viewDefine params => handleViewDefine session params
  | .query => (answer, session)
  | .unknown method => (.error ⟨methodNotFound, s!"Method not found: {method}", none⟩, session)
  -- The main loop answers this one itself.
  | .unparsable message => (.error ⟨parseError, s!"Parse error: {message}", none⟩, session)

/-- A call that may change the session.  What the worker has answered is arbitrary, and so is
every parameter. -/
inductive SessionCall
  | dispatch (request : ClientRequest) (uuid : String) (answer : Response)
  | attach (params : Params AttachRequest) (backend : Except String HostAttachResponse)
      (uuid : String)
  | step (params : Params StepRequest) (hostResponse : Option HostStepResponse)
  | replay (params : Params ReplayRequest) (hostResponse : Option HostReplayResponse)
  | checkpoint (params : Params CheckpointRequest) (uuid : String)
  | intervene (params : Params InterveneRequest)
  | subscribe (params : Params SubscribeRequest)
  | viewDefine (params : Params ViewDefineRequest)
  | advanceWorldlineSegment (branchTick : ℕ)

namespace SessionCall

/-- The response to a call, if it has one, and the session afterwards. -/
def perform (session : Session) : SessionCall → Option Response × Session
  | .dispatch request uuid answer => (Daemon.dispatch session uuid answer request).map some id
  | .attach params backend uuid => (handleAttach session params backend uuid).map some id
  | .step params hostResponse => (handleStep session params hostResponse).map some id
  | .replay params hostResponse => (handleReplay session params hostResponse).map some id
  | .checkpoint params uuid => (checkpointSession session params uuid).map some id
  | .intervene params => (handleIntervene session params).map some id
  | .subscribe params => (handleSubscribe session params).map some id
  | .viewDefine params => (handleViewDefine session params).map some id
  | .advanceWorldlineSegment branchTick => (none, session.advanceWorldlineSegment branchTick)

/-- The identifier that is drawn for a call. -/
def drawn : SessionCall → List String
  | .dispatch _ uuid _ | .attach _ _ uuid | .checkpoint _ uuid => [uuid]
  | _ => []

end SessionCall

/-! ## Events of the interventions -/

abbrev InterventionLog := List (KeyEvent (Option String))

/-- What a request does to the interventions if it succeeds. -/
def interventionEvents : InterveneRequest → InterventionLog
  | .set recipe => [.put recipe.id]
  | .clear id => [.drop (some id)]
  | .list => []

def paramsEvents : Params InterveneRequest → InterventionLog
  | .valid req => interventionEvents req
  | _ => []

/-- Detaching drops every intervention. -/
def SessionCall.events : SessionCall → InterventionLog
  | .intervene params | .dispatch (.intervene params) _ _ => paramsEvents params
  | .dispatch .detach _ _ => [.dropAll]
  | _ => []

/-- What has happened once a call has been answered: nothing if it has failed. -/
def eventsOf (events : InterventionLog) : Option Response → InterventionLog
  | some (.ok _) => events
  | _ => []

/-! ## Changes -/

/-- The session once it has been initialized. -/
def Session.afterInitialize (session : Session) (uuid : String) : Session :=
  { session with
    state := { session.state with
      sessionId := uuid
      status := .initialized
      availableActions := [.attach] } }

lemma initializeSession_of_ok {session : Session}
    (hok : session.initializeSession req uuid = .ok (body, session')) :
    session.state.status = .uninitialized ∧ session' = session.afterInitialize uuid := by
  unfold Session.initializeSession at hok
  split at hok
  · cases hok
  next hstatus =>
    split at hok
    · cases hok
    · cases hok
      exact ⟨not_not.mp hstatus, rfl⟩

/-- The session once its model has been detached. -/
def Session.afterDetach (session : Session) : Session where
  state := { session.state with
    modelId := none
    status := .initialized
    position := none
    tickId := none
    activeProbes := []
    checkpoints := []
    availableActions := [.attach] }
  detachedModelId := some (session.state.modelId.getD "")
  catalog := []
  definedViews := []
  eventFilter := session.eventFilter
  checkpointPositions := []
  interventions := []
  autoCheckpointLayers := []
  arenaUtilization := session.arenaUtilization

lemma detach_of_ok {session : Session} (hok : session.detach = .ok (body, session')) :
    session.state.status = .stopped ∧ session' = session.afterDetach := by
  unfold Session.detach at hok
  split at hok
  · cases hok
  · split at hok
    · cases hok
    next hstop =>
      cases hok
      exact ⟨not_not.mp hstop, rfl⟩

/-- A change of the session, by a call for which identifiers were drawn, and what it does to the
interventions. -/
inductive Change (drawn : List String) (session : Session) : InterventionLog → Session → Prop
  | unchanged : Change drawn session [] session
  | opened {uuid : String} (huuid : uuid ∈ drawn) (hstatus : session.state.status = .uninitialized) :
      Change drawn session [] (session.afterInitialize uuid)
  | attached (hstatus : session.state.status = .initialized) (req : AttachRequest)
      (modelType : String) (numLayers numHeads hiddenDim : ℕ) (uuid : String) :
      Change drawn session [] (session.commitAttach req modelType numLayers numHeads hiddenDim uuid).2
  | detached (hstopped : session.state.status = .stopped) :
      Change drawn session [.dropAll] session.afterDetach
  | moved (hstopped : session.state.status = .stopped) (position : TickPosition) :
      Change drawn session [] (session.moveTo position)
  | created {uuid : String} (huuid : uuid ∈ drawn) (hstopped : session.state.status = .stopped)
      (tier : Option CreateCheckpointTier) :
      Change drawn session [] (session.checkpointCreateWithId tier uuid).2
  | restored (hstopped : session.state.status = .stopped) (position : TickPosition) :
      Change drawn session [] { session with
        state := { session.state with tickId := some position.tickId, position := some position } }
  | deleted (hstopped : session.state.status = .stopped) (id : String) :
      Change drawn session [] { session with
        state := { session.state with
          checkpoints := session.state.checkpoints.filter fun ref => ref.checkpointId ≠ id }
        checkpointPositions := FMap.remove session.checkpointPositions id }
  | bookmarked {uuid : String} (huuid : uuid ∈ drawn) (hstopped : session.state.status = .stopped)
      (tickId : ℕ) (name : String) :
      Change drawn session [] (session.checkpointBookmark tickId name uuid).2
  | intervened (hstopped : session.state.status = .stopped) (recipe : InterventionRecipe) :
      Change drawn session [.put recipe.id] (session.setIntervention recipe)
  | cleared (hstopped : session.state.status = .stopped) (id : String) :
      Change drawn session [.drop (some id)] (session.clearIntervention id)
  | filtered (eventFilter : Option SubscribeFilter) :
      Change drawn session [] { session with eventFilter }
  | viewed (hstopped : session.state.status = .stopped) (definedViews : List (String × String)) :
      Change drawn session [] { session with definedViews }
  | branched (hstopped : session.state.status = .stopped)
      (hroom : session.state.worldline.segments.length < 2 ^ 32) (branchTick : ℕ) :
      Change drawn session [] (session.advanceWorldlineSegment branchTick)
  | utilized (arenaUtilization : ℚ) : Change drawn session [] { session with arenaUtilization }
  | scheduled (autoCheckpointLayers : List ℕ) :
      Change drawn session [] { session with autoCheckpointLayers }

/-! ## Every call is a change -/

section Handlers

variable {session : Session} {drawn : List String} {events : InterventionLog}

lemma status_of_requireStopped (hok : session.requireStopped method = .ok res) :
    session.state.status = .stopped := by
  by_contra hstatus
  obtain ⟨data, hrejected⟩ := Session.requireStopped_of_ne hstatus method
  rw [hrejected] at hok
  cases hok

/-- A call was answered, and the session has changed in keeping with the answer. -/
def Answered (drawn : List String) (session : Session) (events : InterventionLog)
    (answered : Response × Session) : Prop :=
  Change drawn session (eventsOf events (some answered.1)) answered.2

lemma Answered.refl (events : InterventionLog) (error : RpcError) :
    Answered drawn session events (.error error, session) :=
  Change.unchanged

lemma Answered.unchanged (resp : Response) : Answered drawn session [] (resp, session) := by
  cases resp with
  | error error => exact .refl [] error
  | ok body => exact Change.unchanged

lemma Answered.ok (hchange : Change drawn session events session') :
    Answered drawn session events (.ok body, session') :=
  hchange

lemma answered_respond
    (hchange : ∀ body session', res = .ok (body, session') → Change drawn session events session') :
    Answered drawn session events (respond session res) := by
  cases res with
  | error data => exact .refl events _
  | ok success => exact .ok (hchange success.1 success.2 rfl)

lemma answered_withParams {handle : α → Response × Session}
    (hhandle : ∀ req, params.parse empty = .ok req → Answered drawn session events (handle req)) :
    Answered drawn session events (withParams session empty params handle) := by
  unfold withParams
  cases hparse : params.parse empty with
  | error msg => exact .refl events _
  | ok req => exact hhandle req hparse

variable (session) {uuid : String} (huuid : uuid ∈ drawn)

include huuid in

lemma answered_handleInitialize (params : Params InitializeRequest) :
    Answered drawn session [] (handleInitialize session params uuid) := by
  refine answered_withParams fun req _ => answered_respond fun body session' hok => ?_
  obtain ⟨hstatus, rfl⟩ := initializeSession_of_ok hok
  exact .opened huuid hstatus

lemma answered_handleAttach (params : Params AttachRequest)
    (backend : Except String HostAttachResponse) (uuid : String) :
    Answered drawn session [] (handleAttach session params backend uuid) := by
  refine answered_withParams fun req _ => ?_
  cases backend with
  | error msg => exact .refl [] _
  | ok host =>
    dsimp only
    split
    · exact .refl [] _
    · refine answered_respond fun body session' hok => ?_
      obtain ⟨_, hvalid, hcomm⟩ := bind_eq_ok hok
      cases hcomm
      refine .attached ?_ req host.modelType host.numLayers host.numHeads host.hiddenDim uuid
      unfold Session.validateAttach at hvalid
      split at hvalid
      · cases hvalid
      · split at hvalid
        · cases hvalid
        next hstatus => exact not_not.mp hstatus

lemma answered_handleDetach : Answered drawn session [.dropAll] (handleDetach session) := by
  refine answered_respond fun body session' hok => ?_
  obtain ⟨hstop, rfl⟩ := detach_of_ok hok
  exact .detached hstop

lemma answered_handleStep (params : Params StepRequest) (hostResponse : Option HostStepResponse) :
    Answered drawn session [] (handleStep session params hostResponse) := by
  refine answered_withParams fun req _ => ?_
  have hstep : ∀ pos fired,
      Answered drawn session [] (respond session (session.step req pos fired)) := by
    intro pos fired
    refine answered_respond fun body session' hok => ?_
    obtain ⟨_, hrequest, hmoved⟩ := bind_eq_ok hok
    cases hmoved
    exact .moved (status_of_requireStopped hrequest) pos
  cases hostResponse with
  | none | some host => exact hstep _ _

lemma answered_handleReplay (params : Params ReplayRequest)
    (hostResponse : Option HostReplayResponse) :
    Answered drawn session [] (handleReplay session params hostResponse) := by
  refine answered_withParams fun req _ => answered_respond fun body session' hok => ?_
  obtain ⟨_, hrequest, hreplaced⟩ := bind_eq_ok hok
  split at hreplaced
  · cases hreplaced
  · cases hreplaced
    exact .moved (status_of_requireStopped hrequest) _

include huuid in
lemma answered_checkpointSession (params : Params CheckpointRequest) :
    Answered drawn session [] (checkpointSession session params uuid) := by
  refine answered_withParams fun req _ => ?_
  split
  · exact .refl [] _
  next hrequest =>
    have hstop := status_of_requireStopped hrequest
    cases req with
    | create tier => exact .ok (.created huuid hstop tier)
    | list => exact .ok .unchanged
    | restore id =>
      refine answered_respond fun body session' hok => ?_
      unfold Session.checkpointRestore at hok
      split at hok
      · cases hok
      · cases hok
        exact .restored hstop _
    | delete id =>
      refine answered_respond fun body session' hok => ?_
      unfold Session.checkpointDelete at hok
      dsimp only at hok
      split at hok
      · cases hok
      · cases hok
        exact .deleted hstop id
    | bookmark tickId name => exact .ok (.bookmarked huuid hstop tickId name)

lemma answered_handleIntervene (params : Params InterveneRequest) :
    Answered drawn session (paramsEvents params) (handleIntervene session params) := by
  refine answered_withParams fun req hparse => ?_
  -- Only valid parameters are read as a request, so these are the request's events.
  obtain rfl : params = .valid req := by
    cases params with
    | absent | malformed msg => cases hparse
    | valid value =>
      cases hparse
      rfl
  refine answered_respond fun body session' hok => ?_
  obtain ⟨_, hrequest, hanswer⟩ := bind_eq_ok hok
  have hstop := status_of_requireStopped hrequest
  cases req with
  | set recipe =>
    obtain ⟨_, _, hset⟩ := bind_eq_ok hanswer
    cases hset
    exact .intervened hstop recipe
  | clear id =>
    cases hanswer
    exact .cleared hstop id
  | list =>
    cases hanswer
    exact .unchanged

lemma answered_handleSubscribe (params : Params SubscribeRequest) :
    Answered drawn session [] (handleSubscribe session params) := by
  refine answered_withParams fun req _ => answered_respond fun body session' hok => ?_
  obtain ⟨_, _, hanswer⟩ := bind_eq_ok hok
  cases hanswer
  exact .filtered req.filter

lemma answered_handleViewDefine (params : Params ViewDefineRequest) :
    Answered drawn session [] (handleViewDefine session params) := by
  refine answered_withParams fun req _ => answered_respond fun body session' hok => ?_
  obtain ⟨_, hrequest, hanswer⟩ := bind_eq_ok hok
  split at hanswer
  · cases hanswer
  · cases hanswer
    exact .viewed (status_of_requireStopped hrequest) _

include huuid in
lemma answered_dispatch (request : ClientRequest) (answer : Response) :
    Answered drawn session (SessionCall.events (.dispatch request uuid answer))
      (dispatch session uuid answer request) := by
  cases request with
  | initialize_ params => exact answered_handleInitialize session huuid params
  | attach params | probe params | unknown method | unparsable msg => exact .refl [] _
  | detach => exact answered_handleDetach session
  | status | unsubscribe params | query => exact .unchanged _
  | step params => exact answered_handleStep session params.params none
  | replay params => exact answered_handleReplay session params none
  | checkpoint params => exact answered_checkpointSession session huuid params
  | intervene params => exact answered_handleIntervene session params
  | subscribe params => exact answered_handleSubscribe session params
  | viewDefine params => exact answered_handleViewDefine session params

end Handlers

/-- Every call is a change, if a segment is only added while a model is attached and there is room
for it. -/
lemma change_perform (session : Session) (call : SessionCall)
    (hadvance : ∀ branchTick, call = .advanceWorldlineSegment branchTick →
      session.state.status = .stopped ∧ session.state.worldline.segments.length < 2 ^ 32) :
    Change call.drawn session (eventsOf call.events (call.perform session).1)
      (call.perform session).2 := by
  cases call with
  | dispatch request uuid answer =>
    exact answered_dispatch session List.mem_cons_self request answer
  | attach params backend uuid => exact answered_handleAttach session params backend uuid
  | step params hostResponse => exact answered_handleStep session params hostResponse
  | replay params hostResponse => exact answered_handleReplay session params hostResponse
  | checkpoint params uuid => exact answered_checkpointSession session List.mem_cons_self params
  | intervene params => exact answered_handleIntervene session params
  | subscribe params => exact answered_handleSubscribe session params
  | viewDefine params => exact answered_handleViewDefine session params
  | advanceWorldlineSegment branchTick =>
    obtain ⟨hstop, hroom⟩ := hadvance branchTick rfl
    exact .branched hstop hroom branchTick

end RocketSurgeon.Daemon
