import RocketSurgeon.Daemon.Loop
import RocketSurgeon.Daemon.Reattach

/-!
# The probes an envelope lists

The whole state of a session, which most responses carry, has a field for the active probes.  The
registry of probes belongs to the main loop, and nothing ever fills the field: it is empty in a new
session, emptied on detaching, and left alone otherwise.  So an envelope lists the enabled probes
only where there are none, or no model.
-/

namespace RocketSurgeon.Daemon

open Lib Protocol Probes Worker List

variable {T : Type}

/-! ## Handlers -/

/-- An envelope lists no active probe. -/
def ListsNone (envelope : Envelope) : Prop :=
  ∀ state, envelope = .full state → state.activeProbes = []

lemma listsNone_envelopeOf {session : Session} (hsession : session.state.activeProbes = [])
    (mode : EnvelopeMode) : ListsNone (session.envelopeOf mode) := by
  intro state hfull
  cases mode with
  | full =>
    cases hfull
    exact hsession
  | position | none => cases hfull

/-- Neither the answer nor the session it leaves lists an active probe. -/
structure Unlisted (answered : Response × Session) : Prop where
  session : answered.2.state.activeProbes = []
  body : ∀ body, answered.1 = .ok body → ListsNone body.envelope

lemma unlisted_envelope (mode : EnvelopeMode) (data : ResponseData)
    (hsession : session.state.activeProbes = []) :
    Unlisted (.ok (session.envelopeWithMode mode data), session) := by
  refine ⟨hsession, fun body hbody => ?_⟩
  cases hbody
  rw [Session.envelopeWithMode_eq]
  exact listsNone_envelopeOf hsession mode

section Handlers

variable {session : Session} (hsession : session.state.activeProbes = [])

include hsession

lemma unlisted_error (error : RpcError) : Unlisted (.error error, session) :=
  ⟨hsession, fun _ hbody => nomatch hbody⟩

lemma unlisted_respond
    (hres : ∀ body session', result = .ok (body, session') → Unlisted (.ok body, session')) :
    Unlisted (respond session result) := by
  cases result with
  | error data => exact unlisted_error hsession _
  | ok success => exact hres success.1 success.2 rfl

lemma unlisted_withParams {handle : α → Response × Session}
    (hhandle : ∀ req, Unlisted (handle req)) :
    Unlisted (withParams session empty params handle) := by
  unfold withParams
  cases params.parse empty with
  | error message => exact unlisted_error hsession _
  | ok req => exact hhandle req

lemma unlisted_request {result : α → Except ErrorData (SuccessBody × Session)}
    (hres : ∀ req body session', result req = .ok (body, session') →
      Unlisted (.ok body, session')) :
    Unlisted (withParams session empty params fun req => respond session (result req)) :=
  unlisted_withParams hsession fun req => unlisted_respond hsession (hres req)

lemma unlisted_handleInitialize (params : Params InitializeRequest) (uuid : String) :
    Unlisted (handleInitialize session params uuid) := by
  refine unlisted_request hsession fun req body session' hok => ?_
  unfold Session.initializeSession at hok
  split at hok
  · cases hok
  · split at hok
    · cases hok
    · cases hok
      exact unlisted_envelope .full _ hsession

lemma unlisted_handleAttach (params : Params AttachRequest)
    (backend : Except String HostAttachResponse) (uuid : String) :
    Unlisted (handleAttach session params backend uuid) := by
  refine unlisted_withParams hsession fun req => ?_
  cases backend with
  | error message => exact unlisted_error hsession _
  | ok host =>
    dsimp only
    split
    · exact unlisted_error hsession _
    · refine unlisted_respond hsession fun body session' hok => ?_
      obtain ⟨_, _, hcomm⟩ := bind_eq_ok hok
      cases hcomm
      exact unlisted_envelope .full _ hsession

lemma unlisted_handleDetach : Unlisted (handleDetach session) := by
  refine unlisted_respond hsession fun body session' hok => ?_
  unfold Session.detach at hok
  split at hok
  · cases hok
  · split at hok
    · cases hok
    · cases hok
      exact unlisted_envelope .full _ rfl

lemma unlisted_handleStatus : Unlisted (handleStatus session, session) := by
  unfold handleStatus
  split
  · exact unlisted_error hsession _
  · exact unlisted_envelope .full _ hsession

lemma unlisted_handleStep (params : Params StepRequest) (hostResponse : Option HostStepResponse) :
    Unlisted (handleStep session params hostResponse) := by
  refine unlisted_withParams hsession fun req => ?_
  have hstep : ∀ position fired, Unlisted (respond session (session.step req position fired)) := by
    intro position fired
    refine unlisted_respond hsession fun body session' hok => ?_
    obtain ⟨_, _, hmoved⟩ := bind_eq_ok hok
    cases hmoved
    exact unlisted_envelope _ _ hsession
  cases hostResponse with
  | none | some host => exact hstep _ _

lemma unlisted_handleReplay (params : Params ReplayRequest)
    (hostResponse : Option HostReplayResponse) :
    Unlisted (handleReplay session params hostResponse) := by
  refine unlisted_request hsession fun req body session' hok => ?_
  obtain ⟨_, _, hreplaced⟩ := bind_eq_ok hok
  split at hreplaced
  · cases hreplaced
  · cases hreplaced
    exact unlisted_envelope _ _ hsession

lemma unlisted_checkpointSession (params : Params CheckpointRequest) (uuid : String) :
    Unlisted (checkpointSession session params uuid) := by
  refine unlisted_withParams hsession fun req => ?_
  split
  · exact unlisted_error hsession _
  · cases req with
    | create tier | list | bookmark tickId name => exact unlisted_envelope .full _ hsession
    | restore id =>
      refine unlisted_respond hsession fun body session' hok => ?_
      unfold Session.checkpointRestore at hok
      split at hok
      · cases hok
      · cases hok
        exact unlisted_envelope .full _ hsession
    | delete id =>
      refine unlisted_respond hsession fun body session' hok => ?_
      unfold Session.checkpointDelete at hok
      dsimp only at hok
      split at hok
      · cases hok
      · cases hok
        exact unlisted_envelope .full _ hsession

lemma unlisted_handleIntervene (params : Params InterveneRequest) :
    Unlisted (handleIntervene session params) := by
  refine unlisted_request hsession fun req body session' hok => ?_
  obtain ⟨_, _, hanswer⟩ := bind_eq_ok hok
  cases req with
  | set recipe =>
    obtain ⟨_, _, hset⟩ := bind_eq_ok hanswer
    cases hset
    exact unlisted_envelope .full _ hsession
  | clear id | list =>
    cases hanswer
    exact unlisted_envelope .full _ hsession

lemma unlisted_handleSubscribe (params : Params SubscribeRequest) :
    Unlisted (handleSubscribe session params) := by
  refine unlisted_request hsession fun req body session' hok => ?_
  obtain ⟨_, _, hanswer⟩ := bind_eq_ok hok
  cases hanswer
  exact unlisted_envelope .full _ hsession

lemma unlisted_handleUnsubscribe (params : Params UnsubscribeRequest) :
    Unlisted (handleUnsubscribe session params, session) := by
  unfold handleUnsubscribe
  split
  · exact unlisted_error hsession _
  · exact unlisted_envelope .full _ hsession

lemma unlisted_handleViewDefine (params : Params ViewDefineRequest) :
    Unlisted (handleViewDefine session params) := by
  refine unlisted_request hsession fun req body session' hok => ?_
  obtain ⟨_, _, hanswer⟩ := bind_eq_ok hok
  split at hanswer
  · cases hanswer
  · cases hanswer
    exact unlisted_envelope .full _ hsession

lemma unlisted_handleProbe (params : Params ProbeRequest) (registry : ProbeRegistry)
    (parseError : String → String) :
    Unlisted ((handleProbe session params registry parseError).1, session) := by
  have hresponse : ∀ {α : Type} (probeId : α → Option String)
      (result : Except RegistryError α × ProbeRegistry),
      Unlisted ((probeResponse session parseError probeId result).1, session) := by
    rintro α probeId ⟨failure | value, registry'⟩
    · cases failure <;> exact unlisted_error hsession _
    · exact unlisted_envelope .full _ hsession
  unfold handleProbe
  split
  · exact unlisted_error hsession _
  · unfold withParams
    split
    · exact unlisted_error hsession _
    next req _ => cases req <;> exact hresponse _ _

end Handlers

/-! ## Requests -/

lemma unlisted_conclude (d : DaemonState T) (hanswered : Unlisted answered) :
    Unlisted ((d.conclude answered).1, (d.conclude answered).2.session) :=
  hanswered

section Requests

variable (env : Env T) {d : DaemonState T} (hsession : d.session.state.activeProbes = [])

include hsession

lemma unlisted_handleAttachRequest (params : Params AttachRequest) :
    let handled := handleAttachRequest env d params
    Unlisted (handled.1, handled.2.session) := by
  have hattach : ∀ params backend,
      Unlisted (handleAttach d.session params backend env.uuid) := fun params backend =>
    unlisted_handleAttach hsession params backend env.uuid
  unfold handleAttachRequest
  dsimp only
  split
  · split
    · exact unlisted_error hsession _
    · split
      · exact unlisted_conclude d (hattach _ _)
      · split
        next hfail => exact hfail ▸ hattach _ _
        next hok =>
          have hattached := hok ▸ hattach _ _
          exact ⟨hattached.session, hattached.body⟩
  · exact unlisted_conclude d (hattach _ _)

lemma unlisted_handleDetachRequest :
    Unlisted ((handleDetachRequest d).1, (handleDetachRequest d).2.session) := by
  have hdetach := unlisted_handleDetach hsession
  unfold handleDetachRequest
  split
  next hok => exact hok ▸ hdetach
  next hfail => exact hfail ▸ hdetach

lemma activeProbes_stepTried (step : StepParams) :
    (stepTried env d step).2.session.state.activeProbes = [] := by
  unfold stepTried
  split
  · unfold tryBackwardStep
    dsimp only
    split
    next worker handle _ _ =>
      have hsaved :
          (takeSubCheckpoint env d.session worker handle).1.state.activeProbes = [] := by
        obtain ⟨_, hsaved⟩ := session_takeSubCheckpoint env d.session worker handle
        rw [hsaved]
        exact hsession
      split
      · exact hsaved
      · exact hsaved
    · exact hsession
  · unfold tryOrchestratorStep
    split
    · exact hsession
    · exact hsession

lemma activeProbes_takeAutoCheckpoint (position : TickPosition) :
    (takeAutoCheckpoint env d position).session.state.activeProbes = [] := by
  unfold takeAutoCheckpoint
  split
  · split
    · exact hsession
    · dsimp only
      split
      · exact hsession
      · exact hsession
  · exact hsession

lemma unlisted_finishStepRequest (host : Option HostStepResponse) :
    let handled := finishStepRequest env params (host, d)
    Unlisted (handled.1, handled.2.session) := by
  have hanswered := unlisted_conclude d (unlisted_handleStep hsession params host)
  unfold finishStepRequest
  dsimp only
  split
  next hok =>
    refine ⟨activeProbes_takeAutoCheckpoint env hanswered.session _, fun body hbody => ?_⟩
    exact hanswered.body body (hok.trans hbody)
  · exact hanswered

lemma unlisted_handleStepRequest (step : StepParams) :
    let handled := handleStepRequest env d step
    Unlisted (handled.1, handled.2.session) := by
  have htried := activeProbes_stepTried env hsession step
  unfold stepTried at htried
  unfold handleStepRequest
  dsimp only
  split
  next hbackward =>
    rw [if_pos hbackward] at htried
    split
    · exact unlisted_error htried _
    · exact unlisted_finishStepRequest env htried _
  next hforward =>
    rw [if_neg hforward] at htried
    exact unlisted_finishStepRequest env htried _

lemma unlisted_handleProbeRequest (params : Params ProbeRequest) :
    let handled := handleProbeRequest env d params
    Unlisted (handled.1, handled.2.session) := by
  have hstored : (storeGranularity d params).session.state.activeProbes = [] := by
    unfold storeGranularity
    split
    · exact hsession
    · exact hsession
  have hprobed := unlisted_handleProbe hstored params (storeGranularity d params).probeRegistry
    env.parseError
  unfold handleProbeRequest
  dsimp only
  split
  next hok =>
    refine ⟨?_, fun body hbody => hprobed.body body (hok.trans hbody)⟩
    unfold propagateProbes
    split
    · exact hstored
    · exact hstored
  · exact unlisted_error hstored _

/-- No request that the daemon answers itself lists an active probe. -/
lemma unlisted_handleRequest (hrequest : request ≠ .query) :
    let handled := handleRequest env d request
    Unlisted (handled.1, handled.2.session) := by
  cases request with
  | unparsable message | unknown method => exact unlisted_error hsession _
  | initialize_ params =>
    exact unlisted_conclude d (unlisted_handleInitialize hsession params env.uuid)
  | attach params => exact unlisted_handleAttachRequest env hsession params
  | detach => exact unlisted_handleDetachRequest hsession
  | status => exact unlisted_handleStatus hsession
  | step params => exact unlisted_handleStepRequest env hsession params
  | replay params =>
    have htried : (tryOrchestratorReplay env d params).2.session.state.activeProbes = [] := by
      unfold tryOrchestratorReplay
      split
      · exact hsession
      · exact hsession
    exact unlisted_conclude _ (unlisted_handleReplay htried params _)
  | checkpoint params =>
    have hcheckpoint := unlisted_checkpointSession hsession params env.uuid
    rw [← session_handleCheckpoint env d params] at hcheckpoint
    exact hcheckpoint
  | probe params => exact unlisted_handleProbeRequest env hsession params
  | intervene params => exact unlisted_conclude d (unlisted_handleIntervene hsession params)
  | subscribe params =>
    have hsubscribed := unlisted_handleSubscribe hsession params
    unfold handleRequest
    dsimp only
    split
    next hok =>
      exact ⟨hsubscribed.session, fun body hbody => hsubscribed.body body (hok.trans hbody)⟩
    · exact unlisted_error hsubscribed.session _
  | unsubscribe params => exact unlisted_handleUnsubscribe hsession params
  | viewDefine params => exact unlisted_conclude d (unlisted_handleViewDefine hsession params)
  | query => exact absurd rfl hrequest

end Requests

/-! ## Queries -/

/-- A response that lists no active probe. -/
def UnlistedResponse (response : LoopResponse) : Prop :=
  ∀ body, response = .ok body → ListsNone body.envelope

lemma unlistedResponse_error (error : RpcError) : UnlistedResponse (.error error) :=
  fun _ hbody => nomatch hbody

lemma unlistedResponse_withSession {handle : α → LoopResponse}
    (hhandle : ∀ req, UnlistedResponse (handle req)) :
    UnlistedResponse (withSession session method empty params handle) := by
  unfold withSession
  split
  · exact unlistedResponse_error _
  · split
    · exact unlistedResponse_error _
    · exact hhandle _

lemma unlistedResponse_forwardQuery {d : DaemonState T} {call : ℕ → α → RawReply R}
    (hhandle : ∀ hostResponse, UnlistedResponse (handle hostResponse)) :
    UnlistedResponse (forwardQuery d params call handle) := by
  unfold forwardQuery
  split
  · split
    · exact unlistedResponse_error _
    · exact hhandle _
  · exact hhandle _

section Queries

variable {session : Session} (hsession : session.state.activeProbes = [])

include hsession

lemma unlistedResponse_envelopeOf (mode : EnvelopeMode) (data : LoopData) :
    UnlistedResponse (.ok ⟨session.envelopeOf mode, data⟩) := by
  intro body hbody
  cases hbody
  exact listsNone_envelopeOf hsession mode

lemma unlistedResponse_handleView (params : Params ViewRequest)
    (hostResponse : Option ViewResponse) :
    UnlistedResponse (handleView session params hostResponse) := by
  refine unlistedResponse_withSession fun req => ?_
  cases hostResponse with
  | none => exact unlistedResponse_error _
  | some response => exact unlistedResponse_envelopeOf hsession _ _

lemma unlistedResponse_handleKvRead (params : Params KvReadRequest)
    (hostResponse : Option HostKvReadResponse) :
    UnlistedResponse (handleKvRead session params hostResponse) := by
  refine unlistedResponse_withSession fun req => ?_
  cases hostResponse with
  | none => exact unlistedResponse_error _
  | some host =>
    dsimp only
    split
    · exact unlistedResponse_error _
    · exact unlistedResponse_envelopeOf hsession .full _

lemma unlistedResponse_handleKvIntervene (params : Params KvInterveneRequest)
    (hostResponse : Option KvInterveneResponse) :
    UnlistedResponse (handleKvIntervene session params hostResponse) := by
  refine unlistedResponse_withSession fun req => ?_
  split
  · exact unlistedResponse_error _
  · cases hostResponse with
    | none => exact unlistedResponse_error _
    | some response => exact unlistedResponse_envelopeOf hsession .full _

lemma unlistedResponse_handleDiscover (params : Params DiscoverRequest) :
    UnlistedResponse (handleDiscover session params) := by
  unfold handleDiscover
  split
  · exact unlistedResponse_error _
  · split
    · exact unlistedResponse_error _
    · exact unlistedResponse_envelopeOf hsession .full _

lemma unlistedResponse_handleExport (env : ExportEnv) (params : Params ExportRequest)
    (store : TensorStore) (modelHandle : ℕ) (traced : Bool) :
    UnlistedResponse (handleExport env session params store modelHandle traced).1 := by
  unfold handleExport
  split
  · exact unlistedResponse_error _
  · split
    · exact unlistedResponse_error _
    · unfold exportSession
      dsimp only
      split
      · exact unlistedResponse_error _
      · split
        · exact unlistedResponse_error _
        · exact unlistedResponse_envelopeOf hsession .full _

end Queries

/-! ## Turns -/

/-- A turn that lists no active probe in what it writes or leaves. -/
structure Turn.Unlisted (taken : Turn T) : Prop where
  session : taken.state.daemon.session.state.activeProbes = []
  written : ∀ body, .ok body ∈ taken.written → ListsNone body.envelope

section Turns

variable (lib : InspectLibrary) {st : LoopState T}
  (hsession : st.daemon.session.state.activeProbes = []) (env : LoopEnv T)

include hsession

lemma unlisted_crash (message : String) : (Turn.crash message st).Unlisted :=
  ⟨hsession, fun _ hbody => absurd hbody not_mem_nil⟩

lemma unlisted_reply (hresponse : UnlistedResponse response) :
    (Turn.reply response st).Unlisted :=
  ⟨hsession, fun body hbody => hresponse body (mem_singleton.mp hbody).symm⟩

lemma unlisted_plainTurn (hrequest : request ≠ .query) :
    (plainTurn env st request).Unlisted := by
  cases hoverflows : overflows env.main st.daemon request with
  | true =>
    unfold plainTurn
    rw [hoverflows]
    exact unlisted_crash hsession _
  | false =>
    have hhandled := unlisted_handleRequest env.main hsession hrequest
    obtain ⟨rewired, hrewired, hwritten, hstate, _⟩ := plainTurn_of_not_overflows hoverflows
    refine ⟨?_, fun body hbody => ?_⟩
    · rw [hstate, (rewire_kept hrewired).1]
      exact hhandled.session
    · rw [hwritten, mem_singleton] at hbody
      revert hbody
      cases hresponse : (handleRequest env.main st.daemon request).1 with
      | error error => exact fun hbody => nomatch hbody
      | ok answer =>
        intro hbody
        cases hbody
        exact hhandled.body answer hresponse

lemma unlisted_inspectTurn (params : Params InspectRequest) :
    (inspectTurn lib env st params).Unlisted := by
  have hdaemon := @daemon_inspectRequest T lib env.inspect st.toInspectState params
  unfold inspectTurn
  split
  · exact unlisted_crash hsession _
  next hrejected =>
    rw [hrejected] at hdaemon
    refine unlisted_reply ?_ (unlistedResponse_error _)
    rw [hdaemon]
    exact hsession
  next hanswered =>
    rw [hanswered] at hdaemon
    rw [hdaemon]
    refine unlisted_reply ?_ (unlistedResponse_envelopeOf hsession _ _)
    rw [hdaemon]
    exact hsession

lemma unlisted_exportTurn (params : Params ExportRequest) :
    (exportTurn env st params).Unlisted := by
  unfold exportTurn
  split
  · exact unlisted_crash hsession _
  · exact unlisted_crash hsession _
  next modelHandle _ _ =>
    have hexported := unlistedResponse_handleExport hsession env.exporting params st.store
      modelHandle st.perfetto.isSome
    exact ⟨hsession, (unlisted_reply hsession hexported).written⟩

lemma unlisted_turn (request : LoopRequest) :
    (turn lib env st request).Unlisted := by
  cases request with
  | plain request => exact unlisted_plainTurn hsession env request.2
  | inspect params => exact unlisted_inspectTurn lib hsession env params
  | view params =>
    exact unlisted_reply hsession
      (unlistedResponse_forwardQuery (unlistedResponse_handleView hsession params))
  | kvRead params =>
    exact unlisted_reply hsession
      (unlistedResponse_forwardQuery (unlistedResponse_handleKvRead hsession params))
  | kvIntervene params =>
    exact unlisted_reply hsession
      (unlistedResponse_forwardQuery (unlistedResponse_handleKvIntervene hsession params))
  | discover params =>
    exact unlisted_reply hsession (unlistedResponse_handleDiscover hsession params)
  | exportSession params => exact unlisted_exportTurn hsession env params

end Turns

/-! ## Runs -/

/-- No run fills the list of active probes. -/
lemma activeProbes_foldl_turned (lib : InspectLibrary)
    (actions : List (LoopEnv T × LoopRequest)) :
    (actions.foldl (turned lib) .start).daemon.session.state.activeProbes = [] :=
  foldlRecOn (motive := fun st : LoopState T => st.daemon.session.state.activeProbes = [])
    actions _ rfl fun _ hsession action _ =>
      (unlisted_turn lib hsession action.1 action.2).session

/-- A state of a session lists exactly the enabled probes while a model is attached, and none
otherwise. -/
def ListsActive (d : DaemonState T) (state : SessionState) : Prop :=
  ∀ id, id ∈ state.activeProbes ↔ d.attached.isSome = true ∧ id ∈ d.probeRegistry.activeProbeIds

/-- After any run, an envelope with the whole state lists the enabled probes exactly when there are
none to list. -/
theorem listsActive_iff (lib : InspectLibrary) (actions : List (LoopEnv T × LoopRequest))
    (env : LoopEnv T) (request : LoopRequest) {body : LoopBody} {state : SessionState}
    (hbody : .ok body ∈ (turn lib env (actions.foldl (turned lib) .start) request).written)
    (hfull : body.envelope = .full state) :
    let after := (turn lib env (actions.foldl (turned lib) .start) request).state.daemon
    ListsActive after state ↔
      (after.attached.isSome = true → after.probeRegistry.activeProbeIds = []) := by
  have hnone : state.activeProbes = [] :=
    (unlisted_turn lib (activeProbes_foldl_turned lib actions) env request).written body hbody state
      hfull
  intro after
  constructor
  · intro hlists hattached
    refine eq_nil_iff_forall_not_mem.mpr fun id hid => ?_
    have hlisted := (hlists id).mpr ⟨hattached, hid⟩
    rw [hnone] at hlisted
    exact not_mem_nil hlisted
  · intro hidle id
    rw [hnone]
    refine ⟨fun hlisted => absurd hlisted not_mem_nil, fun ⟨hattached, hid⟩ => ?_⟩
    rw [hidle hattached] at hid
    exact hid

/-- Some response shows a whole state that passes a test. -/
def Turn.shows (taken : Turn T) (test : SessionState → Bool) : Bool :=
  taken.written.any fun response =>
    match response with
    | .ok ⟨.full state, _⟩ => test state
    | _ => false

lemma exists_of_shows {taken : Turn T} (hshows : taken.shows test = true) :
    ∃ body state, .ok body ∈ taken.written ∧ body.envelope = .full state ∧ test state = true := by
  obtain ⟨response, hmem, htest⟩ := any_eq_true.mp hshows
  split at htest
  · exact ⟨_, _, hmem, rfl, htest⟩
  · cases htest

/-- Nothing is missing from the list while no probe is defined. -/
theorem listsActive_status :
    let taken := turn plainLibrary (.calm "q") (attachTurns.foldl (turned plainLibrary) .start)
      (.plain ⟨.status, nofun⟩)
    ∃ body state, .ok body ∈ taken.written ∧ body.envelope = .full state ∧
      ListsActive taken.state.daemon state := by
  intro taken
  have hshows : taken.shows (fun _ => true) = true := by decide +kernel
  obtain ⟨body, state, hbody, hfull, _⟩ := exists_of_shows hshows
  refine ⟨body, state, hbody, hfull, ?_⟩
  exact (listsActive_iff plainLibrary attachTurns _ (.plain ⟨.status, nofun⟩) hbody
    hfull).mpr fun _ => by decide +kernel

/-- The response to the definition of a probe does not list it. -/
theorem not_listsActive_define :
    let taken := turn plainLibrary (.calm "p") (attachTurns.foldl (turned plainLibrary) .start)
      (.plain ⟨.probe (.valid (.define ⟨"p", "llama:0:0:mlp:0:output", .capture, true, 0⟩)), nofun⟩)
    ∃ body state, .ok body ∈ taken.written ∧ body.envelope = .full state ∧
      taken.state.daemon.attached.isSome = true ∧
      "p" ∈ taken.state.daemon.probeRegistry.activeProbeIds ∧ state.activeProbes = [] ∧
      ¬ ListsActive taken.state.daemon state := by
  intro taken
  have hshows : taken.shows (fun state => state.activeProbes = []) = true := by decide +kernel
  have hattached : taken.state.daemon.attached.isSome = true := by decide +kernel
  have henabled : "p" ∈ taken.state.daemon.probeRegistry.activeProbeIds := by decide +kernel
  obtain ⟨body, state, hbody, hfull, hnone⟩ := exists_of_shows hshows
  have hnone : state.activeProbes = [] := of_decide_eq_true hnone
  refine ⟨body, state, hbody, hfull, hattached, henabled, hnone, fun hlists => ?_⟩
  have hlisted := (hlists "p").mpr ⟨hattached, henabled⟩
  rw [hnone] at hlisted
  exact not_mem_nil hlisted

end RocketSurgeon.Daemon
