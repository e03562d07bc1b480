import RocketSurgeon.Daemon.Loop
import RocketSurgeon.Daemon.Notifications
import RocketSurgeon.Daemon.Reattach
import RocketSurgeon.Daemon.TraceLog

/-!
# What is left of a model

A model is detached and another one attached.  The daemon then ought to be in the state of one that
was started for the second model.  Detaching clears what the session records about the model and
drops ring and trace, and attaching brings a fresh worker.  But the worldline, the estimate of how
full the arena is and the event filter are kept by the session, and the probes, the granularity
scopes, the stored tensors, the switch of the event stream, the number of its next event and the log
of messages are variables of the main loop that nothing resets.
-/

namespace RocketSurgeon.Daemon

open Lib Protocol Probes Worker

variable {T : Type} {lib : InspectLibrary}

/-! ## All variables of the main loop -/

inductive Message
  | inbound (request : LoopRequest)
  | outbound (response : LoopResponse)

structure MainState (T : Type) extends LoopState T where
  notificationSeq : ℕ
  traceLog : TraceLog Message

def MainState.start : MainState T := ⟨.start, 0, .new⟩

/-- A request, the world while it is served, and how often a heartbeat was due before it came. -/
structure MainAction (T : Type) where
  env : LoopEnv T
  heartbeats : ℕ
  request : LoopRequest

-- Of the events only what the filter reads is kept.
def heartbeat : Notification := ⟨"tick.heartbeat", none, none, none, fun _ => ""⟩

def tickStopped (position : Option TickPosition) : Notification where
  method := "tick.stopped"
  layer := some (position.elim 0 TickPosition.layer)
  component := some (position.elim "" TickPosition.component)
  point := none
  text := fun _ => ""

def probeFired (event : ProbeFiredEvent) : Notification :=
  ⟨"probe.fired", none, none, some event.point, fun _ => ""⟩

/-- The counter of events after some have been sent, while they are enabled. -/
def notified (d : DaemonState T) (events : List Notification) (seq : ℕ) : ℕ :=
  if d.eventsEnabled then
    (events.foldl (fun stream event =>
      sendNotificationFiltered stream event d.session.eventFilter) ([], seq)).2
  else seq

/-- What is sent once a request has been answered. -/
def answeredEvents (env : LoopEnv T) (before after : DaemonState T) (written : List LoopResponse) :
    LoopRequest → List Notification
  | .plain ⟨.step step, _⟩ =>
      if written.any Except.isOk then
        tickStopped after.session.state.position ::
          (((stepTried env.main before step).1.map HostStepResponse.events).getD []).map probeFired
      else []
  | _ => []

/-- One turn, with the events and the log. -/
def mainTurn (lib : InspectLibrary) (st : MainState T) (action : MainAction T) : MainState T :=
  let turned := turn lib action.env st.toLoopState action.request
  let seq := notified st.daemon (List.replicate action.heartbeats heartbeat) st.notificationSeq
  { toLoopState := turned.state
    notificationSeq := notified turned.state.daemon
      (answeredEvents action.env st.daemon turned.state.daemon turned.written action.request) seq
    traceLog := (turned.written.map .outbound).foldl .record
      (st.traceLog.record (.inbound action.request)) }

def mainRun (lib : InspectLibrary) (run : List (MainAction T)) : MainState T :=
  run.foldl (mainTurn lib) .start

/-! ## What can be seen of a daemon -/

/-- The state that the client and later requests see, without the identifiers that were drawn for
it. -/
@[ext]
structure Visible (T : Type) where
  state : SessionState
  catalog : List ProbePointEntry
  definedViews : List (String × String)
  eventFilter : Option SubscribeFilter
  checkpointPositions : List (String × TickPosition)
  interventions : List InterventionRecipe
  autoCheckpointLayers : List ℕ
  arenaUtilization : ℚ
  worker : Option (WorkerState T)
  modelHandle : Option ℕ
  probes : List ProbeDefinition
  granularityScopes : List GranularityScope
  eventsEnabled : Bool
  tensors : List (String × StoredTensor)
  notificationSeq : ℕ

/-- What is seen of a daemon with some stored tensors that has sent some events. -/
def visibleOf (d : DaemonState T) (tensors : List (String × StoredTensor)) (notificationSeq : ℕ) :
    Visible T where
  state := { d.session.state with
    sessionId := ""
    modelId := d.session.state.modelId.map fun _ => "" }
  catalog := d.session.catalog
  definedViews := d.session.definedViews
  eventFilter := d.session.eventFilter
  checkpointPositions := d.session.checkpointPositions
  interventions := d.session.interventions
  autoCheckpointLayers := d.session.autoCheckpointLayers
  arenaUtilization := d.session.arenaUtilization
  worker := d.orchestrator
  modelHandle := d.modelHandle
  probes := d.probeRegistry.list
  granularityScopes := d.granularityScopes
  eventsEnabled := d.eventsEnabled
  tensors
  notificationSeq

def MainState.visible (st : MainState T) : Visible T :=
  visibleOf st.daemon st.store.entries st.notificationSeq

/-- Nothing has been left behind in what detaching does not reset. -/
structure Unmarked (d : DaemonState T) (tensors : List (String × StoredTensor))
    (notificationSeq : ℕ) : Prop where
  worldline : d.session.state.worldline = ⟨0, []⟩
  arenaUtilization : d.session.arenaUtilization = 0
  eventFilter : d.session.eventFilter = none
  probes : d.probeRegistry.list = []
  granularityScopes : d.granularityScopes = []
  eventsEnabled : d.eventsEnabled = false
  tensors : tensors = []
  notificationSeq : notificationSeq = 0

/-- What is seen of a daemon that has attached again is what is seen of a new one, except for what
was left behind. -/
lemma visibleOf_attachedState_iff (d : DaemonState T) (tensors : List (String × StoredTensor))
    (seq : ℕ) (req : AttachRequest) (backend : Backend) (uuid freshUuid sessionId : String) :
    visibleOf (attachedState (detachedState d) req backend uuid) tensors seq =
      visibleOf (attachedState (initializedState sessionId) req backend freshUuid) [] 0 ↔
        Unmarked d tensors seq := by
  constructor
  · intro hsame
    exact ⟨congrArg (fun seen => seen.state.worldline) hsame,
      congrArg Visible.arenaUtilization hsame, congrArg Visible.eventFilter hsame,
      congrArg Visible.probes hsame, congrArg Visible.granularityScopes hsame,
      congrArg Visible.eventsEnabled hsame, congrArg Visible.tensors hsame,
      congrArg Visible.notificationSeq hsame⟩
  · rintro ⟨hworldline, hutilization, hfilter, hprobes, hscopes, hevents, htensors, hseq⟩
    refine Visible.ext ?_ rfl rfl hfilter rfl rfl rfl hutilization rfl rfl hprobes hscopes hevents
      htensors hseq
    show SessionState.mk _ _ _ _ _ _ _ _ d.session.state.worldline = _
    rw [hworldline]
    rfl

/-! ## Turns that succeed -/

/-- The action is a request that is served with success. -/
structure MainAction.Serves (action : MainAction T) (st : MainState T) (request : ClientRequest) :
    Prop where
  sent : ∃ hplain, action.request = .plain ⟨request, hplain⟩
  isOk : (handleRequest action.env.main st.daemon request).1.isOk = true

variable {st : MainState T} {action : MainAction T} {request : ClientRequest}

lemma mainTurn_of_sent (hsent : ∃ hplain, action.request = .plain ⟨request, hplain⟩)
    (hfits : overflows action.env.main st.daemon request = false) :
    (mainTurn lib st action).daemon = (handleRequest action.env.main st.daemon request).2 ∧
      (mainTurn lib st action).store = st.store ∧
      (turn lib action.env st.toLoopState action.request).written.length = 1 := by
  obtain ⟨hplain, hsent⟩ := hsent
  obtain ⟨rewired, hrewired, hwritten, hstate, -⟩ := plainTurn_of_not_overflows hfits
  obtain ⟨hdaemon, hstore⟩ := rewire_kept hrewired
  unfold mainTurn
  rw [hsent]
  show (plainTurn action.env st.toLoopState request).state.daemon = _ ∧
    (plainTurn action.env st.toLoopState request).state.store = _ ∧
    (plainTurn action.env st.toLoopState request).written.length = 1
  rw [hstate, hwritten]
  exact ⟨hdaemon, hstore, rfl⟩

lemma notificationSeq_mainTurn (hbefore : st.daemon.eventsEnabled = false)
    (hafter : (mainTurn lib st action).daemon.eventsEnabled = false) :
    (mainTurn lib st action).notificationSeq = st.notificationSeq := by
  have hquiet : ∀ {d : DaemonState T} {events seq}, d.eventsEnabled = false →
      notified d events seq = seq := by
    intro d events seq hoff
    rw [notified, hoff, if_neg Bool.false_ne_true]
  exact (hquiet hafter).trans (hquiet hbefore)

/-! ## The log -/

/-- The log has recorded some number of messages. -/
def Logged (st : MainState T) (count : ℕ) : Prop :=
  ∃ history : List Message, history.length = count ∧ st.traceLog = history.foldl .record .new

lemma Logged.turn (hlogged : Logged st count) : Logged (mainTurn lib st action)
    (count + 1 + (Daemon.turn lib action.env st.toLoopState action.request).written.length) := by
  obtain ⟨history, rfl, hlog⟩ := hlogged
  refine ⟨history ++ .inbound action.request :: (Daemon.turn lib action.env st.toLoopState
    action.request).written.map .outbound, by simp [Nat.add_assoc, Nat.add_comm 1], ?_⟩
  rw [List.foldl_append, ← hlog]
  rfl

lemma Logged.run (hlogged : Logged st count) (run : List (MainAction T)) :
    ∃ total, count + run.length ≤ total ∧ Logged (run.foldl (mainTurn lib) st) total := by
  induction run generalizing st count with
  | nil => exact ⟨count, le_rfl, hlogged⟩
  | cons action run ih =>
    obtain ⟨total, hle, htotal⟩ := ih (@Logged.turn T lib st action count hlogged)
    refine ⟨total, ?_, htotal⟩
    rw [List.length_cons]
    omega

lemma Logged.length (hlogged : Logged st count) :
    st.traceLog.entries.length = min count TraceLog.defaultMaxEntries := by
  obtain ⟨history, rfl, hlog⟩ := hlogged
  rw [hlog, TraceLog.foldl_record, List.length_drop]
  omega

/-! ## Detaching, then attaching -/

/-- **After any run, detaching and attaching lead to the state of a new daemon exactly if nothing was
left behind before.**  The log of messages is always left behind. -/
theorem visible_reattach_iff (lib : InspectLibrary) (run : List (MainAction T))
    {detach attach init fresh : MainAction T} {initParams : Params InitializeRequest}
    {params : Params AttachRequest} (hdetach : detach.Serves (mainRun lib run) .detach)
    (hattach : attach.Serves (mainRun lib (run ++ [detach])) (.attach params))
    (hinit : init.Serves .start (.initialize_ initParams))
    (hrequest : fresh.request = attach.request)
    (hhost : fresh.env.main.backend = attach.env.main.backend) :
    ((mainRun lib (run ++ [detach, attach])).visible = (mainRun lib [init, fresh]).visible ↔
      Unmarked (mainRun lib run).daemon (mainRun lib run).store.entries
        (mainRun lib run).notificationSeq) ∧
    (mainRun lib [init, fresh]).traceLog.entries.length <
      (mainRun lib (run ++ [detach, attach])).traceLog.entries.length := by
  have hrun : run ≠ [] := by
    rintro rfl
    exact Bool.false_ne_true hdetach.isOk
  obtain ⟨count, hcount, hlogged⟩ := @Logged.run T lib .start 0 ⟨[], rfl, rfl⟩ run
  unfold mainRun at *
  rw [List.foldl_append] at hattach ⊢
  simp only [List.foldl_cons, List.foldl_nil] at hattach ⊢
  generalize hst : run.foldl (mainTurn lib) .start = st at *
  -- The three requests that are known to succeed.
  obtain ⟨hdetached, hstore, hanswer⟩ := @mainTurn_of_sent T lib st detach _ hdetach.sent rfl
  replace hdetached := hdetached.trans (handleDetachRequest_of_isOk hdetach.isOk)
  obtain ⟨req, backend, rfl, hvalid, hbackend, hmetadata⟩ := valid_of_handleAttachRequest hattach.isOk
  obtain ⟨hattached, hstore', hanswer'⟩ := @mainTurn_of_sent T lib (mainTurn lib st detach) attach _
    hattach.sent rfl
  replace hattached := hattached.trans (handleAttachRequest_of_valid hvalid hbackend hmetadata)
  obtain ⟨hinitialized, hinitStore, hinitAnswer⟩ := @mainTurn_of_sent T lib .start init _ hinit.sent
    rfl
  replace hinitialized := hinitialized.trans (initialize_of_isOk hinit.isOk)
  -- The new daemon accepts the attach too: it has the same status and no model either.
  rw [hdetached] at hvalid hattached
  obtain ⟨hfresh, hfreshStore, hfreshAnswer⟩ := @mainTurn_of_sent T lib (mainTurn lib .start init)
    fresh _ (by rw [hrequest]; exact hattach.sent) rfl
  replace hfresh := hfresh.trans (handleAttachRequest_of_valid
    (by rw [hinitialized]; exact (validateAttach_congr req rfl rfl).trans hvalid)
    (hhost.trans hbackend) hmetadata)
  rw [hinitialized] at hfresh
  have hfreshSeq : (mainTurn lib (mainTurn lib .start init) fresh).notificationSeq = 0 :=
    (notificationSeq_mainTurn (by rw [hinitialized]; rfl) (by rw [hfresh]; rfl)).trans
      (notificationSeq_mainTurn rfl (by rw [hinitialized]; rfl))
  have hseq (hoff : st.daemon.eventsEnabled = false) :
      (mainTurn lib (mainTurn lib st detach) attach).notificationSeq = st.notificationSeq :=
    (notificationSeq_mainTurn (by rw [hdetached]; exact hoff) (by rw [hattached]; exact hoff)).trans
      (notificationSeq_mainTurn hoff (by rw [hdetached]; exact hoff))
  constructor
  · unfold MainState.visible
    rw [hattached, hstore', hstore, hfresh, hfreshStore, hinitStore, hfreshSeq]
    refine (visibleOf_attachedState_iff _ _ _ req backend _ _ _).trans ⟨fun hunmarked => ?_,
      fun hunmarked => ?_⟩
    · exact hseq hunmarked.eventsEnabled ▸ hunmarked
    · exact (hseq hunmarked.eventsEnabled).symm ▸ hunmarked
  · have hlog := (@Logged.turn T lib _ attach _ (@Logged.turn T lib _ detach _ hlogged)).length
    have hfreshLog := (@Logged.turn T lib _ fresh _
      (@Logged.turn T lib .start init 0 ⟨[], rfl, rfl⟩)).length
    rw [hlog, hfreshLog, hanswer, hanswer', hinitAnswer, hfreshAnswer]
    have hsome := List.length_pos_iff.mpr hrun
    have hroom : 5 ≤ TraceLog.defaultMaxEntries := by decide
    generalize TraceLog.defaultMaxEntries = room at hroom ⊢
    omega

/-- A request in a calm world. -/
def calmly (uuid : String) (request : PlainRequest) : MainAction Unit :=
  ⟨.calm uuid, 0, .plain request⟩

/-- Attach, and define a probe. -/
def probedMainRun : List (MainAction Unit) :=
  [calmly "s" ⟨initializeRequest, initializeRequest_ne_query⟩,
    calmly "m" ⟨attachRequest, attachRequest_ne_query⟩,
    calmly "p" ⟨.probe (.valid (.define ⟨"p", "llama:0:0:mlp:0:output", .capture, true, 0⟩)), nofun⟩]

def detachAction : MainAction Unit := calmly "d" ⟨.detach, nofun⟩

def attachAction : MainAction Unit := calmly "n" ⟨attachRequest, attachRequest_ne_query⟩

def initAction : MainAction Unit :=
  calmly "t" ⟨initializeRequest, initializeRequest_ne_query⟩

/-- The probe of the first model is registered while the second one is attached. -/
theorem not_visible_probedRun :
    detachAction.Serves (mainRun plainLibrary probedMainRun) .detach ∧
      attachAction.Serves (mainRun plainLibrary (probedMainRun ++ [detachAction])) attachRequest ∧
      (mainRun plainLibrary (probedMainRun ++ [detachAction, attachAction])).visible ≠
        (mainRun plainLibrary [initAction, attachAction]).visible := by
  refine ⟨⟨⟨_, rfl⟩, by decide +kernel⟩, ⟨⟨_, rfl⟩, by decide +kernel⟩, fun hsame => ?_⟩
  exact absurd (congrArg Visible.probes hsame) (by decide +kernel)

/-- Nothing is left behind by a probe that was removed again and a step. -/
theorem visible_reattach_removed :
    (mainRun plainLibrary (probedMainRun ++ [calmly "r" ⟨.probe (.valid (.remove "p")), nofun⟩,
        calmly "f" ⟨stepRequest .forward 1, nofun⟩] ++ [detachAction, attachAction])).visible =
      (mainRun plainLibrary [initAction, attachAction]).visible :=
  (visible_reattach_iff plainLibrary _ ⟨⟨_, rfl⟩, by decide +kernel⟩
    ⟨⟨_, rfl⟩, by decide +kernel⟩ ⟨⟨_, rfl⟩, by decide +kernel⟩ rfl rfl).1.mpr
    ⟨by decide +kernel, by decide +kernel, rfl, by decide +kernel, rfl, rfl, rfl, rfl⟩

end RocketSurgeon.Daemon
