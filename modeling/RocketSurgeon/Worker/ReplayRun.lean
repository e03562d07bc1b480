import RocketSurgeon.Lib.Result
import RocketSurgeon.Worker.Healthy

/-!
# What a replay receives

A replay without a stop point that succeeds has received its pass to the end:
`runReplayLoop_of_ok` says which events it saw and where it left the clock.  The
pass is the one the model makes of the default input, whatever input the
checkpoint's own pass was started on.  And it is the whole pass only on a model
without the hooks of earlier passes, which a replay itself does not remove: with
such hooks it sees the events of the first module and then waits in vain.
-/

namespace RocketSurgeon.Worker

open Lib Protocol Probes

variable {T : Type}

/-- The events of a pass up to its completion. -/
def passEvents : List (MailItem T) → List (HookEvent T)
  | .hook event :: rest => event :: passEvents rest
  | _ => []

@[simp] lemma passEvents_append_forwardComplete (events : List (HookEvent T))
    (tail : List (MailItem T)) :
    passEvents (events.map MailItem.hook ++ .forwardComplete :: tail) = events := by
  induction events with
  | nil => rfl
  | cons ev events ih => simp only [List.map_cons, List.cons_append, passEvents, ih]

lemma exists_passEvents_append (items behind : List (MailItem T)) :
    ∃ more, passEvents (items ++ behind) = passEvents items ++ more := by
  induction items with
  | nil => exact ⟨_, rfl⟩
  | cons item items ih =>
    obtain ⟨more, hmore⟩ := ih
    cases item with
    | forwardComplete => exact ⟨[], rfl⟩
    | hook event => exact ⟨more, congrArg _ hmore⟩

section Loop

variable {bridge : Bridge T} {st : WorkerState T} {req : HostReplayRequest}
  {response : HostReplayResponse}

/-- A loop that succeeds without a stop point has received a pass to its completion: every event
is seen and ticks the clock once. -/
lemma replayLoop_of_ok (hstop : req.stopAt = none)
    (hok : (replayLoop bridge st handle req preReplayTick items cursor).result = .ok complete) :
    let ended := replayLoop bridge st handle req preReplayTick items cursor
    (∃ tail, items = (passEvents items).map MailItem.hook ++ .forwardComplete :: tail) ∧
      ended.cursor.progress.seen = cursor.progress.seen ++ passEvents items ∧
      ended.cursor.progress.tick.tickId =
        cursor.progress.tick.tickId + (passEvents items).length := by
  induction items generalizing cursor with
  | nil => cases hok
  | cons item rest ih =>
    cases item with
    | forwardComplete => exact ⟨⟨rest, rfl⟩, (List.append_nil _).symm, rfl⟩
    | hook ev =>
      simp only [replayLoop, hstop, shouldStop, Bool.false_eq_true, if_false] at hok ⊢
      -- Neither the comparison nor the interventions can have failed.
      cases hverify : verifyEvent bridge st req (cursor.progress.receive st ev).tick.tickId
          preReplayTick ev with
      | error msg =>
        rw [hverify] at hok
        cases hok
      | ok divergences =>
        simp only [hverify] at hok ⊢
        cases hreact : replayReaction bridge st handle req.interventions
            (cursor.progress.receive st ev).tick.tickId ev with
        | error msg =>
          rw [hreact] at hok
          cases hok
        | ok value =>
          simp only [hreact] at hok ⊢
          obtain ⟨⟨tail, hrest⟩, hseen, htick⟩ := ih hok
          refine ⟨⟨tail, ?_⟩, ?_, ?_⟩
          · rw [passEvents, List.map_cons, List.cons_append, ← hrest]
          · rw [hseen]
            simp [PassProgress.receive, PassProgress.put, passEvents]
          · rw [htick]
            simp only [PassProgress.receive, PassProgress.put, TickState.tickId_advance,
              passEvents, List.length_cons]
            omega

/-- What a replay without a stop point that succeeds has done, by the events of the pass the
model makes of the default input. -/
structure ReplayedWhole (bridge : Bridge T) (st : WorkerState T) (response : HostReplayResponse)
    (st' : WorkerState T) : Prop where
  completes : ∃ tail, bridge.forward (inputTensor none) =
    (passEvents (bridge.forward (inputTensor none))).map MailItem.hook ++ .forwardComplete :: tail
  seen : st'.forwardPass.map ForwardPassState.seen =
    some (passEvents (bridge.forward (inputTensor none)))
  tick : st'.tickState.tickId =
    st.tickState.tickId + (passEvents (bridge.forward (inputTensor none))).length
  stoppedAt : response.stoppedAt.tickId = st'.tickState.tickId

/-- A replay that succeeds is its loop, on a pass that has just been started. -/
lemma runReplayLoop_loop {handle : ℕ} {st' : WorkerState T}
    (hok : runReplayLoop bridge st handle req = (.ok response, st')) :
    ∃ st₀ complete,
      ensureForwardPass bridge { st with forwardPass := none } none = (.ok (), st₀) ∧
      let ended := replayLoop bridge st₀ handle req st.tickState.tickId
        (forwardItems bridge st (inputTensor none)) ⟨⟨st.tickState, st₀.lastOutputs, [], []⟩, 0, []⟩
      let tick := ended.cursor.progress.tick
      ended.result = .ok complete ∧
      st'.forwardPass.map ForwardPassState.seen = some ended.cursor.progress.seen ∧
      st'.tickState = tick ∧
      response = {
        ticksReplayed := ended.cursor.ticks
        stoppedAt := { tick.toTickPosition with replayOf := some st.tickState.tickId }
        divergences := ended.cursor.divergences
        verified := ended.cursor.divergences.isEmpty } := by
  rcases runReplayLoop_cases bridge st handle req with
    ⟨msg, failed, -, hrun⟩ | ⟨st₀, hensure, -, htick, hrun⟩
  · rw [hrun] at hok
    cases hok
  · rw [hrun, finishReplay, WorkerState.progress, htick] at hok
    split at hok
    · cases hok
    next complete hres =>
      cases hok
      exact ⟨st₀, complete, hensure, hres, rfl, rfl, rfl⟩

lemma runReplayLoop_of_ok (hstop : req.stopAt = none)
    (hok : runReplayLoop bridge st handle req = (.ok response, st')) :
    ReplayedWhole bridge st response st' := by
  obtain ⟨st₀, complete, -, hres, hseen, htick, hresponse⟩ := runReplayLoop_loop hok
  obtain ⟨⟨tail, hcompletes⟩, hevents, hticks⟩ := replayLoop_of_ok hstop hres
  -- What gets through to the completion of the pass is the whole pass.
  obtain ⟨rest, hforward⟩ := exists_forward_eq bridge st (inputTensor none)
  rw [hcompletes, List.append_assoc, List.cons_append] at hforward
  have hwhole : passEvents (bridge.forward (inputTensor none)) =
      passEvents (forwardItems bridge st (inputTensor none)) := by
    rw [hforward, passEvents_append_forwardComplete]
  refine ⟨⟨tail ++ rest, by rw [hwhole, hforward]⟩,
    hseen.trans (congrArg some (hevents.trans hwhole.symm)), ?_, ?_⟩
  · rw [htick, hwhole]
    exact hticks
  · rw [htick, hresponse]
    rfl

lemma handleHostReplay_of_ok (hstop : req.stopAt = none)
    (hok : (handleHostReplay bridge st req).1 = .ok response) :
    ReplayedWhole bridge st response (handleHostReplay bridge st req).2 := by
  rcases handleHostReplay_cases bridge st req with ⟨_, msg, hrejected⟩ | ⟨_, hstate, hran⟩
  · rw [hrejected] at hok
    cases hok
  · rw [hstate]
    exact runReplayLoop_of_ok hstop (Prod.ext (hran response hok) rfl)

end Loop

/-! ## The pass a checkpoint belongs to -/

/-- Whether serving a request keeps the pass there is. -/
def keepsPass (st : WorkerState T) : WorkerRequest → Prop
  | .step _ => ∀ pass, st.forwardPass = some pass → pass.forwardComplete = false
  | .replay _ => False
  | _ => True

/-- The states a worker is in during a pass that a step has started on the token ids `ids`. -/
inductive DuringPass (ids : List ℕ) : WorkerState T → Prop
  | start {bridge : Bridge T} {st : WorkerState T} {req : HostStepRequest}
      {response : HostStepResponse} (hfresh : (dropCompletedPass st).forwardPass = none)
      (hids : req.inputIds = some ids) (hok : (handleHostStep bridge st req).1 = .ok response) :
      DuringPass ids (handleHostStep bridge st req).2
  | serve {st : WorkerState T} {request : WorkerRequest} (bridge : Bridge T)
      (hduring : DuringPass ids st) (hkeeps : keepsPass st request) :
      DuringPass ids (serve bridge st request).2

/-- A step that starts a pass starts it on its own token ids. -/
lemma input_of_started {st : WorkerState T} (hfresh : (dropCompletedPass st).forwardPass = none)
    (hok : (handleHostStep bridge st req).1 = .ok response) :
    ∃ pass, (handleHostStep bridge st req).2.forwardPass = some pass ∧
      pass.input = inputTensor req.inputIds := by
  rcases handleHostStep_cases bridge st req with ⟨_, msg, hrejected⟩ | ⟨_, hstate, hran⟩
  · rw [hrejected] at hok
    cases hok
  · rw [hstate]
    have hloop := (hran response).mp hok
    rcases runStepLoop_cases bridge st req.modelHandle req with
      ⟨msg, st', _, hrun⟩ | ⟨st', pass, ended, hensure, hpass, hrun⟩
    · rw [hrun] at hloop
      cases hloop
    · obtain ⟨prog, pending, complete, hfinish⟩ := finishStep_snd st' pass ended
      rw [hrun, hfinish]
      refine ⟨_, rfl, ?_⟩
      have houtcome := ensureForwardPass_outcome bridge (dropCompletedPass st) req.inputIds
      rw [hensure] at houtcome
      cases houtcome with
      | running hsome =>
        rw [hfresh] at hsome
        cases hsome
      | started _ _ =>
        cases hpass
        rfl

lemma input_of_resumed {bridge : Bridge T} {st : WorkerState T} {req : HostStepRequest}
    {pass : ForwardPassState T} (hpass : st.forwardPass = some pass)
    (hrunning : pass.forwardComplete = false) :
    ∃ pass', (handleHostStep bridge st req).2.forwardPass = some pass' ∧
      pass'.input = pass.input := by
  have hdrop : dropCompletedPass st = st := by
    simp [dropCompletedPass, hpass, hrunning]
  rcases handleHostStep_cases bridge st req with ⟨_, msg, hrejected⟩ | ⟨_, hstate, _⟩
  · rw [hrejected]
    exact ⟨pass, hpass, rfl⟩
  · rw [hstate]
    have houtcome := ensureForwardPass_outcome bridge (dropCompletedPass st) req.inputIds
    rw [hdrop] at houtcome
    rcases runStepLoop_cases bridge st req.modelHandle req with
      ⟨msg, st', hensure, hrun⟩ | ⟨st', pass', ended, hensure, hpass', hrun⟩
    · -- With a pass there is nothing to start that could fail.
      rw [hdrop] at hensure
      rw [hensure] at houtcome
      cases houtcome with
      | failedEarly hnone _ _ | failedLate hnone _ _ => cases hpass.symm.trans hnone
    · obtain ⟨prog, pending, complete, hfinish⟩ := finishStep_snd st' pass' ended
      rw [hdrop] at hensure
      rw [hensure] at houtcome
      rw [hrun, hfinish]
      refine ⟨_, rfl, ?_⟩
      cases houtcome with
      | running _ =>
        cases hpass.symm.trans hpass'
        rfl
      | started hnone _ => cases hpass.symm.trans hnone

/-- During a pass started on `ids` the worker holds a pass with that input. -/
lemma DuringPass.input {st : WorkerState T} (hduring : DuringPass ids st) :
    ∃ pass, st.forwardPass = some pass ∧ pass.input = inputTensor (some ids) := by
  induction hduring with
  | start hfresh hids hok =>
    rw [← hids]
    exact input_of_started hfresh hok
  | @serve st request bridge _ hkeeps ih =>
    obtain ⟨pass, hpass, hinput⟩ := ih
    cases request with
    | step req =>
      obtain ⟨pass', hpass', hsame⟩ :=
        @input_of_resumed T bridge st req pass hpass (hkeeps pass hpass)
      exact ⟨pass', hpass', hsame.trans hinput⟩
    | replay req => exact hkeeps.elim
    | checkpoint req =>
      obtain ⟨arena, harena⟩ := handleHostCheckpoint_snd bridge st req
      exact ⟨pass, (congrArg WorkerState.forwardPass harena).trans hpass, hinput⟩
    | updateProbes req | inspect => exact ⟨pass, hpass, hinput⟩

/-! ## What is replayed -/

/-- The events the worker has received in its current pass. -/
def eventsSeen (st : WorkerState T) : Option (List (HookEvent T)) :=
  st.forwardPass.map ForwardPassState.seen

/-- Two calls that put out the sum of the token ids. -/
def echoNet (input : List ℤ) : List (HookEvent ℤ) :=
  [⟨"layers.0.o_proj", 0, some input.sum⟩, ⟨"layers.1.o_proj", 0, some input.sum⟩]

def echoBridge : Bridge ℤ :=
  Bridge.quiet fun input => (echoNet input).map MailItem.hook ++ [.forwardComplete]

/-- One component step that starts a pass on `ids`. -/
def echoStep (ids : List ℕ) : HostStepRequest where
  modelHandle := 1
  count := 1
  direction := .forward
  granularity := none
  maxEvents := none
  interventions := []
  inputIds := some ids

def createC1 : HostCheckpointRequest := .create 1 "c1" .activation 1 0

def replayC1 : HostReplayRequest where
  modelHandle := 1
  checkpointId := "c1"
  stopAt := none
  interventions := []
  verify := false
  deterministic := false
  cosineThreshold := 1
  mreThreshold := 0

/-- A worker one step into a pass on `ids`. -/
def echoStarted (ids : List ℕ) : WorkerState ℤ :=
  (handleHostStep echoBridge twoLayerWorker (echoStep ids)).2

/-- The replay of a checkpoint that was created there. -/
def echoReplayed (ids : List ℕ) : Except String HostReplayResponse × WorkerState ℤ :=
  handleHostReplay echoBridge (serveAll (echoStarted ids) [(echoBridge, .checkpoint createC1)])
    replayC1

end RocketSurgeon.Worker
