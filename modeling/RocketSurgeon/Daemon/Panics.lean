import RocketSurgeon.Daemon.InspectPanics
import RocketSurgeon.Daemon.Loop
import RocketSurgeon.Daemon.WorkerCalls
import RocketSurgeon.Worker.Ranks

/-!
# Requests that end the daemon

A turn of the main loop is safe if it writes one response and does not panic.  What can go wrong is
an export without a worker; a tick that is computed for a step or a replay no worker has answered,
and does not fit; and the trace, which has no track for what a step has stopped at.

Everything else holds in every state that is reached: a stored tensor can be summarised, and a
worker reports its rank.
-/

namespace RocketSurgeon.Daemon

open Lib Protocol Worker

variable {T : Type} {d : DaemonState T}

/-! ## Ranks of the worker -/

lemma Moved.ranked {worker' : WorkerState T} (hmoved : Moved worker worker')
    (hranked : Ranked worker) : Ranked worker' ∧ worker'.rank = worker.rank := by
  induction hmoved with
  | refl => exact ⟨hranked, rfl⟩
  | step _ bridge req ih =>
    exact ⟨(ranked_handleHostStep ih.1 bridge req).1,
      (onlyPass_handleHostStep bridge _ req).sameStore.rank.trans ih.2⟩
  | replay _ bridge req ih =>
    exact ⟨(ranked_handleHostReplay ih.1 bridge req).1,
      (onlyPass_handleHostReplay bridge _ req).sameStore.rank.trans ih.2⟩
  | @checkpoint worker' _ bridge req ih =>
    obtain ⟨arena, harena⟩ := handleHostCheckpoint_snd bridge worker' req
    rw [harena]
    exact ih

/-- The worker has a rank that a trace has room for. -/
def RankBounded (d : DaemonState T) : Prop :=
  ∀ worker handle, d.attached = some (worker, handle) →
    Ranked worker ∧ worker.rank ≤ maxWorkerRank

lemma SameWorker.rankBounded (hsame : SameWorker d d') (hbound : RankBounded d) :
    RankBounded d' := by
  intro worker' handle hattached'
  obtain ⟨worker, hattached, hmoved⟩ := hsame.worker worker' handle hattached'
  obtain ⟨hranked, hrank⟩ := hbound worker handle hattached
  obtain ⟨hranked', hrank'⟩ := hmoved.ranked hranked
  exact ⟨hranked', hrank' ▸ hrank⟩

lemma rankBounded_propagateProbes (env : Env T) (hbound : RankBounded d) :
    RankBounded (propagateProbes env d) := by
  unfold propagateProbes
  split
  · exact hbound
  next worker handle hattached =>
    intro worker' handle' hattached'
    rw [attached_withWorker hattached] at hattached'
    cases hattached'
    exact Link.call_induct (p := fun worker' : WorkerState T =>
      Ranked worker' ∧ worker'.rank ≤ maxWorkerRank)
      (hbound worker handle hattached) (hbound worker handle hattached)

lemma rankBounded_served (hbound : RankBounded d) (action : Env T × ClientRequest)
    (hranks : ∀ backend, action.1.backend = .ok backend → backend.model.rank ≤ maxWorkerRank) :
    RankBounded (served d action) := by
  rcases served_worker_cases d action with
    ⟨-, -, backend, hback, hattached⟩ | ⟨-, hsame | ⟨params, d', -, hattached, hserved⟩⟩
  · intro worker handle hworker
    cases hattached.symm.trans hworker
    exact ⟨rfl, hranks backend hback⟩
  · exact hsame.rankBounded hbound
  · rw [hserved]
    refine rankBounded_propagateProbes action.1 ?_
    intro worker handle hworker
    exact hbound worker handle (hattached ▸ hworker)

/-! ## Steps -/

section Step

variable (env : Env T) (d : DaemonState T) (step : StepParams)

/-- Where a step stops: where the worker says, or at a position that is made up. -/
def stepPosition (req : StepRequest) : TickPosition :=
  ((stepTried env d step).1.map HostStepResponse.position).getD (fabricatedPosition d.session req)

/-- A step that is answered: it can be read, the session is stopped, and a backward step has been
replayed. -/
structure TakesStep (req : StepRequest) : Prop where
  params : step.params.parse (missingField "direction") = .ok req
  stopped : d.session.state.status = .stopped
  backward : step.saysBackward = true → (stepTried env d step).1.isSome = true

variable {d}

lemma rank_stepTried (hbound : RankBounded d) (hhost : (stepTried env d step).1 = some host) :
    ∃ rank ≤ maxWorkerRank, host.position.rank = some rank ∧
      ∀ event ∈ host.events, event.rank = rank := by
  unfold stepTried at hhost
  split at hhost
  · unfold tryBackwardStep at hhost
    dsimp only at hhost
    split at hhost
    next ckpt _ worker handle _ hattached =>
      obtain ⟨hranked, hrank⟩ := hbound worker handle hattached
      have hsaved := (moved_takeSubCheckpoint env d.session worker handle).ranked hranked
      split at hhost
      next resp hok =>
        cases hhost
        have hreport := (ranked_handleHostReplay hsaved.1 _ _).2 resp
          (Link.call_of_toOption (by rw [hok]; rfl)).1
        exact ⟨worker.rank, hrank, hsaved.2 ▸ hreport, List.forall_mem_nil _⟩
      · cases hhost
    · cases hhost
  · unfold tryOrchestratorStep at hhost
    split at hhost
    next worker handle req hattached _ =>
      obtain ⟨hranked, hrank⟩ := hbound worker handle hattached
      obtain ⟨hok, -⟩ := Link.call_of_toOption hhost
      exact ⟨worker.rank, hrank, (ranked_handleHostStep hranked _ _).2 host hok⟩
    · cases hhost

lemma rank_stepPosition (hbound : RankBounded d) (req : StepRequest) :
    (stepPosition env d step req).rank.getD 0 ≤ maxWorkerRank ∧
      ∀ event ∈ ((stepTried env d step).1.map HostStepResponse.events).getD [],
        event.rank = (stepPosition env d step req).rank.getD 0 := by
  unfold stepPosition
  cases hhost : (stepTried env d step).1 with
  | none => exact ⟨Nat.zero_le _, List.forall_mem_nil _⟩
  | some host =>
    obtain ⟨rank, hrank, hpos, hevents⟩ := rank_stepTried env step hbound hhost
    simp only [Option.map_some, Option.getD_some, hpos]
    exact ⟨hrank, hevents⟩

lemma status_stepTried :
    (stepTried env d step).2.session.state.status = d.session.state.status := by
  unfold stepTried
  split
  · exact (steady_tryBackwardStep env d).status
  · exact (steady_tryOrchestratorStep env d step.params).status

lemma eventsEnabled_stepTried : (stepTried env d step).2.eventsEnabled = d.eventsEnabled := by
  unfold stepTried
  split
  · unfold tryBackwardStep
    dsimp only
    split
    · split
      · rfl
      · rfl
    · rfl
  · unfold tryOrchestratorStep
    split
    · rfl
    · rfl

lemma session_stepTried (hforward : step.saysBackward = false) :
    (stepTried env d step).2.session = d.session := by
  rw [stepTried, hforward, if_neg Bool.false_ne_true, tryOrchestratorStep]
  split
  · rfl
  · rfl

lemma takeAutoCheckpoint_kept (pos : TickPosition) :
    (takeAutoCheckpoint env d pos).session.state.position = d.session.state.position ∧
      (takeAutoCheckpoint env d pos).eventsEnabled = d.eventsEnabled := by
  unfold takeAutoCheckpoint
  split
  · split
    · exact ⟨rfl, rfl⟩
    · dsimp only
      split
      · exact ⟨rfl, rfl⟩
      · exact ⟨rfl, rfl⟩
  · exact ⟨rfl, rfl⟩

lemma eventsEnabled_finishStepRequest (params : Params StepRequest)
    (host : Option HostStepResponse) :
    (finishStepRequest env params (host, d)).2.eventsEnabled = d.eventsEnabled := by
  unfold finishStepRequest
  dsimp only
  split
  · exact (takeAutoCheckpoint_kept env _).2
  · rfl

lemma finishStepRequest_of_stopped (hparams : params.parse (missingField "direction") = .ok req)
    (hstop : d.session.state.status = .stopped) (host : Option HostStepResponse) :
    ∃ body, (finishStepRequest env params (host, d)).1 = .ok body ∧
      (finishStepRequest env params (host, d)).2.session.state.position =
        some ((host.map HostStepResponse.position).getD (fabricatedPosition d.session req)) := by
  unfold finishStepRequest handleStep withParams
  rw [hparams]
  cases host with
  | none =>
    dsimp only
    rw [Session.step_of_stopped hstop]
    exact ⟨_, rfl, rfl⟩
  | some host =>
    dsimp only
    rw [Session.step_of_stopped hstop]
    exact ⟨_, rfl, (takeAutoCheckpoint_kept env _).1⟩

lemma finishStepRequest_of_refused
    (hrejected : ∀ req, params.parse (missingField "direction") = .ok req →
      d.session.state.status ≠ .stopped) (host : Option HostStepResponse) :
    ∃ error, (finishStepRequest env params (host, d)).1 = .error error := by
  unfold finishStepRequest handleStep withParams
  cases hparams : params.parse (missingField "direction") with
  | error msg => exact ⟨_, rfl⟩
  | ok req =>
    have hstep := @Session.step_of_ne d.session (hrejected req hparams) req
    cases host with
    | none =>
      obtain ⟨data, hdata⟩ := hstep _ []
      dsimp only
      rw [hdata]
      exact ⟨_, rfl⟩
    | some host =>
      obtain ⟨data, hdata⟩ := hstep host.position host.firedInterventions
      dsimp only
      rw [hdata]
      exact ⟨_, rfl⟩

lemma handleStepRequest_eq :
    handleStepRequest env d step =
      if step.saysBackward = true ∧ (stepTried env d step).1.isNone = true then
        (refuse (errorWithHint .capabilityNotSupported "No checkpoint available for backward step"),
          (stepTried env d step).2)
      else finishStepRequest env step.params (stepTried env d step) := by
  unfold handleStepRequest stepTried
  cases step.saysBackward with
  | false => rfl
  | true => simp only [if_true, true_and]

lemma eventsEnabled_handleStepRequest :
    (handleStepRequest env d step).2.eventsEnabled = d.eventsEnabled := by
  rw [handleStepRequest_eq]
  split
  · exact eventsEnabled_stepTried env step
  · refine Eq.trans ?_ (eventsEnabled_stepTried env step)
    exact eventsEnabled_finishStepRequest env step.params _

lemma handleStepRequest_of_takesStep (htakes : TakesStep env d step req) :
    ∃ body, (handleStepRequest env d step).1 = .ok body ∧
      (handleStepRequest env d step).2.session.state.position =
        some (stepPosition env d step req) := by
  have hstop := (status_stepTried env step).trans htakes.stopped
  obtain ⟨body, hok, hpos⟩ :=
    finishStepRequest_of_stopped env htakes.params hstop (stepTried env d step).1
  have hreplaced : ¬ (step.saysBackward = true ∧ (stepTried env d step).1.isNone = true) := by
    rintro ⟨hbackward, hnone⟩
    have hsome := htakes.backward hbackward
    rw [Option.isNone_iff_eq_none.mp hnone] at hsome
    cases hsome
  rw [handleStepRequest_eq, if_neg hreplaced]
  refine ⟨body, hok, hpos.trans (congrArg some ?_)⟩
  unfold stepPosition
  cases hhost : (stepTried env d step).1 with
  | some host => rfl
  | none =>
    have hforward : step.saysBackward = false := by
      rw [← Bool.not_eq_true]
      exact fun hbackward => hreplaced ⟨hbackward, by rw [hhost]; rfl⟩
    rw [session_stepTried env step hforward]

lemma handleStepRequest_of_not_takesStep (hrejected : ∀ req, ¬ TakesStep env d step req) :
    ∃ error, (handleStepRequest env d step).1 = .error error := by
  rw [handleStepRequest_eq]
  split
  · exact ⟨_, rfl⟩
  next htried =>
    refine finishStepRequest_of_refused env (fun req hparams hstop => ?_) _
    refine hrejected req
      ⟨hparams, (status_stepTried env step).symm.trans hstop, fun hbackward => ?_⟩
    refine Option.isSome_iff_ne_none.mpr fun hnone => htried ⟨hbackward, ?_⟩
    rw [hnone]
    rfl

end Step

/-! ## Safe turns -/

/-- A turn writes exactly one response and does not panic. -/
def Safe (lib : InspectLibrary) (st : LoopState T) (action : LoopEnv T × LoopRequest) : Prop :=
  (∃ response, (turn lib action.1 st action.2).written = [response]) ∧
    (turn lib action.1 st action.2).panic = none

/-- A step that no worker has answered stops at a tick that fits. -/
def FitsStep (env : Env T) (d : DaemonState T) (step : StepParams) : Prop :=
  ∀ req, step.params.parse (missingField "direction") = .ok req → step.saysBackward = false →
    (stepTried env d step).1 = none → d.session.state.tickId.getD 0 + req.count < 2 ^ 64

/-- A step that is drawn finds a track. -/
def DrawsStep (env : Env T) (st : LoopState T) (step : StepParams) : Prop :=
  ∀ req sink, TakesStep env st.daemon step req → st.daemon.eventsEnabled = true →
    st.perfetto = some sink →
    let position := stepPosition env st.daemon step req
    sink.CanTrack (position.rank.getD 0) position.layer position.component

/-- A replay that no worker has answered stops at a tick that fits. -/
def FitsReplay (env : Env T) (d : DaemonState T) (params : Params ReplayRequest) : Prop :=
  ∀ req ref, params.parse (missingField "from_checkpoint") = .ok req →
    d.session.state.status = .stopped → d.session.findCheckpoint req.fromCheckpoint = some ref →
    (tryOrchestratorReplay env d params).1 = none →
    let origin := (d.session.checkpointOrigin ref).tickId
    let currentTick := d.session.state.tickId.getD origin
    currentTick + max (currentTick - origin) 1 < 2 ^ 64

/-- Nothing can go wrong with the request. -/
def Clear (st : LoopState T) (action : LoopEnv T × LoopRequest) : Prop :=
  match action.2 with
  | .plain ⟨.step step, _⟩ =>
      FitsStep action.1.main st.daemon step ∧ DrawsStep action.1.main st step
  | .plain ⟨.replay params, _⟩ => FitsReplay action.1.main st.daemon params
  | .exportSession _ => st.daemon.attached.isSome = true
  | _ => True

lemma overflows_step_iff (env : Env T) (d : DaemonState T) (step : StepParams) :
    overflows env d (.step step) = false ↔ FitsStep env d step := by
  unfold overflows FitsStep
  dsimp only
  cases hdirection : step.saysBackward with
  | true => exact iff_of_true rfl fun _ _ hforward => nomatch hforward
  | false =>
    have htried : stepTried env d step = tryOrchestratorStep env d step.params := by
      rw [stepTried, hdirection]
      rfl
    rw [htried]
    cases (tryOrchestratorStep env d step.params).1 with
    | some host => exact iff_of_true rfl fun _ _ _ hnone => nomatch hnone
    | none =>
      cases step.params.parse (missingField "direction") with
      | error msg => exact iff_of_true rfl fun _ hrequest => nomatch hrequest
      | ok req =>
        change decide (2 ^ 64 ≤ d.session.state.tickId.getD 0 + req.count) = false ↔ _
        rw [decide_eq_false_iff_not, not_le]
        refine ⟨fun hfits req' hrequest _ _ => ?_, fun hfits => hfits req rfl rfl rfl⟩
        cases hrequest
        exact hfits

lemma overflows_replay_iff (env : Env T) (d : DaemonState T) (params : Params ReplayRequest) :
    overflows env d (.replay params) = false ↔ FitsReplay env d params := by
  unfold overflows FitsReplay
  dsimp only
  cases (tryOrchestratorReplay env d params).1 with
  | some host => exact iff_of_true rfl fun _ _ _ _ _ hnone => nomatch hnone
  | none =>
    cases params.parse (missingField "from_checkpoint") with
    | error msg => exact iff_of_true rfl fun _ _ hrequest => nomatch hrequest
    | ok req =>
      by_cases hstop : d.session.state.status = .stopped
      · rw [Session.requireStopped_of_stopped hstop]
        dsimp only
        cases href : d.session.findCheckpoint req.fromCheckpoint with
        | none =>
          refine iff_of_true rfl fun req' ref hrequest _ hsome => ?_
          cases hrequest
          cases href.symm.trans hsome
        | some ref =>
          change decide (2 ^ 64 ≤ (d.session.fabricatedReplay req ref).stoppedAt.tickId) =
            false ↔ _
          rw [decide_eq_false_iff_not, not_le]
          refine ⟨fun hfits req' ref' hrequest _ hsome _ => ?_, fun hfits =>
            hfits req ref rfl hstop href rfl⟩
          cases hrequest
          cases href.symm.trans hsome
          exact hfits
      · obtain ⟨data, hdata⟩ := Session.requireStopped_of_ne hstop "rocket/replay"
        rw [hdata]
        exact iff_of_true rfl fun _ _ _ hnow => absurd hnow hstop

/-- What holds in every state that is reached. -/
structure Sound (lib : InspectLibrary) (st : LoopState T) : Prop where
  ring : RingKept lib st.toInspectState
  rank : RankBounded st.daemon

/-! ## Turns -/

/-- The trace is asked for what a step has stopped at. -/
lemma isOk_traceRequest_step_iff (env : LoopEnv T) (hbound : RankBounded st.daemon)
    (step : StepParams) :
    let handled := handleStepRequest env.main st.daemon step
    let rewired := { st with daemon := handled.2 }
    (traceRequest env st.daemon (.step step) handled.1 rewired).isOk = true ↔
      DrawsStep env.main st step := by
  intro handled rewired
  by_cases htakes : ∃ req, TakesStep env.main st.daemon step req
  · obtain ⟨req, htakes⟩ := htakes
    obtain ⟨body, hok, hpos⟩ := handleStepRequest_of_takesStep env.main step htakes
    have henabled : handled.2.eventsEnabled = st.daemon.eventsEnabled :=
      eventsEnabled_handleStepRequest env.main step
    obtain ⟨hrank, hevents⟩ := rank_stepPosition env.main step hbound req
    have hrequest : ∀ req', TakesStep env.main st.daemon step req' → req' = req :=
      fun req' htakes' =>
      Except.ok.inj (htakes'.params.symm.trans htakes.params)
    unfold traceRequest
    rw [hok]
    cases hperfetto : st.perfetto with
    | none =>
      refine iff_of_true rfl fun _ _ _ _ hsome => ?_
      cases hperfetto.symm.trans hsome
    | some sink =>
      dsimp only
      rw [henabled]
      cases hevents' : st.daemon.eventsEnabled with
      | false =>
        refine iff_of_true rfl fun _ _ _ htrue => ?_
        cases hevents'.symm.trans htrue
      | true =>
        rw [if_pos rfl, isOk_map, hpos,
          PerfettoSink.isOk_traceStep_iff env.trackOrder hrank rfl hevents]
        constructor
        · intro hcan req' sink' htakes' _ hsome
          cases hrequest req' htakes'
          cases hperfetto.symm.trans hsome
          exact hcan
        · exact fun hdraws => hdraws req sink htakes hevents' hperfetto
  · obtain ⟨error, hrejected⟩ := handleStepRequest_of_not_takesStep env.main step
      fun req hrequest => htakes ⟨req, hrequest⟩
    refine iff_of_true ?_ fun req _ hrequest => absurd ⟨req, hrequest⟩ htakes
    rw [hrejected]
    rfl

section Turns

variable {lib : InspectLibrary} {st : LoopState T} (env : LoopEnv T)

/-- A request is safe if no sum overflows and, for a step, it can be drawn. -/
lemma safe_plain_iff (request : PlainRequest)
    (hdrawn : ∀ rewired,
      rewire env st request.1 (handleRequest env.main st.daemon request.1) = .ok rewired →
      ((traceRequest env st.daemon request.1 (handleRequest env.main st.daemon request.1).1
      rewired).isOk = true ↔ drawn)) :
    Safe lib st (env, .plain request) ↔ overflows env.main st.daemon request.1 = false ∧ drawn := by
  unfold Safe
  dsimp only [turn]
  cases hoverflows : overflows env.main st.daemon request.1 with
  | true =>
    refine iff_of_false ?_ fun hfits => nomatch hfits.1
    rw [plainTurn, hoverflows]
    exact fun ⟨_, hpanic⟩ => nomatch hpanic
  | false =>
    obtain ⟨rewired, hrewired, hwritten, -, hpanic⟩ := plainTurn_of_not_overflows hoverflows
    rw [hpanic, hdrawn rewired hrewired]
    exact and_congr_left' (iff_of_true ⟨_, hwritten⟩ rfl)

lemma safe_plain_iff_of_ne (request : PlainRequest) (hother : ∀ step, request.1 ≠ .step step) :
    Safe lib st (env, .plain request) ↔ overflows env.main st.daemon request.1 = false := by
  refine (safe_plain_iff env request fun rewired _ => iff_of_true ?_ trivial).trans
    (and_iff_left trivial)
  obtain ⟨request, hquery⟩ := request
  cases request with
  | step step => exact absurd rfl (hother step)
  | _ => rfl

lemma safe_step_iff (hsound : Sound lib st) (env : LoopEnv T) (step : StepParams)
    (hquery : ClientRequest.step step ≠ .query) :
    Safe lib st (env, .plain ⟨.step step, hquery⟩) ↔
      FitsStep env.main st.daemon step ∧ DrawsStep env.main st step := by
  rw [← overflows_step_iff]
  refine safe_plain_iff env ⟨.step step, hquery⟩ fun rewired hrewired => ?_
  cases hrewired
  exact isOk_traceRequest_step_iff env hsound.rank step

lemma safe_inspect (hsound : Sound lib st) (env : LoopEnv T) (params : Params InspectRequest) :
    Safe lib st (env, .inspect params) := by
  have hnoPanic := @noPanic_inspectRequest T lib env.inspect st.toInspectState hsound.ring params
  unfold Safe
  dsimp only [turn]
  unfold inspectTurn
  split
  next hpanic => exact absurd (congrArg Prod.fst hpanic) (hnoPanic _)
  · exact ⟨⟨_, rfl⟩, rfl⟩
  · exact ⟨⟨_, rfl⟩, rfl⟩

lemma safe_export_iff (params : Params ExportRequest) :
    Safe lib st (env, .exportSession params) ↔ st.daemon.attached.isSome = true := by
  unfold Safe
  dsimp only [turn]
  unfold exportTurn DaemonState.attached
  cases st.daemon.orchestrator with
  | none => exact iff_of_false (fun hsafe => nomatch hsafe.2) nofun
  | some worker =>
    cases st.daemon.modelHandle with
    | none => exact iff_of_false (fun hsafe => nomatch hsafe.2) nofun
    | some handle => exact iff_of_true ⟨⟨_, rfl⟩, rfl⟩ rfl

lemma safe_iff_clear (hsound : Sound lib st) (action : LoopEnv T × LoopRequest) :
    Safe lib st action ↔ Clear st action := by
  obtain ⟨env, request⟩ := action
  cases request with
  | plain request =>
    obtain ⟨request, hquery⟩ := request
    cases request with
    | step step => exact safe_step_iff hsound env step hquery
    | replay params =>
      exact (safe_plain_iff_of_ne env ⟨.replay params, hquery⟩
        fun _ hstep => nomatch hstep).trans (overflows_replay_iff env.main st.daemon params)
    | unparsable _ | initialize_ _ | attach _ | detach | status | checkpoint _ | probe _
      | intervene _ | subscribe _ | unsubscribe _ | viewDefine _ | query | unknown _ =>
        refine (safe_plain_iff_of_ne env ⟨_, hquery⟩ ?_).trans (iff_of_true rfl trivial)
        exact fun _ hstep => nomatch hstep
  | inspect params => exact iff_of_true (safe_inspect hsound env params) trivial
  | exportSession params => exact safe_export_iff env params
  | view _ | kvRead _ | kvIntervene _ | discover _ =>
    exact iff_of_true ⟨⟨_, rfl⟩, rfl⟩ trivial

/-! ## What every turn keeps -/

section Exports

variable {p : TensorStore → Prop} {store : TensorStore}
  (hread : ∀ store tid, p store → p (TensorStore.rawData store tid).2) (hstore : p store)

include hread hstore

lemma store_tensorArtifacts (ids : List String) : p (tensorArtifacts ids store).2 := by
  induction ids generalizing store with
  | nil => exact hstore
  | cons id ids ih =>
    have hrest := ih (hread store id hstore)
    rw [tensorArtifacts]
    split
    · exact hrest
    · exact hrest

lemma store_handleExport (env : ExportEnv) (session : Session) (params : Params ExportRequest)
    (modelHandle : ℕ) (traced : Bool) :
    p (handleExport env session params store modelHandle traced).2 := by
  unfold handleExport
  split
  · exact hstore
  · split
    · exact hstore
    · unfold exportSession
      split
      · exact store_tensorArtifacts hread hstore _
      · exact hstore

end Exports

lemma sound_plainTurn (hsound : Sound lib st) (env : LoopEnv T) (request : ClientRequest)
    (hranks : ∀ backend, env.main.backend = .ok backend → backend.model.rank ≤ maxWorkerRank) :
    Sound lib (plainTurn env st request).state := by
  cases hoverflows : overflows env.main st.daemon request with
  | true =>
    rw [plainTurn, hoverflows]
    exact hsound
  | false =>
    obtain ⟨rewired, hrewired, -, hstate, -⟩ := plainTurn_of_not_overflows hoverflows
    refine ⟨?_, ?_⟩
    · have hserved := hsound.ring.withDaemon (handleRequest env.main st.daemon request).2
      rw [hstate]
      obtain ⟨_, hok, hcases⟩ := rewire_cases env st request
        (handleRequest env.main st.daemon request)
      cases hrewired.symm.trans hok
      rcases hcases with hkept | hdrop | hconnected
      · rw [hkept]
        exact hserved
      · rw [hdrop]
        exact .coupled ⟨.inl ⟨rfl, rfl⟩, hserved.store⟩
      · rw [hconnected]
        exact ringKept_connect hserved env.shm env.shmOpened
    · rw [hstate, (rewire_kept hrewired).1]
      exact rankBounded_served hsound.rank (env.main, request) hranks

lemma sound_inspectTurn (hsound : Sound lib st) (env : LoopEnv T)
    (params : Params InspectRequest) : Sound lib (inspectTurn lib env st params).state := by
  have hring := @ringKept_inspectRequest T lib env.inspect st.toInspectState hsound.ring params
  have hdaemon := @daemon_inspectRequest T lib env.inspect st.toInspectState params
  unfold inspectTurn
  split
  · exact hsound
  next hinspected =>
    rw [hinspected] at hring hdaemon
    exact ⟨hring, by rw [Turn.reply, hdaemon]; exact hsound.rank⟩
  next hinspected =>
    rw [hinspected] at hring hdaemon
    exact ⟨hring, by rw [Turn.reply, hdaemon]; exact hsound.rank⟩

lemma sound_turned (hsound : Sound lib st) (action : LoopEnv T × LoopRequest)
    (hranks : ∀ backend, action.1.main.backend = .ok backend →
      backend.model.rank ≤ maxWorkerRank) : Sound lib (turned lib st action) := by
  obtain ⟨env, request⟩ := action
  cases request with
  | plain request => exact sound_plainTurn hsound env request.1 hranks
  | inspect params => exact sound_inspectTurn hsound env params
  | exportSession params =>
    unfold turned
    dsimp only [turn]
    unfold exportTurn
    split
    · exact hsound
    · exact hsound
    · refine ⟨hsound.ring.withStore ?_, hsound.rank⟩
      refine store_handleExport (fun store id hstore => ?_) hsound.ring.store _ _ _ _ _
      exact @TensorStore.All.rawData lib.heap store id _ Summarizable.refreshed hstore
  | view _ | kvRead _ | kvIntervene _ | discover _ => exact hsound

end Turns

/-! ## Runs -/

/-- **When requests do not crash the daemon.**  Along every run from the start, each request is
answered once and without a panic exactly if it is `Clear`. -/
theorem safe_along_iff (lib : InspectLibrary) {actions : List (LoopEnv T × LoopRequest)}
    (hranks : ∀ action ∈ actions, ∀ backend, action.1.main.backend = .ok backend →
      backend.model.rank ≤ maxWorkerRank) :
    Along (turned lib) (Safe lib) .start actions ↔ Along (turned lib) Clear .start actions := by
  have hstart : Sound lib (LoopState.start : LoopState T) :=
    ⟨.coupled (ringCoupled_start DaemonState.new), nofun⟩
  refine @along_iff_of_forall_mem _ _ _ _ _ _ _ ?_ ?_ _ hstart _ hranks
  · exact fun st action _ hsound => safe_iff_clear hsound action
  · exact fun st action haction hsound _ => sound_turned hsound action haction

/-- Everything that may be exported, to a file. -/
def exportRequest : LoopRequest := .exportSession (.valid ⟨"session.bundle", true⟩)

/-- A session with a model can be exported. -/
theorem safe_exportAttached :
    Along (turned plainLibrary) (Safe plainLibrary) .start
      (attachTurns ++ [(.calm "e", exportRequest)]) := by
  have hattached :
      (attachTurns.foldl (turned plainLibrary) .start).daemon.attached.isSome = true := by
    decide +kernel
  refine (safe_along_iff plainLibrary ?_).mpr ⟨trivial, trivial, hattached, trivial⟩
  intro action haction backend hbackend
  have hmodel : action.1.main.backend = .ok ⟨twoLayerModel, "llama", 8⟩ := by
    simp only [attachTurns, List.cons_append, List.nil_append, List.mem_cons, List.not_mem_nil,
      or_false] at haction
    rcases haction with rfl | rfl | rfl
    · rfl
    · rfl
    · rfl
  cases hmodel.symm.trans hbackend
  decide

/-- An export ends a daemon that has just been started. -/
theorem not_safe_exportUnattached :
    let taken := turn plainLibrary (.calm "e") .start exportRequest
    taken.written = [] ∧ taken.panic = some "orchestrator required for export" ∧
      ¬ Safe plainLibrary .start (.calm "e", exportRequest) := by
  refine ⟨rfl, rfl, fun hsafe => ?_⟩
  cases hsafe.2

end RocketSurgeon.Daemon
