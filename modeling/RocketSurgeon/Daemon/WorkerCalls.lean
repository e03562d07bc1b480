import RocketSurgeon.Daemon.Reattach

/-!
# What can happen to the worker

Between attaching and detaching, the daemon sends its worker steps, replays and checkpoint
requests, some of which get lost, and tells it which probes are active.  `Moved` is what the first
three come to, so that whatever their handlers keep is kept by the main loop; a worker is new only
after an attach.
-/

namespace RocketSurgeon.Daemon

open Lib Protocol Probes Worker

variable {T : Type}

/-- A worker after steps, replays and checkpoint requests. -/
inductive Moved (worker : WorkerState T) : WorkerState T → Prop
  | refl : Moved worker worker
  | step {worker' : WorkerState T} (hmoved : Moved worker worker') (bridge : Bridge T)
      (req : HostStepRequest) : Moved worker (handleHostStep bridge worker' req).2
  | replay {worker' : WorkerState T} (hmoved : Moved worker worker') (bridge : Bridge T)
      (req : HostReplayRequest) : Moved worker (handleHostReplay bridge worker' req).2
  | checkpoint {worker' : WorkerState T} (hmoved : Moved worker worker') (bridge : Bridge T)
      (req : HostCheckpointRequest) : Moved worker (handleHostCheckpoint bridge worker' req).2

namespace Moved

variable {worker worker' worker'' : WorkerState T}

lemma trans (hfirst : Moved worker worker') (hsecond : Moved worker' worker'') :
    Moved worker worker'' := by
  induction hsecond with
  | refl => exact hfirst
  | step _ bridge req ih => exact ih.step bridge req
  | replay _ bridge req ih => exact ih.replay bridge req
  | checkpoint _ bridge req ih => exact ih.checkpoint bridge req

lemma call {link : Link T} {handler : Bridge T → WorkerState T → Except String R × WorkerState T}
    (hmoved : Moved worker worker') (hhandled : Moved worker (handler link.bridge worker').2) :
    Moved worker (link.call worker' handler).2 :=
  Link.call_induct hmoved hhandled

lemma activeProbes (hmoved : Moved worker worker') :
    worker'.activeProbes = worker.activeProbes := by
  induction hmoved with
  | refl => rfl
  | step _ bridge req ih => exact (onlyPass_handleHostStep bridge _ req).activeProbes.trans ih
  | replay _ bridge req ih => exact (onlyPass_handleHostReplay bridge _ req).activeProbes.trans ih
  | @checkpoint worker' _ bridge req ih =>
    obtain ⟨arena, harena⟩ := handleHostCheckpoint_snd bridge worker' req
    rw [harena]
    exact ih

end Moved

/-! ## Requests that keep the worker -/

/-- The worker, if there still is one, is the one there was, and the registry is the same. -/
structure SameWorker (d d' : DaemonState T) : Prop where
  registry : d'.probeRegistry = d.probeRegistry
  worker : ∀ worker' handle, d'.attached = some (worker', handle) →
    ∃ worker, d.attached = some (worker, handle) ∧ Moved worker worker'

namespace SameWorker

variable {d d' d'' : DaemonState T}

lemma of_attached (hreg : d'.probeRegistry = d.probeRegistry)
    (hattached : d'.attached = d.attached) : SameWorker d d' :=
  ⟨hreg, fun worker _ h => ⟨worker, hattached ▸ h, .refl⟩⟩

lemma refl (d : DaemonState T) : SameWorker d d := of_attached rfl rfl

lemma trans (hfirst : SameWorker d d') (hsecond : SameWorker d' d'') : SameWorker d d'' := by
  refine ⟨hsecond.registry.trans hfirst.registry, fun worker'' handle hattached'' => ?_⟩
  obtain ⟨worker', hattached', hmoved'⟩ := hsecond.worker worker'' handle hattached''
  obtain ⟨worker, hattached, hmoved⟩ := hfirst.worker worker' handle hattached'
  exact ⟨worker, hattached, hmoved.trans hmoved'⟩

lemma withWorker {worker : WorkerState T} (hattached : d.attached = some (worker, handle))
    (hmoved : Moved worker worker') (session : Session) :
    SameWorker d { d with session, orchestrator := some worker' } := by
  refine ⟨rfl, fun other otherHandle hother => ?_⟩
  rw [attached_withWorker hattached] at hother
  cases hother
  exact ⟨worker, hattached, hmoved⟩

end SameWorker

section SameWorker

variable (env : Env T) (d : DaemonState T)

lemma sameWorker_tryOrchestratorStep (params : Params StepRequest) :
    SameWorker d (tryOrchestratorStep env d params).2 := by
  unfold tryOrchestratorStep
  split
  next hattached _ =>
    exact SameWorker.withWorker hattached (Moved.refl.call (Moved.refl.step _ _)) d.session
  · exact SameWorker.refl d

lemma sameWorker_tryOrchestratorReplay (params : Params ReplayRequest) :
    SameWorker d (tryOrchestratorReplay env d params).2 := by
  unfold tryOrchestratorReplay
  split
  next hattached =>
    exact SameWorker.withWorker hattached (Moved.refl.call (Moved.refl.replay _ _)) d.session
  · exact SameWorker.refl d

lemma moved_takeSubCheckpoint (sess : Session) (worker : WorkerState T) (handle : ℕ) :
    Moved worker (takeSubCheckpoint env sess worker handle).2 :=
  takeSubCheckpoint_induct .refl fun _ => Moved.refl.checkpoint _ _

lemma sameWorker_tryBackwardStep : SameWorker d (tryBackwardStep env d).2 := by
  unfold tryBackwardStep
  dsimp only
  split
  next worker handle _ hattached =>
    have hsaved := moved_takeSubCheckpoint env d.session worker handle
    have hran : ∀ req, Moved worker (env.forwarded.call
        (takeSubCheckpoint env d.session worker handle).2
        fun bridge st => handleHostReplay bridge st req).2 :=
      fun req => hsaved.call (hsaved.replay _ req)
    split
    · exact SameWorker.withWorker hattached (hran _) _
    · exact SameWorker.withWorker hattached (hran _) _
  · exact SameWorker.refl d

lemma sameWorker_takeAutoCheckpoint (pos : TickPosition) :
    SameWorker d (takeAutoCheckpoint env d pos) := by
  unfold takeAutoCheckpoint
  split
  · split
    · exact SameWorker.refl d
    next worker handle hattached =>
      have hran : ∀ req, Moved worker (env.autoCheckpoint.call worker
          fun bridge st => handleHostCheckpoint bridge st req).2 :=
        fun req => Moved.refl.call (Moved.refl.checkpoint _ req)
      dsimp only
      split
      · exact SameWorker.withWorker hattached (hran _) _
      · exact SameWorker.withWorker hattached (hran _) _
  · exact SameWorker.refl d

lemma sameWorker_finishStepRequest (params : Params StepRequest)
    (tried : Option HostStepResponse × DaemonState T) :
    SameWorker tried.2 (finishStepRequest env params tried).2 := by
  have hanswered : SameWorker tried.2
      (tried.2.conclude (handleStep tried.2.session params tried.1)).2 :=
    SameWorker.of_attached rfl rfl
  unfold finishStepRequest
  dsimp only
  split
  · exact hanswered.trans (sameWorker_takeAutoCheckpoint env _ _)
  · exact hanswered

lemma sameWorker_handleStepRequest (step : StepParams) :
    SameWorker d (handleStepRequest env d step).2 := by
  unfold handleStepRequest
  split
  · dsimp only
    split
    · exact sameWorker_tryBackwardStep env d
    · exact (sameWorker_tryBackwardStep env d).trans
        (sameWorker_finishStepRequest env step.params _)
  · exact (sameWorker_tryOrchestratorStep env d step.params).trans
      (sameWorker_finishStepRequest env step.params _)

lemma sameWorker_forwardCheckpoint (request : ℕ → HostCheckpointRequest) :
    SameWorker d (forwardCheckpoint env d request) := by
  unfold forwardCheckpoint
  split
  · exact SameWorker.refl d
  next hattached =>
    exact SameWorker.withWorker hattached (Moved.refl.call (Moved.refl.checkpoint _ _)) d.session

lemma sameWorker_handleCheckpoint (params : Params CheckpointRequest) :
    SameWorker d (handleCheckpoint env d params).2 := by
  refine withParams_induct (SameWorker.refl d) fun req => ?_
  split
  · exact SameWorker.refl d
  · cases req with
    | create tier | restore id =>
      exact (sameWorker_forwardCheckpoint env d _).trans (SameWorker.of_attached rfl rfl)
    | list => exact SameWorker.refl d
    | delete id | bookmark tickId name => exact SameWorker.of_attached rfl rfl

lemma sameWorker_handleDetachRequest : SameWorker d (handleDetachRequest d).2 := by
  rcases handleDetachRequest_cases d with ⟨error, hfail⟩ | ⟨body, sess, -, -, hdetached⟩
  · rw [hfail]
    exact SameWorker.refl d
  · rw [hdetached]
    exact ⟨rfl, fun _ _ hattached => (nomatch hattached)⟩

lemma sameWorker_storeGranularity (params : Params ProbeRequest) :
    SameWorker d (storeGranularity d params) := by
  unfold storeGranularity
  split
  · exact SameWorker.of_attached rfl rfl
  · exact SameWorker.refl d

/-- A probe request fails and changes no probe, or brings the worker up to date. -/
lemma handleProbeRequest_cases (params : Params ProbeRequest) :
    SameWorker d (handleProbeRequest env d params).2 ∨
    ∃ d', d'.probeRegistry = (handleProbe d.session params d.probeRegistry env.parseError).2 ∧
      d'.attached = d.attached ∧ (handleProbeRequest env d params).2 = propagateProbes env d' := by
  have hstored := sameWorker_storeGranularity d params
  have hkept : (storeGranularity d params).session = d.session ∧
      (storeGranularity d params).attached = d.attached := by
    unfold storeGranularity
    split
    · exact ⟨rfl, rfl⟩
    · exact ⟨rfl, rfl⟩
  unfold handleProbeRequest
  dsimp only
  rw [hstored.registry, hkept.1]
  split
  · refine .inr ⟨_, rfl, ?_, rfl⟩
    exact hkept.2
  next hfail =>
    refine .inl (hstored.trans ?_)
    refine SameWorker.of_attached ?_ rfl
    rw [handleProbe_of_error hfail, hstored.registry]

end SameWorker

/-! ## Every request -/

/-- The request makes the daemon start a worker. -/
def StartsWorker (d : DaemonState T) : Env T × ClientRequest → Prop
  | (env, .attach (.valid req)) => d.session.validateAttach req = .ok () ∧
      ∃ backend, env.backend = .ok backend ∧ ValidMetadata backend.response
  | _ => False

/-- A request starts a worker, passes on the probes, or keeps the worker. -/
lemma served_worker_cases (d : DaemonState T) (act : Env T × ClientRequest) :
    (StartsWorker d act ∧ (served d act).probeRegistry = d.probeRegistry ∧
      ∃ backend, act.1.backend = .ok backend ∧ (served d act).attached =
        some (attachModel WorkerState.new backend.model, backend.model.handle)) ∨
    ¬ StartsWorker d act ∧ (SameWorker d (served d act) ∨
      ∃ params d', d'.probeRegistry =
          (handleProbe d.session params d.probeRegistry act.1.parseError).2 ∧
        d'.attached = d.attached ∧ served d act = propagateProbes act.1 d') := by
  obtain ⟨env, request⟩ := act
  cases request with
  | attach params =>
    by_cases hstarts : StartsWorker d (env, .attach params)
    · left
      cases params with
      | absent | malformed msg => cases hstarts
      | valid req =>
        obtain ⟨hvalid, backend, hback, hmeta⟩ := hstarts
        have hserved : served d (env, .attach (.valid req)) =
            attachedState d req backend env.uuid :=
          handleAttachRequest_of_valid hvalid hback hmeta
        rw [hserved]
        exact ⟨⟨hvalid, backend, hback, hmeta⟩, rfl, backend, hback, rfl⟩
    · refine .inr ⟨hstarts, .inl ?_⟩
      rcases handleAttachRequest_cases env d params with
        ⟨error, hfail⟩ | ⟨backend, body, sess, -, -, -, hattach⟩
      · rw [show served d (env, .attach params) = d from congrArg Prod.snd hfail]
        exact SameWorker.refl d
      · obtain ⟨req, backend, rfl, hvalid, hback, hmeta⟩ :=
          valid_of_handleAttachRequest (by rw [hattach]; rfl)
        exact absurd ⟨hvalid, backend, hback, hmeta⟩ hstarts
  | probe params =>
    refine .inr ⟨id, ?_⟩
    exact (handleProbeRequest_cases env d params).imp id fun ⟨d', h⟩ => ⟨params, d', h⟩
  | detach => exact .inr ⟨id, .inl (sameWorker_handleDetachRequest d)⟩
  | step params => exact .inr ⟨id, .inl (sameWorker_handleStepRequest env d params)⟩
  | checkpoint params => exact .inr ⟨id, .inl (sameWorker_handleCheckpoint env d params)⟩
  | replay params =>
    exact .inr ⟨id, .inl ((sameWorker_tryOrchestratorReplay env d params).trans
      (SameWorker.of_attached rfl rfl))⟩
  | subscribe params =>
    refine .inr ⟨id, .inl ?_⟩
    unfold served handleRequest
    dsimp only
    split
    · exact SameWorker.of_attached rfl rfl
    · exact SameWorker.of_attached rfl rfl
  | unparsable _ | initialize_ _ | status | intervene _ | unsubscribe _ | viewDefine _ | query
    | unknown _ => exact .inr ⟨id, .inl (SameWorker.of_attached rfl rfl)⟩

end RocketSurgeon.Daemon
