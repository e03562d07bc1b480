import RocketSurgeon.Daemon.Linked
import RocketSurgeon.Worker.Healthy
import RocketSurgeon.Worker.ReplayRun

/-!
# Requests that fail

A request that is answered with an error should have changed nothing.  Most handlers
check first and act then.  Five branches of the loop act first: a forward step without
parameters, a backward step whose parameters are no step request, a replay of a
checkpoint that only the worker knows, granularity scopes set without a model, and
unsubscribing with malformed parameters.  And a backward step can fail half-way: the replay
that stands for it counts the worker's clock on before it applies a recipe, and before it
waits behind the hooks of the pass it replaces.  `Guarded` says when none of this does harm.
-/

namespace RocketSurgeon.Daemon

open Lib Protocol Probes Worker

variable {T : Type} {params : Params StepRequest}

/-- Nothing the client can observe later has changed: the session, of which only the estimate of
the arena's utilization may differ, the registry, the scopes, the event switch and the worker's
clock. -/
structure Unchanged (d d' : DaemonState T) : Prop where
  session : { d'.session with arenaUtilization := d.session.arenaUtilization } = d.session
  probeRegistry : d'.probeRegistry = d.probeRegistry
  granularityScopes : d'.granularityScopes = d.granularityScopes
  eventsEnabled : d'.eventsEnabled = d.eventsEnabled
  workerTick : d'.orchestrator.map WorkerState.tickState = d.orchestrator.map WorkerState.tickState

/-- A request that is answered with an error changes nothing. -/
def ErrorAtomic (env : Env T) (d : DaemonState T) (request : ClientRequest) : Prop :=
  ∀ error, (handleRequest env d request).1 = .error error →
    Unchanged d (handleRequest env d request).2

/-- The worker answers, and its Python side runs passes without failing.  Of the calls that are not
forwarded requests nothing is assumed: they touch neither the session nor the clock. -/
structure Env.Healthy (env : Env T) : Prop where
  delivered : env.forwarded.transport = .delivered
  bridge : env.forwarded.bridge.Healthy

/-- The checkpoint a backward step goes back to. -/
def backwardCheckpoint (env : Env T) (session : Session) : Option (String × ℕ) :=
  Session.findCheckpointBefore (backwardTarget session + 1)
    (env.hashOrder session.checkpointPositions) none

/-- A backward step comes to nothing before it reaches the worker's pass. -/
def NothingBehind (env : Env T) (d : DaemonState T) : Prop :=
  d.attached = none ∨ backwardCheckpoint env d.session = none

/-- A replay with the registered recipes gets through: they can be applied, and no hooks of an
earlier pass are on the model. -/
def GetsThrough (env : Env T) (d : DaemonState T) : Prop :=
  env.forwarded.bridge.Applies d.session.interventions ∧
    ∀ worker, d.orchestrator = some worker → worker.registeredHooks = []

/-- None of the branches that act before they check does harm. -/
def Guarded (env : Env T) (d : DaemonState T) : ClientRequest → Prop
  | .step ⟨false, .absent⟩ => d.attached = none
  | .step ⟨true, .valid _⟩ => NothingBehind env d ∨ GetsThrough env d
  | .step ⟨true, .absent⟩ | .step ⟨true, .malformed _⟩ => NothingBehind env d
  | .replay (.valid req) => ∀ worker, d.orchestrator = some worker →
      HeldByWorker worker req.fromCheckpoint → d.session.findCheckpoint req.fromCheckpoint ≠ none
  | .probe (.valid (.setGranularity scopes)) =>
      d.session.state.status = .stopped ∨ scopes = d.granularityScopes
  | .unsubscribe (.malformed _) => d.eventsEnabled = false
  | _ => True

/-! ## Frames -/

section Frames

variable {d : DaemonState T}

lemma Unchanged.refl (d : DaemonState T) : Unchanged d d := ⟨rfl, rfl, rfl, rfl, rfl⟩

lemma Unchanged.trans (hfirst : Unchanged d d') (hsecond : Unchanged d' d'') :
    Unchanged d d'' where
  session :=
    (congrArg (fun sess : Session =>
      { sess with arenaUtilization := d.session.arenaUtilization }) hsecond.session).trans
      hfirst.session
  probeRegistry := hsecond.probeRegistry.trans hfirst.probeRegistry
  granularityScopes := hsecond.granularityScopes.trans hfirst.granularityScopes
  eventsEnabled := hsecond.eventsEnabled.trans hfirst.eventsEnabled
  workerTick := hsecond.workerTick.trans hfirst.workerTick

/-- A handler that has answered with an error and kept the session has changed nothing. -/
lemma Unchanged.conclude (hsession : answered.2 = d.session) :
    Unchanged d (d.conclude answered).2 := by
  obtain ⟨resp, sess⟩ := answered
  obtain rfl : sess = d.session := hsession
  exact Unchanged.refl d

lemma Unchanged.withWorker (hattached : d.attached = some (worker, handle))
    (htick : worker'.tickState = worker.tickState) {session : Session}
    (hsession : { session with arenaUtilization := d.session.arenaUtilization } = d.session) :
    Unchanged d { d with session, orchestrator := some worker' } where
  session := hsession
  probeRegistry := rfl
  granularityScopes := rfl
  eventsEnabled := rfl
  workerTick := by
    rw [(attached_eq_some_iff.mp hattached).1]
    exact congrArg some htick

lemma unchanged_forwardCheckpoint (env : Env T) (d : DaemonState T)
    (request : ℕ → HostCheckpointRequest) : Unchanged d (forwardCheckpoint env d request) := by
  unfold forwardCheckpoint
  split
  · exact Unchanged.refl d
  next worker handle hattached =>
    refine Unchanged.withWorker hattached ?_ rfl
    exact @Link.call_induct T _ (fun st => st.tickState = worker.tickState) _ _ _ rfl
      (tickState_handleHostCheckpoint _ worker _)

end Frames

/-! ## Steps -/

section Steps

variable {env : Env T} {d : DaemonState T}

lemma finishStepRequest_of_error (hfail : (finishStepRequest env params tried).1 = .error error) :
    (handleStep tried.2.session params tried.1).1 = .error error ∧
      (finishStepRequest env params tried).2 = tried.2 := by
  unfold finishStepRequest at hfail ⊢
  dsimp only at hfail ⊢
  split at hfail
  · cases hfail
  · have hsession := handleStep_of_error hfail
    refine ⟨hfail, ?_⟩
    unfold DaemonState.conclude
    rw [hsession]

lemma errorAtomic_forwardStep (hlinked : Linked d)
    (hguarded : params = .absent → d.attached = none) :
    ErrorAtomic env d (.step ⟨false, params⟩) := by
  intro error hfail
  change Unchanged d (finishStepRequest env params (tryOrchestratorStep env d params)).2
  obtain ⟨hstep, hstate⟩ := finishStepRequest_of_error hfail
  rw [hstate]
  have hkept : ∀ tried : Option HostStepResponse × DaemonState T, tried = (none, d) →
      Unchanged d tried.2 := by
    rintro _ rfl
    exact Unchanged.refl d
  cases hattached : d.attached with
  | none => exact hkept _ (by simp only [tryOrchestratorStep, hattached])
  | some linked =>
    cases params with
    | absent => cases hattached.symm.trans (hguarded rfl)
    | malformed msg => exact hkept _ (by simp only [tryOrchestratorStep, hattached, Params.parse])
    | valid req =>
      -- With a worker the session is stopped, and the step cannot have failed.
      have hstopped := hlinked.mpr (by rw [hattached]; rfl)
      have hsteady := steady_tryOrchestratorStep env d (.valid req)
      have hok := isOk_handleStep (hsteady.status.trans hstopped) req
        (tryOrchestratorStep env d (.valid req)).1
      rw [hstep] at hok
      cases hok

/-- A backward step that fails although its replay gets through has at most taken a checkpoint on the
worker. -/
lemma unchanged_tryBackwardStep (hhealthy : env.Healthy) (hthrough : GetsThrough env d)
    (hnone : (tryBackwardStep env d).1 = none) : Unchanged d (tryBackwardStep env d).2 := by
  unfold tryBackwardStep at hnone ⊢
  dsimp only at hnone ⊢
  split
  next checkpoint _ worker handle hfound hattached =>
    simp only [hfound, hattached] at hnone
    obtain ⟨utilization, hsession⟩ := session_takeSubCheckpoint env d.session worker handle
    have htick := tickState_takeSubCheckpoint env d.session worker handle
    have hunhooked : (takeSubCheckpoint env d.session worker handle).2.registeredHooks = [] := by
      have hworker := hthrough.2 worker (attached_eq_some_iff.mp hattached).1
      refine @takeSubCheckpoint_induct T (fun st => st.registeredHooks = []) _ _ _ _ hworker
        fun _ => ?_
      obtain ⟨arena, hstate⟩ := handleHostCheckpoint_snd env.subCheckpoint.bridge worker
        (subCheckpointRequest d.session handle)
      rw [hstate]
      exact hworker
    have happlies : env.forwarded.bridge.Applies (backwardReplay
        (takeSubCheckpoint env d.session worker handle).1 handle checkpoint).interventions := by
      rw [hsession]
      exact hthrough.1
    split
    next host hok =>
      rw [hok] at hnone
      cases hnone
    next message herror =>
      simp only [Link.call, hhealthy.delivered] at herror ⊢
      rw [hhealthy.bridge.handleHostReplay_of_error happlies hunhooked herror]
      exact Unchanged.withWorker hattached htick (by rw [hsession])
  · exact Unchanged.refl d

/-- Without a worker, or without a checkpoint to go back to, a backward step comes to nothing. -/
lemma tryBackwardStep_eq (hnothing : NothingBehind env d) : tryBackwardStep env d = (none, d) := by
  unfold tryBackwardStep
  dsimp only
  split
  next hfound hattached =>
    rcases hnothing with hdetached | hmissing
    · cases hattached.symm.trans hdetached
    · cases hfound.symm.trans hmissing
  · rfl

lemma errorAtomic_backwardStep (hhealthy : env.Healthy) (hlinked : Linked d)
    (hguarded : NothingBehind env d ∨ GetsThrough env d ∧ ∃ req, params = .valid req) :
    ErrorAtomic env d (.step ⟨true, params⟩) := by
  intro error hfail
  cases htried : (tryBackwardStep env d).1 with
  | none =>
    have hserved : (handleRequest env d (.step ⟨true, params⟩)).2 = (tryBackwardStep env d).2 := by
      simp [handleRequest, handleStepRequest, htried]
    rw [hserved]
    rcases hguarded with hnothing | ⟨hthrough, -⟩
    · rw [tryBackwardStep_eq hnothing]
      exact Unchanged.refl d
    · exact unchanged_tryBackwardStep hhealthy hthrough htried
  | some host =>
    rw [handleRequest_of_replayed env d htried] at hfail
    obtain ⟨hstep, _⟩ := finishStepRequest_of_error hfail
    -- The worker has replayed, so there is one, and the parameters can be read.
    have hreached : ¬ NothingBehind env d := by
      intro hnothing
      rw [tryBackwardStep_eq hnothing] at htried
      cases htried
    obtain ⟨-, req, rfl⟩ := hguarded.resolve_left hreached
    have hstopped := hlinked.mpr (Option.isSome_iff_ne_none.mpr fun hdetached =>
      hreached (.inl hdetached))
    have hok := isOk_handleStep ((steady_tryBackwardStep env d).status.trans hstopped) req
      (tryBackwardStep env d).1
    rw [hstep] at hok
    cases hok

end Steps

/-! ## The other requests -/

section Others

variable {env : Env T} {d : DaemonState T}

lemma errorAtomic_replay (hhealthy : env.Healthy) (hlinked : Linked d)
    {params : Params ReplayRequest} (hguarded : Guarded env d (.replay params)) :
    ErrorAtomic env d (.replay params) := by
  intro error hfail
  change (handleReplay (tryOrchestratorReplay env d params).2.session params
    (tryOrchestratorReplay env d params).1).1 = _ at hfail
  have hsession := handleReplay_of_error hfail
  have hserved : (handleRequest env d (.replay params)).2 = (tryOrchestratorReplay env d params).2 := by
    simp only [handleRequest, DaemonState.conclude]
    rw [hsession]
  rw [hserved]
  cases hattached : d.attached with
  | none =>
    simp only [tryOrchestratorReplay, hattached]
    exact Unchanged.refl d
  | some linked =>
    obtain ⟨worker, handle⟩ := linked
    cases params with
    | absent | malformed msg =>
      simp only [tryOrchestratorReplay, hattached]
      exact Unchanged.refl d
    | valid req =>
      have hstopped := hlinked.mpr (by rw [hattached]; rfl)
      -- The session does not know the checkpoint, so the worker does not hold it either.
      have hunknown : d.session.findCheckpoint req.fromCheckpoint = none := by
        by_contra hknown
        obtain ⟨ref, href⟩ := Option.ne_none_iff_exists'.mp hknown
        simp only [tryOrchestratorReplay, hattached] at hfail
        change (respond d.session (d.session.replay req _)).1 = _ at hfail
        rw [Session.replay_of_stopped hstopped href] at hfail
        cases hfail
      have hmissing : ¬ HeldByWorker worker req.fromCheckpoint := fun hheld =>
        hguarded worker (attached_eq_some_iff.mp hattached).1 hheld hunknown
      simp only [tryOrchestratorReplay, hattached, Link.call, hhealthy.delivered]
      refine Unchanged.withWorker hattached ?_ rfl
      rcases handleHostReplay_cases env.forwarded.bridge worker (hostReplayRequest handle req) with
        ⟨_, msg, hrejected⟩ | ⟨⟨arena, hadmitted⟩, _, _⟩
      · rw [hrejected]
      · exact absurd ⟨arena, hadmitted.stored, hadmitted.slots⟩ hmissing

lemma errorAtomic_checkpoint (params : Params CheckpointRequest) :
    ErrorAtomic env d (.checkpoint params) := by
  intro error hfail
  refine withParams_error_induct (Unchanged.refl d) (fun req hrequest => ?_) hfail
  split
  · exact Unchanged.refl d
  next hstopped =>
    simp only [hstopped] at hrequest
    cases req with
    | create tier | list | bookmark tickId name => cases hrequest
    | restore id =>
      -- The worker has restored before the session looks for the checkpoint.
      refine (unchanged_forwardCheckpoint env d fun handle => .restore handle id).trans ?_
      exact Unchanged.conclude (respond_of_error hrequest)
    | delete id => exact Unchanged.conclude (respond_of_error hrequest)

lemma errorAtomic_probe {params : Params ProbeRequest}
    (hguarded : Guarded env d (.probe params)) : ErrorAtomic env d (.probe params) := by
  intro error hfail
  simp only [handleRequest, handleProbeRequest] at hfail ⊢
  split at hfail
  · cases hfail
  next hprobe =>
    have hregistry := handleProbe_of_error hprobe
    -- Scopes that were stored were the same, or the request has succeeded.
    have hstored : storeGranularity d params = d := by
      unfold storeGranularity at hprobe ⊢
      split at hprobe
      next scopes =>
        rcases hguarded with hstopped | hsame
        · unfold handleProbe at hprobe
          rw [Session.requireStopped_of_stopped hstopped] at hprobe
          cases hprobe
        · rw [hsame]
      · rfl
    rw [hregistry, hstored]
    exact Unchanged.refl d

lemma errorAtomic_attach (params : Params AttachRequest) : ErrorAtomic env d (.attach params) := by
  intro error hfail
  simp only [handleRequest] at hfail ⊢
  rcases handleAttachRequest_cases env d params with ⟨error', herror⟩ | ⟨_, _, _, _, _, _, hattach⟩
  · rw [herror]
    exact Unchanged.refl d
  · rw [hattach] at hfail
    cases hfail

lemma errorAtomic_detach : ErrorAtomic env d .detach := by
  intro error hfail
  simp only [handleRequest] at hfail ⊢
  rcases handleDetachRequest_cases d with ⟨error', herror⟩ | ⟨_, _, _, _, hdetach⟩
  · rw [herror]
    exact Unchanged.refl d
  · rw [hdetach] at hfail
    cases hfail

lemma errorAtomic_subscribe (params : Params SubscribeRequest) :
    ErrorAtomic env d (.subscribe params) := by
  intro error hfail
  simp only [handleRequest] at hfail ⊢
  split at hfail
  · cases hfail
  next hsubscribe => exact Unchanged.conclude (withParams_of_error (fun _ => respond_of_error) hsubscribe)

lemma errorAtomic_unsubscribe {params : Params UnsubscribeRequest}
    (hguarded : Guarded env d (.unsubscribe params)) : ErrorAtomic env d (.unsubscribe params) := by
  intro error hfail
  cases params with
  | absent | valid req => cases hfail
  | malformed msg =>
    have hdisabled : { d with eventsEnabled := false } = d := by
      rw [← show d.eventsEnabled = false from hguarded]
    change Unchanged d { d with eventsEnabled := false }
    rw [hdisabled]
    exact Unchanged.refl d

end Others

/-! ## Runs -/

lemma errorAtomic_of_guarded (hhealthy : env.Healthy) {d : DaemonState T} (hlinked : Linked d)
    (hguarded : Guarded env d request) :
    ErrorAtomic env d request := by
  cases request with
  | unparsable msg | status | query | unknown method => exact fun _ _ => Unchanged.refl d
  | initialize_ params =>
    exact fun _ hfail => Unchanged.conclude (withParams_of_error (fun _ => respond_of_error) hfail)
  | attach params => exact errorAtomic_attach params
  | detach => exact errorAtomic_detach
  | step params =>
    obtain ⟨saysBackward, params⟩ := params
    cases saysBackward with
    | false =>
      refine errorAtomic_forwardStep hlinked ?_
      rintro rfl
      exact hguarded
    | true =>
      refine errorAtomic_backwardStep hhealthy hlinked ?_
      cases params with
      | absent | malformed msg => exact .inl hguarded
      | valid req => exact hguarded.imp_right fun hthrough => ⟨hthrough, req, rfl⟩
  | replay params => exact errorAtomic_replay hhealthy hlinked hguarded
  | checkpoint params => exact errorAtomic_checkpoint params
  | probe params => exact errorAtomic_probe hguarded
  | intervene params =>
    exact fun _ hfail => Unchanged.conclude (withParams_of_error (fun _ => respond_of_error) hfail)
  | subscribe params => exact errorAtomic_subscribe params
  | unsubscribe params => exact errorAtomic_unsubscribe hguarded
  | viewDefine params =>
    exact fun _ hfail => Unchanged.conclude (withParams_of_error (fun _ => respond_of_error) hfail)

/-- **Error atomicity.**  In every state a daemon can reach, by any requests in any world, a
guarded request that a healthy worker is there for leaves everything as it was if it is answered
with an error. -/
theorem errorAtomic_of_reachable (actions : List (Env T × ClientRequest)) {env : Env T}
    (hhealthy : env.Healthy) {request : ClientRequest}
    (hguarded : Guarded env (servedAll DaemonState.new actions) request) :
    ErrorAtomic env (servedAll DaemonState.new actions) request := by
  have hlinked : Linked (servedAll (DaemonState.new : DaemonState T) actions) :=
    linked_servedAll linked_new actions
  exact errorAtomic_of_guarded hhealthy hlinked hguarded

/-! ### Unsubscribing

The parameters of `unsubscribe` are read after the events have been switched off.
-/

/-- The requests up to a subscription. -/
def subscribing : List (Env ℤ × ClientRequest) :=
  [(Env.calm echoBridge "s", initializeRequest), (Env.calm echoBridge "m", attachRequest),
    (Env.calm echoBridge "e", .subscribe .absent)]

def unsubscribeBadly : ClientRequest := .unsubscribe (.malformed "invalid type: integer")

lemma healthy_calm (uuid : String) : (Env.calm echoBridge uuid).Healthy :=
  ⟨rfl, Bridge.healthy_quiet echoNet⟩

/-- The client gets an error, and no more events. -/
theorem not_errorAtomic_unsubscribe :
    (Env.calm echoBridge "u").Healthy ∧
      ¬ ErrorAtomic (Env.calm echoBridge "u") (servedAll DaemonState.new subscribing)
        unsubscribeBadly := by
  refine ⟨healthy_calm "u", fun hatomic => ?_⟩
  have hunchanged := hatomic _ rfl
  have hbefore : (servedAll DaemonState.new subscribing).eventsEnabled = true := by decide +kernel
  have hafter := hunchanged.eventsEnabled
  cases hafter

/-- Without a subscription the same request changes nothing. -/
theorem errorAtomic_unsubscribe_opened :
    ErrorAtomic (Env.calm echoBridge "u") (servedAll DaemonState.new (subscribing.take 2))
      unsubscribeBadly := by
  have hdisabled : (servedAll DaemonState.new (subscribing.take 2)).eventsEnabled = false := by
    decide +kernel
  exact errorAtomic_of_reachable _ (healthy_calm "u") hdisabled

end RocketSurgeon.Daemon
