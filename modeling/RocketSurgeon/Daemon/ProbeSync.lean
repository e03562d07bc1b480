import RocketSurgeon.Daemon.WorkerCalls
import RocketSurgeon.Lib.Runs
import RocketSurgeon.Probes.Definitions

/-!
# The probes of the worker

The daemon registers probes and passes the enabled ones on to its worker after every probe
request that succeeds.  No other request changes the probes on either side, except that attaching
starts a worker without probes.  The registry outlives the model, so the worker of a second model
follows it only if no probe was enabled when the model was attached.
-/

namespace RocketSurgeon.Daemon

open Lib Protocol Probes Worker

variable {T : Type} {d : DaemonState T}

/-- The attached worker watches for the enabled probes of the registry, by priority and then in
the order they were defined. -/
def FollowsRegistry (d : DaemonState T) : Prop :=
  ∀ worker handle, d.attached = some (worker, handle) →
    worker.activeProbes.map Prod.fst =
      sortOn ProbeDefinition.priority (d.probeRegistry.defined.filter ProbeDefinition.enabled)

lemma SameWorker.followsRegistry (hsame : SameWorker d d') (hfollows : FollowsRegistry d) :
    FollowsRegistry d' := by
  intro worker' handle hattached'
  obtain ⟨worker, hattached, hmoved⟩ := hsame.worker worker' handle hattached'
  rw [hmoved.activeProbes, hsame.registry]
  exact hfollows worker handle hattached

/-! ## Probe requests -/

lemma sound_handleProbe (session : Session) (params : Params ProbeRequest)
    (parseError : String → String) (hsound : registry.Sound) :
    (handleProbe session params registry parseError).2.Sound := by
  have hresponse : ∀ {α : Type} (probeId : α → Option String)
      (res : Except RegistryError α × ProbeRegistry), res.2.Sound →
      (probeResponse session parseError probeId res).2.Sound := by
    rintro α probeId ⟨_ | _, registry'⟩ hsound'
    · exact hsound'
    · exact hsound'
  unfold handleProbe
  split
  · exact hsound
  · refine withParams_induct hsound fun req => ?_
    cases req with
    | define probe => exact hresponse _ _ (hsound.define probe)
    | list | setGranularity scopes => exact hresponse _ _ hsound
    | enable id => exact hresponse _ _ (hsound.setEnabled id true)
    | disable id => exact hresponse _ _ (hsound.setEnabled id false)
    | remove id => exact hresponse _ _ (hsound.remove id)

/-- The worker parses what the registry has parsed, so no probe is passed over. -/
lemma activeProbes_handleHostUpdateProbes {registry : ProbeRegistry} (hsound : registry.Sound)
    (st : WorkerState T) (handle : ℕ) :
    (handleHostUpdateProbes st
        ⟨handle, registry.list.filter ProbeDefinition.enabled⟩).2.activeProbes.map Prod.fst =
      sortOn ProbeDefinition.priority (registry.defined.filter ProbeDefinition.enabled) := by
  rw [← ProbeRegistry.filter_list hsound]
  have hparses : ∀ probe ∈ registry.list.filter ProbeDefinition.enabled,
      (ProbePoint.parse probe.point).isSome = true := by
    intro probe hprobe
    rw [ProbeRegistry.filter_list hsound, mem_sortOn] at hprobe
    obtain ⟨entry, hentry, rfl⟩ := ProbeRegistry.mem_defined.mp (List.mem_filter.mp hprobe).1
    rw [hsound.points entry hentry]
    rfl
  generalize registry.list.filter ProbeDefinition.enabled = probes at hparses
  unfold handleHostUpdateProbes
  induction probes with
  | nil => rfl
  | cons probe probes ih =>
    obtain ⟨hprobe, hprobes⟩ := List.forall_mem_cons.mp hparses
    obtain ⟨point, hpoint⟩ := Option.isSome_iff_exists.mp hprobe
    rw [List.filterMap_cons, hpoint]
    exact congrArg (probe :: ·) (ih hprobes)

lemma followsRegistry_propagateProbes (env : Env T) (hsound : d.probeRegistry.Sound)
    (hreach : env.probes.transport ≠ .requestLost) :
    FollowsRegistry (propagateProbes env d) := by
  intro worker' handle' hattached'
  unfold propagateProbes at hattached' ⊢
  split at hattached'
  next hnone => exact nomatch hnone.symm.trans hattached'
  next worker handle hattached =>
    rw [attached_withWorker hattached d.session] at hattached'
    cases hattached'
    rw [Link.call_snd_of_ne hreach]
    exact activeProbes_handleHostUpdateProbes hsound worker _

lemma probeRegistry_propagateProbes (env : Env T) (d : DaemonState T) :
    (propagateProbes env d).probeRegistry = d.probeRegistry := by
  unfold propagateProbes
  split
  · rfl
  · rfl

/-! ## Every request -/

/-- A worker is started only while no probe is enabled. -/
def StartsUnprobed (d : DaemonState T) (action : Env T × ClientRequest) : Prop :=
  StartsWorker d action → ∀ probe ∈ d.probeRegistry.defined, probe.enabled = false

lemma sound_served (hsound : d.probeRegistry.Sound) (action : Env T × ClientRequest) :
    (served d action).probeRegistry.Sound := by
  rcases served_worker_cases d action with
    ⟨-, hreg, -⟩ | ⟨-, hsame | ⟨params, d', hreg, -, hserved⟩⟩
  · rw [hreg]
    exact hsound
  · rw [hsame.registry]
    exact hsound
  · rw [hserved, probeRegistry_propagateProbes, hreg]
    exact sound_handleProbe d.session params action.1.parseError hsound

/-- **Every run keeps the registry sound.** -/
theorem sound_probeRegistry (actions : List (Env T × ClientRequest)) :
    (servedAll DaemonState.new actions).probeRegistry.Sound :=
  List.foldlRecOn (motive := fun d => d.probeRegistry.Sound) actions served
    ProbeRegistry.sound_new fun _ hsound action _ => sound_served hsound action

/-- A worker that follows the registry does so after a request whose probes reach it, unless the
request starts another one while probes are enabled. -/
lemma followsRegistry_served_iff (hsound : d.probeRegistry.Sound) (hfollows : FollowsRegistry d)
    (hreach : action.1.probes.transport ≠ .requestLost) :
    FollowsRegistry (served d action) ↔ StartsUnprobed d action := by
  rcases served_worker_cases d action with
    ⟨hstarts, hreg, backend, -, hattached⟩ |
      ⟨hstarts, hsame | ⟨params, d', hreg, -, hserved⟩⟩
  · have hnone : StartsUnprobed d action ↔
        d.probeRegistry.defined.filter ProbeDefinition.enabled = [] := by
      rw [List.filter_eq_nil_iff]
      refine (imp_iff_right hstarts).trans (forall₂_congr fun probe _ => ?_)
      exact (Bool.not_eq_true _).symm.to_iff
    rw [hnone]
    constructor
    · intro hserved
      have hnow := hserved _ _ hattached
      rw [hreg] at hnow
      exact List.perm_nil.mp ((perm_sortOn _ _).symm.trans (.of_eq hnow.symm))
    · intro hnone worker' handle' hattached'
      cases hattached.symm.trans hattached'
      rw [hreg, hnone]
      rfl
  · exact iff_of_true (hsame.followsRegistry hfollows) fun h => absurd h hstarts
  · refine iff_of_true ?_ fun h => absurd h hstarts
    rw [hserved]
    refine followsRegistry_propagateProbes action.1 ?_ hreach
    rw [hreg]
    exact sound_handleProbe d.session params action.1.parseError hsound

/-- Along a run whose probe updates reach the worker, the worker follows the registry after every
request exactly if no worker is started while a probe is enabled. -/
theorem followsRegistry_along_iff (actions : List (Env T × ClientRequest))
    (hreached : ∀ action ∈ actions, action.1.probes.transport ≠ .requestLost) :
    Along served (fun d action => FollowsRegistry (served d action)) DaemonState.new actions ↔
      Along served StartsUnprobed DaemonState.new actions := by
  refine @along_iff_of_forall_mem _ _ served _ StartsUnprobed
    (fun d => d.probeRegistry.Sound ∧ FollowsRegistry d)
    (fun action => action.1.probes.transport ≠ .requestLost) ?_ ?_ _ ?_ _ hreached
  · intro d action hdelivered hinv
    exact followsRegistry_served_iff hinv.1 hinv.2 hdelivered
  · intro d action _ hinv hfollows
    exact ⟨sound_served hinv.1 action, hfollows⟩
  · exact ⟨ProbeRegistry.sound_new, fun _ _ hattached => (nomatch hattached)⟩

/-- Attach, and define a probe. -/
def probedRun : List (Env ℤ × ClientRequest) :=
  [(.calm echoBridge "s", initializeRequest), (.calm echoBridge "m", attachRequest),
    (.calm echoBridge "p", .probe (.valid (.define ⟨"p", "llama:0:0:mlp:0:output", .capture, true, 0⟩)))]

/-- The probe of the first model is still enabled when the second one is attached. -/
theorem not_followsRegistry_reattached :
    let run := probedRun ++
      [(.calm echoBridge "d", .detach), (.calm echoBridge "n", attachRequest)]
    (∀ action ∈ run, action.1.probes.transport = .delivered) ∧
      ¬ FollowsRegistry (servedAll DaemonState.new run) := by
  refine ⟨by decide +kernel, fun hfollows => ?_⟩
  exact absurd (hfollows _ _ rfl) (by decide +kernel)

/-- A worker that has had its probes since it was started follows them. -/
theorem followsRegistry_probedRun :
    Along served (fun d action => FollowsRegistry (served d action)) DaemonState.new probedRun := by
  refine (followsRegistry_along_iff probedRun (by decide +kernel)).mpr ?_
  exact ⟨False.elim, fun _ => by decide +kernel, False.elim, trivial⟩

end RocketSurgeon.Daemon
