import RocketSurgeon.Daemon.Linked
import RocketSurgeon.Lib.Runs
import RocketSurgeon.Worker.CheckpointInvariant
import RocketSurgeon.Worker.ReplayRun

/-!
# The registry and the arena

The session lists the checkpoints that were created, and the worker's arena holds their
slots.  The two are changed by separate messages, and they drift apart in four ways:

* a client's checkpoint is listed even if the worker could not take it;
* deleting a checkpoint is not passed on to the worker, which keeps its slots;
* an automatic checkpoint that was spilled stays listed, and nothing reads its file back;
* a checkpoint can be taken although there was nothing to store.

`Careful` says when a request does none of this.  The invariant behind it is `Coupling`:
the arena holds what is listed, and owns nothing of what was deleted.  Creating a
checkpoint keeps it by `extends_createCheckpoint`; steps and replays do not touch the
arena; and no other request touches either store.
-/

namespace RocketSurgeon.Daemon

open Lib Protocol Probes Worker List Option

variable {T : Type} {worker : WorkerState T} {arena : CheckpointArena} {handle : ℕ}
  {session : Session} {id : String}

/-! ## Agreement -/

/-- A daemon, with the ids that were deleted from its session so far. -/
structure Tracked (T : Type) where
  daemon : DaemonState T
  deleted : List String

def Tracked.new : Tracked T := ⟨DaemonState.new, []⟩

/-- The id that a request deletes from the session. -/
def deletedBy (d : DaemonState T) (action : Env T × ClientRequest) : List String :=
  match action.2 with
  | .checkpoint (.valid (.delete id)) =>
      if (handleRequest action.1 d action.2).1.isOk then [id] else []
  | _ => []

def track (t : Tracked T) (action : Env T × ClientRequest) : Tracked T where
  daemon := served t.daemon action
  deleted := deletedBy t.daemon action ++ t.deleted

/-- **What is listed can be restored, and what was deleted owns no slot.**  No request loads a
spill file, so a listed checkpoint has to be in the arena. -/
structure RegistryAgrees (t : Tracked T) : Prop where
  restorable : ∀ worker handle, t.daemon.attached = some (worker, handle) →
    ∀ ref ∈ t.daemon.session.state.checkpoints, ref.tier ≠ .probeLog →
      HeldByWorker worker ref.checkpointId
  freed : ∀ worker handle, t.daemon.attached = some (worker, handle) →
    ∀ id ∈ t.deleted, ∀ arena, worker.checkpointArena = some arena → arena.slotsOf id = []

/-! ## Careful requests -/

/-- Creating the checkpoint `id` in up to `slots` slots does no harm to others: the id is fresh,
its random-number state stays in its slot, and no listed checkpoint is spilled. -/
structure Harmless (bridge : Bridge T) (checkpoints : List CheckpointRef) (deleted : List String)
    (arena : CheckpointArena) (slots : ℕ) (id : String) : Prop where
  undeleted : id ∉ deleted
  unlisted : ∀ ref ∈ checkpoints, ref.checkpointId ≠ id
  fits : RngFits bridge arena
  spared : ∀ ref ∈ checkpoints, ref.tier ≠ .probeLog → ¬ arena.AtRisk slots ref.checkpointId

/-- Once `taken` slots are gone, the checkpoint `id` can be created without harm, and there is
something to store. -/
structure Registrable (bridge : Bridge T) (checkpoints : List CheckpointRef)
    (deleted : List String) (worker : WorkerState T) (arena : CheckpointArena) (taken : ℕ)
    (id : String) : Prop where
  harmless : Harmless bridge checkpoints deleted arena (taken + slotsNeeded worker) id
  storable : Storable bridge worker arena taken

/-- The worker can take the checkpoint that a client asks for. -/
structure Creatable (env : Env T) (checkpoints : List CheckpointRef) (deleted : List String)
    (worker : WorkerState T) (arena : CheckpointArena) : Prop where
  reached : env.forwarded.transport ≠ .requestLost
  safe : isSafeCheckpointId env.uuid = true
  outputs : worker.lastOutputs.isNone = false
  registrable : Registrable env.forwarded.bridge checkpoints deleted worker arena 0 env.uuid
  capturable : ∀ layer ∈ checkpointLayers worker.numLayers,
    Capturable env.forwarded.bridge (buildLayerContainerMap worker.containerPaths)
      (arena.slotSize - slotHeaderSize) layer
  room : (checkpointLayers worker.numLayers).length ≤ arena.available

/-- A step stops on a boundary layer, where an automatic checkpoint is due. -/
def StopsOnBoundary (env : Env T) (d : DaemonState T) (step : StepParams) : Prop :=
  ∃ host, (stepTried env d step).1 = some host ∧
    host.position.layer ∈ d.session.autoCheckpointLayers

/-- The checkpoints a request takes can be taken, those it lists can be stored, and one that it
deletes has no slots. -/
def Careful (env : Env T) (t : Tracked T) (worker : WorkerState T) : ClientRequest → Prop
  | .step step =>
      (step.saysBackward = true → t.daemon.session.arenaUtilization < 3 / 5 →
        ∀ arena, worker.checkpointArena = some arena →
          Harmless env.subCheckpoint.bridge t.daemon.session.state.checkpoints t.deleted arena
            (slotsNeeded worker) (subCheckpointRequest t.daemon.session 0).checkpointId) ∧
      (StopsOnBoundary env t.daemon step →
        ∀ arena, worker.checkpointArena = some arena →
          Registrable env.autoCheckpoint.bridge t.daemon.session.state.checkpoints t.deleted worker
            arena (if step.saysBackward then slotsNeeded worker else 0) ("auto-" ++ env.autoUuid))
  | .checkpoint (.valid (.create _)) =>
      ∃ arena, worker.checkpointArena = some arena ∧
        Creatable env t.daemon.session.state.checkpoints t.deleted worker arena
  | .checkpoint (.valid (.delete id)) =>
      (∃ ref ∈ t.daemon.session.state.checkpoints, ref.checkpointId = id) →
        ∀ arena, worker.checkpointArena = some arena → arena.slotsOf id = []
  | _ => True

/-- A request is careful with the worker that is attached. -/
def KeepsAgreement (t : Tracked T) (action : Env T × ClientRequest) : Prop :=
  ∀ worker handle, t.daemon.attached = some (worker, handle) → Careful action.1 t worker action.2

/-! ## The invariant -/

/-- The arena holds what is listed and owns nothing of what was deleted. -/
structure Coupling (checkpoints : List CheckpointRef) (deleted : List String) (handle : ℕ)
    (worker : WorkerState T) : Prop where
  handle : worker.modelHandle = some handle
  sound : ∀ arena, worker.checkpointArena = some arena → arena.WellFormed
  listed : ∀ ref ∈ checkpoints, ref.tier ≠ .probeLog →
    ∃ arena, worker.checkpointArena = some arena ∧ arena.Holds ref.checkpointId
  deleted : ∀ id ∈ deleted, ∀ arena, worker.checkpointArena = some arena → arena.slotsOf id = []

/-- A worker that has taken at most `slots` slots for the checkpoint `id`. -/
structure Spent (id : String) (slots : ℕ) (worker worker' : WorkerState T) : Prop where
  numLayers : worker'.numLayers = worker.numLayers
  containerPaths : worker'.containerPaths = worker.containerPaths
  arena : ∀ arena', worker'.checkpointArena = some arena' →
    ∃ arena lost, worker.checkpointArena = some arena ∧
      CheckpointArena.Extends id slots lost arena arena'

lemma forall_arena_of_eq_some {p : CheckpointArena → Prop}
    (harena : worker.checkpointArena = some arena) (hp : p arena) :
    ∀ other, worker.checkpointArena = some other → p other := by
  intro other hother
  obtain rfl : arena = other := some.inj (harena.symm.trans hother)
  exact hp

section Coupling

variable {bridge : Bridge T} {checkpoints : List CheckpointRef} {deleted : List String}
  {handle slots : ℕ} {worker worker' worker'' : WorkerState T} {id : String}

/-- What can be registered once `slots` slots are gone can be registered when they are. -/
lemma Registrable.of_spent (hspent : Spent id slots worker worker')
    (harena' : worker'.checkpointArena = some arena')
    (hother : ∀ arena, worker.checkpointArena = some arena →
      ∀ ref ∈ checkpoints, ref.checkpointId ≠ id)
    (hregistrable : ∀ arena, worker.checkpointArena = some arena →
      Registrable bridge checkpoints deleted worker arena slots newId) :
    Registrable bridge checkpoints deleted worker' arena' 0 newId := by
  obtain ⟨arena, lost, harena, hextends⟩ := hspent.arena arena' harena'
  obtain ⟨hharmless, hstorable⟩ := hregistrable arena harena
  have hleft := hextends.available
  have hneeded : slotsNeeded worker' = slotsNeeded worker := by
    unfold slotsNeeded
    rw [hspent.numLayers]
  refine ⟨⟨hharmless.undeleted, hharmless.unlisted, hharmless.fits.of_slotSize hextends.slotSize,
    ?_⟩, ?_⟩
  · rintro ref href htier ⟨hauto, horder, hfull⟩
    refine hharmless.spared ref href htier ⟨hauto, ?_, ?_⟩
    · exact (hextends.order _ horder).resolve_left (hother arena harena ref href)
    · rw [hneeded, hextends.numSlots] at hfull
      omega
  · unfold Storable at hstorable ⊢
    rw [hspent.numLayers, hspent.containerPaths]
    refine hstorable.imp_right fun hrng => ⟨hrng.1, ?_⟩
    omega

section

variable (hcoupled : Coupling checkpoints deleted handle worker)

include hcoupled

lemma Coupling.sameStore (hsame : SameStore worker worker') :
    Coupling checkpoints deleted handle worker' where
  handle := hsame.modelHandle.trans hcoupled.handle
  sound := hsame.checkpointArena ▸ hcoupled.sound
  listed := hsame.checkpointArena ▸ hcoupled.listed
  deleted := hsame.checkpointArena ▸ hcoupled.deleted

lemma Coupling.spent_of_sameStore (hsame : SameStore worker worker') :
    Spent id slots worker worker' where
  numLayers := hsame.numLayers
  containerPaths := hsame.containerPaths
  arena := by
    intro arena' harena'
    rw [hsame.checkpointArena] at harena'
    refine ⟨arena', ∅, harena', ?_⟩
    exact (CheckpointArena.Extends.refl (hcoupled.sound arena' harena')).mono (Nat.zero_le _) le_rfl

/-- Creating a checkpoint without harm keeps the coupling, whether it succeeds or not. -/
lemma Coupling.create
    (hharmless : ∀ arena, worker.checkpointArena = some arena →
      Harmless bridge checkpoints deleted arena (slotsNeeded worker) id)
    (tier : CreateCheckpointTier) (tickId layerIdx : ℕ) :
    Coupling checkpoints deleted handle
      (handleHostCheckpoint bridge worker (.create handle id tier tickId layerIdx)).2 := by
  rcases handleHostCheckpoint_create_cases bridge worker handle id tier tickId layerIdx with
    ⟨-, msg, hrejected⟩ | ⟨arena, hadmitted, hcreate⟩
  · rw [hrejected]
    exact hcoupled
  · rw [hcreate]
    have hharmless := hharmless arena hadmitted.stored
    have hextends := @extends_createCheckpoint T bridge id arena worker
      (hcoupled.sound arena hadmitted.stored) hharmless.fits
    refine ⟨hcoupled.handle, ?_, ?_, ?_⟩
    · rintro _ ⟨⟩
      exact hextends.wellFormed
    · intro ref href htier
      refine ⟨_, rfl, ?_⟩
      obtain ⟨held, hheld, hholds⟩ := hcoupled.listed ref href htier
      obtain rfl : held = arena := some.inj (hheld.symm.trans hadmitted.stored)
      -- Neither is it the one that is created, nor is it spilled.
      refine hextends.holds _ ?_ hholds
      rintro (hid | hrisk)
      · exact hharmless.unlisted ref href hid
      · exact hharmless.spared ref href htier hrisk
    · rintro gone hgone _ ⟨⟩
      refine hextends.unowned gone ?_ (hcoupled.deleted gone hgone arena hadmitted.stored)
      rintro rfl
      exact hharmless.undeleted hgone

lemma Coupling.spent_create
    (hfits : ∀ arena, worker.checkpointArena = some arena → RngFits bridge arena)
    (tier : CreateCheckpointTier) (tickId layerIdx : ℕ) :
    Spent id (slotsNeeded worker) worker
      (handleHostCheckpoint bridge worker (.create handle id tier tickId layerIdx)).2 := by
  rcases handleHostCheckpoint_create_cases bridge worker handle id tier tickId layerIdx with
    ⟨-, msg, hrejected⟩ | ⟨arena, hadmitted, hcreate⟩
  · rw [hrejected]
    exact hcoupled.spent_of_sameStore (SameStore.refl worker)
  · rw [hcreate]
    refine ⟨rfl, rfl, ?_⟩
    rintro _ ⟨⟩
    exact ⟨arena, _, hadmitted.stored, extends_createCheckpoint worker
      (hcoupled.sound arena hadmitted.stored) (hfits arena hadmitted.stored)⟩

/-- A checkpoint that was created is held if there was something to store. -/
lemma Coupling.holds_create
    (hregistrable : ∀ arena, worker.checkpointArena = some arena →
      Registrable bridge checkpoints deleted worker arena 0 id)
    (hok : (handleHostCheckpoint bridge worker (.create handle id tier tickId layerIdx)).1 =
      .ok resp) :
    ∃ arena, (handleHostCheckpoint bridge worker
      (.create handle id tier tickId layerIdx)).2.checkpointArena = some arena ∧ arena.Holds id := by
  rcases handleHostCheckpoint_create_cases bridge worker handle id tier tickId layerIdx with
    ⟨-, msg, hrejected⟩ | ⟨arena, hadmitted, hcreate⟩
  · rw [hrejected] at hok
    cases hok
  · rw [hcreate] at hok ⊢
    refine ⟨_, rfl, ?_⟩
    obtain ⟨hharmless, hstorable⟩ := hregistrable arena hadmitted.stored
    have hsound := hcoupled.sound arena hadmitted.stored
    cases hres : (createCheckpoint bridge worker id arena).1 with
    | error msg =>
      rw [hres] at hok
      cases hok
    | ok bytes => exact holds_createCheckpoint hsound hharmless.fits hstorable hres

lemma Coupling.register
    (hholds : ∃ arena, worker.checkpointArena = some arena ∧ arena.Holds ref.checkpointId) :
    Coupling (checkpoints ++ [ref]) deleted handle worker :=
  { hcoupled with
    listed := by
      intro other hother htier
      rcases mem_append.mp hother with hold | hnew
      · exact hcoupled.listed other hold htier
      · obtain rfl := mem_singleton.mp hnew
        exact hholds }

end

lemma Spent.sameStore (hspent : Spent id slots worker worker')
    (hsame : SameStore worker' worker'') : Spent id slots worker worker'' where
  numLayers := hsame.numLayers.trans hspent.numLayers
  containerPaths := hsame.containerPaths.trans hspent.containerPaths
  arena := hsame.checkpointArena ▸ hspent.arena

end Coupling

/-! ## Requests that touch neither store -/

/-- The worker that is attached, if any, is coupled to the session. -/
structure Agreement (d : DaemonState T) (deleted : List String) : Prop where
  attached : ∀ worker handle, d.attached = some (worker, handle) →
    Coupling d.session.state.checkpoints deleted handle worker
  detached : d.attached = none → d.session.state.checkpoints = []

/-- The same checkpoints are listed, and automatic ones are due at the same layers. -/
structure SameRegistry (session session' : Session) : Prop where
  checkpoints : session'.state.checkpoints = session.state.checkpoints
  boundary : session'.autoCheckpointLayers = session.autoCheckpointLayers

lemma SameRegistry.refl (session : Session) : SameRegistry session session := ⟨rfl, rfl⟩

/-- Neither the registry nor the worker's store has changed. -/
structure Undisturbed (d d' : DaemonState T) : Prop where
  registry : SameRegistry d.session d'.session
  attached : ∀ worker' handle, d'.attached = some (worker', handle) →
    ∃ worker, d.attached = some (worker, handle) ∧ SameStore worker worker'
  detached : d'.attached = none → d.attached = none

section Undisturbed

variable {d d' d'' : DaemonState T} {deleted : List String} {env : Env T}

lemma Agreement.undisturbed (hagree : Agreement d deleted) (hframe : Undisturbed d d') :
    Agreement d' deleted where
  attached := by
    intro worker' handle hattached'
    obtain ⟨worker, hattached, hsame⟩ := hframe.attached worker' handle hattached'
    rw [hframe.registry.checkpoints]
    exact (hagree.attached worker handle hattached).sameStore hsame
  detached := fun hnone =>
    hframe.registry.checkpoints.trans (hagree.detached (hframe.detached hnone))

namespace Undisturbed

lemma refl (d : DaemonState T) : Undisturbed d d where
  registry := SameRegistry.refl d.session
  attached := fun worker _ hattached => ⟨worker, hattached, SameStore.refl worker⟩
  detached := fun hnone => hnone

lemma trans (hfirst : Undisturbed d d') (hsecond : Undisturbed d' d'') : Undisturbed d d'' where
  registry := ⟨hsecond.registry.checkpoints.trans hfirst.registry.checkpoints,
    hsecond.registry.boundary.trans hfirst.registry.boundary⟩
  attached := by
    intro worker'' handle hattached
    obtain ⟨worker', hattached', hsame'⟩ := hsecond.attached worker'' handle hattached
    obtain ⟨worker, hattached, hsame⟩ := hfirst.attached worker' handle hattached'
    exact ⟨worker, hattached, hsame.trans hsame'⟩
  detached := fun hnone => hfirst.detached (hsecond.detached hnone)

lemma of_session (hreg : SameRegistry d.session d'.session)
    (horchestrator : d'.orchestrator = d.orchestrator) (hhandle : d'.modelHandle = d.modelHandle) :
    Undisturbed d d' := by
  have hattached : d'.attached = d.attached := by
    unfold DaemonState.attached
    rw [horchestrator, hhandle]
  refine ⟨hreg, ?_, ?_⟩
  · rw [hattached]
    exact (refl d).attached
  · rw [hattached]
    exact id

lemma withWorker (hattached : d.attached = some (worker, handle))
    (hsame : SameStore worker worker') :
    Undisturbed d { d with orchestrator := some worker' } where
  registry := SameRegistry.refl d.session
  attached := by
    intro other otherHandle hother
    rw [attached_withWorker hattached d.session worker'] at hother
    cases hother
    exact ⟨worker, hattached, hsame⟩
  detached := by
    intro hnone
    rw [attached_withWorker hattached d.session worker'] at hnone
    cases hnone

end Undisturbed

lemma sameStore_call {link : Link T}
    {handler : Bridge T → WorkerState T → Except String R × WorkerState T}
    (hsame : SameStore worker (handler link.bridge worker).2) :
    SameStore worker (link.call worker handler).2 :=
  Link.call_induct (SameStore.refl worker) hsame

lemma undisturbed_tryOrchestratorStep (params : Params StepRequest) :
    Undisturbed d (tryOrchestratorStep env d params).2 := by
  unfold tryOrchestratorStep
  split
  next hattached _ =>
    exact Undisturbed.withWorker hattached (sameStore_call (onlyPass_handleHostStep _ _ _).sameStore)
  · exact Undisturbed.refl d

lemma undisturbed_tryOrchestratorReplay (params : Params ReplayRequest) :
    Undisturbed d (tryOrchestratorReplay env d params).2 := by
  unfold tryOrchestratorReplay
  split
  next hattached =>
    exact Undisturbed.withWorker hattached (sameStore_call (onlyPass_handleHostReplay _ _ _).sameStore)
  · exact Undisturbed.refl d

lemma undisturbed_propagateProbes : Undisturbed d (propagateProbes env d) := by
  unfold propagateProbes
  split
  · exact Undisturbed.refl d
  next worker handle hattached =>
    exact Undisturbed.withWorker hattached 
      (sameStore_call ⟨⟨rfl, rfl, rfl, rfl⟩, rfl, rfl, rfl, rfl⟩)

lemma undisturbed_handleProbeRequest (params : Params ProbeRequest) :
    Undisturbed d (handleProbeRequest env d params).2 := by
  have hstored : Undisturbed d (storeGranularity d params) := by
    unfold storeGranularity
    split
    · exact Undisturbed.of_session (SameRegistry.refl _) rfl rfl
    · exact Undisturbed.refl d
  unfold handleProbeRequest
  dsimp only
  refine hstored.trans ?_
  split
  · refine Undisturbed.trans ?_ undisturbed_propagateProbes
    exact Undisturbed.of_session (SameRegistry.refl _) rfl rfl
  · exact Undisturbed.of_session (SameRegistry.refl _) rfl rfl

lemma undisturbed_restore (id : String) :
    Undisturbed d (checkpointAction env d (.restore id)).2 := by
  simp only [checkpointAction, forwardCheckpoint_restore]
  refine Undisturbed.of_session ?_ rfl rfl
  refine respond_induct (SameRegistry.refl _) fun body session hok => ?_
  unfold Session.checkpointRestore at hok
  split at hok
  · cases hok
  · cases hok
    exact ⟨rfl, rfl⟩

lemma undisturbed_handleStep (params : Params StepRequest) (host : Option HostStepResponse) :
    Undisturbed d (d.conclude (handleStep d.session params host)).2 :=
  Undisturbed.of_session
    (session_handleStep (SameRegistry.refl d.session) fun _ => ⟨rfl, rfl⟩) rfl rfl

end Undisturbed

/-! ## Steps -/

section Steps

variable {d : DaemonState T} {deleted : List String} {env : Env T}

lemma Agreement.of_attached (hattached : d.attached = some (worker, handle))
    (hcoupled : Coupling d.session.state.checkpoints deleted handle worker) :
    Agreement d deleted where
  attached := by
    intro other otherHandle hother
    rw [hattached] at hother
    cases hother
    exact hcoupled
  detached := fun hnone => nomatch hattached.symm.trans hnone

lemma Registrable.harmless_now
    (hregistrable : Registrable bridge checkpoints deleted worker arena 0 id) :
    Harmless bridge checkpoints deleted arena (slotsNeeded worker) id := by
  simpa using hregistrable.harmless

lemma agreement_takeAutoCheckpoint (hagree : Agreement d deleted)
    (hdue : pos.layer ∈ d.session.autoCheckpointLayers →
      ∀ worker handle, d.attached = some (worker, handle) →
      ∀ arena, worker.checkpointArena = some arena →
      Registrable env.autoCheckpoint.bridge d.session.state.checkpoints deleted worker arena 0
      ("auto-" ++ env.autoUuid)) :
    Agreement (takeAutoCheckpoint env d pos) deleted := by
  unfold takeAutoCheckpoint
  split
  next hboundary =>
    split
    · exact hagree
    next worker handle hattached =>
      have hregistrable := hdue hboundary worker handle hattached
      have hcoupled := hagree.attached worker handle hattached
      have hcreate := hcoupled.create
        (fun arena harena => (hregistrable arena harena).harmless_now) .activation
        (d.session.state.tickId.getD 0) pos.layer
      have hcalled := @Link.call_induct T HostCheckpointResponse
        (Coupling d.session.state.checkpoints deleted handle) env.autoCheckpoint worker
        (fun bridge st => handleHostCheckpoint bridge st (.create handle
          ("auto-" ++ env.autoUuid) .activation _ pos.layer))
        hcoupled hcreate
      dsimp only
      split
      next resp hok =>
        -- The worker has answered, so the slots are there.
        have hheld := Link.call_of_ok hok ▸
          hcoupled.holds_create hregistrable ((Link.call_of_ok hok) ▸ hok)
        exact Agreement.of_attached (attached_withWorker hattached _ _)
          (hcalled.register hheld)
      · exact Agreement.of_attached (attached_withWorker hattached _ _) hcalled
  · exact hagree

lemma agreement_finishStepRequest (hagree : Agreement tried.2 deleted)
    (hdue : ∀ host, tried.1 = some host →
      host.position.layer ∈ tried.2.session.autoCheckpointLayers →
      ∀ worker handle, tried.2.attached = some (worker, handle) →
      ∀ arena, worker.checkpointArena = some arena →
      Registrable env.autoCheckpoint.bridge tried.2.session.state.checkpoints deleted worker
      arena 0 ("auto-" ++ env.autoUuid)) :
    Agreement (finishStepRequest env params tried).2 deleted := by
  have hanswered := @undisturbed_handleStep T tried.2 params tried.1
  unfold finishStepRequest
  dsimp only
  split
  next host _ hhost =>
    refine agreement_takeAutoCheckpoint (hagree.undisturbed hanswered) ?_
    rw [hanswered.registry.checkpoints, hanswered.registry.boundary]
    exact hdue host hhost
  · exact hagree.undisturbed hanswered

/-- A backward step that cannot be made leaves the daemon alone; otherwise it takes a
sub-checkpoint and replays. -/
lemma tryBackwardStep_cases (env : Env T) (d : DaemonState T) :
    tryBackwardStep env d = (none, d) ∨
    ∃ worker handle session worker', d.attached = some (worker, handle) ∧
      SameRegistry d.session session ∧
      SameStore (takeSubCheckpoint env d.session worker handle).2 worker' ∧
      (tryBackwardStep env d).2 = { d with session, orchestrator := some worker' } := by
  unfold tryBackwardStep
  dsimp only
  split
  next worker handle _ hattached =>
    right
    obtain ⟨utilization, hsession⟩ := session_takeSubCheckpoint env d.session worker handle
    have hsame : ∀ req, SameStore (takeSubCheckpoint env d.session worker handle).2
        (env.forwarded.call (takeSubCheckpoint env d.session worker handle).2 fun bridge st =>
          handleHostReplay bridge st req).2 :=
      fun req => sameStore_call (onlyPass_handleHostReplay _ _ req).sameStore
    split
    · refine ⟨worker, handle, _, _, hattached, ?_, hsame _, rfl⟩
      rw [hsession]
      exact ⟨rfl, rfl⟩
    · refine ⟨worker, handle, _, _, hattached, ?_, hsame _, rfl⟩
      rw [hsession]
      exact ⟨rfl, rfl⟩
  · exact .inl rfl

section SubCheckpoint

variable {checkpoints : List CheckpointRef} {handle : ℕ} {worker worker' : WorkerState T}

lemma coupling_takeSubCheckpoint (hcoupled : Coupling checkpoints deleted handle worker)
    (hsub : session.arenaUtilization < 3 / 5 → ∀ arena, worker.checkpointArena = some arena →
      Harmless env.subCheckpoint.bridge checkpoints deleted arena (slotsNeeded worker)
      (subCheckpointRequest session 0).checkpointId) :
    Coupling checkpoints deleted handle (takeSubCheckpoint env session worker handle).2 :=
  takeSubCheckpoint_induct hcoupled fun hroom => hcoupled.create (hsub hroom) _ _ _

/-- What can be registered with the slots of a sub-checkpoint gone, can be once it is taken. -/
lemma registrable_takeSubCheckpoint (hcoupled : Coupling checkpoints deleted handle worker)
    (hsub : session.arenaUtilization < 3 / 5 → ∀ arena, worker.checkpointArena = some arena →
      Harmless env.subCheckpoint.bridge checkpoints deleted arena (slotsNeeded worker)
      (subCheckpointRequest session 0).checkpointId)
    (hregistrable : ∀ arena, worker.checkpointArena = some arena →
      Registrable bridge checkpoints deleted worker arena (slotsNeeded worker) newId)
    (hsame : SameStore (takeSubCheckpoint env session worker handle).2 worker')
    (harena' : worker'.checkpointArena = some arena') :
    Registrable bridge checkpoints deleted worker' arena' 0 newId := by
  by_cases hroom : session.arenaUtilization < 3 / 5
  · have hspent : Spent (subCheckpointRequest session 0).checkpointId (slotsNeeded worker) worker
        (takeSubCheckpoint env session worker handle).2 :=
      takeSubCheckpoint_induct (hcoupled.spent_of_sameStore (SameStore.refl worker)) fun hroom =>
        hcoupled.spent_create (fun arena harena => (hsub hroom arena harena).fits) _ _ _
    exact Registrable.of_spent (hspent.sameStore hsame) harena'
      (fun arena harena => (hsub hroom arena harena).unlisted) hregistrable
  · have hkept : SameStore worker (takeSubCheckpoint env session worker handle).2 :=
      takeSubCheckpoint_induct (SameStore.refl worker) fun h => absurd h hroom
    exact Registrable.of_spent (hcoupled.spent_of_sameStore (hkept.trans hsame)) harena'
      (fun arena harena => (hregistrable arena harena).harmless.unlisted) hregistrable

end SubCheckpoint

lemma agreement_handleStepRequest (hagree : Agreement d deleted)
    (hcareful : ∀ worker handle, d.attached = some (worker, handle) →
      Careful env ⟨d, deleted⟩ worker (.step step)) :
    Agreement (handleStepRequest env d step).2 deleted := by
  unfold handleStepRequest
  split
  next hbackward =>
    rcases tryBackwardStep_cases env d with
      hnone | ⟨worker, handle, session, worker', hattached, hreg, hreplaced, htried⟩
    · rw [hnone]
      exact hagree
    · -- A sub-checkpoint, a replay, and perhaps an automatic checkpoint.
      obtain ⟨hsub, hauto⟩ := hcareful worker handle hattached
      have hcoupled := hagree.attached worker handle hattached
      have hattached' : (tryBackwardStep env d).2.attached = some (worker', handle) :=
        htried ▸ attached_withWorker hattached session worker'
      have hreg' : SameRegistry d.session (tryBackwardStep env d).2.session :=
        htried ▸ hreg
      have hagree' : Agreement (tryBackwardStep env d).2 deleted := by
        refine Agreement.of_attached hattached' ?_
        rw [hreg'.checkpoints]
        exact (coupling_takeSubCheckpoint hcoupled (hsub hbackward)).sameStore hreplaced
      dsimp only
      split
      · exact hagree'
      · refine agreement_finishStepRequest hagree' ?_
        intro host hhost hboundary other otherHandle hother arena' harena'
        rw [hattached'] at hother
        cases hother
        rw [hreg'.boundary] at hboundary
        rw [hreg'.checkpoints]
        refine registrable_takeSubCheckpoint hcoupled (hsub hbackward) ?_ hreplaced harena'
        have hstops : StopsOnBoundary env d step :=
          ⟨host, by rw [stepTried, if_pos hbackward]; exact hhost, hboundary⟩
        simpa only [hbackward, if_true] using hauto hstops
  next hforward =>
    -- The worker's step leaves the arena as it was for the automatic checkpoint.
    have hframe := @undisturbed_tryOrchestratorStep T d env step.params
    refine agreement_finishStepRequest (hagree.undisturbed hframe) ?_
    intro host hhost hboundary worker' handle hattached' arena' harena'
    obtain ⟨worker, hattached, hsame⟩ := hframe.attached worker' handle hattached'
    obtain ⟨-, hauto⟩ := hcareful worker handle hattached
    have hcoupled := hagree.attached worker handle hattached
    have hstops : StopsOnBoundary env d step :=
      ⟨host, by rw [stepTried, if_neg hforward]; exact hhost, hframe.registry.boundary ▸ hboundary⟩
    have hregistrable := hauto hstops
    rw [hframe.registry.checkpoints]
    exact Registrable.of_spent (hcoupled.spent_of_sameStore hsame) harena'
      (fun arena harena => (hregistrable arena harena).harmless.unlisted) hregistrable

end Steps

/-! ## Checkpoint requests -/

section Checkpoints

variable {d : DaemonState T} {deleted : List String} {env : Env T} {worker : WorkerState T}
  {handle : ℕ}

lemma Creatable.held (hcoupled : Coupling d.session.state.checkpoints deleted handle worker)
    (harena : worker.checkpointArena = some arena)
    (hcreatable : Creatable env d.session.state.checkpoints deleted worker arena)
    (tier : CreateCheckpointTier) (tickId layerIdx : ℕ) :
    ∃ arena', (handleHostCheckpoint env.forwarded.bridge worker
      (.create handle env.uuid tier tickId layerIdx)).2.checkpointArena = some arena' ∧
        arena'.Holds env.uuid := by
  have hregistrable : ∀ other, worker.checkpointArena = some other →
      Registrable env.forwarded.bridge d.session.state.checkpoints deleted worker other 0
        env.uuid := forall_arena_of_eq_some harena hcreatable.registrable
  have hadmitted : CreateAdmitted worker handle env.uuid arena :=
    ⟨hcreatable.safe, hcoupled.handle, harena, hcreatable.outputs⟩
  have hok : (handleHostCheckpoint env.forwarded.bridge worker
      (.create handle env.uuid tier tickId layerIdx)).1.isOk = true := by
    rcases handleHostCheckpoint_create_cases env.forwarded.bridge worker handle env.uuid tier tickId
      layerIdx with ⟨hrejected, -⟩ | ⟨other, hother, hcreate⟩
    · exact absurd hadmitted (hrejected arena)
    · obtain rfl : other = arena := some.inj (hother.stored.symm.trans harena)
      obtain ⟨bytes, hbytes⟩ := exists_ok_of_isOk (@isOk_createCheckpoint T env.forwarded.bridge
        env.uuid other worker hcreatable.capturable hcreatable.room)
      rw [hcreate, hbytes]
      rfl
  obtain ⟨resp, hok⟩ := exists_ok_of_isOk hok
  exact hcoupled.holds_create hregistrable hok

lemma checkpointDelete_of_ok (hok : session.checkpointDelete id = .ok (body, session')) :
    (∃ ref ∈ session.state.checkpoints, ref.checkpointId = id) ∧
      ∀ ref ∈ session'.state.checkpoints, ref ∈ session.state.checkpoints := by
  unfold Session.checkpointDelete at hok
  dsimp only at hok
  split at hok
  · cases hok
  next hlen =>
    cases hok
    refine ⟨?_, fun ref href => mem_of_mem_filter href⟩
    by_contra hnone
    refine hlen (congrArg length (filter_eq_self.mpr fun ref href => ?_))
    exact decide_eq_true fun hid => hnone ⟨ref, href, hid⟩

lemma exists_of_mem_setBookmark (href : ref ∈ Session.setBookmark tickId name refs) :
    ∃ old ∈ refs, old.checkpointId = ref.checkpointId ∧ old.tier = ref.tier := by
  induction refs with
  | nil => cases href
  | cons first rest ih =>
    unfold Session.setBookmark at href
    split at href
    · rcases mem_cons.mp href with rfl | href
      · exact ⟨first, mem_cons_self, rfl, rfl⟩
      · exact ⟨ref, mem_cons_of_mem _ href, rfl, rfl⟩
    · rcases mem_cons.mp href with rfl | href
      · exact ⟨ref, mem_cons_self, rfl, rfl⟩
      · obtain ⟨old, hold, hsame⟩ := ih href
        exact ⟨old, mem_cons_of_mem _ hold, hsame⟩

section

variable (hagree : Agreement d deleted) (hattached : d.attached = some (worker, handle))

include hagree hattached

lemma agreement_create
    (hcareful : Careful env ⟨d, deleted⟩ worker (.checkpoint (.valid (.create tier)))) :
    Agreement (checkpointAction env d (.create tier)).2 deleted := by
  obtain ⟨arena, harena, hcreatable⟩ := hcareful
  have hcoupled := hagree.attached worker handle hattached
  have hharmless : ∀ other, worker.checkpointArena = some other →
      Harmless env.forwarded.bridge d.session.state.checkpoints deleted other (slotsNeeded worker)
        env.uuid := forall_arena_of_eq_some harena hcreatable.registrable.harmless_now
  unfold checkpointAction forwardCheckpoint
  rw [hattached]
  refine Agreement.of_attached (attached_withWorker hattached _ _) ?_
  rw [Link.call_snd_of_ne hcreatable.reached]
  exact (hcoupled.create hharmless _ _ _).register (hcreatable.held hcoupled harena _ _ _)

lemma agreement_delete
    (hcareful : Careful env ⟨d, deleted⟩ worker (.checkpoint (.valid (.delete id)))) :
    Agreement (checkpointAction env d (.delete id)).2
      ((if (checkpointAction env d (.delete id)).1.isOk then [id] else []) ++ deleted) := by
  have hcoupled := hagree.attached worker handle hattached
  rcases hdelete : d.session.checkpointDelete id with data | ⟨body, session⟩
  · have hanswer : checkpointAction env d (.delete id) = (refuse data, d) := by
      simp only [checkpointAction, DaemonState.conclude, hdelete]
      rfl
    rw [hanswer]
    exact hagree
  · have hanswer : checkpointAction env d (.delete id) = (.ok body, { d with session }) := by
      simp only [checkpointAction, DaemonState.conclude, hdelete]
      rfl
    obtain ⟨hlist, hkept⟩ := checkpointDelete_of_ok hdelete
    have hattached' : { d with session }.attached = some (worker, handle) := hattached
    rw [hanswer]
    refine Agreement.of_attached hattached' ⟨hcoupled.handle, hcoupled.sound, ?_, ?_⟩
    · exact fun ref href => hcoupled.listed ref (hkept ref href)
    · intro gone hgone
      rcases mem_cons.mp hgone with rfl | hgone
      · exact hcareful hlist
      · exact hcoupled.deleted gone hgone

/-- A bookmark enters no checkpoint that would have to be in the arena. -/
lemma agreement_bookmark (tickId : ℕ) (name : String) :
    Agreement (checkpointAction env d (.bookmark tickId name)).2 deleted := by
  have hcoupled := hagree.attached worker handle hattached
  have hattached' : (checkpointAction env d (.bookmark tickId name)).2.attached =
      some (worker, handle) := hattached
  refine Agreement.of_attached hattached' { hcoupled with listed := ?_ }
  intro ref href htier
  change ref ∈ (d.session.checkpointBookmark tickId name env.uuid).2.state.checkpoints at href
  unfold Session.checkpointBookmark at href
  split at href
  · obtain ⟨old, hold, hid, hsame⟩ := exists_of_mem_setBookmark href
    rw [← hid]
    exact hcoupled.listed old hold (hsame ▸ htier)
  · rcases mem_append.mp href with hold | hnew
    · exact hcoupled.listed ref hold htier
    · obtain rfl := mem_singleton.mp hnew
      exact absurd rfl htier

end

end Checkpoints

/-! ## Every request -/

/-- A daemon whose session is linked to its worker and agrees with it. -/
structure Coupled (t : Tracked T) : Prop where
  linked : Linked t.daemon
  agreement : Agreement t.daemon t.deleted

section Track

variable {d : DaemonState T} {deleted : List String} {env : Env T}

lemma deletedBy_of_error (hfail : (handleRequest env d request).1 = .error error) :
    deletedBy d (env, request) = [] := by
  unfold deletedBy
  split
  · rw [hfail]
    rfl
  · rfl

lemma agreement_handleCheckpoint (hlink : Linked d) (hagree : Agreement d deleted)
    (hcareful : ∀ worker handle, d.attached = some (worker, handle) →
      Careful env ⟨d, deleted⟩ worker (.checkpoint params)) :
    Agreement (handleCheckpoint env d params).2
      (deletedBy d (env, .checkpoint params) ++ deleted) := by
  cases params with
  | absent | malformed msg => exact hagree
  | valid req =>
    by_cases hstop : d.session.state.status = .stopped
    · obtain ⟨⟨worker, handle⟩, hattached⟩ := isSome_iff_exists.mp (hlink.mp hstop)
      have hcareful := hcareful worker handle hattached
      have hanswer : handleCheckpoint env d (.valid req) = checkpointAction env d req := by
        simp only [handleCheckpoint, withParams, Params.parse,
          Session.requireStopped_of_stopped hstop]
      rw [hanswer]
      cases req with
      | create tier => exact agreement_create hagree hattached hcareful
      | list => exact hagree
      | restore id => exact hagree.undisturbed (undisturbed_restore id)
      | delete id =>
        have hdeleted : deletedBy d (env, .checkpoint (.valid (.delete id))) =
            if (checkpointAction env d (.delete id)).1.isOk then [id] else [] := by
          rw [← hanswer]
          rfl
        rw [hdeleted]
        exact agreement_delete hagree hattached hcareful
      | bookmark tickId name => exact agreement_bookmark hagree hattached tickId name
    · -- Without a worker every checkpoint request is refused.
      obtain ⟨data, hrejected⟩ := Session.requireStopped_of_ne hstop "rocket/checkpoint"
      have hanswer : handleCheckpoint env d (.valid req) = (refuse data, d) := by
        simp only [handleCheckpoint, withParams, Params.parse, hrejected]
      have hfail : (handleRequest env d (.checkpoint (.valid req))).1 = refuse data :=
        congrArg Prod.fst hanswer
      rw [hanswer, deletedBy_of_error hfail]
      exact hagree

/-- A new worker finds an empty registry and starts on an empty arena. -/
lemma agreement_handleAttachRequest (hlink : Linked d) (hagree : Agreement d deleted)
    (params : Params AttachRequest) : Agreement (handleAttachRequest env d params).2 deleted := by
  rcases handleAttachRequest_cases env d params with
    ⟨error, hfail⟩ | ⟨backend, body, session, hstatus, -, hsame, hattach⟩
  · rw [hfail]
    exact hagree
  · -- A session that may attach has no worker, and then it lists nothing.
    have hdetached : d.attached = none := by
      have hnone := mt hlink.mpr hstatus
      simpa using hnone
    have hlist : session.state.checkpoints = [] := hsame.trans (hagree.detached hdetached)
    rw [hattach]
    refine Agreement.of_attached rfl ⟨rfl, ?_, ?_, ?_⟩
    · intro arena harena
      exact CheckpointArena.wellFormed_new (checkpointArena_attachModel harena)
    · intro ref href
      rw [hlist] at href
      cases href
    · intro id _ arena harena
      exact CheckpointArena.slotsOf_new (checkpointArena_attachModel harena) id

lemma agreement_handleDetachRequest (hagree : Agreement d deleted) :
    Agreement (handleDetachRequest d).2 deleted := by
  rcases handleDetachRequest_cases d with ⟨error, hfail⟩ | ⟨body, session, -, hlist, hdetach⟩
  · rw [hfail]
    exact hagree
  · rw [hdetach]
    exact ⟨fun _ _ hattached => (nomatch hattached), fun _ => hlist⟩

end Track

/-- **A careful request keeps the session and the worker coupled.** -/
theorem coupled_track (hcoupled : Coupled t) {action : Env T × ClientRequest}
    (hkeeps : KeepsAgreement t action) : Coupled (track t action) := by
  obtain ⟨hlink, hagree⟩ := hcoupled
  obtain ⟨env, request⟩ := action
  refine ⟨linked_served hlink _, ?_⟩
  cases request with
  | unparsable msg | status | query | unknown method => exact hagree
  | initialize_ params =>
    refine hagree.undisturbed (Undisturbed.of_session ?_ rfl rfl)
    refine withParams_induct (SameRegistry.refl _) fun req =>
      respond_induct (SameRegistry.refl _) fun body session hok => ?_
    unfold Session.initializeSession at hok
    split_ifs at hok
    cases hok
    exact ⟨rfl, rfl⟩
  | attach params => exact agreement_handleAttachRequest hlink hagree params
  | detach => exact agreement_handleDetachRequest hagree
  | step step => exact agreement_handleStepRequest hagree hkeeps
  | replay params =>
    refine hagree.undisturbed
      ((@undisturbed_tryOrchestratorReplay T t.daemon env params).trans ?_)
    exact Undisturbed.of_session
      (session_handleReplay (SameRegistry.refl _) fun _ => ⟨rfl, rfl⟩) rfl rfl
  | checkpoint params => exact agreement_handleCheckpoint hlink hagree hkeeps
  | probe params => exact hagree.undisturbed (undisturbed_handleProbeRequest params)
  | intervene params =>
    refine hagree.undisturbed (Undisturbed.of_session ?_ rfl rfl)
    exact session_handleIntervene (SameRegistry.refl _) fun _ => ⟨rfl, rfl⟩
  | subscribe params =>
    have hreg := @session_handleSubscribe _ t.daemon.session
      params (SameRegistry.refl _) fun _ => ⟨rfl, rfl⟩
    refine hagree.undisturbed ?_
    unfold track served handleRequest
    dsimp only
    split
    · exact Undisturbed.of_session hreg rfl rfl
    · exact Undisturbed.of_session hreg rfl rfl
  | unsubscribe params =>
    exact hagree.undisturbed (Undisturbed.of_session (SameRegistry.refl _) rfl rfl)
  | viewDefine params =>
    refine hagree.undisturbed (Undisturbed.of_session ?_ rfl rfl)
    exact session_handleViewDefine (SameRegistry.refl _) fun _ => ⟨rfl, rfl⟩

lemma coupled_new : Coupled (Tracked.new : Tracked T) :=
  ⟨linked_new, fun _ _ hattached => (nomatch hattached), fun _ => rfl⟩

lemma Coupled.registryAgrees {t : Tracked T} (hcoupled : Coupled t) : RegistryAgrees t where
  restorable := by
    intro worker handle hattached ref href htier
    obtain ⟨arena, harena, hholds⟩ :=
      (hcoupled.agreement.attached worker handle hattached).listed ref href htier
    exact ⟨arena, harena, hholds.slotInfo⟩
  freed := fun worker handle hattached =>
    (hcoupled.agreement.attached worker handle hattached).deleted

/-- **Registry and arena agree wherever a run of careful requests leads.** -/
theorem registryAgrees_of_careful (actions : List (Env T × ClientRequest))
    (hcareful : Along track KeepsAgreement Tracked.new actions) :
    RegistryAgrees (actions.foldl track Tracked.new) := by
  have hcoupled : Coupled (actions.foldl track Tracked.new) :=
    @Along.invariant _ _ track KeepsAgreement Coupled
      (fun _ _ hcoupled hkeeps => coupled_track hcoupled hkeeps) _ coupled_new _ hcareful
  exact hcoupled.registryAgrees

/-! ### Two ways to fall apart -/

/-- The requests up to an attached model, and `requests` after them. -/
def afterAttach (requests : List (Env ℤ × ClientRequest)) : Tracked ℤ :=
  ([(Env.calm echoBridge "s", initializeRequest), (Env.calm echoBridge "m", attachRequest)] ++
    requests).foldl track Tracked.new

def createC1Request : Env ℤ × ClientRequest := (Env.calm echoBridge "c1", createRequest)
def firstStep : Env ℤ × ClientRequest := (Env.calm echoBridge "s1", stepRequest .forward 1)
def deleteC1 : Env ℤ × ClientRequest :=
  (Env.calm echoBridge "d1", .checkpoint (.valid (.delete "c1")))

/-- Before the first step the worker has nothing to capture, and the session lists the
checkpoint all the same.  After the step it is taken, and keeps its slots when it is deleted. -/
theorem not_registryAgrees :
    ¬ RegistryAgrees (afterAttach [createC1Request]) ∧
      ¬ RegistryAgrees (afterAttach [firstStep, createC1Request, deleteC1]) := by
  constructor
  · intro hagrees
    have hattached : (afterAttach [createC1Request]).daemon.attached.isSome = true := by
      decide +kernel
    obtain ⟨⟨worker, handle⟩, hattached⟩ := isSome_iff_exists.mp hattached
    have hlisted : (⟨"c1", 0, 0, .activation, none⟩ : CheckpointRef) ∈
        (afterAttach [createC1Request]).daemon.session.state.checkpoints := by decide +kernel
    obtain ⟨arena, harena, hheld⟩ :=
      hagrees.restorable worker handle hattached _ hlisted (by decide)
    have hempty : ((afterAttach [createC1Request]).daemon.attached.bind fun attached =>
        attached.1.checkpointArena.map fun arena =>
          (arena.slotInfoForCheckpoint "c1").isEmpty) = some true := by decide +kernel
    simp [hattached, harena, hheld] at hempty
  · intro hagrees
    have hattached : (afterAttach [firstStep, createC1Request, deleteC1]).daemon.attached.isSome =
        true := by decide +kernel
    obtain ⟨⟨worker, handle⟩, hattached⟩ := isSome_iff_exists.mp hattached
    have hdeleted : "c1" ∈ (afterAttach [firstStep, createC1Request, deleteC1]).deleted := by
      decide +kernel
    have hslots : ((afterAttach [firstStep, createC1Request, deleteC1]).daemon.attached.bind
        fun attached => attached.1.checkpointArena.map fun arena => arena.slotsOf "c1") =
          some [0] := by decide +kernel
    rw [hattached] at hslots
    obtain ⟨arena, harena, hslots⟩ := map_eq_some_iff.mp hslots
    have hfreed := hagrees.freed worker handle hattached "c1" hdeleted arena harena
    cases hfreed.symm.trans hslots

lemma careful_firstStep {worker : WorkerState ℤ} :
    Careful firstStep.1 (afterAttach []) worker firstStep.2 := by
  refine ⟨nofun, ?_⟩
  rintro ⟨host, hhost, hboundary⟩
  have hlayer : (stepTried firstStep.1 (afterAttach []).daemon
      ⟨false, .valid ⟨.forward, 1, none, .full, none⟩⟩).1.map (fun host => host.position.layer) =
        some 0 := by decide +kernel
  have hstop : (stepTried firstStep.1 (afterAttach []).daemon
      ⟨false, .valid ⟨.forward, 1, none, .full, none⟩⟩).1 = some host := hhost
  rw [hstop] at hlayer
  have hzero : host.position.layer = 0 := some.inj hlayer
  have hlayers : (afterAttach []).daemon.session.autoCheckpointLayers = [1] := by decide +kernel
  rw [hlayers, hzero] at hboundary
  exact absurd hboundary (by decide)

lemma careful_createC1 {worker : WorkerState ℤ}
    (hattached : (afterAttach [firstStep]).daemon.attached = some (worker, handle)) :
    Careful createC1Request.1 (afterAttach [firstStep]) worker createC1Request.2 := by
  have hworker : ((afterAttach [firstStep]).daemon.attached.map fun attached =>
      (attached.1.numLayers, attached.1.lastOutputs.isNone)) = some (2, false) := by
    decide +kernel
  have harena : ((afterAttach [firstStep]).daemon.attached.bind fun attached =>
      attached.1.checkpointArena.map fun arena =>
        (arena.slotSize, arena.available)) = some (128, 6) := by decide +kernel
  have hlist : (afterAttach [firstStep]).daemon.session.state.checkpoints = [] := by
    decide +kernel
  have hdeleted : (afterAttach [firstStep]).deleted = [] := by decide +kernel
  rw [hattached] at hworker harena
  obtain ⟨hlayers, houtputs⟩ := Prod.mk.inj (some.inj hworker)
  obtain ⟨arena, harena, hsizes⟩ := map_eq_some_iff.mp harena
  obtain ⟨hsize, havailable⟩ := Prod.mk.inj hsizes
  have hboundary : (checkpointLayers 2).length = 1 := by decide +kernel
  refine ⟨arena, harena, by decide, by decide, houtputs, ⟨⟨?_, ?_, ?_, ?_⟩, ?_⟩, ?_, ?_⟩
  · simp [hdeleted]
  · simp [hlist]
  · rintro _ ⟨⟩
    rw [hsize]
    decide
  · simp [hlist]
  · right
    rw [havailable]
    exact ⟨rfl, by decide⟩
  · exact fun _ _ _ _ => .inl rfl
  · rw [hlayers, hboundary, havailable]
    decide

/-- The checkpoint of a session that is stepped once can be restored. -/
theorem registryAgrees_firstCheckpoint :
    RegistryAgrees (afterAttach [firstStep, createC1Request,
      (Env.calm echoBridge "r1", .checkpoint (.valid (.restore "c1")))]) :=
  registryAgrees_of_careful _ ⟨fun _ _ _ => trivial, fun _ _ _ => trivial,
    fun _ _ _ => careful_firstStep, fun _ _ => careful_createC1, fun _ _ _ => trivial, trivial⟩

end RocketSurgeon.Daemon
