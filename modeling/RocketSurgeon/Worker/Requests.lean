import RocketSurgeon.Worker.Replay

/-!
# Serving requests

The requests a worker serves after it has attached a model, and runs of them.
`_host/inspect` reads captured outputs and publishes them; it leaves everything in
`WorkerState` alone.
-/

namespace RocketSurgeon.Worker

open Lib Protocol Probes

variable {T : Type} (bridge : Bridge T) (st : WorkerState T) (handle : ℕ) (req : HostStepRequest)
  (pass : ForwardPassState T)

/-- `handle_host_update_probes`: probes whose point does not parse are passed over. -/
def handleHostUpdateProbes (st : WorkerState T) (req : HostUpdateProbesRequest) :
    HostUpdateProbesResponse × WorkerState T :=
  let parsed := req.activeProbes.filterMap fun probe =>
    (ProbePoint.parse probe.point).map fun point => (probe, point)
  (⟨parsed.length⟩, { st with activeProbes := parsed })

inductive WorkerRequest
  | step (req : HostStepRequest)
  | replay (req : HostReplayRequest)
  | checkpoint (req : HostCheckpointRequest)
  | updateProbes (req : HostUpdateProbesRequest)
  | inspect

inductive WorkerResponse
  | step (response : HostStepResponse)
  | replay (response : HostReplayResponse)
  | checkpoint (response : HostCheckpointResponse)
  | updateProbes (response : HostUpdateProbesResponse)
  | inspect

/-- Serve one request. -/
def serve (bridge : Bridge T) (st : WorkerState T) :
    WorkerRequest → Except String WorkerResponse × WorkerState T
  | .step req =>
      let served := handleHostStep bridge st req
      (served.1.map .step, served.2)
  | .replay req =>
      let served := handleHostReplay bridge st req
      (served.1.map .replay, served.2)
  | .checkpoint req =>
      let served := handleHostCheckpoint bridge st req
      (served.1.map .checkpoint, served.2)
  | .updateProbes req =>
      let served := handleHostUpdateProbes st req
      (.ok (.updateProbes served.1), served.2)
  | .inspect => (.ok .inspect, st)

/-- Serve a list of requests in order, each with what the Python side does meanwhile. -/
def serveAll (st : WorkerState T) (requests : List (Bridge T × WorkerRequest)) : WorkerState T :=
  requests.foldl (fun st request => (serve request.1 st request.2).2) st

/-! ## What a handler does to the pass

Each handler either leaves the state alone or does the one thing it is for; these
lemmas say so once, for the invariants of later modules.
-/

/-- A step either cannot start its pass, or ends by writing the progress of the pass back. -/
lemma runStepLoop_cases :
    (∃ msg st', ensureForwardPass bridge (dropCompletedPass st) req.inputIds =
        (.error msg, st') ∧ runStepLoop bridge st handle req = (.error msg, st')) ∨
    ∃ st' pass ended, ensureForwardPass bridge (dropCompletedPass st) req.inputIds = (.ok (), st') ∧
      st'.forwardPass = some pass ∧ runStepLoop bridge st handle req = finishStep st' pass ended := by
  have houtcome := ensureForwardPass_outcome bridge (dropCompletedPass st) req.inputIds
  rcases hensure : ensureForwardPass bridge (dropCompletedPass st) req.inputIds with
    ⟨msg | _, st'⟩
  · exact .inl ⟨msg, st', rfl, by simp only [runStepLoop, hensure]⟩
  · right
    rw [hensure] at houtcome
    obtain ⟨pass, hpass⟩ : ∃ pass, st'.forwardPass = some pass := by
      cases houtcome with
      | running hpass => exact Option.isSome_iff_exists.mp hpass
      | started _ _ => exact ⟨_, rfl⟩
    refine ⟨st', pass, ?_, rfl, hpass, ?_⟩
    · exact stepLoop bridge st' handle req pass.pending
        (startCursor st' pass (dropCompletedPass st).forwardPass.isSome)
    · simp only [runStepLoop, hensure, hpass]

lemma finishStep_snd (ended : StepEnd T) :
    ∃ prog pending complete,
      (finishStep st pass ended).2 = st.withProgress pass prog pending complete := by
  unfold finishStep
  split <;> exact ⟨_, _, _, rfl⟩

/-- A replay either cannot start its pass, or its loop receives a fresh pass on the default
input. -/
lemma runReplayLoop_cases (req : HostReplayRequest) :
    (∃ msg st', ensureForwardPass bridge { st with forwardPass := none } none =
        (.error msg, st') ∧ runReplayLoop bridge st handle req = (.error msg, st')) ∨
    ∃ st', ensureForwardPass bridge { st with forwardPass := none } none = (.ok (), st') ∧
      let pass := freshPass bridge st (inputTensor none)
      st'.forwardPass = some pass ∧ st'.tickState = st.tickState ∧
      runReplayLoop bridge st handle req = finishReplay st' pass st.tickState.tickId
        (replayLoop bridge st' handle req st.tickState.tickId pass.pending
          ⟨st'.progress pass, 0, []⟩) := by
  have houtcome := ensureForwardPass_outcome bridge { st with forwardPass := none } none
  rcases hensure : ensureForwardPass bridge { st with forwardPass := none } none with
    ⟨msg | _, st'⟩
  · exact .inl ⟨msg, st', rfl, by simp only [runReplayLoop, hensure]⟩
  · right
    rw [hensure] at houtcome
    cases houtcome with
    | running hpass => cases hpass
    | started _ _ =>
      refine ⟨_, rfl, rfl, rfl, ?_⟩
      simp only [runReplayLoop, hensure]
      rfl

lemma finishReplay_snd (preReplayTick : ℕ) (ended : ReplayEnd T) :
    ∃ prog pending complete,
      (finishReplay st pass preReplayTick ended).2 =
        st.withProgress pass prog pending complete := by
  unfold finishReplay
  split <;> exact ⟨_, _, _, rfl⟩

/-- A step gets past the checks of its handler. -/
structure StepAdmitted (st : WorkerState T) (req : HostStepRequest) : Prop where
  handle : st.modelHandle = some req.modelHandle
  componentMap : st.componentMap ≠ none

/-- A step is refused, or it is what its loop comes to. -/
lemma handleHostStep_cases :
    (¬ StepAdmitted st req ∧ ∃ msg, handleHostStep bridge st req = (.error msg, st)) ∨
    (StepAdmitted st req ∧
      (handleHostStep bridge st req).2 = (runStepLoop bridge st req.modelHandle req).2 ∧
      ∀ resp, (handleHostStep bridge st req).1 = .ok resp ↔
        (runStepLoop bridge st req.modelHandle req).1 = .ok resp) := by
  unfold handleHostStep
  split
  next hmodel => exact .inl ⟨fun h => (nomatch hmodel.symm.trans h.handle), _, rfl⟩
  next handle hmodel =>
    split
    next hhandle =>
      exact .inl ⟨fun h => hhandle (Option.some.inj (h.handle.symm.trans hmodel)), _, rfl⟩
    next hhandle =>
      obtain rfl := not_not.mp hhandle
      split
      next hmap => exact .inl ⟨fun h => h.componentMap hmap, _, rfl⟩
      next hmap =>
        refine .inr ⟨⟨hmodel, hmap⟩, rfl, fun resp => ?_⟩
        dsimp only
        cases (runStepLoop bridge st req.modelHandle req).1 with
        | error msg => exact iff_of_false nofun nofun
        | ok answer => exact Iff.rfl

/-- A replay gets past the checks of its handler and restores its checkpoint. -/
structure ReplayAdmitted (bridge : Bridge T) (st : WorkerState T) (req : HostReplayRequest)
    (arena : CheckpointArena) : Prop where
  handle : st.modelHandle = some req.modelHandle
  stored : st.checkpointArena = some arena
  slots : (arena.slotInfoForCheckpoint req.checkpointId).isEmpty = false
  outputs : st.lastOutputs.isNone = false
  restored : restoreCheckpointForReplay bridge st arena req.checkpointId = .ok ()
  deterministic : req.deterministic = true → bridge.useDeterministicAlgorithms true = .ok ()

lemma replayDeterministically_cases (req : HostReplayRequest) :
    (¬ (req.deterministic = true → bridge.useDeterministicAlgorithms true = .ok ()) ∧
      ∃ msg, replayDeterministically bridge st handle req = (.error msg, st)) ∨
    ((req.deterministic = true → bridge.useDeterministicAlgorithms true = .ok ()) ∧
      (replayDeterministically bridge st handle req).2 = (runReplayLoop bridge st handle req).2 ∧
      ∀ resp, (replayDeterministically bridge st handle req).1 = .ok resp →
        (runReplayLoop bridge st handle req).1 = .ok resp) := by
  unfold replayDeterministically
  dsimp only
  split
  next msg hswitch =>
    split_ifs at hswitch with hdetach
    refine .inl ⟨fun h => ?_, _, rfl⟩
    rw [h hdetach] at hswitch
    cases hswitch
  next hswitch =>
    refine .inr ⟨fun hdetach => by rwa [if_pos hdetach] at hswitch, ?_⟩
    rcases runReplayLoop bridge st handle req with ⟨_ | _, _⟩
    · exact ⟨rfl, fun _ => id⟩
    · dsimp only
      split
      · exact ⟨rfl, nofun⟩
      · exact ⟨rfl, fun _ => id⟩

/-- A replay is refused, or it leaves the state as its loop does. -/
lemma handleHostReplay_cases (req : HostReplayRequest) :
    ((∀ arena, ¬ ReplayAdmitted bridge st req arena) ∧
      ∃ msg, handleHostReplay bridge st req = (.error msg, st)) ∨
    ((∃ arena, ReplayAdmitted bridge st req arena) ∧
      (handleHostReplay bridge st req).2 = (runReplayLoop bridge st req.modelHandle req).2 ∧
      ∀ resp, (handleHostReplay bridge st req).1 = .ok resp →
        (runReplayLoop bridge st req.modelHandle req).1 = .ok resp) := by
  unfold handleHostReplay
  split
  next hmodel => exact .inl ⟨fun _ h => (nomatch hmodel.symm.trans h.handle), _, rfl⟩
  next handle hmodel =>
    split
    next hhandle =>
      exact .inl ⟨fun _ h => hhandle (Option.some.inj (h.handle.symm.trans hmodel)), _, rfl⟩
    next hhandle =>
      obtain rfl := not_not.mp hhandle
      split
      next harena => exact .inl ⟨fun _ h => (nomatch harena.symm.trans h.stored), _, rfl⟩
      next arena harena =>
        -- The remaining checks are about the arena, of which there is one.
        have hsame : ∀ other, ReplayAdmitted bridge st req other → other = arena :=
          fun other h => Option.some.inj (h.stored.symm.trans harena)
        split
        next hslots =>
          refine .inl ⟨fun other h => ?_, _, rfl⟩
          obtain rfl := hsame other h
          exact Bool.false_ne_true (h.slots.symm.trans hslots)
        next hslots =>
          split
          next houtputs =>
            exact .inl ⟨fun _ h => Bool.false_ne_true (h.outputs.symm.trans houtputs), _,
              rfl⟩
          next houtputs =>
            split
            next hrest =>
              refine .inl ⟨fun other h => ?_, _, rfl⟩
              obtain rfl := hsame other h
              cases hrest.symm.trans h.restored
            next hrest =>
              dsimp only
              rcases replayDeterministically_cases bridge st req.modelHandle req with
                ⟨hswitch, msg, hfail⟩ | ⟨hswitch, hstate, hok⟩
              · rw [hfail]
                exact .inl ⟨fun _ h => hswitch h.deterministic, _, rfl⟩
              · refine .inr ⟨⟨arena, hmodel, harena, Bool.not_eq_true _ ▸ hslots,
                  Bool.not_eq_true _ ▸ houtputs, hrest, hswitch⟩, hstate,
                  fun resp hresponse => hok resp ?_⟩
                cases hran : (replayDeterministically bridge st req.modelHandle req).1 with
                | error msg =>
                  rw [hran] at hresponse
                  cases hresponse
                | ok replayed =>
                  rw [hran] at hresponse
                  exact hresponse

lemma handleHostCheckpoint_snd (req : HostCheckpointRequest) :
    ∃ arena, (handleHostCheckpoint bridge st req).2 = { st with checkpointArena := arena } := by
  unfold handleHostCheckpoint
  split
  · exact ⟨st.checkpointArena, rfl⟩
  · split
    · exact ⟨st.checkpointArena, rfl⟩
    · exact ⟨st.checkpointArena, rfl⟩
    · unfold hostCreate
      split
      · exact ⟨st.checkpointArena, rfl⟩
      · split
        · exact ⟨st.checkpointArena, rfl⟩
        · exact ⟨_, rfl⟩
    · exact ⟨st.checkpointArena, rfl⟩

lemma tickState_handleHostCheckpoint (req : HostCheckpointRequest) :
    (handleHostCheckpoint bridge st req).2.tickState = st.tickState := by
  obtain ⟨arena, harena⟩ := handleHostCheckpoint_snd bridge st req
  rw [harena]

lemma handleHostCheckpoint_restore_snd (modelHandle : ℕ) (ckpt : String) :
    (handleHostCheckpoint bridge st (.restore modelHandle ckpt)).2 = st := by
  unfold handleHostCheckpoint
  split
  · rfl
  · split
    · rfl
    · rfl
    next hrequest => cases hrequest
    · rfl

/-- A request to create a checkpoint that gets past the checks of its handler. -/
structure CreateAdmitted (st : WorkerState T) (modelHandle : ℕ) (checkpointId : String)
    (arena : CheckpointArena) : Prop where
  safe : isSafeCheckpointId checkpointId = true
  handle : st.modelHandle = some modelHandle
  stored : st.checkpointArena = some arena
  outputs : st.lastOutputs.isNone = false

/-- Creating a checkpoint is refused, or does to the arena what `createCheckpoint` does. -/
lemma handleHostCheckpoint_create_cases (modelHandle : ℕ) (ckpt : String)
    (tier : CreateCheckpointTier) (tickId layerIdx : ℕ) :
    ((∀ arena, ¬ CreateAdmitted st modelHandle ckpt arena) ∧ ∃ msg,
      handleHostCheckpoint bridge st (.create modelHandle ckpt tier tickId layerIdx) =
        (.error msg, st)) ∨
    ∃ arena, CreateAdmitted st modelHandle ckpt arena ∧
      handleHostCheckpoint bridge st (.create modelHandle ckpt tier tickId layerIdx) =
        ((createCheckpoint bridge st ckpt arena).1.map fun total =>
            ⟨ckpt, tier.toTier, none, some total⟩,
          { st with checkpointArena := some (createCheckpoint bridge st ckpt arena).2 }) := by
  unfold handleHostCheckpoint
  split
  next hunsafe =>
    refine .inl ⟨fun _ h => ?_, _, rfl⟩
    have hsafe := h.safe
    simp [HostCheckpointRequest.checkpointId, hsafe] at hunsafe
  next hsafe =>
    have hsafe : isSafeCheckpointId ckpt = true := by
      simpa [HostCheckpointRequest.checkpointId] using hsafe
    split
    next hmodel => exact .inl ⟨fun _ h => (nomatch hmodel.symm.trans h.handle), _, rfl⟩
    next harena => exact .inl ⟨fun _ h => (nomatch harena.symm.trans h.stored), _, rfl⟩
    next handle arena _ _ _ _ _ hmodel harena hrequest =>
      cases hrequest
      unfold hostCreate
      split
      next hhandle =>
        exact .inl ⟨fun _ h => hhandle (Option.some.inj (h.handle.symm.trans hmodel)), _, rfl⟩
      next hhandle =>
        obtain rfl := not_not.mp hhandle
        split
        next houtputs =>
          exact .inl ⟨fun _ h => Bool.false_ne_true (h.outputs.symm.trans houtputs), _, rfl⟩
        next houtputs =>
          exact .inr ⟨arena, ⟨hsafe, hmodel, harena, Bool.not_eq_true _ ▸ houtputs⟩, rfl⟩
    next hrequest => cases hrequest

/-! ## What a pass does not touch -/

lemma onlyPass_withProgress (prog : PassProgress T) (pending : List (MailItem T))
    (complete : Bool) :
    OnlyPass st (st.withProgress pass prog pending complete) :=
  ⟨_, _, _, _, _, rfl⟩

lemma onlyPass_runStepLoop : OnlyPass st (runStepLoop bridge st handle req).2 := by
  have hstart := (onlyPass_dropCompletedPass st).trans
    (onlyPass_ensureForwardPass bridge _ req.inputIds)
  rcases runStepLoop_cases bridge st handle req with
    ⟨msg, st', hensure, hran⟩ | ⟨st', pass, ended, hensure, -, hran⟩
  · rw [hensure] at hstart
    rw [hran]
    exact hstart
  · rw [hensure] at hstart
    obtain ⟨prog, pending, complete, hfinished⟩ := finishStep_snd st' pass ended
    rw [hran, hfinished]
    exact hstart.trans (onlyPass_withProgress st' pass prog pending complete)

lemma onlyPass_handleHostStep :
    OnlyPass st (handleHostStep bridge st req).2 := by
  rcases handleHostStep_cases bridge st req with ⟨-, msg, hrejected⟩ | ⟨-, hstate, -⟩
  · rw [hrejected]
    exact OnlyPass.refl st
  · rw [hstate]
    exact onlyPass_runStepLoop bridge st req.modelHandle req

lemma onlyPass_handleHostReplay (req : HostReplayRequest) :
    OnlyPass st (handleHostReplay bridge st req).2 := by
  rcases handleHostReplay_cases bridge st req with ⟨-, msg, hrejected⟩ | ⟨-, hstate, -⟩
  · rw [hrejected]
    exact OnlyPass.refl st
  · rw [hstate]
    have hdrop : OnlyPass st { st with forwardPass := none } := ⟨_, _, _, _, _, rfl⟩
    have hstart := hdrop.trans
      (onlyPass_ensureForwardPass bridge { st with forwardPass := none } none)
    rcases runReplayLoop_cases bridge st req.modelHandle req with
      ⟨msg, st', hensure, hran⟩ | ⟨st', hensure, -, -, hran⟩
    · rw [hensure] at hstart
      rw [hran]
      exact hstart
    · rw [hensure] at hstart
      rw [hran]
      generalize replayLoop bridge st' req.modelHandle req st.tickState.tickId _ _ = ended
      obtain ⟨prog, pending, complete, hfinished⟩ := finishReplay_snd st' _
        st.tickState.tickId ended
      rw [hfinished]
      exact hstart.trans (onlyPass_withProgress st' _ prog pending complete)

end RocketSurgeon.Worker
