import RocketSurgeon.Worker.Checkpoint
import RocketSurgeon.Worker.Step

/-!
# Replaying

`_host/replay` restores a checkpoint and runs a forward pass from the start.  The
pass is always run on the default input: nothing records the token ids of the
pass the checkpoint belongs to.  The clock is not set back; it counts on.

The loop stops on the event named by `stop_at`, after it has sent the pass on with
an empty answer, or at the end of the pass.
-/

namespace RocketSurgeon.Worker

open Lib Protocol Probes

variable {T : Type}

/-- `should_stop`. -/
def shouldStop (stopAt : Option ReplayStopAt) (layer : ℕ) (component : String) : Bool :=
  match stopAt with
  | some stop => layer = stop.layer && component = stop.component
  | none => false

/-- The local variables of the replay loop. -/
structure ReplayCursor (T : Type) where
  progress : PassProgress T
  ticks : ℕ
  divergences : List Divergence

/-- How a replay loop ended: with a failure, or with whether the pass is complete. -/
structure ReplayEnd (T : Type) where
  result : Except String Bool
  cursor : ReplayCursor T
  pending : List (MailItem T)

/-- `check_divergence_at_boundary`: compare an output with the slot of its layer, if the layer
is a boundary layer and the checkpoint holds it. -/
def checkDivergenceAtBoundary (bridge : Bridge T) (st : WorkerState T) (req : HostReplayRequest)
    (tickId preReplayTick layer : ℕ) (canonical : String) (event : HookEvent T) :
    Except String (List Divergence) :=
  if layer ∈ checkpointLayers st.numLayers then
    match st.checkpointArena.bind fun arena =>
      (arena.getSlot req.checkpointId layer).map fun slot => (arena, slot) with
    | none => .ok []
    | some (arena, offset, header) =>
        match event.output with
        | none => .ok []
        | some output => do
            let found ← bridge.compareActivations (arena.dataAt offset header.byteLen)
              header.dtype.toTorchStr ((header.shape.take header.ndim).map Int.ofNat) output
              req.cosineThreshold req.mreThreshold
            match found with
            | none => return []
            | some (cosine, mre) =>
                return [{
                  tickId
                  originalTickId := preReplayTick
                  probePoint := s!"{st.family}:0:{layer}:{canonical}:output"
                  cosineSimilarity := cosine
                  maxRelativeError := mre }]
  else .ok []

/-- The divergences an event adds: none unless the replay verifies. -/
def verifyEvent (bridge : Bridge T) (st : WorkerState T) (req : HostReplayRequest)
    (tickId preReplayTick : ℕ) (event : HookEvent T) : Except String (List Divergence) :=
  let component := st.lookupComponent event.path event.callIndex
  if req.verify then
    checkDivergenceAtBoundary bridge st req tickId preReplayTick component.2 component.1 event
  else .ok []

/-- The interventions of a replay: all recipes in one call, head targets as they are. -/
def replayReaction (bridge : Bridge T) (st : WorkerState T) (handle : ℕ)
    (recipes : List InterventionRecipe) (tickId : ℕ) (event : HookEvent T) :
    Except String (Option T) :=
  let component := st.lookupComponent event.path event.callIndex
  match recipes, event.output with
  | [], _ => .ok none
  | _, none => .ok none
  | recipes, some output => do
      let (modified, fired) ← bridge.applyInterventionsAtPoint output {
        recipes
        family := st.family
        rank := st.rank
        layer := component.2
        component := component.1
        event := "output"
        tickId
        handle }
      if fired = [] then return none else return some modified

/-- The loop of `run_replay_loop`. -/
def replayLoop (bridge : Bridge T) (st : WorkerState T) (handle : ℕ) (req : HostReplayRequest)
    (preReplayTick : ℕ) : List (MailItem T) → ReplayCursor T → ReplayEnd T
  | [], cursor => ⟨.error "TimeoutError", cursor, []⟩
  | .forwardComplete :: rest, cursor => ⟨.ok true, cursor, rest⟩
  | .hook event :: rest, cursor =>
      let component := st.lookupComponent event.path event.callIndex
      let cursor := { cursor with
        progress := cursor.progress.receive st event
        ticks := cursor.ticks + 1 }
      let tickId := cursor.progress.tick.tickId
      match verifyEvent bridge st req tickId preReplayTick event with
      | .error message => ⟨.error message, cursor, rest⟩
      | .ok divergences =>
          let cursor := { cursor with divergences := cursor.divergences ++ divergences }
          if shouldStop req.stopAt component.2 component.1 then
            ⟨.ok false, { cursor with progress := cursor.progress.put none }, rest⟩
          else
            match replayReaction bridge st handle req.interventions tickId event with
            | .error message => ⟨.error message, cursor, rest⟩
            | .ok value =>
                replayLoop bridge st handle req preReplayTick rest
                  { cursor with progress := cursor.progress.put value }

/-- The state and the response after the loop has ended. -/
def finishReplay (st : WorkerState T) (pass : ForwardPassState T) (preReplayTick : ℕ)
    (ended : ReplayEnd T) : Except String HostReplayResponse × WorkerState T :=
  match ended.result with
  | .error message =>
      (.error message, st.withProgress pass ended.cursor.progress ended.pending false)
  | .ok forwardComplete =>
      (.ok {
        ticksReplayed := ended.cursor.ticks
        stoppedAt := { ended.cursor.progress.tick.toTickPosition with
          replayOf := some preReplayTick }
        divergences := ended.cursor.divergences
        verified := ended.cursor.divergences.isEmpty },
      st.withProgress pass ended.cursor.progress ended.pending forwardComplete)

/-- `run_replay_loop`.  The old pass is forgotten; its hooks stay on the model. -/
def runReplayLoop (bridge : Bridge T) (st : WorkerState T) (handle : ℕ)
    (req : HostReplayRequest) : Except String HostReplayResponse × WorkerState T :=
  let preReplayTick := st.tickState.tickId
  match ensureForwardPass bridge { st with forwardPass := none } none with
  | (.error message, st) => (.error message, st)
  | (.ok (), st) =>
      match st.forwardPass with
      | none => (.error "forward pass not initialized", st)
      | some pass =>
          finishReplay st pass preReplayTick
            (replayLoop bridge st handle req preReplayTick pass.pending
              ⟨st.progress pass, 0, []⟩)

/-- `restore_checkpoint_for_replay`: here a random-number state that cannot be restored is a
failure. -/
def restoreCheckpointForReplay (bridge : Bridge T) (st : WorkerState T)
    (arena : CheckpointArena) (checkpointId : String) : Except String Unit := do
  match rngStateOf arena checkpointId with
  | none => pure ()
  | some rngBytes => bridge.restoreRngState rngBytes
  restoreSlots bridge arena (buildLayerContainerMap st.containerPaths) checkpointId
    (arena.slotInfoForCheckpoint checkpointId)

/-- The replay itself, between switching deterministic algorithms on and off. -/
def replayDeterministically (bridge : Bridge T) (st : WorkerState T) (handle : ℕ)
    (req : HostReplayRequest) : Except String HostReplayResponse × WorkerState T :=
  let switch := fun on => if req.deterministic then bridge.useDeterministicAlgorithms on else .ok ()
  match switch true with
  | .error message => (.error message, st)
  | .ok () =>
      match runReplayLoop bridge st handle req with
      | (.error message, st) => (.error message, st)
      | (.ok response, st) =>
          match switch false with
          | .error message => (.error message, st)
          | .ok () => (.ok response, st)

/-- `handle_host_replay` behind the parsing of its parameters. -/
def handleHostReplay (bridge : Bridge T) (st : WorkerState T) (req : HostReplayRequest) :
    Except String HostReplayResponse × WorkerState T :=
  match st.modelHandle with
  | none => (.error "No model loaded", st)
  | some handle =>
      if req.modelHandle ≠ handle then
        (.error s!"model handle mismatch: expected {handle}, got {req.modelHandle}", st)
      else
        match st.checkpointArena with
        | none => (.error "No checkpoint arena", st)
        | some arena =>
            if (arena.slotInfoForCheckpoint req.checkpointId).isEmpty then
              (.error s!"checkpoint {req.checkpointId} not found in arena", st)
            else if st.lastOutputs.isNone then (.error "No captured activations", st)
            else
              match restoreCheckpointForReplay bridge st arena req.checkpointId with
              | .error message => (.error s!"checkpoint restore for replay failed: {message}", st)
              | .ok () =>
                  let ran := replayDeterministically bridge st handle req
                  (ran.1.mapError fun message => s!"replay failed: {message}", ran.2)

end RocketSurgeon.Worker
