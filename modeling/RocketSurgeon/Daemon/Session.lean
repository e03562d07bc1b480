import RocketSurgeon.Lib.FiniteMap
import RocketSurgeon.Protocol.Messages

/-!
# The session

The daemon's own account of a debugging session: its state machine, the current tick,
the checkpoints it has registered, interventions, views and the worldline.  A method that
can fail checks before it changes anything, so its result carries the new session only
if it succeeds.

Clock readings are left out.  Fresh identifiers are parameters.
-/

namespace RocketSurgeon.Daemon

open Lib Protocol

variable {session : Session}

/-! ## The catalogue of probe points -/

structure ProbePointEntry where
  family : String
  layer : ℕ
  canonical : String
  event : String
  tensorShape : List ℕ
  aliases : List String
  deriving DecidableEq, Repr

/-- The components of a layer: canonical name, event, shape and the end of the alias. -/
def catalogComponents (numHeads hiddenDim : ℕ) : List (String × String × List ℕ × String) :=
  [("attn.q_proj", "output", [1, hiddenDim], "attn.hook_q"),
    ("attn.k_proj", "output", [1, hiddenDim], "attn.hook_k"),
    ("attn.v_proj", "output", [1, hiddenDim], "attn.hook_v"),
    ("attn.o_proj", "output", [1, hiddenDim], "attn.hook_z"),
    ("attn.scores", "output", [1, numHeads, 1, 1], "attn.hook_pattern"),
    ("mlp", "output", [1, hiddenDim], "hook_mlp_out"),
    ("residual_post", "output", [1, hiddenDim], "hook_resid_post")]

def defaultCatalog (family : String) (numLayers numHeads hiddenDim : ℕ) : List ProbePointEntry :=
  (List.range numLayers).flatMap (fun layer =>
    (catalogComponents numHeads hiddenDim).map fun (canonical, event, shape, aliasSuffix) =>
      ⟨family, layer, canonical, event, shape, [s!"blocks.{layer}.{aliasSuffix}"]⟩) ++
    [⟨family, 0, "lm_head", "output", [1, hiddenDim], ["lm_head"]⟩]

/-! ## Sessions -/

structure Session where
  state : SessionState
  detachedModelId : Option String
  catalog : List ProbePointEntry
  definedViews : List (String × String)
  eventFilter : Option SubscribeFilter
  checkpointPositions : List (String × TickPosition)
  interventions : List InterventionRecipe
  autoCheckpointLayers : List ℕ
  arenaUtilization : ℚ
  deriving DecidableEq, Repr

namespace Session

def new : Session where
  state := {
    sessionId := ""
    modelId := none
    status := .uninitialized
    position := none
    tickId := none
    activeProbes := []
    checkpoints := []
    availableActions := []
    worldline := ⟨0, []⟩ }
  detachedModelId := none
  catalog := []
  definedViews := []
  eventFilter := none
  checkpointPositions := []
  interventions := []
  autoCheckpointLayers := []
  arenaUtilization := 0

/-! ## Envelopes and state errors -/

def envelope (session : Session) (data : ResponseData) : SuccessBody := ⟨.full session.state, data⟩

def envelopeWithMode (session : Session) (mode : EnvelopeMode) (data : ResponseData) :
    SuccessBody :=
  match mode with
  | .full => session.envelope data
  | .position => ⟨.position session.state.status session.state.position, data⟩
  | .none => ⟨.none, data⟩

@[simp] lemma envelopeWithMode_data (session : Session) (mode : EnvelopeMode)
    (data : ResponseData) : (session.envelopeWithMode mode data).data = data := by
  cases mode <;> rfl

def actionsOf : Status → List ActionName
  | .initialized => [.attach]
  | .stopped => [.step, .inspect, .intervene, .probe, .checkpoint, .replay, .detach, .status,
      .subscribe]
  | _ => []

def updateAvailableActions (session : Session) : Session :=
  { session with
    state := { session.state with availableActions := actionsOf session.state.status } }

def invalidStateError (session : Session) (method : String) (validStates : List Status) :
    ErrorData :=
  let suggestion :=
    match validStates with
    | [status] => s!"The session must be in {status.debug} state to call {method}"
    | statuses =>
        let names := ", ".intercalate (statuses.map Status.debug)
        s!"The session must be in one of [{names}] to call {method}"
  ⟨.invalidState, suggestion, some session.state.status, some validStates⟩

def requireStopped (session : Session) (method : String) : Except ErrorData Unit :=
  match session.state.status with
  | .stopped => .ok ()
  | .uninitialized | .initialized =>
      .error ⟨.modelNotAttached, "Attach a model before calling this method",
        some session.state.status, some [.stopped]⟩
  | _ => .error (session.invalidStateError method [.stopped])

lemma requireStopped_of_stopped (hstop : session.state.status = .stopped) (method : String) :
    session.requireStopped method = .ok () := by
  rw [requireStopped, hstop]

lemma requireStopped_of_ne (hstatus : session.state.status ≠ .stopped) (method : String) :
    ∃ data, session.requireStopped method = .error data := by
  unfold requireStopped
  split
  next hstop => exact absurd hstop hstatus
  · exact ⟨_, rfl⟩
  · exact ⟨_, rfl⟩
  · exact ⟨_, rfl⟩

/-! ## Life cycle -/

def supportedFamilies : List String := ["llama", "mixtral", "gpt-neox", "gpt2"]
def protocolVersion : String := "0.3.0"

/-- `Session::initialize`; `sessionId` is a fresh identifier. -/
def initializeSession (session : Session) (req : InitializeRequest) (sessionId : String) :
    Except ErrorData (SuccessBody × Session) :=
  if session.state.status ≠ .uninitialized then
    .error (session.invalidStateError "initialize" [.uninitialized])
  else if req.protocolVersion ≠ protocolVersion then
    .error ⟨.invalidParams,
      s!"Unsupported protocol version '{req.protocolVersion}', server supports '{protocolVersion}'",
      some session.state.status, none⟩
  else
    let session := { session with
      state := { session.state with sessionId, status := .initialized } }
    let session := session.updateAvailableActions
    .ok (session.envelope .initialized, session)

def validateAttach (session : Session) (req : AttachRequest) : Except ErrorData Unit :=
  if session.state.status = .stopped ∨ session.state.modelId.isSome then
    .error ⟨.modelAlreadyAttached, "Detach the current model before attaching a new one",
      some session.state.status, none⟩
  else if session.state.status ≠ .initialized then
    .error (session.invalidStateError "attach" [.initialized])
  else if req.executionMode = some "compiled" then
    .error ⟨.compiledModel,
      "rocket_surgeon requires eager-mode models. Remove torch.compile() wrapper before attaching",
      some session.state.status, none⟩
  else if req.modelFamily ∉ supportedFamilies then
    .error ⟨.unsupportedModel,
      "Supported model families: " ++ ", ".intercalate supportedFamilies,
      some session.state.status, none⟩
  else .ok ()

def commitAttach (session : Session) (req : AttachRequest) (workerModelType : String)
    (numLayers numHeads hiddenDim : ℕ) (uuid : String) : SuccessBody × Session :=
  let modelId := "model-" ++ uuid
  let session := { session with
    state := { session.state with
      modelId := some modelId
      status := .stopped
      position := none
      tickId := none }
    catalog := defaultCatalog workerModelType numLayers numHeads hiddenDim }
  let session := session.updateAvailableActions
  (session.envelope (.attach ⟨modelId, workerModelType, numLayers, numHeads, hiddenDim,
    req.numRanks⟩), session)

def detach (session : Session) : Except ErrorData (SuccessBody × Session) :=
  if session.state.status = .initialized ∨ session.state.modelId.isNone then
    .error ⟨.modelNotAttached, "No model is currently attached", some session.state.status, none⟩
  else if session.state.status ≠ .stopped then
    .error (session.invalidStateError "detach" [.stopped])
  else
    let detachedId := session.state.modelId.getD ""
    let session := { session with
      state := { session.state with
        modelId := none
        status := .initialized
        position := none
        tickId := none
        activeProbes := []
        checkpoints := [] }
      detachedModelId := some detachedId
      catalog := []
      definedViews := []
      checkpointPositions := []
      interventions := []
      autoCheckpointLayers := [] }
    let session := session.updateAvailableActions
    .ok (session.envelope (.detach detachedId), session)

/-! ## Checkpoints -/

def checkpointNotFoundError (session : Session) (checkpointId : String) : ErrorData :=
  ⟨.checkpointNotFound,
    s!"Checkpoint '{checkpointId}' does not exist; call `rocket/checkpoint action=list` to see valid ids",
    some session.state.status, none⟩

def findCheckpoint (session : Session) (checkpointId : String) : Option CheckpointRef :=
  session.state.checkpoints.find? fun ref => ref.checkpointId = checkpointId

/-- The position a checkpoint is restored to: the one captured when it was created or, for a
bookmark, one made up from its entry. -/
def checkpointOrigin (session : Session) (ref : CheckpointRef) : TickPosition :=
  (FMap.get session.checkpointPositions ref.checkpointId).getD {
    tickId := ref.tickId
    direction := .forward
    rank := none
    layer := ref.layerIdx
    component := ""
    event := .output
    replayOf := none
    phase := .decode
    tokenPosition := none
    clock := none }

def currentLayer (session : Session) : ℕ :=
  match session.state.position with
  | some position => position.layer
  | none => 0

def checkpointBody (session : Session) (checkpointId : Option String)
    (restoredTo : Option TickPosition) : SuccessBody :=
  session.envelope (.checkpoint ⟨session.state.checkpoints, checkpointId, restoredTo⟩)

def checkpointCreateWithId (session : Session) (tier : Option CreateCheckpointTier)
    (checkpointId : String) : SuccessBody × Session :=
  let ref : CheckpointRef := {
    checkpointId
    tickId := session.state.tickId.getD 0
    layerIdx := session.currentLayer
    tier := (tier.getD .activation).toTier
    bookmark := none }
  let session := { session with
    state := { session.state with checkpoints := session.state.checkpoints ++ [ref] }
    checkpointPositions :=
      match session.state.position with
      | some position => FMap.insert session.checkpointPositions checkpointId position
      | none => session.checkpointPositions }
  (session.checkpointBody (some checkpointId) none, session)

def checkpointList (session : Session) : SuccessBody := session.checkpointBody none none

def checkpointRestore (session : Session) (checkpointId : String) :
    Except ErrorData (SuccessBody × Session) :=
  match session.findCheckpoint checkpointId with
  | none => .error (session.checkpointNotFoundError checkpointId)
  | some ref =>
      let position := session.checkpointOrigin ref
      let session := { session with
        state := { session.state with tickId := some position.tickId, position := some position } }
      .ok (session.checkpointBody (some checkpointId) (some position), session)

def checkpointDelete (session : Session) (checkpointId : String) :
    Except ErrorData (SuccessBody × Session) :=
  let kept := session.state.checkpoints.filter fun ref => ref.checkpointId ≠ checkpointId
  if kept.length = session.state.checkpoints.length then
    .error (session.checkpointNotFoundError checkpointId)
  else
    let session := { session with
      state := { session.state with checkpoints := kept }
      checkpointPositions := FMap.remove session.checkpointPositions checkpointId }
    .ok (session.checkpointBody none none, session)

/-- Name the first checkpoint at a tick. -/
def setBookmark (tickId : ℕ) (name : String) : List CheckpointRef → List CheckpointRef
  | [] => []
  | ref :: rest =>
      if ref.tickId = tickId then { ref with bookmark := some name } :: rest
      else ref :: setBookmark tickId name rest

/-- `checkpoint_bookmark`: name the checkpoint at a tick, or enter a marker that carries the
name. -/
def checkpointBookmark (session : Session) (tickId : ℕ) (name : String) (uuid : String) :
    SuccessBody × Session :=
  let checkpoints :=
    if session.state.checkpoints.any (fun ref => ref.tickId = tickId) then
      setBookmark tickId name session.state.checkpoints
    else
      session.state.checkpoints ++ [⟨uuid, tickId, session.currentLayer, .probeLog, some name⟩]
  let session := { session with state := { session.state with checkpoints } }
  (session.checkpointBody none none, session)

/-- `find_checkpoint_before`: the position with the latest tick before `targetTick`, the first one
of them in the order in which the map is iterated. -/
def findCheckpointBefore (targetTick : ℕ) : List (String × TickPosition) →
    Option (String × ℕ) → Option (String × ℕ)
  | [], best => best
  | (id, position) :: rest, best =>
      let better := position.tickId < targetTick &&
        match best with
        | none => true
        | some (_, tick) => tick < position.tickId
      findCheckpointBefore targetTick rest (if better then some (id, position.tickId) else best)

/-! ## Moving -/

/-- The tick at which the current worldline segment ends is moved to `tick`. -/
def extendSegment (worldline : WorldlineState) (tick : ℕ) : WorldlineState :=
  { worldline with
    segments := worldline.segments.modify worldline.currentSegment fun segment =>
      { segment with tickRange := (segment.tickRange.1, tick) } }

def advanceWorldlineSegment (session : Session) (branchTick : ℕ) : Session :=
  let worldline := session.state.worldline
  let isRoot := worldline.segments.isEmpty
  let extended := extendSegment worldline branchTick
  -- The number of segments is cast to 32 bits.
  let newId := worldline.segments.length % 2 ^ 32
  { session with
    state := { session.state with
      worldline := {
        currentSegment := newId
        segments := extended.segments ++ [{
          id := newId
          parentSegment := if isRoot then none else some worldline.currentSegment
          branchTick := if isRoot then none else some branchTick
          tickRange := (branchTick, 0) }] } } }

/-- The session is moved to a position, as `step` and `replay` do it. -/
def moveTo (session : Session) (position : TickPosition) : Session :=
  let session := { session with
    state := { session.state with
      tickId := some position.tickId
      position := some position
      worldline := extendSegment session.state.worldline position.tickId } }
  session.updateAvailableActions

def step (session : Session) (req : StepRequest) (hostPosition : TickPosition)
    (firedInterventions : List String) : Except ErrorData (SuccessBody × Session) := do
  session.requireStopped "rocket/step"
  let session := session.moveTo hostPosition
  return (session.envelopeWithMode req.envelope
    (.step ⟨req.count, hostPosition, firedInterventions⟩), session)

lemma step_of_stopped (hstop : session.state.status = .stopped) (req : StepRequest)
    (hostPosition : TickPosition) (fired : List String) :
    session.step req hostPosition fired = .ok
      ((session.moveTo hostPosition).envelopeWithMode req.envelope
        (.step ⟨req.count, hostPosition, fired⟩), session.moveTo hostPosition) := by
  rw [step, requireStopped_of_stopped hstop]
  rfl

lemma step_of_ne (hstatus : session.state.status ≠ .stopped) (req : StepRequest)
    (hostPosition : TickPosition) (fired : List String) :
    ∃ data, session.step req hostPosition fired = .error data := by
  obtain ⟨data, hrejected⟩ := requireStopped_of_ne hstatus "rocket/step"
  exact ⟨data, by rw [step, hrejected]; rfl⟩

/-- The replay that is made up when no worker has answered: as many ticks as lie between the
checkpoint and now, and verified. -/
def fabricatedReplay (session : Session) (req : ReplayRequest) (ref : CheckpointRef) :
    ReplayResponse :=
  let origin := session.checkpointOrigin ref
  let currentTick := session.state.tickId.getD origin.tickId
  let current := session.state.position
  let ticks := max (currentTick - origin.tickId) 1
  { ticksReplayed := if ticks < 2 ^ 32 then ticks else 2 ^ 32 - 1
    stoppedAt := {
      tickId := currentTick + ticks
      direction := .forward
      rank := current.bind TickPosition.rank
      layer :=
        match req.stopAt with
        | some stop => stop.layer
        | none => (current.map TickPosition.layer).getD origin.layer
      component :=
        match req.stopAt with
        | some stop => stop.component
        | none => (current.map TickPosition.component).getD ""
      event := .output
      replayOf := some currentTick
      phase := (current.map TickPosition.phase).getD .decode
      tokenPosition := current.bind TickPosition.tokenPosition
      clock := current.bind TickPosition.clock }
    divergences := []
    verified := true }

/-- What a replay is answered with: the worker's report, or one that is made up. -/
def replayData (session : Session) (req : ReplayRequest) (ref : CheckpointRef) :
    Option HostReplayResponse → ReplayResponse
  | some host => ⟨host.ticksReplayed, host.stoppedAt, host.divergences, host.verified⟩
  | none => session.fabricatedReplay req ref

def replay (session : Session) (req : ReplayRequest) (hostResponse : Option HostReplayResponse) :
    Except ErrorData (SuccessBody × Session) := do
  session.requireStopped "rocket/replay"
  match session.findCheckpoint req.fromCheckpoint with
  | none => throw (session.checkpointNotFoundError req.fromCheckpoint)
  | some ref =>
      let data := session.replayData req ref hostResponse
      let session := session.moveTo data.stoppedAt
      return (session.envelopeWithMode req.envelope (.replay data), session)

lemma replay_of_stopped (hstop : session.state.status = .stopped)
    (href : session.findCheckpoint req.fromCheckpoint = some ref)
    (hostResponse : Option HostReplayResponse) :
    let data := session.replayData req ref hostResponse
    session.replay req hostResponse = .ok
      ((session.moveTo data.stoppedAt).envelopeWithMode req.envelope (.replay data),
        session.moveTo data.stoppedAt) := by
  rw [replay, requireStopped_of_stopped hstop]
  simp only [href]
  rfl

lemma replay_of_refused
    (hrejected : session.state.status ≠ .stopped ∨
      session.findCheckpoint req.fromCheckpoint = none) (hostResponse : Option HostReplayResponse) :
    ∃ data, session.replay req hostResponse = .error data := by
  unfold replay
  by_cases hstop : session.state.status = .stopped
  · rw [requireStopped_of_stopped hstop]
    simp only [hrejected.resolve_left (not_not.mpr hstop)]
    exact ⟨_, rfl⟩
  · obtain ⟨data, hdata⟩ := requireStopped_of_ne hstop "rocket/replay"
    exact ⟨data, by rw [hdata]; rfl⟩

/-! ## Views, interventions and the arena -/

/-- Rust's white space, which `trim` removes. -/
def isRustWhitespace (c : Char) : Bool :=
  let n := c.toNat
  9 ≤ n && n ≤ 13 || n = 32 || n = 0x85 || n = 0xA0 || n = 0x1680 || 0x2000 ≤ n && n ≤ 0x200A ||
    n = 0x2028 || n = 0x2029 || n = 0x202F || n = 0x205F || n = 0x3000

def defineView (session : Session) (name spec : String) :
    Except ErrorData (SuccessBody × Session) := do
  session.requireStopped "rocket/view.define"
  if name.toList.all isRustWhitespace then
    throw ⟨.invalidParams, "View name must be a non-empty string", some session.state.status, none⟩
  let session := { session with definedViews := FMap.insert session.definedViews name spec }
  return (session.envelope (.viewDefine name true), session)

/-- Replace the first recipe with the id of `recipe`. -/
def replaceRecipe (recipe : InterventionRecipe) : List InterventionRecipe → List InterventionRecipe
  | [] => []
  | old :: rest => if old.id = recipe.id then recipe :: rest else old :: replaceRecipe recipe rest

def setIntervention (session : Session) (recipe : InterventionRecipe) : Session :=
  { session with
    interventions :=
      if session.interventions.any (fun old => old.id = recipe.id) then
        replaceRecipe recipe session.interventions
      else session.interventions ++ [recipe] }

def clearIntervention (session : Session) (id : String) : Session :=
  { session with interventions := session.interventions.filter fun recipe => recipe.id ≠ some id }

/-- `update_arena_utilization`, in exact arithmetic: a share of 256 MiB, at most one. -/
def updateArenaUtilization (session : Session) (bytesCaptured : Option ℕ) : Session :=
  match bytesCaptured with
  | some bytes =>
      { session with
        arenaUtilization := min (session.arenaUtilization + bytes / (256 * 1024 * 1024)) 1 }
  | none => session

end Session

end RocketSurgeon.Daemon
