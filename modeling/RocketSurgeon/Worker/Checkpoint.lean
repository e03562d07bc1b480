import RocketSurgeon.Worker.Interventions

/-!
# Checkpoints on the worker

A checkpoint copies the outputs of the layer containers at the boundary layers into
arena slots, and the random-number state into one slot more.  Creating one either
captures every available layer or gives all its slots back; the random-number slot
is optional.  When the arena is more than four fifths full afterwards and its oldest
checkpoint is an automatic one, that one is spilled to a file and leaves the arena.

Restoring copies the slots back into the captured outputs.  It does not touch the
clocks.
-/

namespace RocketSurgeon.Worker

open Lib Protocol Probes

variable {T : Type}

/-! ## Containers -/

/-- `layer_index_from_path`: the number behind `layers`, else the first number in the path. -/
def layerIndexFromPath (path : String) : Option ℕ :=
  let parts := path.toList.splitOn '.'
  let behindLayers := do
    let i ← parts.findIdx? (· = "layers".toList)
    let part ← parts[i + 1]?
    parseU32 part
  match behindLayers with
  | some index => some index
  | none => parts.findSome? parseU32

/-- `build_layer_container_map`: for every layer its shortest container path. -/
def buildLayerContainerMap (containerPaths : List String) : List (ℕ × String) :=
  containerPaths.foldl (fun map path =>
    match layerIndexFromPath path with
    | none => map
    | some layer =>
        match FMap.get map layer with
        | none => FMap.insert map layer path
        | some existing =>
            if path.utf8ByteSize < existing.utf8ByteSize then FMap.insert map layer path
            else map) []

/-- `is_safe_checkpoint_id`: not empty, no path separators, no `..` and no zero character. -/
def isSafeCheckpointId (id : String) : Bool :=
  let chars := id.toList
  !chars.isEmpty && !chars.contains '/' && !chars.contains '\\' &&
    !(chars.zip chars.tail).contains ('.', '.') && !chars.contains (Char.ofNat 0)

/-! ## Creating -/

/-- The header of a captured activation.  An unknown dtype is stored as 32-bit floats. -/
def activationHeader (dtypeStr : String) (shape : List ℤ) : SlotHeader :=
  let dtype := (DtypeTag.fromTorchStr dtypeStr).getD .float32
  { dtype
    ndim := min shape.length 6
    shape := (List.range 6).map fun i => ((shape.getD i 0) % 2 ^ 64).toNat
    byteLen := (shape.prod % 2 ^ 64).toNat * dtype.elemSize % 2 ^ 64 }

/-- `capture_activation` of the Python side: the bytes of a tensor that fits a slot.  The whole
slot is viewed as a tensor of the same shape, which only works for a tensor that fills it. -/
def captureActivation (bridge : Bridge T) (path : String) (room : ℕ) :
    Except String (String × List ℤ × List UInt8) :=
  match bridge.lastOutput path with
  | .error message => .error message
  | .ok (dtypeStr, shape, data) =>
      if room < data.length then
        .error s!"ValueError: tensor {data.length} bytes exceeds slot capacity {room}"
      else if data.length ≠ room ∨ room = 0 then
        .error s!"RuntimeError: shape {shape} is invalid for a buffer of {room} bytes"
      else .ok (dtypeStr, shape, data)

/-- Capture one layer: take a slot, let the Python side fill it and write its header.  Returns
the number of bytes captured. -/
def captureLayer (bridge : Bridge T) (checkpointId : String) (layer : ℕ) (path : String)
    (arena : CheckpointArena) : Except String ℕ × CheckpointArena :=
  match arena.allocSlot checkpointId layer with
  | .error message => (.error message, arena)
  | .ok (offset, arena) =>
      match captureActivation bridge path (arena.slotSize - slotHeaderSize) with
      | .error message => (.error message, arena)
      | .ok (dtypeStr, shape, data) =>
          let arena := arena.writeData offset data
          if shape.all (0 ≤ ·) then
            let header := activationHeader dtypeStr shape
            (.ok header.byteLen, arena.updateHeader offset header)
          else (.error s!"negative dimension in shape {shape} for layer {layer}", arena)

/-- Capture the boundary layers in turn; layers without a container or without a captured
output are passed over. -/
def captureLayers (bridge : Bridge T) (containers : List (ℕ × String)) (checkpointId : String) :
    List ℕ → CheckpointArena → ℕ → Except String ℕ × CheckpointArena
  | [], arena, totalBytes => (.ok totalBytes, arena)
  | layer :: layers, arena, totalBytes =>
      match FMap.get containers layer with
      | none => captureLayers bridge containers checkpointId layers arena totalBytes
      | some path =>
          match bridge.activationAvailable path with
          | .error message => (.error message, arena)
          | .ok false => captureLayers bridge containers checkpointId layers arena totalBytes
          | .ok true =>
              match captureLayer bridge checkpointId layer path arena with
              | (.error message, arena) => (.error message, arena)
              | (.ok bytes, arena) =>
                  captureLayers bridge containers checkpointId layers arena (totalBytes + bytes)

/-- Store the random-number state, if it can be captured and a slot is left. -/
def captureRng (bridge : Bridge T) (checkpointId : String) (arena : CheckpointArena) :
    CheckpointArena :=
  match bridge.captureRngState with
  | .error _ => arena
  | .ok rngBytes =>
      match arena.allocSlot checkpointId rngLayer with
      | .error _ => arena
      | .ok (offset, arena) =>
          let header : SlotHeader :=
            ⟨.float32, 1, rngBytes.length :: List.replicate 5 0, rngBytes.length⟩
          (arena.updateHeader offset header).writeData offset rngBytes

def isAutoId (id : String) : Bool := "auto-".toList.isPrefixOf id.toList

/-- The checkpoint that is spilled after `checkpointId` was created: the oldest one, if it is
automatic and less than a fifth of the arena is free. -/
def spillCandidate (arena : CheckpointArena) (checkpointId : String) : Option String :=
  if 5 * arena.available < arena.numSlots % 2 ^ 32 then
    arena.oldestCheckpoint.filter fun oldest => isAutoId oldest && oldest ≠ checkpointId
  else none

/-- Spill the candidate; a spill that fails leaves it in the arena. -/
def spillOldest (bridge : Bridge T) (checkpointId : String) (arena : CheckpointArena) :
    CheckpointArena :=
  match spillCandidate arena checkpointId with
  | none => arena
  | some oldest =>
      match arena.spillCheckpoint oldest bridge.writeSpill with
      | .ok arena => arena
      | .error _ => arena

/-- The arena after creating a checkpoint, with the bytes captured. -/
def createCheckpoint (bridge : Bridge T) (st : WorkerState T) (checkpointId : String)
    (arena : CheckpointArena) : Except String ℕ × CheckpointArena :=
  let containers := buildLayerContainerMap st.containerPaths
  match captureLayers bridge containers checkpointId (checkpointLayers st.numLayers) arena 0 with
  | (.error message, arena) =>
      (.error s!"checkpoint create failed: {message}", arena.rollback checkpointId)
  | (.ok totalBytes, arena) =>
      (.ok totalBytes, spillOldest bridge checkpointId (captureRng bridge checkpointId arena))

/-! ## Restoring -/

/-- The random-number state stored under an id. -/
def rngStateOf (arena : CheckpointArena) (checkpointId : String) : Option (List UInt8) :=
  (arena.getSlot checkpointId rngLayer).map fun (offset, header) =>
    arena.dataAt offset header.byteLen

/-- Restore the activation slots of a checkpoint one by one. -/
def restoreSlots (bridge : Bridge T) (arena : CheckpointArena) (containers : List (ℕ × String))
    (checkpointId : String) : List (ℕ × ℕ × SlotHeader) → Except String Unit
  | [] => .ok ()
  | (layer, _, header) :: rest =>
      if layer = rngLayer then restoreSlots bridge arena containers checkpointId rest
      else
        match FMap.get containers layer with
        | none => .error s!"no container path for layer {layer}"
        | some path =>
            match arena.getSlot checkpointId layer with
            | none => restoreSlots bridge arena containers checkpointId rest
            | some (offset, _) => do
                bridge.restoreActivation path (arena.dataAt offset header.byteLen)
                  header.dtype.toTorchStr ((header.shape.take header.ndim).map Int.ofNat)
                restoreSlots bridge arena containers checkpointId rest

/-! ## The request -/

/-- The `Create` branch of `handle_host_checkpoint`. -/
def hostCreate (bridge : Bridge T) (st : WorkerState T) (handle : ℕ) (arena : CheckpointArena)
    (modelHandle : ℕ) (checkpointId : String) (tier : CreateCheckpointTier) :
    Except String HostCheckpointResponse × WorkerState T :=
  if modelHandle ≠ handle then
    (.error s!"model handle mismatch: expected {handle}, got {modelHandle}", st)
  else if st.lastOutputs.isNone then
    (.error "No captured activations — execute at least one step first", st)
  else
    let created := createCheckpoint bridge st checkpointId arena
    (created.1.map fun totalBytes => ⟨checkpointId, tier.toTier, none, some totalBytes⟩,
      { st with checkpointArena := some created.2 })

/-- The `Restore` branch of `handle_host_checkpoint`.  A random-number state that cannot be
restored is only logged. -/
def hostRestore (bridge : Bridge T) (st : WorkerState T) (handle : ℕ) (arena : CheckpointArena)
    (modelHandle : ℕ) (checkpointId : String) : Except String HostCheckpointResponse :=
  if modelHandle ≠ handle then
    .error s!"model handle mismatch: expected {handle}, got {modelHandle}"
  else
    let slotInfos := arena.slotInfoForCheckpoint checkpointId
    if slotInfos.isEmpty then .error s!"checkpoint {checkpointId} not found in arena"
    else if st.lastOutputs.isNone then .error "No captured activations"
    else
      match restoreSlots bridge arena (buildLayerContainerMap st.containerPaths) checkpointId
        slotInfos with
      | .error message => .error s!"checkpoint restore failed: {message}"
      | .ok () => .ok ⟨checkpointId, .activation, none, none⟩

/-- `handle_host_checkpoint` behind the parsing of its parameters. -/
def handleHostCheckpoint (bridge : Bridge T) (st : WorkerState T) (req : HostCheckpointRequest) :
    Except String HostCheckpointResponse × WorkerState T :=
  if !isSafeCheckpointId req.checkpointId then
    (.error s!"invalid checkpoint_id: {req.checkpointId.quote}", st)
  else
    match st.modelHandle, st.checkpointArena, req with
    | none, _, _ => (.error "No model loaded", st)
    | some _, none, _ => (.error "No checkpoint arena", st)
    | some handle, some arena, .create modelHandle checkpointId tier _ _ =>
        hostCreate bridge st handle arena modelHandle checkpointId tier
    | some handle, some arena, .restore modelHandle checkpointId =>
        (hostRestore bridge st handle arena modelHandle checkpointId, st)

end RocketSurgeon.Worker
