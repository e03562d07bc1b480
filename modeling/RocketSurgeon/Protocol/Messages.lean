import RocketSurgeon.Protocol.Types

/-!
# Client messages

The requests and responses between a client and the daemon, and the errors.  Of
`ErrorData` the model keeps what a client decides on: the code, the suggestion and the
states; the recovery hint, which is a function of the code, and the free-form context
are left out.

The parameters of a request arrive as JSON.  What matters of them is what the
deserialiser of the request's type makes of them: `Params`.
-/

namespace RocketSurgeon.Protocol

/-! ## Session state -/

inductive Status
  | uninitialized
  | initialized
  | attaching
  | stopped
  | stepping
  | inspecting
  | modifying
  | replaying
  | detaching
  deriving DecidableEq, Repr

/-- The `Debug` text of a status. -/
def Status.debug : Status → String
  | .uninitialized => "Uninitialized"
  | .initialized => "Initialized"
  | .attaching => "Attaching"
  | .stopped => "Stopped"
  | .stepping => "Stepping"
  | .inspecting => "Inspecting"
  | .modifying => "Modifying"
  | .replaying => "Replaying"
  | .detaching => "Detaching"

inductive ActionName
  | initialize_
  | attach
  | detach
  | step
  | inspect
  | intervene
  | probe
  | checkpoint
  | replay
  | status
  | subscribe
  deriving DecidableEq, Repr

structure WorldlineSegment where
  id : ℕ
  parentSegment : Option ℕ
  branchTick : Option ℕ
  tickRange : ℕ × ℕ
  deriving DecidableEq, Repr

structure WorldlineState where
  currentSegment : ℕ
  segments : List WorldlineSegment
  deriving DecidableEq, Repr

structure SessionState where
  sessionId : String
  modelId : Option String
  status : Status
  position : Option TickPosition
  tickId : Option ℕ
  activeProbes : List String
  checkpoints : List CheckpointRef
  availableActions : List ActionName
  worldline : WorldlineState
  deriving DecidableEq, Repr

/-! ## Errors -/

inductive ErrorCode
  | invalidState
  | invalidTarget
  | invalidRecipe
  | modelNotAttached
  | tensorNotFound
  | checkpointNotFound
  | probeNotFound
  | capabilityNotSupported
  | sliceOutOfBounds
  | hostError
  | unsupportedModel
  | compiledModel
  | modelAlreadyAttached
  | invalidParams
  | duplicateProbeId
  | invalidPoint
  | viewDataUnavailable
  | backendAttachFailed
  | kvEvicted
  deriving DecidableEq, Repr

def ErrorCode.numericCode : ErrorCode → ℤ
  | .invalidState => -32001
  | .invalidTarget => -32002
  | .invalidRecipe => -32003
  | .modelNotAttached => -32004
  | .tensorNotFound => -32005
  | .checkpointNotFound => -32006
  | .probeNotFound => -32007
  | .capabilityNotSupported => -32008
  | .sliceOutOfBounds => -32009
  | .hostError => -32011
  | .unsupportedModel => -32015
  | .compiledModel => -32016
  | .modelAlreadyAttached => -32017
  | .invalidParams => -32602
  | .duplicateProbeId => -32018
  | .invalidPoint => -32019
  | .viewDataUnavailable => -32020
  | .backendAttachFailed => -32021
  | .kvEvicted => -32026

structure ErrorData where
  errorCode : ErrorCode
  suggestion : String
  currentState : Option Status
  validStates : Option (List Status)
  deriving DecidableEq, Repr

/-- `ErrorData::new`, as `error_with_hint` and `error_with_context` use it. -/
def errorWithHint (code : ErrorCode) (suggestion : String) : ErrorData :=
  ⟨code, suggestion, none, none⟩

structure RpcError where
  code : ℤ
  message : String
  data : Option ErrorData
  deriving DecidableEq, Repr

def RpcError.fromErrorData (data : ErrorData) : RpcError :=
  ⟨data.errorCode.numericCode, data.suggestion, some data⟩

def parseError : ℤ := -32700
def methodNotFound : ℤ := -32601
def internalError : ℤ := -32603

/-! ## Requests -/

/-- The parameters of a request: absent, not of the request's type (with the deserialiser's
message), or of it. -/
inductive Params (α : Type)
  | absent
  | malformed (message : String)
  | valid (value : α)
  deriving DecidableEq, Repr

/-- `parse_params`: absent parameters are read as an empty object, of which the deserialiser makes
`empty`. -/
def Params.parse {α : Type} (empty : Except String α) : Params α → Except String α
  | .absent => empty
  | .malformed message => .error message
  | .valid value => .ok value

inductive EnvelopeMode
  | full
  | position
  | none
  deriving DecidableEq, Repr

structure InitializeRequest where
  protocolVersion : String
  deriving DecidableEq, Repr

/-- `executionMode` is the string under `execution_mode` in the configuration. -/
structure AttachRequest where
  modelPath : String
  modelFamily : String
  numRanks : ℕ
  executionMode : Option String
  deriving DecidableEq, Repr

structure StepRequest where
  direction : StepDirection
  count : ℕ
  granularity : Option TickGranularity
  envelope : EnvelopeMode
  tokens : Option (List ℕ)
  deriving DecidableEq, Repr

structure ReplayRequest where
  fromCheckpoint : String
  interventions : Option (List InterventionRecipe)
  stopAt : Option ReplayStopAt
  verify : Bool
  envelope : EnvelopeMode
  deterministic : Option Bool
  cosineThreshold : Option ℚ
  mreThreshold : Option ℚ
  deriving DecidableEq, Repr

inductive CheckpointRequest
  | create (tier : Option CreateCheckpointTier)
  | restore (checkpointId : String)
  | list
  | delete (checkpointId : String)
  | bookmark (tickId : ℕ) (name : String)
  deriving DecidableEq, Repr

inductive ProbeRequest
  | define (probe : ProbeDefinition)
  | list
  | enable (probeId : String)
  | disable (probeId : String)
  | remove (probeId : String)
  | setGranularity (scopes : List GranularityScope)
  deriving DecidableEq, Repr

inductive InterveneRequest
  | set (recipe : InterventionRecipe)
  | clear (interventionId : String)
  | list
  deriving DecidableEq, Repr

inductive EventType
  | tickStopped
  | tickHeartbeat
  | probeFired
  | replayDivergence
  | error
  deriving DecidableEq, Repr

structure SubscribeFilter where
  events : Option (List EventType)
  layers : Option (List ℕ)
  components : Option (List String)
  deriving DecidableEq, Repr

structure SubscribeRequest where
  filter : Option SubscribeFilter
  deriving DecidableEq, Repr

structure UnsubscribeRequest where
  deriving DecidableEq, Repr

/-- `spec` is the text of the specification, which is stored as it is. -/
structure ViewDefineRequest where
  name : String
  spec : String
  deriving DecidableEq, Repr

/-! ## Responses -/

structure StepResponse where
  ticksExecuted : ℕ
  stoppedAt : TickPosition
  firedInterventions : List String
  deriving DecidableEq, Repr

structure ReplayResponse where
  ticksReplayed : ℕ
  stoppedAt : TickPosition
  divergences : List Divergence
  verified : Bool
  deriving DecidableEq, Repr

structure CheckpointResponse where
  checkpoints : List CheckpointRef
  checkpointId : Option String
  restoredTo : Option TickPosition
  deriving DecidableEq, Repr

structure AttachResponse where
  modelId : String
  modelFamily : String
  numLayers : ℕ
  numHeads : ℕ
  hiddenDim : ℕ
  numRanks : ℕ
  deriving DecidableEq, Repr

/-- The data of a successful response.  Of the answer to `status` nothing is kept: its counters
are constants and a clock reading.  Responses to other requests that only read are texts. -/
inductive ResponseData
  | initialized
  | status
  | attach (response : AttachResponse)
  | detach (detachedModelId : String)
  | step (response : StepResponse)
  | replay (response : ReplayResponse)
  | checkpoint (response : CheckpointResponse)
  | probe (probes : List ProbeDefinition) (probeId : Option String)
  | intervene (activeInterventions : List InterventionRecipe) (applied : Option Bool)
  | subscribe (availableEvents : List EventType) (status : Status)
  | unsubscribe (status : Status)
  | viewDefine (name : String) (registered : Bool)
  | query (text : String)
  deriving DecidableEq, Repr

/-- What surrounds the data: the whole session state, status and position, or nothing. -/
inductive Envelope
  | full (state : SessionState)
  | position (status : Status) (position : Option TickPosition)
  | none
  deriving DecidableEq, Repr

structure SuccessBody where
  envelope : Envelope
  data : ResponseData
  deriving DecidableEq, Repr

end RocketSurgeon.Protocol
