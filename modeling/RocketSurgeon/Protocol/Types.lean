import Mathlib

/-!
# Protocol types

The data that daemon, orchestrator and worker exchange.  Clock readings
(`wall_ns`, `created_at`, `timestamp`) are left out: no decision of the modelled
code depends on one.  Floating-point parameters, which the modelled code only
passes on or compares, are rationals.
-/

namespace RocketSurgeon.Protocol

/-! ## Ticks -/

inductive StepDirection
  | forward
  | backward
  deriving DecidableEq, Repr

inductive TickEvent
  | input
  | output
  deriving DecidableEq, Repr

inductive Phase
  | prefill
  | decode
  | prefillChunked (chunkSize chunkIndex totalChunks : ℕ)
  deriving DecidableEq, Repr

inductive TickGranularity
  | layer
  | component
  | head
  | routerPreTopk
  | routerPostTopk
  | expert
  | moeLayer
  deriving DecidableEq, Repr

structure TickClock where
  token : ℕ
  operator : ℕ
  deriving DecidableEq, Repr

structure TickPosition where
  tickId : ℕ
  direction : StepDirection
  rank : Option ℕ
  layer : ℕ
  component : String
  event : TickEvent
  replayOf : Option ℕ
  phase : Phase
  tokenPosition : Option ℕ
  clock : Option TickClock
  deriving DecidableEq, Repr

/-! ## Interventions -/

inductive InterventionType
  | ablate
  | scale
  | add
  | patch
  | clamp
  | routeOverride
  | attentionMask
  | embedSwap
  | embedNoise
  deriving DecidableEq, Repr

inductive AblateMode
  | zero
  | mean
  | resample
  deriving DecidableEq, Repr

inductive AddVector
  | inline (values : List ℚ)
  | tensorRef (tensorId : String)
  deriving DecidableEq, Repr

inductive InterventionParams
  | scale (factor : ℚ)
  | add (vector : AddVector)
  | patch (sourceTensorId : String)
  | clamp (min max : ℚ)
  | routeOverride (token : ℕ) (experts : List ℕ)
  | attentionMask (sourcePositions targetPositions : List ℕ) (maskValue : ℚ)
  | embedSwap (position newTokenId : ℕ)
  | embedNoise (position : ℕ) (std : ℚ) (seed : Option ℕ)
  | ablate (mode : AblateMode) (referenceRun referenceTensorId : Option String)
  deriving DecidableEq, Repr

inductive CompositionMode
  | additive
  | replace
  deriving DecidableEq, Repr

structure InterventionRecipe where
  id : Option String
  interventionType : InterventionType
  target : String
  params : InterventionParams
  condition : Option String
  priority : ℤ
  mode : CompositionMode
  deriving DecidableEq, Repr

/-! ## Probes -/

inductive ProbeAction
  | capture
  | checkpoint
  | trace
  | assert
  | aggregate
  | intervene
  deriving DecidableEq, Repr

structure ProbeDefinition where
  id : String
  point : String
  action : ProbeAction
  enabled : Bool
  priority : ℤ
  deriving DecidableEq, Repr

structure ProbeFiredEvent where
  probeId : String
  point : String
  tickId : ℕ
  action : ProbeAction
  rank : ℕ
  deriving DecidableEq, Repr

structure GranularityScope where
  matchPattern : String
  granularity : TickGranularity
  deriving DecidableEq, Repr

/-! ## Checkpoints and replay -/

inductive CheckpointTier
  | probeLog
  | activation
  | fullSnapshot
  deriving DecidableEq, Repr

structure CheckpointRef where
  checkpointId : String
  tickId : ℕ
  layerIdx : ℕ
  tier : CheckpointTier
  bookmark : Option String
  deriving DecidableEq, Repr

structure ReplayStopAt where
  layer : ℕ
  component : String
  deriving DecidableEq, Repr

structure Divergence where
  tickId : ℕ
  originalTickId : ℕ
  probePoint : String
  cosineSimilarity : ℚ
  maxRelativeError : ℚ
  deriving DecidableEq, Repr

/-! ## Messages to the worker -/

structure HostStepRequest where
  modelHandle : ℕ
  count : ℕ
  direction : StepDirection
  granularity : Option TickGranularity
  maxEvents : Option ℕ
  interventions : List InterventionRecipe
  inputIds : Option (List ℕ)
  deriving DecidableEq, Repr

structure HostStepResponse where
  position : TickPosition
  events : List ProbeFiredEvent
  forwardComplete : Bool
  eventsTruncated : Bool
  firedInterventions : List String
  deriving DecidableEq, Repr

structure HostReplayRequest where
  modelHandle : ℕ
  checkpointId : String
  stopAt : Option ReplayStopAt
  interventions : List InterventionRecipe
  verify : Bool
  deterministic : Bool
  cosineThreshold : ℚ
  mreThreshold : ℚ
  deriving DecidableEq, Repr

structure HostReplayResponse where
  ticksReplayed : ℕ
  stoppedAt : TickPosition
  divergences : List Divergence
  verified : Bool
  deriving DecidableEq, Repr

inductive CreateCheckpointTier
  | activation
  | fullSnapshot
  deriving DecidableEq, Repr

def CreateCheckpointTier.toTier : CreateCheckpointTier → CheckpointTier
  | .activation => .activation
  | .fullSnapshot => .fullSnapshot

inductive HostCheckpointRequest
  | create (modelHandle : ℕ) (checkpointId : String) (tier : CreateCheckpointTier)
      (tickId layerIdx : ℕ)
  | restore (modelHandle : ℕ) (checkpointId : String)
  deriving DecidableEq, Repr

def HostCheckpointRequest.checkpointId : HostCheckpointRequest → String
  | .create _ checkpointId _ _ _ => checkpointId
  | .restore _ checkpointId => checkpointId

structure HostCheckpointResponse where
  checkpointId : String
  tier : CheckpointTier
  restoredTo : Option TickPosition
  bytesCaptured : Option ℕ
  deriving DecidableEq, Repr

structure HostUpdateProbesRequest where
  modelHandle : ℕ
  activeProbes : List ProbeDefinition
  deriving DecidableEq, Repr

structure HostUpdateProbesResponse where
  probesActive : ℕ
  deriving DecidableEq, Repr

/-! ## Checkpoint layers -/

/-- The least `s` with `n ≤ s * s`. -/
def ceilSqrt (n : ℕ) : ℕ := if n.sqrt * n.sqrt = n then n.sqrt else n.sqrt + 1

/-- `checkpoint_layers`, in exact arithmetic: the layers at the inner boundaries of `s` equal
stretches, where `s` is the square root of the number of layers, rounded up. -/
def checkpointLayers (numLayers : ℕ) : List ℕ :=
  if numLayers ≤ 1 then []
  else
    let sqrtL := ceilSqrt numLayers
    (List.range' 1 (sqrtL - 1)).map fun i => i * numLayers / sqrtL

end RocketSurgeon.Protocol
