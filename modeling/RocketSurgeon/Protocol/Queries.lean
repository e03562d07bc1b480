import RocketSurgeon.Lib.Ieee
import RocketSurgeon.Protocol.Messages

/-!
# Messages about views, the key-value cache and exports

The requests that leave the session as it is, with what the daemon asks the worker for on their
behalf.  Free-form JSON, of which nothing is read, is kept as its text.
-/

namespace RocketSurgeon.Protocol

open Lib

/-! ## Views -/

inductive BuiltInView
  | residualStreamNorm
  | attentionPattern
  | headOutput
  | logitLens
  | routingDecision
  | routingEntropy
  | featureAttribution
  | saeActivation
  | tunedLens
  | kvCacheRibbon
  | kvCacheDetail
  | worldlineDag
  deriving DecidableEq, Repr

structure ViewRequest where
  view : BuiltInView
  params : Option String
  envelope : EnvelopeMode
  deriving DecidableEq, Repr

structure HostViewRequest where
  modelHandle : ℕ
  view : BuiltInView
  params : Option String
  deriving DecidableEq, Repr

/-- The worker's answer, which is passed on as it is. -/
structure ViewResponse where
  view : BuiltInView
  data : String
  deriving DecidableEq, Repr

/-! ## The key-value cache -/

inductive KvSlot
  | k
  | v
  | both
  deriving DecidableEq, Repr

inductive KvMetric
  | l2Norm
  | mean
  | absMax
  deriving DecidableEq, Repr

structure KvReadRequest where
  layers : Option (List ℕ)
  positions : Option (List ℕ)
  heads : Option (List ℕ)
  slot : KvSlot
  metric : KvMetric
  deriving DecidableEq, Repr

structure HostKvReadRequest extends KvReadRequest where
  modelHandle : ℕ
  deriving DecidableEq, Repr

inductive KvOverlay
  | sink
  | heavyHitter
  | evicted
  | quantized
  | pageBoundary
  | sharedPrefix
  deriving DecidableEq, Repr

structure KvCacheEntry where
  layer : ℕ
  position : ℕ
  head : ℕ
  kMetric : Option FloatValue
  vMetric : Option FloatValue
  overlay : Option KvOverlay
  deriving DecidableEq, Repr

structure KvEvictionInfo where
  position : ℕ
  evictedAtTick : ℕ
  deriving DecidableEq, Repr

structure HostKvReadResponse where
  entries : List KvCacheEntry
  evicted : List KvEvictionInfo
  deriving DecidableEq, Repr

structure KvReadResponse where
  entries : List KvCacheEntry
  deriving DecidableEq, Repr

inductive KvInterveneOp
  | zero
  | scale (factor : FloatValue)
  | evict
  | pin
  deriving DecidableEq, Repr

structure KvInterveneRequest where
  layers : List ℕ
  positions : List ℕ
  heads : Option (List ℕ)
  slot : KvSlot
  operation : KvInterveneOp
  deriving DecidableEq, Repr

structure HostKvInterveneRequest extends KvInterveneRequest where
  modelHandle : ℕ
  deriving DecidableEq, Repr

/-- The worker's answer, which is passed on as it is. -/
structure KvInterveneResponse where
  slotsModified : ℕ
  appliedOp : String
  deriving DecidableEq, Repr

/-! ## Discovery and export -/

structure DiscoverRequest where
  pattern : String
  deriving DecidableEq, Repr

structure ExportRequest where
  path : String
  includeTensors : Bool
  deriving DecidableEq, Repr

structure ExportResponse where
  path : String
  sizeBytes : ℕ
  artifactCount : ℕ
  deriving DecidableEq, Repr

structure HostExportEnvResponse where
  env : String
  modelInfo : String
  prompt : Option String
  deriving DecidableEq, Repr

end RocketSurgeon.Protocol
