import RocketSurgeon.Lib.Ieee
import RocketSurgeon.Protocol.Messages

/-!
# Messages about tensors

What is exchanged when a client inspects tensors: the request, the tensors the worker has captured
for it, and the summaries the client gets.
-/

namespace RocketSurgeon.Protocol

open Lib

inductive DType
  | float16
  | bfloat16
  | float32
  | float64
  | int8
  | int16
  | int32
  | int64
  | uint8
  | bool
  deriving DecidableEq, Repr

inductive InspectDetail
  | summary
  | slice
  | full
  deriving DecidableEq, Repr

structure InspectRequest where
  target : String
  detail : InspectDetail
  slices : Option (List (ℕ × ℕ))
  envelope : EnvelopeMode
  deriving DecidableEq, Repr

structure CapturedTensor where
  modulePath : String
  canonical : String
  layer : ℕ
  shape : List ℕ
  dtype : String
  device : String
  tensorId : String
  shmName : Option String
  shmOffset : Option ℕ
  byteLength : Option ℕ
  dataBase64 : Option String
  deriving DecidableEq, Repr

structure HostInspectRequest where
  modelHandle : ℕ
  target : String
  detail : InspectDetail
  slices : Option (List (ℕ × ℕ))
  deriving DecidableEq, Repr

structure HostInspectResponse where
  tensors : List CapturedTensor
  deriving DecidableEq, Repr

structure Histogram (F : Type) where
  bins : ℕ
  edges : List F
  counts : List ℕ
  deriving DecidableEq, Repr

/-- Statistics over numbers of the type `F`. -/
structure TensorStats (F : Type) where
  mean : F
  std : F
  min : F
  max : F
  absMax : F
  sparsity : F
  l2Norm : F
  histogram : Histogram F
  deriving DecidableEq, Repr

structure TopKEntry (F : Type) where
  index : List ℕ
  value : F
  deriving DecidableEq, Repr

structure TensorSummary where
  tensorId : String
  shape : List ℕ
  dtype : DType
  device : String
  stats : TensorStats FloatValue
  topK : List (TopKEntry FloatValue)
  deriving DecidableEq, Repr

structure TensorHandle where
  tensorId : String
  shape : List ℕ
  dtype : DType
  deriving DecidableEq, Repr

/-- The response to an inspect request, behind its envelope. -/
structure InspectResponse where
  tensors : List TensorSummary
  sliceData : Option String
  deriving DecidableEq, Repr

end RocketSurgeon.Protocol
