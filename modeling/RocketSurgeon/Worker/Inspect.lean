import RocketSurgeon.Lib.Base64
import RocketSurgeon.Protocol.Inspect
import RocketSurgeon.Shm.Ring
import RocketSurgeon.Worker.Interventions

/-!
# Inspecting tensors

A `_host/inspect` request names a target.  The worker takes the last outputs of the components
that match it and hands their bytes over: through a slot of the ring where there is one, else in
the reply itself.

A panic of the source is a failure here, as it is for interventions; the daemon sees the reply
missing.
-/

namespace RocketSurgeon.Worker

open Lib Protocol Probes Shm

variable {T : Type}

/-- A component without an index behind it. -/
def stripBracketSuffix (component : List Char) : List Char := component.takeWhile (· ≠ '[')

/-- Whether a component is among those a target names.  A target of five fields has no call
index and stands for all of them. -/
def probeMatchesTarget (probePoint target : String) : Bool :=
  match ProbePoint.parse probePoint with
  | none => false
  | some point =>
      let parseTarget :=
        match target.toList.splitOn ':' with
        | [model, rank, layer, component, event] =>
            ":".intercalate ([model, rank, layer, stripBracketSuffix component, ['*'], event].map
              String.ofList)
        | _ => target
      match ProbePoint.parse parseTarget with
      | none => false
      | some target => point.isMatch target

/-! ## The tensors of the Python side -/

/-- What the Python side says about a tensor while one request is served.  A tensor that has
bytes has no dimension of zero. -/
structure InspectBridge (T : Type) where
  tensorShape : T → Except String (List ℕ)
  /-- The elements from one index of the last dimension to another. -/
  headSlice : T → ℕ → ℕ → Except String T
  tensorToBytes : T → Except String (List UInt8)
  tensorDtype : T → Except String String
  tensorDevice : T → Except String String
  dims_pos : ∀ tensor bytes shape, tensorToBytes tensor = .ok bytes →
    tensorShape tensor = .ok shape → bytes ≠ [] → ∀ dim ∈ shape, 0 < dim

/-- The bytes of a tensor and what is said about them. -/
structure RawTensor where
  bytes : List UInt8
  shape : List ℕ
  dtype : String
  device : String
  deriving DecidableEq, Repr

/-- The part of a tensor that is asked for: one head of the output of an attention component, else
all of it. -/
def tensorToUse (bridge : InspectBridge T) (numHeads : ℕ) (headIndex : Option ℕ)
    (comp : MappedComponent) (tensor : T) : Except String T :=
  match headIndex.filter fun _ => attentionHeadComponents.contains comp.canonical with
  | none => .ok tensor
  | some index => do
      let fullShape ← bridge.tensorShape tensor
      match fullShape.getLast? with
      | none => .error "called Option::unwrap() on a None value"
      | some hidden =>
          if numHeads = 0 then .error "attempt to divide by zero"
          else
            let headDim := hidden % 2 ^ 32 / numHeads
            let start := index * headDim % 2 ^ 32
            let stop := (start + headDim) % 2 ^ 32
            bridge.headSlice tensor start stop

def readTensor (bridge : InspectBridge T) (tensor : T) : Except String RawTensor := do
  let bytes ← bridge.tensorToBytes tensor
  let shape ← bridge.tensorShape tensor
  let dtype ← bridge.tensorDtype tensor
  let device ← bridge.tensorDevice tensor
  return ⟨bytes, shape, dtype, device⟩

/-! ## Handing a tensor over -/

/-- The worker's end of the ring. -/
structure ShmRing where
  producer : DoomRingProducer
  shmName : String
  deriving DecidableEq, Repr

/-- The region and, where it could be created, the worker's end of the ring in it. -/
structure SharedRing where
  ring : Option ShmRing
  region : ShmRegion

/-- What is said about a tensor, without its bytes. -/
def describe (comp : MappedComponent) (raw : RawTensor) (tensorId : String) : CapturedTensor where
  modulePath := comp.modulePath
  canonical := comp.canonical
  layer := comp.layerIndex.getD 0
  shape := raw.shape
  dtype := raw.dtype
  device := raw.device
  tensorId := tensorId
  shmName := none
  shmOffset := none
  byteLength := none
  dataBase64 := none

def tryShmPublish (shared : SharedRing) (comp : MappedComponent) (raw : RawTensor)
    (tensorId : String) : Option (CapturedTensor × SharedRing) :=
  match shared.ring with
  | none => none
  | some ring =>
      let slotMaketic := ring.producer.maketic
      let header :=
        tryShmPublishHeader (comp.layerIndex.getD 0) raw.shape raw.bytes slotMaketic
      match ring.producer.publish shared.region ⟨header, raw.bytes⟩ with
      | .error _ => none
      | .ok (region, producer) =>
          some ({ describe comp raw tensorId with
              shmName := some ring.shmName
              shmOffset := some (producer.config.slotOffset slotMaketic)
              byteLength := some raw.bytes.length },
            ⟨some { ring with producer }, region⟩)

variable (hash : List UInt8 → String)

/-- One tensor, named by the hash of its bytes. -/
def captureTensor (comp : MappedComponent) (raw : RawTensor) (shared : SharedRing) :
    CapturedTensor × SharedRing :=
  let tensorId := hash raw.bytes
  match tryShmPublish shared comp raw tensorId with
  | some published => published
  | none =>
      ({ describe comp raw tensorId with dataBase64 := some (Base64.encodeText raw.bytes) }, shared)

/-! ## The request -/

/-- The loop of `collect_tensors`.  A component without an output is skipped; the first failure
ends the loop, and what was handed over by then stays in the ring. -/
def collectTensorsFrom (bridge : InspectBridge T) (numHeads : ℕ) (headIndex : Option ℕ)
    (outputs : List ((String × ℕ) × T)) :
    List MappedComponent → SharedRing → Except String (List CapturedTensor) × SharedRing
  | [], shared => (.ok [], shared)
  | comp :: rest, shared =>
      match FMap.get outputs (comp.modulePath, comp.callIndex) with
      | none => collectTensorsFrom bridge numHeads headIndex outputs rest shared
      | some tensor =>
          match tensorToUse bridge numHeads headIndex comp tensor >>= readTensor bridge with
          | .error message => (.error message, shared)
          | .ok raw =>
              let (captured, shared) := captureTensor hash comp raw shared
              let (result, shared) := collectTensorsFrom bridge numHeads headIndex outputs rest shared
              (result.map (captured :: ·), shared)

def collectTensors (bridge : InspectBridge T) (st : WorkerState T)
    (matchedComponents : List MappedComponent) (headIndex : Option ℕ) (shared : SharedRing) :
    Except String (List CapturedTensor) × SharedRing :=
  match st.lastOutputs with
  | none => (.ok [], shared)
  | some outputs =>
      collectTensorsFrom hash bridge st.numHeads headIndex outputs matchedComponents shared

def matchedComponents (map : ComponentMap) (target : String) : List MappedComponent :=
  map.components.filter fun comp => probeMatchesTarget comp.probePoint target

def handleHostInspect (bridge : InspectBridge T) (st : WorkerState T) (req : HostInspectRequest)
    (shared : SharedRing) : Except RpcError HostInspectResponse × SharedRing :=
  let internal (message : String) : Except RpcError HostInspectResponse :=
    .error ⟨internalError, message, none⟩
  match st.modelHandle with
  | none => (internal "No model loaded", shared)
  | some handle =>
      if req.modelHandle ≠ handle then
        (internal s!"model handle mismatch: expected {handle}, got {req.modelHandle}", shared)
      else
        match st.componentMap with
        | none => (internal "No component map available", shared)
        | some map =>
            if matchedComponents map req.target = [] then
              (.error (.fromErrorData (errorWithHint .invalidTarget
                s!"No components match target '{req.target}'")), shared)
            else
              match extractHeadIndex req.target with
              | .error message => (internal message, shared)
              | .ok found =>
                  match collectTensors hash bridge st (matchedComponents map req.target)
                      (found.map Prod.snd) shared with
                  | (.error message, shared) => (internal s!"inspect failed: {message}", shared)
                  | (.ok tensors, shared) => (.ok ⟨tensors⟩, shared)

end RocketSurgeon.Worker
