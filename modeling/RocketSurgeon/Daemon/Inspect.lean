import RocketSurgeon.Daemon.Main
import RocketSurgeon.Daemon.TensorStore
import RocketSurgeon.Worker.InspectCapture

/-!
# Inspect requests

The daemon has the worker capture the tensors a target names, takes their bytes out of the ring or
the reply, stores them and answers with their summaries.  The slots of the ring are given back
once all tensors are stored.

A panic of the daemon is an answer of its own kind, since it ends the daemon.
-/

namespace RocketSurgeon.Daemon

open Lib Protocol Worker Shm

variable {T : Type}

/-! ## State -/

/-- The world while one inspect request is served. -/
structure InspectEnv (T : Type) where
  bridge : InspectBridge T
  transport : Transport
  /-- The text of the decoding library about a string it rejects. -/
  decodeError : String → String

/-- What inspect requests work on: the daemon and its worker, the ring they share, the daemon's end
of it, and the tensor store. -/
structure InspectState (T : Type) where
  daemon : DaemonState T
  shared : SharedRing
  shmConsumer : Option DoomRingConsumer
  store : TensorStore

/-- How a request fails: it is answered with an error, or the daemon panics. -/
inductive InspectFailure
  | refused (error : RpcError)
  | panicked (message : String)
  deriving DecidableEq, Repr

/-- What the daemon takes from libraries: `blake3`, and the heap of the standard library. -/
structure InspectLibrary where
  hash : List UInt8 → String
  heap : BinaryHeap (TopKHeapEntry FloatValue)

/-! ## Storing one tensor -/

def parseDtype : String → Option DType
  | "float16" => some .float16
  | "bfloat16" => some .bfloat16
  | "float32" => some .float32
  | "float64" => some .float64
  | "int8" => some .int8
  | "int16" => some .int16
  | "int32" => some .int32
  | "int64" => some .int64
  | "uint8" => some .uint8
  | "bool" => some .bool
  | _ => none

def readFromShm (consumer : Option DoomRingConsumer) (region : ShmRegion)
    (shmOffset byteLength : ℕ) : Except String (List UInt8) :=
  match consumer with
  | none => .error "shm consumer not available"
  | some consumer =>
      let dataStart := shmOffset + probeFrameHeaderSize
      match consumer.readAbsolute region dataStart byteLength with
      | .ok bytes => .ok bytes
      | .error error => .error s!"shm read at offset {dataStart}: {error.display}"

variable (lib : InspectLibrary)

/-- The bytes of a captured tensor and the id they are stored under. -/
def readCaptured (decodeError : String → String) (consumer : Option DoomRingConsumer)
    (region : ShmRegion) (ct : CapturedTensor) : Except String (String × List UInt8) :=
  match ct.shmOffset, ct.byteLength with
  | some shmOffset, some byteLength =>
      match readFromShm consumer region shmOffset byteLength with
      | .ok bytes => .ok (ct.tensorId, bytes)
      | .error message => .error s!"shm read failed: {message}"
  | _, _ =>
      match ct.dataBase64 with
      | some text =>
          match Base64.decodeText text with
          | some bytes => .ok (lib.hash bytes, bytes)
          | none =>
              let message := decodeError text
              .error s!"base64 decode failed: {message}"
      | none => .error "CapturedTensor has neither shm_offset nor data_base64"

/-- A summary that has to be there. -/
def expectSummary (store : TensorStore) (tensorId expectation : String) :
    Except InspectFailure (String × TensorSummary) × TensorStore :=
  match store.summarize lib.heap tensorId with
  | .error message => (.error (.panicked message), store)
  | .ok (none, store) => (.error (.panicked expectation), store)
  | .ok (some summary, store) => (.ok (tensorId, summary), store)

/-- One turn of the loop of `ingest_and_respond`: the id of the tensor and its summary. -/
def ingestOne (env : InspectEnv T) (consumer : Option DoomRingConsumer) (region : ShmRegion)
    (store : TensorStore) (ct : CapturedTensor) :
    Except InspectFailure (String × TensorSummary) × TensorStore :=
  let internal (message : String) : InspectFailure := .refused ⟨internalError, message, none⟩
  match parseDtype ct.dtype with
  | none => (.error (internal s!"unknown dtype from worker: {ct.dtype}"), store)
  | some dtype =>
      if store.contains ct.tensorId then expectSummary lib store ct.tensorId "tensor exists"
      else
        match readCaptured lib env.decodeError consumer region ct with
        | .error message => (.error (internal message), store)
        | .ok (tensorId, bytes) =>
            let (handle, store) := store.insertWithId tensorId bytes ct.shape dtype ct.device
            expectSummary lib store handle.tensorId "just inserted"

/-- The loop.  What was stored before a failure stays. -/
def ingest (env : InspectEnv T) (consumer : Option DoomRingConsumer) (region : ShmRegion) :
    List CapturedTensor → TensorStore →
      Except InspectFailure (List (String × TensorSummary)) × TensorStore
  | [], store => (.ok [], store)
  | ct :: rest, store =>
      match ingestOne lib env consumer region store ct with
      | (.error failure, store) => (.error failure, store)
      | (.ok summary, store) =>
          match ingest env consumer region rest store with
          | (.error failure, store) => (.error failure, store)
          | (.ok summaries, store) => (.ok (summary :: summaries), store)

/-! ## The response -/

/-- The bytes of the first tensor that the request asks for. -/
def sliceData (req : InspectRequest) (firstTensorId : Option String) (store : TensorStore) :
    Except RpcError (Option String) × TensorStore :=
  match req.detail, req.slices, firstTensorId with
  | .slice, some ((offset, len) :: _), some tensorId =>
      match store.slice tensorId offset len with
      | (.ok bytes, store) => (.ok (some (Base64.encodeText bytes)), store)
      | (.error (.sliceOutOfBounds _ _ _), store) =>
          (.error (.fromErrorData (errorWithHint .sliceOutOfBounds
            "Slice indices exceed tensor data size")), store)
      | (.error (.notFound id), store) =>
          (.error ⟨internalError, s!"slice failed: tensor not found: {id}", none⟩, store)
  | _, _, _ => (.ok none, store)

/-- Give slots back.  A cursor that cannot be stored is only logged. -/
def releaseSlots (st : InspectState T) (count : ℕ) : InspectState T :=
  match st.shmConsumer with
  | none => st
  | some consumer =>
      if count = 0 then st
      else
        match consumer.advanceBy st.shared.region count with
        | (.ok region, consumer) =>
            { st with shared := { st.shared with region }, shmConsumer := some consumer }
        | (.error _, consumer) => { st with shmConsumer := some consumer }

/-- `Session::inspect`. -/
def Session.inspect (session : Session) (tensors : List TensorSummary) (sliceData : Option String) :
    Except ErrorData InspectResponse := do
  session.requireStopped "rocket/inspect"
  return ⟨tensors, sliceData⟩

def ingestAndRespond (env : InspectEnv T) (st : InspectState T) (req : InspectRequest)
    (captured : List CapturedTensor) : Except InspectFailure InspectResponse × InspectState T :=
  match ingest lib env st.shmConsumer st.shared.region captured st.store with
  | (.error failure, store) => (.error failure, { st with store })
  | (.ok ingested, store) =>
      let st := releaseSlots { st with store } (captured.countP hasShm)
      match sliceData req (ingested.head?.map Prod.fst) st.store with
      | (.error error, store) => (.error (.refused error), { st with store })
      | (.ok sliceData, store) =>
          match st.daemon.session.inspect (ingested.map Prod.snd) sliceData with
          | .error data => (.error (.refused (.fromErrorData data)), { st with store })
          | .ok response => (.ok response, { st with store })

def handleInspect (env : InspectEnv T) (st : InspectState T) (params : Params InspectRequest)
    (hostResponse : Option HostInspectResponse) :
    Except InspectFailure InspectResponse × InspectState T :=
  let refuse (data : ErrorData) : Except InspectFailure InspectResponse × InspectState T :=
    (.error (.refused (.fromErrorData data)), st)
  match params.parse (missingField "target") with
  | .error message => refuse (errorWithHint .invalidParams s!"Invalid params: {message}")
  | .ok req =>
      match st.daemon.session.requireStopped "rocket/inspect" with
      | .error data => refuse data
      | .ok () =>
          if !knownTarget req.target then refuse (invalidTargetError req.target)
          else
            match hostResponse with
            | none =>
                refuse (errorWithHint .tensorNotFound
                  "No orchestrator available to capture tensors")
            | some ⟨[]⟩ =>
                refuse (errorWithHint .tensorNotFound
                  ("Target matched components but no tensors have been captured yet " ++
                    "(step first)"))
            | some ⟨captured⟩ => ingestAndRespond lib env st req captured

/-! ## The request -/

/-- `try_orchestrator_inspect`: what the worker captured, where there is a worker to ask. -/
def tryOrchestratorInspect (env : InspectEnv T) (st : InspectState T)
    (params : Params InspectRequest) :
    Except RpcError (Option HostInspectResponse) × InspectState T :=
  match st.daemon.attached, params with
  | some (worker, handle), .valid req =>
      let hostReq : HostInspectRequest := ⟨handle, req.target, req.detail, req.slices⟩
      let answered := handleHostInspect lib.hash env.bridge worker hostReq st.shared
      let lost (message : String) : Except RpcError (Option HostInspectResponse) :=
        .error ⟨internalError, s!"orchestrator transport error: {message}", none⟩
      match env.transport with
      | .delivered => (answered.1.map some, { st with shared := answered.2 })
      | .requestLost => (lost "failed to send request", st)
      | .replyLost => (lost "failed to read response", { st with shared := answered.2 })
  | _, _ => (.ok none, st)

/-- A `rocket/inspect` request. -/
def inspectRequest (env : InspectEnv T) (st : InspectState T) (params : Params InspectRequest) :
    Except InspectFailure InspectResponse × InspectState T :=
  match tryOrchestratorInspect lib env st params with
  | (.error error, st) => (.error (.refused error), st)
  | (.ok hostResponse, st) => handleInspect lib env st params hostResponse

/-! ## The daemon is left alone -/

section Daemon

variable {env : InspectEnv T} {st : InspectState T}

lemma daemon_releaseSlots (st : InspectState T) (count : ℕ) :
    (releaseSlots st count).daemon = st.daemon := by
  unfold releaseSlots
  split
  · rfl
  · split
    · rfl
    · split
      · rfl
      · rfl

lemma daemon_ingestAndRespond (req : InspectRequest) (caps : List CapturedTensor) :
    (ingestAndRespond lib env st req caps).2.daemon = st.daemon := by
  unfold ingestAndRespond
  split
  · rfl
  next store _ =>
    have hreleased := daemon_releaseSlots { st with store } (caps.countP hasShm)
    dsimp only
    split
    · exact hreleased
    · split
      · exact hreleased
      · exact hreleased

lemma daemon_handleInspect (params : Params InspectRequest)
    (hostResponse : Option HostInspectResponse) :
    (handleInspect lib env st params hostResponse).2.daemon = st.daemon := by
  unfold handleInspect
  split
  · rfl
  · split
    · rfl
    · split
      · rfl
      · split
        · rfl
        · rfl
        · exact daemon_ingestAndRespond lib _ _

lemma daemon_inspectRequest (params : Params InspectRequest) :
    (inspectRequest lib env st params).2.daemon = st.daemon := by
  have hasked : (tryOrchestratorInspect lib env st params).2.daemon = st.daemon := by
    unfold tryOrchestratorInspect
    split
    · dsimp only
      split
      · rfl
      · rfl
      · rfl
    · rfl
  unfold inspectRequest
  revert hasked
  rcases tryOrchestratorInspect lib env st params with ⟨error | hostResponse, asked⟩
  · exact id
  · exact fun hasked => (daemon_handleInspect lib params hostResponse).trans hasked

end Daemon

end RocketSurgeon.Daemon
