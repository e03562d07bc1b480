import RocketSurgeon.Daemon.Discover
import RocketSurgeon.Daemon.Inspect
import RocketSurgeon.Protocol.Queries

/-!
# Requests that leave the session alone

Views, the key-value cache, discovery and the export of a session.  Most of these are forwarded to
the worker, whose answer the daemon wraps; an error of the worker is passed on as it is.

The worker's part, the file system and the texts of JSON documents belong to the environment.
-/

namespace RocketSurgeon.Daemon

open Lib Protocol Worker

variable {T : Type}

/-! ## Replies -/

inductive LoopData
  | plain (data : ResponseData)
  | inspect (response : InspectResponse)
  | view (response : ViewResponse)
  | kvRead (response : KvReadResponse)
  | kvIntervene (response : KvInterveneResponse)
  | discover (response : DiscoverResponse)
  | exported (response : ExportResponse)
  deriving DecidableEq, Repr

/-- The body of a successful reply to any request. -/
structure LoopBody where
  envelope : Envelope
  data : LoopData
  deriving DecidableEq, Repr

abbrev LoopResponse := Except RpcError LoopBody

/-- What `envelope_with_mode` puts around any data. -/
def Session.envelopeOf (session : Session) : EnvelopeMode → Envelope
  | .full => .full session.state
  | .position => .position session.state.status session.state.position
  | .none => .none

lemma Session.envelopeWithMode_eq (sess : Session) (mode : EnvelopeMode)
    (data : ResponseData) :
    sess.envelopeWithMode mode data = ⟨sess.envelopeOf mode, data⟩ := by
  cases mode <;> rfl

def refuseQuery (data : ErrorData) : LoopResponse := .error (.fromErrorData data)

def internalFailure (message : String) : RpcError := ⟨internalError, message, none⟩

/-- Read the parameters and check the session, then go on. -/
def withSession {α : Type} (session : Session) (method : String) (empty : Except String α)
    (params : Params α) (handle : α → LoopResponse) : LoopResponse :=
  match params.parse empty with
  | .error message => refuseQuery (errorWithHint .invalidParams s!"Invalid params: {message}")
  | .ok req =>
      match session.requireStopped method with
      | .error data => refuseQuery data
      | .ok () => handle req

/-! ## Asking the worker -/

/-- What a raw call of the worker comes to. -/
inductive RawReply (α : Type)
  | lost (message : String)
  | failed (error : RpcError)
  | unparsable (message : String)
  | empty
  | result (value : α)

/-- Only a result, or that there is none, gets past the forwarding. -/
def RawReply.forward {α : Type} : RawReply α → Except RpcError (Option α)
  | .lost message => .error (internalFailure s!"orchestrator transport error: {message}")
  | .failed error => .error error
  | .unparsable message =>
      .error (internalFailure s!"failed to parse orchestrator response: {message}")
  | .empty => .ok none
  | .result value => .ok (some value)

/-- The world while one of these requests is served. -/
structure QueryEnv where
  view : HostViewRequest → RawReply ViewResponse
  kvRead : HostKvReadRequest → RawReply HostKvReadResponse
  kvIntervene : HostKvInterveneRequest → RawReply KvInterveneResponse

/-- Forward a request that can be read, if there is a worker, and handle what comes back. -/
def forwardQuery {α R : Type} (d : DaemonState T) (params : Params α) (call : ℕ → α → RawReply R)
    (handle : Option R → LoopResponse) : LoopResponse :=
  match d.attached, params with
  | some (_, handle'), .valid req =>
      match (call handle' req).forward with
      | .error error => .error error
      | .ok hostResponse => handle hostResponse
  | _, _ => handle none

/-! ## Views -/

def handleView (session : Session) (params : Params ViewRequest)
    (hostResponse : Option ViewResponse) : LoopResponse :=
  withSession session "rocket/view" (missingField "view") params fun req =>
    match hostResponse with
    | none =>
        refuseQuery (errorWithHint .viewDataUnavailable "No orchestrator available to compute view")
    | some response => .ok ⟨session.envelopeOf req.envelope, .view response⟩

def viewRequest (env : QueryEnv) (d : DaemonState T) (params : Params ViewRequest) : LoopResponse :=
  forwardQuery d params (fun handle req => env.view ⟨handle, req.view, req.params⟩)
    (handleView d.session params)

/-! ## The key-value cache -/

def defaultKvRead : KvReadRequest := ⟨none, none, none, .both, .l2Norm⟩

/-- `kv_evicted_error`. -/
def kvEvictedError (eviction : KvEvictionInfo) : ErrorData :=
  errorWithHint .kvEvicted
    s!"KV-cache position {eviction.position} was evicted at tick {eviction.evictedAtTick}"

def handleKvRead (session : Session) (params : Params KvReadRequest)
    (hostResponse : Option HostKvReadResponse) : LoopResponse :=
  withSession session "rocket/kv.read" (.ok defaultKvRead) params fun _ =>
    match hostResponse with
    | none =>
        refuseQuery (errorWithHint .hostError "No orchestrator available to read the KV cache")
    | some host =>
        match host.evicted with
        | eviction :: _ => refuseQuery (kvEvictedError eviction)
        | [] => .ok ⟨session.envelopeOf .full, .kvRead ⟨host.entries⟩⟩

def kvReadRequest (env : QueryEnv) (d : DaemonState T) (params : Params KvReadRequest) :
    LoopResponse :=
  forwardQuery d params (fun handle req => env.kvRead ⟨req, handle⟩) (handleKvRead d.session params)

def handleKvIntervene (session : Session) (params : Params KvInterveneRequest)
    (hostResponse : Option KvInterveneResponse) : LoopResponse :=
  withSession session "rocket/kv.intervene" (missingField "layers") params fun req =>
    if req.layers.isEmpty || req.positions.isEmpty then
      refuseQuery (errorWithHint .invalidParams
        "kv.intervene requires non-empty `layers` and `positions`")
    else
      match hostResponse with
      | none =>
          refuseQuery (errorWithHint .hostError
            "No orchestrator available to apply the KV-cache intervention")
      | some response => .ok ⟨session.envelopeOf .full, .kvIntervene response⟩

def kvInterveneRequest (env : QueryEnv) (d : DaemonState T) (params : Params KvInterveneRequest) :
    LoopResponse :=
  forwardQuery d params (fun handle req => env.kvIntervene ⟨req, handle⟩)
    (handleKvIntervene d.session params)

/-! ## Discovery -/

def handleDiscover (session : Session) (params : Params DiscoverRequest) : LoopResponse :=
  match params.parse (missingField "pattern") with
  | .error message => refuseQuery (errorWithHint .invalidParams s!"Invalid params: {message}")
  | .ok req =>
      match session.discover req.pattern with
      | .error data => refuseQuery data
      | .ok response => .ok ⟨session.envelopeOf .full, .discover response⟩

/-! ## Export -/

/-- What an artifact is made from. -/
inductive ArtifactData
  | manifest (sessionId : String)
  | interventions (recipes : List InterventionRecipe)
  | text (text : String)
  | bytes (bytes : List UInt8)
  | bookmarks (refs : List CheckpointRef)
  | worldlines (worldline : WorldlineState)
  | checkpoint (ref : CheckpointRef)
  deriving DecidableEq, Repr

structure BundleArtifact where
  name : String
  data : ArtifactData
  deriving DecidableEq, Repr

/-- The world while a session is exported. -/
structure ExportEnv where
  exportEnv : ℕ → Except String HostExportEnvResponse
  traceJsonl : String
  /-- The order in which the ids of the tensor store are iterated. -/
  idOrder : List String → List String
  /-- What reading the trace file yields. -/
  perfettoFile : Option (List UInt8)
  assembleBundle : String → List BundleArtifact → Except String ℕ

/-- The bytes of the tensors with the given ids, each of which is accessed. -/
def tensorArtifacts : List String → TensorStore → List BundleArtifact × TensorStore
  | [], store => ([], store)
  | id :: ids, store =>
      let read := store.rawData id
      let rest := tensorArtifacts ids read.2
      match read.1 with
      | some data => (⟨s!"tensors/{id}.bin", .bytes data⟩ :: rest.1, rest.2)
      | none => rest

/-- `collect_env_artifacts`. -/
def collectEnvArtifacts (env : ExportEnv) (modelHandle : ℕ) :
    Except RpcError (List BundleArtifact) :=
  match env.exportEnv modelHandle with
  | .error message => .error (internalFailure s!"export_env call failed: {message}")
  | .ok response => .ok [⟨"env.json", .text response.env⟩,
      ⟨"model-info.json", .text response.modelInfo⟩,
      ⟨"prompt.json", .text (response.prompt.getD "null")⟩]

/-- The artifacts in front of the tensors. -/
def leadingArtifacts (env : ExportEnv) (session : Session) : List BundleArtifact :=
  [⟨"manifest.json", .manifest session.state.sessionId⟩,
    ⟨"interventions.json", .interventions session.interventions⟩] ++
  if env.traceJsonl.isEmpty then [] else [⟨"protocol-trace.jsonl", .text env.traceJsonl⟩]

/-- The artifacts behind those of the worker. -/
def trailingArtifacts (env : ExportEnv) (session : Session) (traced : Bool) :
    List BundleArtifact :=
  let trace :=
    match env.perfettoFile with
    | some bytes => if traced then [⟨"trace.perfetto-trace", .bytes bytes⟩] else []
    | none => []
  let checkpoints := session.state.checkpoints
  let kept := checkpoints.filter fun ref =>
    !("auto-".isPrefixOf ref.checkpointId || "sub-".isPrefixOf ref.checkpointId)
  trace ++
  [⟨"bookmarks.json", .bookmarks (checkpoints.filter fun ref => ref.bookmark.isSome)⟩,
    ⟨"worldlines.json", .worldlines session.state.worldline⟩] ++
  kept.map fun ref => ⟨s!"checkpoints/{ref.checkpointId}/meta.json", .checkpoint ref⟩

/-- `handle_export` behind its checks. -/
def exportSession (env : ExportEnv) (session : Session) (req : ExportRequest) (store : TensorStore)
    (modelHandle : ℕ) (traced : Bool) : LoopResponse × TensorStore :=
  let tensors :=
    if req.includeTensors then
      tensorArtifacts (env.idOrder (store.entries.map Prod.fst)) store
    else ([], store)
  let response :=
    match collectEnvArtifacts env modelHandle with
    | .error error => .error error
    | .ok envArtifacts =>
        let artifacts := leadingArtifacts env session ++ tensors.1 ++ envArtifacts ++
          trailingArtifacts env session traced
        match env.assembleBundle req.path artifacts with
        | .error message => .error (internalFailure s!"bundle assembly failed: {message}")
        -- The number of artifacts is cast to 32 bits.
        | .ok sizeBytes => .ok ⟨session.envelopeOf .full,
            .exported ⟨req.path, sizeBytes, artifacts.length % 2 ^ 32⟩⟩
  (response, tensors.2)

def handleExport (env : ExportEnv) (session : Session) (params : Params ExportRequest)
    (store : TensorStore) (modelHandle : ℕ) (traced : Bool) : LoopResponse × TensorStore :=
  match params.parse (missingField "path") with
  | .error message =>
      (refuseQuery (errorWithHint .invalidParams s!"Invalid params: {message}"), store)
  | .ok req =>
      match session.requireStopped "rocket/session.export" with
      | .error data => (refuseQuery data, store)
      | .ok () => exportSession env session req store modelHandle traced

end RocketSurgeon.Daemon
