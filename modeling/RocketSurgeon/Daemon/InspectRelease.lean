import RocketSurgeon.Daemon.InspectSummaries

/-!
# Slots that are given back

The worker fills slots before the daemon has looked at the request, and the daemon gives slots
back only after it has stored every tensor.  A request that fails in between, on either side,
leaves its slots filled for good.

`Released` is what keeps that from happening.  The runs below are those of a daemon from its start:
the ring comes and goes with the attached model, and between two inspect requests other requests may
have been served, which use neither the ring nor the store.
-/

namespace RocketSurgeon.Daemon

open Lib Protocol Worker Shm TensorStore

variable {T : Type} {lib : InspectLibrary}

/-! ## Runs -/

/-- Create a ring and open it. -/
def openShm (shmName : String) (backuptics : UInt32) (slotSize : UInt64) :
    Except ShmError (ShmRing × ShmRegion × DoomRingConsumer) := do
  let config ← RingConfig.new backuptics slotSize
  let (region, producer) ← DoomRingProducer.create config
  let consumer ← DoomRingConsumer.openRing region
  return (⟨producer, shmName⟩, region, consumer)

inductive InspectAction (T : Type)
  /-- A model is attached, with a ring of that name and geometry; or there is no ring now. -/
  | connect (shm : Option (String × UInt32 × UInt64))
  /-- An inspect request, when other requests have brought the daemon to `daemon`. -/
  | inspect (env : InspectEnv T) (daemon : DaemonState T) (params : Params InspectRequest)

namespace InspectState

/-- A daemon that has just been started. -/
def start (daemon : DaemonState T) : InspectState T where
  daemon := daemon
  shared := ⟨none, ⟨fun _ => 0, 0⟩⟩
  shmConsumer := none
  store := .new

def disconnect (st : InspectState T) : InspectState T :=
  { st with shared := { st.shared with ring := none }, shmConsumer := none }

def connect (st : InspectState T) : Option (String × UInt32 × UInt64) → InspectState T
  | none => st.disconnect
  | some (shmName, backuptics, slotSize) =>
      match openShm shmName backuptics slotSize with
      | .ok (ring, region, consumer) =>
          { st with shared := ⟨some ring, region⟩, shmConsumer := some consumer }
      | .error _ => st.disconnect

/-- The state after an action. -/
def act (lib : InspectLibrary) (st : InspectState T) : InspectAction T → InspectState T
  | .connect shm => st.connect shm
  | .inspect env daemon params => (inspectRequest lib env { st with daemon } params).2

/-- The cursors of the ring, where there is one, are equal: all its slots are free. -/
def CursorsMeet (st : InspectState T) : Prop :=
  st.shared.ring.isSome → loadLE st.shared.region.bytes netticsOffset 8 =
    loadLE st.shared.region.bytes maketicOffset 8

/-- Where the slots a request fills are given back: none is filled, or the reply arrives and
nothing is left to fail. -/
def Released (st : InspectState T) : InspectAction T → Prop
  | .connect _ => True
  | .inspect env daemon params =>
      ∀ ring worker handle req, st.shared.ring = some ring →
        daemon.attached = some (worker, handle) → params = .valid req →
        let captures :=
          inspectCaptures env.bridge worker ⟨handle, req.target, req.detail, req.slices⟩
        env.transport = .requestLost ∨
          (∀ capture ∈ captures.1,
            ring.producer.config.slotDataCapacity < capture.2.bytes.length) ∨
          env.transport = .delivered ∧ captures.2 = true ∧
            daemon.session.state.status = .stopped ∧ knownTarget req.target = true ∧
            ∀ capture ∈ captures.1, (parseDtype capture.2.dtype).isSome

end InspectState

/-! ## Storing what the worker handed over -/

/-- An entry whose summary can be computed. -/
def Summarizable (lib : InspectLibrary) (_id : String) (entry : StoredTensor) : Prop :=
  (computeSummary lib.heap entry.data entry.dtype entry.shape).isSome

lemma Summarizable.refreshed (id : String) (old entry : StoredTensor)
    (hold : Summarizable lib id old) (hsame : Refreshed lib.heap old entry) :
    Summarizable lib id entry := by
  rw [Summarizable, hsame.data, hsame.dtype, hsame.shape]
  exact hold

section Storing

variable {env : InspectEnv T} {consumer : Option DoomRingConsumer} {region : ShmRegion}
  {store : TensorStore} {capture : MappedComponent × RawTensor} {ct : CapturedTensor} {id : String}
  {bytes : List UInt8} {caps : List CapturedTensor}

lemma readCaptured_of_carries (hcarried : Carries lib.hash region capture ct)
    (hread : readCaptured lib env.decodeError consumer region ct = .ok (id, bytes)) :
    bytes = capture.2.bytes := by
  rcases hcarried.data with ⟨off, hoffset, hlen, hdata⟩ | ⟨hoffset, hlen, htext⟩
  · cases consumer with
    | none =>
      rw [readCaptured, hoffset, hlen] at hread
      cases hread
    | some consumer =>
      simp only [readCaptured, hoffset, hlen, readFromShm, DoomRingConsumer.readAbsolute,
        hdata] at hread
      cases hread
      rfl
  · simp only [readCaptured, hoffset, htext, Base64.decodeText_encodeText] at hread
    cases hread
    rfl

lemma exists_readCaptured (decodeError : String → String)
    (hcarried : Carries lib.hash region capture ct) (hopen : hasShm ct = true → consumer.isSome) :
    ∃ id, readCaptured lib decodeError consumer region ct = .ok (id, capture.2.bytes) := by
  rcases hcarried.data with ⟨off, hoffset, hlen, hdata⟩ | ⟨hoffset, hlen, htext⟩
  · have hshm : hasShm ct = true := by simp [hasShm, hoffset, hlen]
    obtain ⟨consumer, rfl⟩ := Option.isSome_iff_exists.mp (hopen hshm)
    refine ⟨ct.tensorId, ?_⟩
    simp only [readCaptured, hoffset, hlen, readFromShm, DoomRingConsumer.readAbsolute, hdata]
  · refine ⟨lib.hash capture.2.bytes, ?_⟩
    simp only [readCaptured, hoffset, htext, Base64.decodeText_encodeText]

/-- What is read for a captured tensor can be a tensor of its shape. -/
def Shaped (lib : InspectLibrary) (env : InspectEnv T) (consumer : Option DoomRingConsumer)
    (region : ShmRegion) (ct : CapturedTensor) : Prop :=
  ∀ id bytes, readCaptured lib env.decodeError consumer region ct = .ok (id, bytes) →
    bytes ≠ [] → ∀ dim ∈ ct.shape, 0 < dim

lemma shaped_of_carries {captures : List (MappedComponent × RawTensor)}
    (hcarried : List.Forall₂ (Carries lib.hash region) captures caps)
    (hsized : ∀ capture ∈ captures, capture.2.Sized) :
    ∀ ct ∈ caps, Shaped lib env consumer region ct := by
  intro ct hct id bytes hread
  obtain ⟨capture, hcapture, hfirst⟩ := exists_capture lib.hash hcarried hct
  obtain rfl := readCaptured_of_carries hfirst hread
  rw [hfirst.shape]
  exact hsized capture hcapture

lemma Shaped.summarizable (hshaped : Shaped lib env consumer region ct)
    (hread : readCaptured lib env.decodeError consumer region ct = .ok (id, bytes)) (dtype : DType)
    (gen : ℕ) : Summarizable lib id ⟨id, ct.shape, dtype, ct.device, bytes, none, gen⟩ :=
  isSome_computeSummary _ _ (hshaped id bytes hread)

lemma isOk_expectSummary (hstore : store.All (Summarizable lib))
    (hentry : FMap.get store.entries tid = some entry) (expectation : String) :
    (expectSummary lib store tid expectation).1.isOk = true := by
  obtain ⟨summary, hsummary⟩ := Option.isSome_iff_exists.mp (hstore tid entry hentry)
  have hcomputed : (entry.summary.or
      (computeSummary lib.heap entry.data entry.dtype entry.shape)).isSome := by
    rw [hsummary]
    simp
  obtain ⟨found, hfound⟩ := Option.isSome_iff_exists.mp hcomputed
  simp only [expectSummary, summarize, touch, hentry, Option.map_some, hfound]
  rfl

lemma isOk_expectSummary_inserted (hstore : store.All (Summarizable lib))
    (hshaped : Shaped lib env consumer region ct)
    (hread : readCaptured lib env.decodeError consumer region ct = .ok (id, bytes)) (dtype : DType)
    (expectation : String) :
    let inserted := store.insertWithId id bytes ct.shape dtype ct.device
    (expectSummary lib inserted.2 inserted.1.tensorId expectation).1.isOk = true := by
  dsimp only
  rw [insertWithId_handle]
  have hinserted := hstore.insertWithId Summarizable.refreshed fun _ gen =>
    hshaped.summarizable hread dtype gen
  obtain ⟨-, ⟨-, entry, -, hentry, -⟩ | ⟨-, gen, hentry⟩⟩ :=
    @insertWithId_cases lib.heap store _ id bytes ct.shape dtype ct.device rfl
  · exact isOk_expectSummary hinserted hentry _
  · exact isOk_expectSummary hinserted hentry _

lemma isOk_ingestOne_iff (hstore : store.All (Summarizable lib))
    (hshaped : Shaped lib env consumer region ct)
    (hread : ∃ id bytes, readCaptured lib env.decodeError consumer region ct = .ok (id, bytes)) :
    (ingestOne lib env consumer region store ct).1.isOk = true ↔ (parseDtype ct.dtype).isSome := by
  unfold ingestOne
  cases hdtype : parseDtype ct.dtype with
  | none => exact iff_of_false (by simp [Except.isOk, Except.toBool]) (by simp)
  | some dtype =>
    refine iff_of_true ?_ rfl
    split_ifs with hcontains
    · obtain ⟨entry, hentry⟩ := Option.isSome_iff_exists.mp hcontains
      exact isOk_expectSummary hstore hentry _
    · obtain ⟨id, bytes, hread⟩ := hread
      simp only [hread]
      exact isOk_expectSummary_inserted hstore hshaped hread dtype _

lemma isOk_ingest_iff (hshaped : ∀ ct ∈ caps, Shaped lib env consumer region ct)
    (hread : ∀ ct ∈ caps,
      ∃ id bytes, readCaptured lib env.decodeError consumer region ct = .ok (id, bytes))
    (hstore : store.All (Summarizable lib)) :
    (ingest lib env consumer region caps store).1.isOk = true ↔
      ∀ ct ∈ caps, (parseDtype ct.dtype).isSome := by
  induction caps generalizing store with
  | nil => exact iff_of_true rfl (List.forall_mem_nil _)
  | cons ct caps ih =>
    obtain ⟨hshaped, hothers⟩ := List.forall_mem_cons.mp hshaped
    obtain ⟨hread, hreadOthers⟩ := List.forall_mem_cons.mp hread
    have hturn := isOk_ingestOne_iff hstore hshaped hread
    have hstore' := all_ingestOne Summarizable.refreshed hstore
      fun dtype id bytes gen _ hread => hshaped.summarizable hread dtype gen
    have hrest := ih hothers hreadOthers hstore'
    rw [List.forall_mem_cons, ← hturn, ← hrest, ingest]
    cases hanswer : ingestOne lib env consumer region store ct with
    | mk answer next =>
      cases answer with
      | error failure => simp [Except.isOk, Except.toBool]
      | ok summary =>
        dsimp only
        cases hlater : ingest lib env consumer region caps next with
        | mk later final =>
          cases later with
          | error failure | ok summaries => simp [Except.isOk, Except.toBool]

lemma isOk_ingest_of_carries {captures : List (MappedComponent × RawTensor)}
    (hcarried : List.Forall₂ (Carries lib.hash region) captures caps)
    (hsized : ∀ capture ∈ captures, capture.2.Sized) (hstore : store.All (Summarizable lib))
    (hopen : ∀ ct ∈ caps, hasShm ct = true → consumer.isSome) :
    (ingest lib env consumer region caps store).1.isOk = true ↔
      ∀ capture ∈ captures, (parseDtype capture.2.dtype).isSome := by
  rw [isOk_ingest_iff (shaped_of_carries hcarried hsized) (fun ct hct => ?_) hstore]
  · clear hsized hopen hstore
    induction hcarried with
    | nil => simp
    | cons hfirst _ ih => rw [List.forall_mem_cons, List.forall_mem_cons, ih, hfirst.dtype]
  · obtain ⟨capture, -, hfirst⟩ := exists_capture lib.hash hcarried hct
    obtain ⟨id, hread⟩ := exists_readCaptured env.decodeError hfirst (hopen ct hct)
    exact ⟨id, _, hread⟩

end Storing

/-! ## What a request does to the ring -/

section Ring

variable {env : InspectEnv T} {st : InspectState T} {req : InspectRequest}
  {caps : List CapturedTensor}

lemma releaseSlots_zero (st : InspectState T) : releaseSlots st 0 = st := by
  unfold releaseSlots
  split
  · rfl
  · rfl

lemma releaseSlots_withStore (st : InspectState T) (store : TensorStore) (count : ℕ) :
    releaseSlots { st with store } count = { releaseSlots st count with store } := by
  obtain ⟨daemon, shared, shmConsumer, old⟩ := st
  unfold releaseSlots
  cases shmConsumer with
  | none => rfl
  | some consumer =>
    dsimp only
    split_ifs
    · rfl
    · cases consumer.advanceBy shared.region count with
      | mk stored moved =>
        cases stored with
        | error error | ok region => rfl

lemma all_sliceData {store : TensorStore} (hstore : store.All (Summarizable lib))
    (firstTensorId : Option String) :
    (sliceData req firstTensorId store).2.All (Summarizable lib) := by
  unfold sliceData
  split
  next off len _ tid _ _ =>
    have hsliced := @All.slice lib.heap store tid _ Summarizable.refreshed hstore off len
    split
    next heq => exact (congrArg Prod.snd heq) ▸ hsliced
    next heq => exact (congrArg Prod.snd heq) ▸ hsliced
    next heq => exact (congrArg Prod.snd heq) ▸ hsliced
  · exact hstore

/-- The state the loop leaves, up to the store: slots are given back if it succeeds. -/
lemma ingestAndRespond_snd
    (hkept : (ingest lib env st.shmConsumer st.shared.region caps st.store).2.All
      (Summarizable lib)) :
    ∃ store, store.All (Summarizable lib) ∧ (ingestAndRespond lib env st req caps).2 =
      if (ingest lib env st.shmConsumer st.shared.region caps st.store).1.isOk then
        { releaseSlots st (caps.countP hasShm) with store }
      else { st with store } := by
  unfold ingestAndRespond
  revert hkept
  cases ingest lib env st.shmConsumer st.shared.region caps st.store with
  | mk answer store =>
    intro hkept
    cases answer with
    | error failure => exact ⟨store, hkept, rfl⟩
    | ok summaries =>
      have hsliced := @all_sliceData lib req store hkept (summaries.head?.map Prod.fst)
      dsimp only
      rw [releaseSlots_withStore]
      revert hsliced
      cases sliceData req (summaries.head?.map Prod.fst) store with
      | mk sliced store' =>
        intro hsliced
        refine ⟨store', hsliced, ?_⟩
        cases sliced with
        | error error => rfl
        | ok data =>
          dsimp only
          cases (releaseSlots st (caps.countP hasShm)).daemon.session.inspect
            (summaries.map Prod.snd) data with
          | error data => rfl
          | ok resp => rfl

lemma handleInspect_snd (hstore : st.store.All (Summarizable lib))
    (hkept : (ingest lib env st.shmConsumer st.shared.region caps st.store).2.All
      (Summarizable lib)) :
    ∃ store, store.All (Summarizable lib) ∧
      (handleInspect lib env st (.valid req) (some ⟨caps⟩)).2 =
        if st.daemon.session.state.status = .stopped ∧ knownTarget req.target = true ∧
            (ingest lib env st.shmConsumer st.shared.region caps st.store).1.isOk = true then
          { releaseSlots st (caps.countP hasShm) with store }
        else { st with store } := by
  unfold handleInspect
  simp only [Params.parse]
  by_cases hstop : st.daemon.session.state.status = .stopped
  · simp only [Session.requireStopped_of_stopped hstop, hstop, true_and]
    by_cases hknown : knownTarget req.target = true
    · simp only [hknown, Bool.not_true, Bool.false_eq_true, if_false, true_and]
      cases caps with
      | nil =>
        refine ⟨st.store, hstore, ?_⟩
        rw [List.countP_nil, releaseSlots_zero, ite_self]
      | cons ct rest => exact ingestAndRespond_snd hkept
    · simp only [hknown]
      exact ⟨st.store, hstore, rfl⟩
  · obtain ⟨data, hdata⟩ := Session.requireStopped_of_ne hstop "rocket/inspect"
    simp only [hdata, hstop, false_and, if_false]
    exact ⟨st.store, hstore, rfl⟩

lemma handleInspect_none (params : Params InspectRequest) :
    (handleInspect lib env st params none).2 = st := by
  unfold handleInspect
  split
  · rfl
  · split
    · rfl
    · split_ifs
      · rfl
      · rfl

lemma inspectRequest_of_unasked
    (hunasked : ¬ ∃ worker handle req, st.daemon.attached = some (worker, handle) ∧
      params = .valid req) : (inspectRequest lib env st params).2 = st := by
  have hnone : tryOrchestratorInspect lib env st params = (.ok none, st) := by
    unfold tryOrchestratorInspect
    split
    next worker handle req hattached =>
      exact absurd ⟨worker, handle, req, hattached, rfl⟩ hunasked
    · rfl
  rw [inspectRequest, hnone]
  exact handleInspect_none params

variable {worker : WorkerState T} {handle : ℕ}

/-- What a request that reaches the worker leaves, up to the store. -/
lemma inspectRequest_snd (hattached : st.daemon.attached = some (worker, handle))
    (hreach : env.transport ≠ .requestLost) (hstore : st.store.All (Summarizable lib))
    {hostReq : HostInspectRequest} (hhost : hostReq = ⟨handle, req.target, req.detail, req.slices⟩)
    {shared : SharedRing}
    (hcap : (captureAll lib.hash (inspectCaptures env.bridge worker hostReq).1 st.shared).1 =
      caps)
    (hshared : (captureAll lib.hash (inspectCaptures env.bridge worker hostReq).1 st.shared).2 =
      shared)
    (hkept : (ingest lib env st.shmConsumer shared.region caps st.store).2.All
      (Summarizable lib)) :
    ∃ store, store.All (Summarizable lib) ∧
      (inspectRequest lib env st (.valid req)).2 =
        if env.transport = .delivered ∧ (inspectCaptures env.bridge worker hostReq).2 = true ∧
            st.daemon.session.state.status = .stopped ∧ knownTarget req.target = true ∧
            (ingest lib env st.shmConsumer shared.region caps st.store).1.isOk = true then
          { releaseSlots { st with shared } (caps.countP hasShm) with store }
        else { st with shared, store } := by
  subst hhost
  obtain ⟨hafter, hanswer⟩ := handleHostInspect_cases lib.hash env.bridge worker
    ⟨handle, req.target, req.detail, req.slices⟩ st.shared
  rw [hcap] at hanswer
  rw [hshared] at hafter
  unfold inspectRequest tryOrchestratorInspect
  rw [hattached]
  dsimp only
  rw [hafter]
  cases htrans : env.transport with
  | requestLost => exact absurd htrans hreach
  | replyLost =>
    refine ⟨st.store, hstore, ?_⟩
    rw [if_neg (by simp)]
  | delivered =>
    obtain ⟨hcomplete, hok⟩ | ⟨hincomplete, error, herror⟩ := hanswer
    · simp only [hok, hcomplete, true_and, Except.map]
      exact @handleInspect_snd T lib env { st with shared } req caps hstore hkept
    · simp only [herror, hincomplete, Bool.false_eq_true, false_and, and_false, if_false,
        Except.map]
      exact ⟨st.store, hstore, rfl⟩

end Ring

/-! ## Every run -/

/-- The two ends of the ring are coupled, or there is no ring; and every stored tensor can be
summarised. -/
structure RingCoupled (lib : InspectLibrary) (st : InspectState T) : Prop where
  ring : st.shared.ring = none ∧ st.shmConsumer = none ∨
    ∃ config ring consumer count, RingConfig.WellFormed config ∧ st.shared.ring = some ring ∧
      st.shmConsumer = some consumer ∧ consumer.config = config ∧
      Filling config st.shared.region ring.producer consumer.nettics count
  store : st.store.All (Summarizable lib)

section Step

variable {st : InspectState T} {env : InspectEnv T} {worker : WorkerState T} {handle : ℕ}
  {req : InspectRequest} {hostReq : HostInspectRequest} {config : RingConfig} {ring : ShmRing}
  {consumer : DoomRingConsumer} {region : ShmRegion} {count : ℕ}

lemma ringCoupled_start (daemon : DaemonState T) : RingCoupled lib (.start daemon) :=
  ⟨.inl ⟨rfl, rfl⟩, all_withLimits _ _⟩

lemma ringCoupled_connect (hstore : st.store.All (Summarizable lib))
    (shm : Option (String × UInt32 × UInt64)) :
    RingCoupled lib (st.connect shm) ∧ (st.connect shm).CursorsMeet := by
  have hdisconnected : RingCoupled lib st.disconnect ∧ st.disconnect.CursorsMeet :=
    ⟨⟨.inl ⟨rfl, rfl⟩, hstore⟩, nofun⟩
  unfold InspectState.connect
  split
  · exact hdisconnected
  next shmName backuptics slotSize =>
    split
    next ring region consumer hopen =>
      obtain ⟨config, hnew, hopen⟩ := bind_eq_ok hopen
      have hcfg := RingConfig.wellFormed_of_new hnew
      obtain ⟨created, hcreate, hopen⟩ := bind_eq_ok hopen
      rw [create_eq hcfg] at hcreate
      cases hcreate
      obtain ⟨opened, hopened, hopen⟩ := bind_eq_ok hopen
      rw [openRing_created hnew] at hopened
      cases hopened
      cases hopen
      have hfill := filling_created config
      exact ⟨⟨.inr ⟨config, _, _, 0, hcfg, rfl, rfl, rfl, hfill⟩, hstore⟩, fun _ =>
        (hfill.cursors_eq_iff hcfg).mpr rfl⟩
    · exact hdisconnected

lemma cursorsMeet_iff (hcfg : config.WellFormed) (hring : st.shared.ring = some ring)
    (hfill : Filling config st.shared.region ring.producer nettics count) :
    st.CursorsMeet ↔ count = 0 := by
  rw [← hfill.cursors_eq_iff hcfg, InspectState.CursorsMeet, hring]
  exact ⟨fun hmeet => hmeet rfl, fun heq _ => heq⟩

lemma releaseSlots_of_filling (hcfg : config.WellFormed) {released : ℕ}
    (hfill : Filling config region ring.producer consumer.nettics (released + count))
    (hcons : st.shmConsumer = some consumer) :
    ∃ region' consumer', releaseSlots { st with shared := ⟨some ring, region⟩ } released =
        { st with shared := ⟨some ring, region'⟩, shmConsumer := some consumer' } ∧
      consumer'.config = consumer.config ∧
      Filling config region' ring.producer consumer'.nettics count := by
  obtain ⟨daemon, shared, shmConsumer, store⟩ := st
  obtain rfl : shmConsumer = some consumer := hcons
  unfold releaseSlots
  dsimp only
  split_ifs with hzero
  · subst hzero
    rw [Nat.zero_add] at hfill
    exact ⟨region, consumer, rfl, rfl, hfill⟩
  · obtain ⟨region', hadvance, hfreed⟩ := hfill.advanceBy hcfg rfl
    rw [hadvance]
    exact ⟨region', _, rfl, rfl, hfreed⟩

lemma inspectRequest_of_lost (hlost : env.transport = .requestLost)
    (hattached : st.daemon.attached = some (worker, handle)) :
    (inspectRequest lib env st (.valid req)).2 = st := by
  unfold inspectRequest tryOrchestratorInspect
  rw [hattached, hlost]

lemma all_ingest_shaped {consumer : Option DoomRingConsumer} {region : ShmRegion}
    {caps : List CapturedTensor} (hshaped : ∀ ct ∈ caps, Shaped lib env consumer region ct)
    {store : TensorStore} (hstore : store.All (Summarizable lib)) :
    (ingest lib env consumer region caps store).2.All (Summarizable lib) :=
  all_ingest Summarizable.refreshed hstore fun ct hct dtype _ _ gen _ hread =>
    (hshaped ct hct).summarizable hread dtype gen

lemma inspectRequest_of_noRing (hstore : st.store.All (Summarizable lib))
    (hring : st.shared.ring = none) (hcons : st.shmConsumer = none)
    (hattached : st.daemon.attached = some (worker, handle))
    (hreach : env.transport ≠ .requestLost) :
    ∃ store, store.All (Summarizable lib) ∧
      (inspectRequest lib env st (.valid req)).2 = { st with store } := by
  obtain ⟨daemon, ⟨ring, region⟩, shmConsumer, store⟩ := st
  obtain rfl : ring = none := hring
  obtain rfl : shmConsumer = none := hcons
  obtain ⟨hshared, -, hcarried⟩ := captureAll_of_none lib.hash
    (inspectCaptures env.bridge worker ⟨handle, req.target, req.detail, req.slices⟩).1 region
  have hkept := @all_ingest_shaped T lib env none region _
    (shaped_of_carries hcarried (sized_inspectCaptures _ _ _)) store hstore
  obtain ⟨store', hstore', hafter⟩ := inspectRequest_snd hattached hreach hstore rfl rfl hshared
    hkept
  refine ⟨store', hstore', ?_⟩
  rw [hafter]
  split_ifs
  · rfl
  · rfl

/-- When the daemon goes through with a request that has reached the worker: the reply arrives and
nothing is left to fail. -/
def Accepted (env : InspectEnv T) (st : InspectState T) (target : String)
    (captures : List (MappedComponent × RawTensor) × Bool) : Prop :=
  env.transport = .delivered ∧ captures.2 = true ∧ st.daemon.session.state.status = .stopped ∧
    knownTarget target = true ∧ ∀ capture ∈ captures.1, (parseDtype capture.2.dtype).isSome

section WithRing

variable (hcfg : config.WellFormed) (hstore : st.store.All (Summarizable lib))
  (hring : st.shared.ring = some ring) (hcons : st.shmConsumer = some consumer)
  (hfill : Filling config st.shared.region ring.producer consumer.nettics count)
  (hattached : st.daemon.attached = some (worker, handle))
  (hreach : env.transport ≠ .requestLost)
  (hhost : hostReq = ⟨handle, req.target, req.detail, req.slices⟩)

include hcfg hstore hring hcons hfill hattached hreach hhost

/-- A request fills slots, and gives as many back if the daemon goes through with it. -/
lemma inspectRequest_of_ring :
    ∃ caps ring' region' store',
      HandedOver lib.hash config consumer.nettics count st.shared.region
        (inspectCaptures env.bridge worker hostReq).1 caps ring' region' ∧
      store'.All (Summarizable lib) ∧
      (Accepted env st req.target (inspectCaptures env.bridge worker hostReq) →
        (inspectRequest lib env st (.valid req)).2 =
          { releaseSlots { st with shared := ⟨some ring', region'⟩ } (caps.countP hasShm) with
            store := store' }) ∧
      (¬ Accepted env st req.target (inspectCaptures env.bridge worker hostReq) →
        (inspectRequest lib env st (.valid req)).2 =
          { st with shared := ⟨some ring', region'⟩, store := store' }) := by
  obtain ⟨ring', region', hshared, hover⟩ := captureAll_handedOver lib.hash hcfg
    (inspectCaptures env.bridge worker hostReq).1 hfill
  have hsame : st.shared = ⟨some ring, st.shared.region⟩ := by
    rw [← hring]
  rw [← hsame] at hshared hover
  have hsized := sized_inspectCaptures env.bridge worker hostReq
  have hkept := @all_ingest_shaped T lib env st.shmConsumer region' _
    (shaped_of_carries hover.carries hsized) st.store hstore
  have hok := @isOk_ingest_of_carries T lib env (some consumer) region' st.store _ _ hover.carries hsized
    hstore fun _ _ _ => rfl
  obtain ⟨store', hstore', hafter⟩ := inspectRequest_snd hattached hreach hstore hhost rfl hshared
    hkept
  rw [← hcons] at hok
  refine ⟨_, ring', region', store', hover, hstore', ?_, ?_⟩
  · intro haccepted
    rw [Accepted, ← hok] at haccepted
    rw [hafter, if_pos haccepted]
  · intro hrejected
    rw [Accepted, ← hok] at hrejected
    rw [hafter, if_neg hrejected]

/-- The ring after a request: it stays coupled, and the slots that were filled before stay so. -/
lemma filling_inspectRequest :
    ∃ ring' consumer' count', (inspectRequest lib env st (.valid req)).2.shared.ring = some ring' ∧
      (inspectRequest lib env st (.valid req)).2.shmConsumer = some consumer' ∧
      consumer'.config = consumer.config ∧
      (inspectRequest lib env st (.valid req)).2.store.All (Summarizable lib) ∧
      Filling config (inspectRequest lib env st (.valid req)).2.shared.region ring'.producer
        consumer'.nettics count' ∧
      (count < config.backuptics → (count' = count ↔
        (∀ capture ∈ (inspectCaptures env.bridge worker hostReq).1,
          config.slotDataCapacity < capture.2.bytes.length) ∨
        Accepted env st req.target (inspectCaptures env.bridge worker hostReq))) := by
  obtain ⟨caps, ring', region', store', hover, hstore', haccepted, hrejected⟩ :=
    inspectRequest_of_ring hcfg hstore hring hcons hfill hattached hreach hhost
  by_cases hthrough : Accepted env st req.target (inspectCaptures env.bridge worker hostReq)
  · -- The loop runs to its end and gives the slots back.
    have hfilled := hover.filling
    rw [Nat.add_comm] at hfilled
    obtain ⟨region'', consumer', hreleased, hconfig, hfreed⟩ :=
      @releaseSlots_of_filling T st config ring' consumer region' count hcfg _ hfilled hcons
    rw [haccepted hthrough, hreleased]
    exact ⟨ring', consumer', count, rfl, rfl, hconfig, hstore', hfreed, fun _ =>
      iff_of_true rfl (.inr hthrough)⟩
  · -- The slots stay as they are.
    rw [hrejected hthrough]
    refine ⟨ring', consumer, _, rfl, hcons, rfl, hstore', hover.filling, fun hroom => ?_⟩
    rw [or_iff_left hthrough, ← hover.idle hroom]
    exact Nat.add_eq_left

end WithRing

/-- The ring stays coupled, and its slots stay free exactly if the request is `Released`. -/
lemma inspectRequest_ring (hcoupled : RingCoupled lib st) (params : Params InspectRequest) :
    RingCoupled lib (inspectRequest lib env st params).2 ∧
      (st.CursorsMeet → ((inspectRequest lib env st params).2.CursorsMeet ↔
        st.Released (.inspect env st.daemon params))) := by
  by_cases hasked : ∃ worker handle req, st.daemon.attached = some (worker, handle) ∧
      params = .valid req
  · obtain ⟨worker, handle, req, hattached, rfl⟩ := hasked
    by_cases hlost : env.transport = .requestLost
    · rw [inspectRequest_of_lost hlost hattached]
      exact ⟨hcoupled, fun hmeet => iff_of_true hmeet fun _ _ _ _ _ _ _ => .inl hlost⟩
    · obtain ⟨hring, hcons⟩ |
        ⟨config, ring, consumer, count, hcfg, hring, hcons, hconfig, hfill⟩ := hcoupled.ring
      · obtain ⟨store, hstore, hafter⟩ := @inspectRequest_of_noRing T lib st env worker handle req
          hcoupled.store hring hcons hattached hlost
        rw [hafter]
        refine ⟨⟨.inl ⟨hring, hcons⟩, hstore⟩, fun hmeet => iff_of_true hmeet ?_⟩
        intro ring _ _ _ hsome
        cases hring.symm.trans hsome
      · obtain ⟨ring', consumer', count', hring', hcons', hconfig', hstore', hfill', hcount⟩ :=
          filling_inspectRequest hcfg hcoupled.store hring hcons hfill hattached hlost rfl
        refine ⟨⟨.inr ⟨config, ring', consumer', count', hcfg, hring', hcons',
          hconfig'.trans hconfig, hfill'⟩, hstore'⟩, fun hmeet => ?_⟩
        obtain rfl := (cursorsMeet_iff hcfg hring hfill).mp hmeet
        rw [cursorsMeet_iff hcfg hring' hfill', hcount hcfg.backuptics_pos]
        constructor
        · intro hreleased found worker' handle' req' hfound hattached' hparams
          cases hring.symm.trans hfound
          cases hattached.symm.trans hattached'
          cases hparams
          rw [hfill.producer_config]
          exact .inr hreleased
        · intro hreleased
          have hcase := hreleased ring worker handle req hring hattached rfl
          rw [hfill.producer_config] at hcase
          exact hcase.resolve_left hlost
  · rw [inspectRequest_of_unasked hasked]
    refine ⟨hcoupled, fun hmeet => iff_of_true hmeet ?_⟩
    intro _ worker handle req _ hattached hparams
    exact absurd ⟨worker, handle, req, hattached, hparams⟩ hasked

lemma act_ring (hcoupled : RingCoupled lib st) (action : InspectAction T) :
    RingCoupled lib (st.act lib action) ∧
      (st.CursorsMeet → ((st.act lib action).CursorsMeet ↔ st.Released action)) := by
  cases action with
  | connect shm =>
    obtain ⟨hafter, hmeet⟩ := ringCoupled_connect hcoupled.store shm
    exact ⟨hafter, fun _ => iff_of_true hmeet trivial⟩
  | inspect env daemon params =>
    have hcoupled : RingCoupled lib { st with daemon } := ⟨hcoupled.ring, hcoupled.store⟩
    exact inspectRequest_ring hcoupled params

lemma ringCoupled_run (lib : InspectLibrary) (daemon : DaemonState T)
    (actions : List (InspectAction T)) :
    RingCoupled lib (actions.foldl (InspectState.act lib) (.start daemon)) :=
  List.foldlRecOn actions _ (ringCoupled_start daemon) fun _ hcoupled action _ =>
    (act_ring hcoupled action).1

end Step

/-- **When inspect requests give their slots back.**  Along every run from the start of the daemon,
all slots of the ring are free after each request exactly if each request is `Released`. -/
theorem cursors_meet_along_iff (lib : InspectLibrary) (daemon : DaemonState T)
    (actions : List (InspectAction T)) :
    Along (InspectState.act lib) (fun st action => (st.act lib action).CursorsMeet)
        (.start daemon) actions ↔
      Along (InspectState.act lib) InspectState.Released (.start daemon) actions := by
  have hstart : RingCoupled lib (.start daemon) ∧ (InspectState.start daemon).CursorsMeet :=
    ⟨ringCoupled_start daemon, nofun⟩
  refine @along_iff_of_invariant _ _ _ _ _ (fun st => RingCoupled lib st ∧ st.CursorsMeet) ?_ ?_ _
    hstart actions
  · rintro st action ⟨hcoupled, hmeet⟩
    exact (act_ring hcoupled action).2 hmeet
  · rintro st action ⟨hcoupled, -⟩ hmeet
    exact ⟨(act_ring hcoupled action).1, hmeet⟩

/-! ## The position embedding of gpt2

The worker maps it to `pos_embed`, which is none of the components the daemon knows.
-/

/-- A worker whose position embedding has put out a tensor. -/
def posEmbedWorker : WorkerState Unit :=
  { attachModel WorkerState.new twoLayerModel with
    componentMap := some {
      components := [⟨"transformer.wpe", "pos_embed", none, 0, "gpt2:0:0:pos_embed:0:output"⟩]
      modelFamily := "gpt2" }
    lastOutputs := some [(("transformer.wpe", 0), ())] }

/-- A session that has attached that worker. -/
def posEmbedDaemon : DaemonState Unit :=
  { attachedWithoutRing.daemon with orchestrator := some posEmbedWorker }

def posEmbedRequest : Params InspectRequest :=
  .valid ⟨"gpt2:0:0:pos_embed:output", .summary, none, .full⟩

/-- Attach with the ring that the worker creates, and inspect the position embedding. -/
def posEmbedActions : List (InspectAction Unit) :=
  [.connect (some ("/rs-shm", 16, 64 * 1024 * 1024)),
    .inspect calmInspect posEmbedDaemon posEmbedRequest]

/-- Where these actions lead. -/
def posEmbedState : InspectState Unit :=
  posEmbedActions.foldl (InspectState.act plainLibrary) (.start posEmbedDaemon)

/-- The request is refused and its slot stays filled. -/
theorem not_cursors_meet_posEmbed :
    ¬ Along (InspectState.act plainLibrary)
      (fun st action => (st.act plainLibrary action).CursorsMeet)
      (.start posEmbedDaemon) posEmbedActions := by
  rintro ⟨-, hlast, -⟩
  have hmeet : posEmbedState.CursorsMeet := hlast
  obtain ⟨hring, hnettics, hmaketic⟩ : posEmbedState.shared.ring.isSome ∧
      loadLE posEmbedState.shared.region.bytes netticsOffset 8 = 0 ∧
      loadLE posEmbedState.shared.region.bytes maketicOffset 8 = 1 := by
    decide +kernel
  have hcells := hmeet hring
  rw [hnettics, hmaketic] at hcells
  cases hcells

end RocketSurgeon.Daemon
