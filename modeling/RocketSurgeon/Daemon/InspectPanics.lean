import RocketSurgeon.Daemon.InspectRelease

/-!
# Inspect requests do not panic

`ingest_and_respond` expects a summary of every tensor it has just stored or found.  There is one
as long as every stored tensor can be summarised, which holds of what the worker hands over: its
bytes are as many as its shape says.

The daemon may also have failed to open the ring of its worker.  Then nothing takes slots out of
the ring, and its tensors cannot be read; that is an error, but no panic.
-/

namespace RocketSurgeon.Daemon

open Lib Protocol Worker Shm TensorStore

variable {T : Type} {lib : InspectLibrary}

/-! ## The loop -/

/-- An answer that is no panic. -/
def NoPanic {α : Type} (answer : Except InspectFailure α) : Prop :=
  ∀ message, answer ≠ .error (.panicked message)

lemma noPanic_of_isOk {answer : Except InspectFailure α} (hok : answer.isOk = true) :
    NoPanic answer := by
  rintro msg rfl
  cases hok

lemma noPanic_refused (error : RpcError) :
    NoPanic (.error (.refused error) : Except InspectFailure α) :=
  fun _ hpanic => nomatch hpanic

section Loop

variable {env : InspectEnv T} {consumer : Option DoomRingConsumer} {region : ShmRegion}
  {store : TensorStore}

lemma noPanic_ingestOne {ct : CapturedTensor} (hstore : store.All (Summarizable lib))
    (hshaped : Shaped lib env consumer region ct) :
    NoPanic (ingestOne lib env consumer region store ct).1 := by
  unfold ingestOne
  split
  · exact noPanic_refused _
  next dtype _ =>
    split_ifs with hcontains
    · obtain ⟨entry, hentry⟩ := Option.isSome_iff_exists.mp hcontains
      exact noPanic_of_isOk (isOk_expectSummary hstore hentry _)
    · split
      · exact noPanic_refused _
      next hread =>
        exact noPanic_of_isOk (isOk_expectSummary_inserted hstore hshaped hread dtype _)

lemma noPanic_ingest (hshaped : ∀ ct ∈ caps, Shaped lib env consumer region ct)
    (hstore : store.All (Summarizable lib)) :
    NoPanic (ingest lib env consumer region caps store).1 := by
  induction caps generalizing store with
  | nil => exact noPanic_of_isOk rfl
  | cons ct caps ih =>
    obtain ⟨hshaped, hothers⟩ := List.forall_mem_cons.mp hshaped
    have hturn := noPanic_ingestOne hstore hshaped
    have hrest := ih hothers (all_ingestOne Summarizable.refreshed hstore
      fun dtype id bytes gen _ hread => hshaped.summarizable hread dtype gen)
    rw [ingest]
    revert hturn hrest
    rcases ingestOne lib env consumer region store ct with ⟨failure | summary, next⟩
    · exact fun hturn _ => fun msg hpanic =>
        hturn msg (congrArg Except.error (Except.error.inj hpanic))
    · intro _ hrest
      revert hrest
      dsimp only
      rcases ingest lib env consumer region caps next with ⟨failure | summaries, last⟩
      · exact id
      · exact fun _ => noPanic_of_isOk rfl

end Loop

/-! ## The ring -/

/-- The ring is coupled, or the daemon has not opened it. -/
inductive RingKept (lib : InspectLibrary) (st : InspectState T) : Prop
  | coupled (hcoupled : RingCoupled lib st)
  | unopened {config : RingConfig} {ring : ShmRing} {nettics count : ℕ}
      (hconfig : config.WellFormed) (hring : st.shared.ring = some ring)
      (hconsumer : st.shmConsumer = none)
      (hfilling : Filling config st.shared.region ring.producer nettics count)
      (hstore : st.store.All (Summarizable lib))

namespace RingKept

variable {st : InspectState T}

lemma store (hkept : RingKept lib st) : st.store.All (Summarizable lib) := by
  cases hkept with
  | coupled hcoupled => exact hcoupled.store
  | unopened _ _ _ _ hstore => exact hstore

lemma withDaemon (hkept : RingKept lib st) (daemon : DaemonState T) :
    RingKept lib { st with daemon } := by
  cases hkept with
  | coupled hcoupled => exact .coupled ⟨hcoupled.ring, hcoupled.store⟩
  | unopened hconfig hring hcons hfill hstore =>
    exact .unopened hconfig hring hcons hfill hstore

lemma withStore (hkept : RingKept lib st) {store : TensorStore}
    (hstore : store.All (Summarizable lib)) : RingKept lib { st with store } := by
  cases hkept with
  | coupled hcoupled => exact .coupled ⟨hcoupled.ring, hstore⟩
  | unopened hconfig hring hcons hfill _ =>
    exact .unopened hconfig hring hcons hfill hstore

lemma carries (hkept : RingKept lib st) (captures : List (MappedComponent × RawTensor)) :
    List.Forall₂ (Carries lib.hash (captureAll lib.hash captures st.shared).2.region) captures
      (captureAll lib.hash captures st.shared).1 := by
  have hfilled : ∀ {cfg : RingConfig} {ring : ShmRing} {nettics count : ℕ},
      cfg.WellFormed → st.shared.ring = some ring →
      Filling cfg st.shared.region ring.producer nettics count →
      List.Forall₂ (Carries lib.hash (captureAll lib.hash captures st.shared).2.region) captures
        (captureAll lib.hash captures st.shared).1 := by
    intro cfg ring nettics count hconfig hring hfill
    obtain ⟨ring', region', hshared, hover⟩ :=
      captureAll_handedOver lib.hash hconfig captures hfill
    rw [show st.shared = ⟨some ring, st.shared.region⟩ by rw [← hring], hshared]
    exact hover.carries
  cases hkept with
  | unopened hconfig hring _ hfill _ => exact hfilled hconfig hring hfill
  | coupled hcoupled =>
    rcases hcoupled.ring with
      ⟨hring, -⟩ | ⟨cfg, ring, consumer, count, hconfig, hring, -, -, hfill⟩
    · obtain ⟨hshared, -, hcarried⟩ := captureAll_of_none lib.hash captures st.shared.region
      rw [show st.shared = ⟨none, st.shared.region⟩ by rw [← hring], hshared]
      exact hcarried
    · exact hfilled hconfig hring hfill

end RingKept

lemma ringKept_connect {st : InspectState T} (hkept : RingKept lib st)
    (shm : Option (String × UInt32 × UInt64)) (opened : Bool) :
    let connected := st.connect shm
    RingKept lib
      { connected with shmConsumer := if opened then connected.shmConsumer else none } := by
  have hcoupled := (ringCoupled_connect hkept.store shm).1
  cases opened with
  | true => exact .coupled hcoupled
  | false =>
    rcases hcoupled.ring with
      ⟨hring, -⟩ | ⟨cfg, ring, consumer, count, hconfig, hring, -, -, hfill⟩
    · exact .coupled ⟨.inl ⟨hring, rfl⟩, hcoupled.store⟩
    · exact .unopened hconfig hring rfl hfill hcoupled.store

/-! ## Requests -/

section Requests

variable {env : InspectEnv T} {st : InspectState T}

lemma noPanic_ingestAndRespond
    (hingest : NoPanic (ingest lib env st.shmConsumer st.shared.region caps st.store).1) :
    NoPanic (ingestAndRespond lib env st req caps).1 := by
  unfold ingestAndRespond
  revert hingest
  rcases ingest lib env st.shmConsumer st.shared.region caps st.store with
    ⟨failure | ingested, store⟩
  · exact fun hingest msg hpanic =>
      hingest msg (congrArg Except.error (Except.error.inj hpanic))
  · intro _
    dsimp only
    split
    · exact noPanic_refused _
    · split
      · exact noPanic_refused _
      · exact noPanic_of_isOk rfl

lemma noPanic_handleInspect (params : Params InspectRequest)
    (hingest : ∀ resp, hostResponse = some resp →
      NoPanic (ingest lib env st.shmConsumer st.shared.region resp.tensors st.store).1) :
    NoPanic (handleInspect lib env st params hostResponse).1 := by
  unfold handleInspect
  split
  · exact noPanic_refused _
  · split
    · exact noPanic_refused _
    · split
      · exact noPanic_refused _
      · split
        · exact noPanic_refused _
        · exact noPanic_refused _
        · exact noPanic_ingestAndRespond (hingest _ rfl)

lemma noPanic_inspectRequest (hkept : RingKept lib st) (params : Params InspectRequest) :
    NoPanic (inspectRequest lib env st params).1 := by
  unfold inspectRequest tryOrchestratorInspect
  cases hattached : st.daemon.attached with
  | none => exact noPanic_handleInspect params fun _ hsome => nomatch hsome
  | some attached =>
    cases params with
    | absent | malformed msg => exact noPanic_handleInspect _ fun _ hsome => nomatch hsome
    | valid req =>
      obtain ⟨worker, handle⟩ := attached
      obtain ⟨hafter, hanswer⟩ := handleHostInspect_cases lib.hash env.bridge worker
        ⟨handle, req.target, req.detail, req.slices⟩ st.shared
      dsimp only
      rw [hafter]
      cases env.transport with
      | requestLost | replyLost => exact noPanic_refused _
      | delivered =>
        rcases hanswer with ⟨-, hok⟩ | ⟨-, error, herror⟩
        · rw [hok]
          refine noPanic_handleInspect _ fun resp hresponse => ?_
          cases hresponse
          exact noPanic_ingest
            (shaped_of_carries (hkept.carries _) (sized_inspectCaptures _ _ _)) hkept.store
        · rw [herror]
          exact noPanic_refused _

lemma ringKept_inspectRequest (hkept : RingKept lib st) (params : Params InspectRequest) :
    RingKept lib (inspectRequest lib env st params).2 := by
  cases hkept with
  | coupled hcoupled => exact .coupled (inspectRequest_ring hcoupled params).1
  | @unopened cfg ring nettics count hconfig hring hcons hfill hstore =>
    have hkept : RingKept lib st := .unopened hconfig hring hcons hfill hstore
    by_cases hasked : ∃ worker handle req, st.daemon.attached = some (worker, handle) ∧
        params = .valid req
    · obtain ⟨worker, handle, req, hattached, rfl⟩ := hasked
      by_cases hlost : env.transport = .requestLost
      · rw [inspectRequest_of_lost hlost hattached]
        exact hkept
      · let captures :=
          (inspectCaptures env.bridge worker ⟨handle, req.target, req.detail, req.slices⟩).1
        have hcarried := hkept.carries captures
        obtain ⟨ring', region', hshared, hover⟩ :=
          captureAll_handedOver lib.hash hconfig captures hfill
        have hsame : st.shared = ⟨some ring, st.shared.region⟩ := by
          rw [← hring]
        rw [← hsame] at hshared hover
        rw [hshared] at hcarried
        have hingested := @all_ingest_shaped T lib env st.shmConsumer region' _
          (shaped_of_carries hcarried (sized_inspectCaptures _ _ _)) st.store hstore
        obtain ⟨store, hstore', hafter⟩ :=
          inspectRequest_snd hattached hlost hstore rfl rfl hshared hingested
        rw [hafter, releaseSlots, hcons, ite_self]
        exact .unopened hconfig rfl rfl hover.filling hstore'
    · rw [inspectRequest_of_unasked hasked]
      exact hkept

end Requests

end RocketSurgeon.Daemon
