import RocketSurgeon.Daemon.Inspect
import RocketSurgeon.Lib.Runs

/-!
# What an inspect response says

The store keeps one entry for all tensors of the same bytes, with the shape, dtype and device of
the one that came first.  The summary of a captured tensor is that of the entry under its id.  So
the response describes the captured tensors exactly if, whenever the turn comes to one whose bytes
are stored already, they are stored as the same kind of tensor.
-/

namespace RocketSurgeon.Daemon

open Lib Protocol Worker Shm TensorStore

variable {T : Type} {lib : InspectLibrary}

/-! ## Stores that can be reached -/

/-- An entry is named by the hash of its bytes, and a summary it has is the one computed from
these. -/
structure EntrySound (lib : InspectLibrary) (id : String) (entry : StoredTensor) : Prop where
  tensorId : entry.tensorId = id
  hashed : id = lib.hash entry.data
  summary : ∀ computed, entry.summary = some computed →
    computeSummary lib.heap entry.data entry.dtype entry.shape = some computed

lemma EntrySound.refreshed {id : String} (hsound : EntrySound lib id old)
    (hsame : Refreshed lib.heap old entry) :
    EntrySound lib id entry where
  tensorId := hsame.tensorId.trans hsound.tensorId
  hashed := hsame.data ▸ hsound.hashed
  summary := by
    intro computed hcomputed
    rw [hsame.data, hsame.dtype, hsame.shape]
    rcases hsame.summary with hkept | hfresh
    · exact hsound.summary computed (hkept ▸ hcomputed)
    · rw [← hfresh, hcomputed]

lemma entrySound_new {id : String} (hid : id = lib.hash data) (shape : List ℕ) (dtype : DType)
    (device : String) (gen : ℕ) :
    EntrySound lib id ⟨id, shape, dtype, device, data, none, gen⟩ where
  tensorId := rfl
  hashed := hid
  summary := by
    intro computed hnone
    cases hnone

lemma EntrySound.computed {id : String} (hsound : EntrySound lib id entry)
    {computed : TensorStats FloatValue × List (TopKEntry FloatValue)}
    (hcomputed : entry.summary.or (computeSummary lib.heap entry.data entry.dtype entry.shape) =
      some computed) :
    computeSummary lib.heap entry.data entry.dtype entry.shape = some computed := by
  rcases Option.or_eq_some_iff.mp hcomputed with hcached | ⟨-, hfresh⟩
  · exact hsound.summary computed hcached
  · exact hfresh

namespace TensorStore

/-- The stores the operations lead to from an empty one, where ids are hashes. -/
inductive Reachable (lib : InspectLibrary) : TensorStore → Prop
  | new (maxEntries maxBytes : ℕ) : Reachable lib (withLimits maxEntries maxBytes)
  | insert {store : TensorStore} (data : List UInt8) (shape : List ℕ) (dtype : DType)
      (device : String) (hstore : Reachable lib store) :
      Reachable lib (store.insert lib.hash data shape dtype device).2
  | insertWithId {store : TensorStore} {tensorId : String} (data : List UInt8) (shape : List ℕ)
      (dtype : DType) (device : String) (hid : tensorId = lib.hash data)
      (hstore : Reachable lib store) :
      Reachable lib (store.insertWithId tensorId data shape dtype device).2
  | get {store : TensorStore} (tensorId : String) (hstore : Reachable lib store) :
      Reachable lib (store.get tensorId).2
  | rawData {store : TensorStore} (tensorId : String) (hstore : Reachable lib store) :
      Reachable lib (store.rawData tensorId).2
  | slice {store : TensorStore} (tensorId : String) (offset len : ℕ)
      (hstore : Reachable lib store) : Reachable lib (store.slice tensorId offset len).2
  | summarize {store store' : TensorStore} {tensorId : String} {answer : Option TensorSummary}
      (hanswer : store.summarize lib.heap tensorId = .ok (answer, store'))
      (hstore : Reachable lib store) : Reachable lib store'

lemma Reachable.sound (hstore : Reachable lib store) :
    store.All (EntrySound lib) := by
  have hrefresh : ∀ id old entry, EntrySound lib id old → Refreshed lib.heap old entry →
      EntrySound lib id entry := fun _ _ _ hsound hsame => hsound.refreshed hsame
  induction hstore with
  | new maxEntries maxBytes => exact all_withLimits _ _
  | insert data shape dtype device _ ih =>
    exact ih.insertWithId hrefresh fun _ gen => entrySound_new rfl shape dtype device gen
  | insertWithId data shape dtype device hid _ ih =>
    exact ih.insertWithId hrefresh fun _ gen => entrySound_new hid shape dtype device gen
  | get tensorId _ ih => exact ih.get hrefresh
  | rawData tensorId _ ih => exact ih.rawData hrefresh
  | slice tensorId offset len _ ih => exact ih.slice hrefresh offset len
  | summarize hanswer _ ih => exact ih.summarize hrefresh hanswer

end TensorStore

/-! ## One turn of the loop -/

section Turn

variable {env : InspectEnv T} {consumer : Option DoomRingConsumer} {region : ShmRegion}
  {store store' : TensorStore} {ct : CapturedTensor} {id : String} {summary : TensorSummary}

lemma expectSummary_eq_ok
    (hok : expectSummary lib store tensorId expectation = (.ok (id, summary), store')) :
    id = tensorId ∧ store.summarize lib.heap tensorId = .ok (some summary, store') := by
  unfold expectSummary at hok
  split at hok
  · cases hok
  · cases hok
  next heq =>
    cases hok
    exact ⟨rfl, heq⟩

lemma ingestOne_eq_ok
    (hok : ingestOne lib env consumer region store ct = (.ok (id, summary), store')) :
    ∃ dtype, parseDtype ct.dtype = some dtype ∧
      ((id = ct.tensorId ∧ ∃ old, FMap.get store.entries ct.tensorId = some old ∧
          store.summarize lib.heap ct.tensorId = .ok (some summary, store')) ∨
        FMap.get store.entries ct.tensorId = none ∧ ∃ bytes,
          readCaptured lib env.decodeError consumer region ct = .ok (id, bytes) ∧
          (store.insertWithId id bytes ct.shape dtype ct.device).2.summarize lib.heap id =
            .ok (some summary, store')) := by
  unfold ingestOne at hok
  cases hdtype : parseDtype ct.dtype with
  | none =>
    rw [hdtype] at hok
    cases hok
  | some dtype =>
    rw [hdtype] at hok
    refine ⟨dtype, rfl, ?_⟩
    split_ifs at hok with hcontains
    · obtain ⟨old, hold⟩ := Option.isSome_iff_exists.mp hcontains
      obtain ⟨hid, hsum⟩ := expectSummary_eq_ok hok
      exact .inl ⟨hid, old, hold, hsum⟩
    · have hnone : FMap.get store.entries ct.tensorId = none := by
        simpa [contains] using hcontains
      cases hread : readCaptured lib env.decodeError consumer region ct with
      | error message =>
        rw [hread] at hok
        cases hok
      | ok read =>
        obtain ⟨tensorId, bytes⟩ := read
        rw [hread] at hok
        dsimp only at hok
        rw [insertWithId_handle] at hok
        obtain ⟨rfl, hsum⟩ := expectSummary_eq_ok hok
        exact .inr ⟨hnone, bytes, rfl, hsum⟩

/-- A captured tensor whose dtype is known and whose bytes can be read and have its id for
their hash. -/
def CapturedSound (lib : InspectLibrary) (env : InspectEnv T) (consumer : Option DoomRingConsumer)
    (region : ShmRegion) (ct : CapturedTensor) (bytes : List UInt8) : Prop :=
  (parseDtype ct.dtype).isSome ∧
    (∃ id, readCaptured lib env.decodeError consumer region ct = .ok (id, bytes)) ∧
    ct.tensorId = lib.hash bytes

/-- A summary has the shape, dtype and device of a captured tensor, and its numbers are computed
from the tensor's bytes. -/
structure Describes (lib : InspectLibrary) (env : InspectEnv T)
    (consumer : Option DoomRingConsumer) (region : ShmRegion) (ct : CapturedTensor)
    (summary : TensorSummary) : Prop where
  shape : summary.shape = ct.shape
  dtype : some summary.dtype = parseDtype ct.dtype
  device : summary.device = ct.device
  computed : ∃ id bytes, readCaptured lib env.decodeError consumer region ct = .ok (id, bytes) ∧
    computeSummary lib.heap bytes summary.dtype ct.shape = some (summary.stats, summary.topK)

/-- What is stored under the id of a captured tensor is a tensor of the same kind. -/
def StoredAlike (store : TensorStore) (ct : CapturedTensor) : Prop :=
  ∀ entry, FMap.get store.entries ct.tensorId = some entry →
    entry.shape = ct.shape ∧ some entry.dtype = parseDtype ct.dtype ∧ entry.device = ct.device

lemma readCaptured_id
    (hread : readCaptured lib env.decodeError consumer region ct = .ok (id, bytes))
    (hhash : ct.tensorId = lib.hash bytes) : id = ct.tensorId := by
  unfold readCaptured at hread
  split at hread
  · split at hread
    · cases hread
      rfl
    · cases hread
  · split at hread
    · split at hread
      · cases hread
        exact hhash.symm
      · cases hread
    · cases hread

/-- The entry under the id of a captured tensor says how the tensor is described. -/
lemma ingestOne_describes_iff {bytes : List UInt8} (hinj : Set.InjOn lib.hash involved)
    (hsound : store.All (EntrySound lib)) (hstored : store.All fun _ entry => entry.data ∈ involved)
    (hct : CapturedSound lib env consumer region ct bytes) (hbytes : bytes ∈ involved)
    (hok : ingestOne lib env consumer region store ct = (.ok (id, summary), store')) :
    Describes lib env consumer region ct summary ↔ StoredAlike store ct := by
  obtain ⟨-, ⟨readId, hread⟩, hhash⟩ := hct
  obtain ⟨dtype, hdtype, ⟨-, old, hold, hsum⟩ | ⟨hnone, bytes', hread', hsum⟩⟩ :=
    ingestOne_eq_ok hok
  · -- The bytes are stored already: what is stored is described.
    obtain ⟨-, ⟨hgone, -⟩ | ⟨found, -, stats, topK, hfound, -, -, hcomputed, hanswer⟩⟩ :=
      summarize_eq_ok hsum
    · cases hold.symm.trans hgone
    · cases hold.symm.trans hfound
      cases hanswer
      have hsame : old.data = bytes := by
        refine hinj (hstored _ _ hold) hbytes ?_
        rw [← hhash, ← (hsound _ _ hold).hashed]
      have hsummary := (hsound _ _ hold).computed hcomputed
      constructor
      · intro hdescribed entry hentry
        cases hold.symm.trans hentry
        exact ⟨hdescribed.shape, hdescribed.dtype, hdescribed.device⟩
      · intro halike
        obtain ⟨hshape, hsort, hdevice⟩ := halike old hold
        refine ⟨hshape, hsort, hdevice, readId, bytes, hread, ?_⟩
        rw [← hsame, ← hshape]
        exact hsummary
  · -- A new entry is made of the tensor itself.
    obtain ⟨rfl, rfl⟩ : readId = id ∧ bytes = bytes' := by
      rw [hread] at hread'
      cases hread'
      exact ⟨rfl, rfl⟩
    obtain rfl := readCaptured_id hread hhash
    have halike : StoredAlike store ct := by
      intro entry hentry
      cases hnone.symm.trans hentry
    refine iff_of_true ?_ halike
    obtain ⟨-, ⟨old, -, hold, -⟩ | ⟨-, gen, hnew⟩⟩ :=
      @insertWithId_cases lib.heap store _ ct.tensorId bytes ct.shape dtype ct.device rfl
    · cases hnone.symm.trans hold
    · obtain ⟨-, ⟨hgone, -⟩ | ⟨found, -, stats, topK, hfound, -, -, hcomputed, hanswer⟩⟩ :=
        summarize_eq_ok hsum
      · cases hnew.symm.trans hgone
      · cases hnew.symm.trans hfound
        cases hanswer
        exact ⟨rfl, hdtype.symm, rfl, _, bytes, hread, hcomputed⟩

end Turn

/-! ## What the loop keeps of the store -/

section Kept

variable {p : String → StoredTensor → Prop} {env : InspectEnv T}
  {consumer : Option DoomRingConsumer} {region : ShmRegion} {store : TensorStore}
  (hrefresh : ∀ id old entry, p id old → Refreshed lib.heap old entry → p id entry)

include hrefresh

lemma all_expectSummary (hall : store.All p) (tensorId expectation : String) :
    (expectSummary lib store tensorId expectation).2.All p := by
  unfold expectSummary
  split
  · exact hall
  next heq => exact hall.summarize hrefresh heq
  next heq => exact hall.summarize hrefresh heq

/-- What holds of every entry before a turn, and of the entry that the turn makes, holds after
it. -/
lemma all_ingestOne (hall : store.All p)
    (hnew : ∀ dtype id bytes gen, parseDtype ct.dtype = some dtype →
      readCaptured lib env.decodeError consumer region ct = .ok (id, bytes) →
      p id ⟨id, ct.shape, dtype, ct.device, bytes, none, gen⟩) :
    (ingestOne lib env consumer region store ct).2.All p := by
  unfold ingestOne
  cases hdtype : parseDtype ct.dtype with
  | none => exact hall
  | some dtype =>
    split_ifs
    · exact all_expectSummary hrefresh hall _ _
    · cases hread : readCaptured lib env.decodeError consumer region ct with
      | error message => exact hall
      | ok read =>
        refine all_expectSummary hrefresh (hall.insertWithId hrefresh fun _ gen => ?_) _ _
        exact hnew dtype read.1 read.2 gen hdtype hread

lemma all_ingest (hall : store.All p)
    (hnew : ∀ ct ∈ captured, ∀ dtype id bytes gen, parseDtype ct.dtype = some dtype →
      readCaptured lib env.decodeError consumer region ct = .ok (id, bytes) →
      p id ⟨id, ct.shape, dtype, ct.device, bytes, none, gen⟩) :
    (ingest lib env consumer region captured store).2.All p := by
  induction captured generalizing store with
  | nil => exact hall
  | cons ct rest ih =>
    have hturn := all_ingestOne hrefresh hall (hnew ct List.mem_cons_self)
    have hrest := ih hturn fun ct hct => hnew ct (List.mem_cons_of_mem _ hct)
    rw [ingest]
    split
    next heq => exact (congrArg Prod.snd heq) ▸ hturn
    next heq =>
      rw [heq] at hrest
      split
      next hlater => exact (congrArg Prod.snd hlater) ▸ hrest
      next hlater => exact (congrArg Prod.snd hlater) ▸ hrest

end Kept

/-! ## The response -/

section Response

variable {env : InspectEnv T} {consumer : Option DoomRingConsumer} {region : ShmRegion}

def ingested (lib : InspectLibrary) (env : InspectEnv T) (consumer : Option DoomRingConsumer)
    (region : ShmRegion) (store : TensorStore) (ct : CapturedTensor) : TensorStore :=
  (ingestOne lib env consumer region store ct).2

lemma ingest_cons_eq_ok
    (hok : ingest lib env consumer region (ct :: rest) store = (.ok summaries, store')) :
    ∃ first next others, ingestOne lib env consumer region store ct = (.ok first, next) ∧
      ingest lib env consumer region rest next = (.ok others, store') ∧
      summaries = first :: others := by
  rw [ingest] at hok
  split at hok
  · cases hok
  next first next hfirst =>
    split at hok
    · cases hok
    next others final hrest =>
      cases hok
      exact ⟨first, next, others, hfirst, hrest, rfl⟩

lemma CapturedSound.entry {id : String} (hct : CapturedSound lib env consumer region ct bytes)
    (hread : readCaptured lib env.decodeError consumer region ct = .ok (id, bytes')) :
    bytes' = bytes ∧ id = lib.hash bytes' := by
  obtain ⟨-, ⟨readId, hknown⟩, hhash⟩ := hct
  obtain ⟨rfl, rfl⟩ : readId = id ∧ bytes = bytes' := by
    rw [hknown] at hread
    cases hread
    exact ⟨rfl, rfl⟩
  exact ⟨rfl, (readCaptured_id hread hhash).trans hhash⟩

/-- The loop describes all tensors exactly if every turn finds the store alike. -/
lemma ingest_describes_iff {involved : Set (List UInt8)} (hinj : Set.InjOn lib.hash involved)
    {captured : List CapturedTensor} {store store' : TensorStore}
    {summaries : List (String × TensorSummary)} (hsound : store.All (EntrySound lib))
    (hstored : store.All fun _ entry => entry.data ∈ involved)
    (hcap : ∀ ct ∈ captured,
      ∃ bytes ∈ involved, CapturedSound lib env consumer region ct bytes)
    (hok : ingest lib env consumer region captured store = (.ok summaries, store')) :
    List.Forall₂ (Describes lib env consumer region) captured (summaries.map Prod.snd) ↔
      Along (ingested lib env consumer region) StoredAlike store captured := by
  induction captured generalizing store summaries with
  | nil =>
    cases hok
    exact iff_of_true .nil trivial
  | cons ct rest ih =>
    obtain ⟨bytes, hbytes, hct⟩ := hcap ct List.mem_cons_self
    obtain ⟨⟨id, summary⟩, next, others, hfirst, hrest, rfl⟩ := ingest_cons_eq_ok hok
    have hnext : ingested lib env consumer region store ct = next := congrArg Prod.snd hfirst
    have hsound' : next.All (EntrySound lib) := by
      rw [← hnext]
      refine all_ingestOne (fun _ _ _ hold hsame => hold.refreshed hsame) hsound ?_
      intro dtype id bytes' gen _ hread
      exact entrySound_new (hct.entry hread).2 ct.shape dtype ct.device gen
    have hstored' : next.All fun _ entry => entry.data ∈ involved := by
      rw [← hnext]
      refine all_ingestOne (fun _ _ _ hold hsame => ?_) hstored ?_
      · exact hsame.data ▸ hold
      · intro dtype id bytes' gen _ hread
        exact (hct.entry hread).1 ▸ hbytes
    have hturn := ingestOne_describes_iff hinj hsound hstored hct hbytes hfirst
    have hlater := ih hsound' hstored' (fun ct hct => hcap ct (List.mem_cons_of_mem _ hct))
      hrest
    rw [List.map_cons, List.forall₂_cons, hturn, hlater, Along, hnext]

/-- The byte strings that are hashed: those in the store and those that are captured. -/
def bytesInvolved (lib : InspectLibrary) (env : InspectEnv T) (st : InspectState T)
    (captured : List CapturedTensor) : Set (List UInt8) :=
  { bytes | (∃ id entry, FMap.get st.store.entries id = some entry ∧ entry.data = bytes) ∨
    ∃ ct ∈ captured, CapturedSound lib env st.shmConsumer st.shared.region ct bytes }

lemma ingestAndRespond_eq_ok
    (hanswer : ingestAndRespond lib env st req captured = (.ok response, st')) :
    ∃ summaries store, ingest lib env st.shmConsumer st.shared.region captured st.store =
      (.ok summaries, store) ∧ response.tensors = summaries.map Prod.snd := by
  unfold ingestAndRespond at hanswer
  split at hanswer
  · cases hanswer
  next summaries store hingest =>
    refine ⟨summaries, store, hingest, ?_⟩
    dsimp only at hanswer
    split at hanswer
    · cases hanswer
    · split at hanswer
      · cases hanswer
      next answered hinspect =>
        obtain ⟨-, -, hresponse⟩ := bind_eq_ok hinspect
        cases hanswer
        cases hresponse
        rfl

lemma handleInspect_eq_ok
    (hanswer : handleInspect lib env st params (some ⟨captured⟩) = (.ok response, st')) :
    ∃ summaries store, ingest lib env st.shmConsumer st.shared.region captured st.store =
      (.ok summaries, store) ∧ response.tensors = summaries.map Prod.snd := by
  unfold handleInspect at hanswer
  split at hanswer
  · cases hanswer
  · split at hanswer
    · cases hanswer
    · split_ifs at hanswer
      · cases hanswer
      · split at hanswer
        · cases hanswer
        · cases hanswer
        next heq =>
          cases heq
          exact ingestAndRespond_eq_ok hanswer

/-- **What an inspect response says.**  It describes the captured tensors exactly if each of them,
when its turn comes, finds nothing stored under its id or a tensor of the same shape, dtype and
device. -/
theorem summaries_describe_iff {st st' : InspectState T} {params : Params InspectRequest}
    {captured : List CapturedTensor} {response : InspectResponse}
    (hstore : st.store.Reachable lib)
    (hcaptured : ∀ ct ∈ captured,
      ∃ bytes, CapturedSound lib env st.shmConsumer st.shared.region ct bytes)
    (hinj : Set.InjOn lib.hash (bytesInvolved lib env st captured))
    (hanswer : handleInspect lib env st params (some ⟨captured⟩) = (.ok response, st')) :
    List.Forall₂ (Describes lib env st.shmConsumer st.shared.region) captured response.tensors ↔
      Along (ingested lib env st.shmConsumer st.shared.region) StoredAlike st.store captured := by
  obtain ⟨summaries, store, hingest, htensors⟩ := handleInspect_eq_ok hanswer
  rw [htensors]
  refine ingest_describes_iff hinj hstore.sound ?_ ?_ hingest
  · intro id entry hentry
    exact .inl ⟨id, entry, hentry, rfl⟩
  · intro ct hct
    obtain ⟨bytes, hsound⟩ := hcaptured ct hct
    exact ⟨bytes, .inr ⟨ct, hct, hsound⟩, hsound⟩

end Response

lemma shapes_of_describe {env : InspectEnv T}
    (hdescribed : List.Forall₂ (Describes lib env consumer region) captured tensors) :
    tensors.map TensorSummary.shape = captured.map CapturedTensor.shape := by
  induction hdescribed with
  | nil => rfl
  | cons hfirst _ ih => rw [List.map_cons, List.map_cons, hfirst.shape, ih]

/-! ## Four bytes -/

/-- Bytes named by their text, and a heap that keeps its entries in a list. -/
def plainLibrary : InspectLibrary where
  hash := Base64.encodeText
  heap := ⟨fun entries entry => entries ++ [entry], List.tail⟩

/-- Four bytes as a tensor of the given shape, in the reply. -/
def fourBytes (shape : List ℕ) : CapturedTensor where
  modulePath := "layers.0.o_proj"
  canonical := "o_proj"
  layer := 0
  shape := shape
  dtype := "uint8"
  device := "cpu"
  tensorId := Base64.encodeText [1, 2, 3, 4]
  shmName := none
  shmOffset := none
  byteLength := none
  dataBase64 := some (Base64.encodeText [1, 2, 3, 4])

/-- A session that has been attached and has no ring. -/
def attachedWithoutRing : InspectState Unit where
  daemon := opened (Bridge.quiet fun _ => [])
  shared := ⟨none, ⟨fun _ => 0, 0⟩⟩
  shmConsumer := none
  store := .new

def calmInspect : InspectEnv Unit where
  bridge := {
    tensorShape := fun _ => .ok [4]
    headSlice := fun tensor _ _ => .ok tensor
    tensorToBytes := fun _ => .ok [1, 2, 3, 4]
    tensorDtype := fun _ => .ok "uint8"
    tensorDevice := fun _ => .ok "cpu"
    dims_pos := by
      intro tensor bytes shape _ hshape _ dim hdim
      cases hshape
      rw [List.mem_singleton.mp hdim]
      decide }
  transport := .delivered
  decodeError := id

/-- A request for the summaries of one component. -/
def summaryRequest : Params InspectRequest :=
  .valid ⟨"llama:0:0:o_proj:output", .summary, none, .full⟩

/-- The answer when the four bytes are captured in the given shapes. -/
def answerFor (shapes : List (List ℕ)) :
    Except InspectFailure InspectResponse × InspectState Unit :=
  handleInspect plainLibrary calmInspect attachedWithoutRing summaryRequest
    (some ⟨shapes.map fourBytes⟩)

lemma capturedSound_fourBytes (shape : List ℕ) :
    CapturedSound plainLibrary calmInspect none ⟨fun _ => 0, 0⟩ (fourBytes shape) [1, 2, 3, 4] :=
  ⟨rfl, ⟨_, by
    simp only [readCaptured, fourBytes]
    rw [Base64.decodeText_encodeText]⟩, rfl⟩

/-- Two tensors are described, of which the second finds the first stored alike. -/
theorem summaries_describe_fourBytes : ∃ response, (answerFor [[4], [4]]).1 = .ok response ∧
    List.Forall₂ (Describes plainLibrary calmInspect none ⟨fun _ => 0, 0⟩)
      [fourBytes [4], fourBytes [4]] response.tensors := by
  have hok : (answerFor [[4], [4]]).1.isOk = true := by decide +kernel
  obtain ⟨response, hresponse⟩ := exists_ok_of_isOk hok
  have hinj : Set.InjOn plainLibrary.hash
      (bytesInvolved plainLibrary calmInspect attachedWithoutRing [fourBytes [4], fourBytes [4]]) :=
    Base64.encodeText_injective.injOn
  have halike : Along (ingested plainLibrary calmInspect none ⟨fun _ => 0, 0⟩) StoredAlike
      TensorStore.new [fourBytes [4], fourBytes [4]] := by
    refine ⟨fun entry hentry => (nomatch hentry), ?_, trivial⟩
    have hstored : (FMap.get (ingested plainLibrary calmInspect none ⟨fun _ => 0, 0⟩ TensorStore.new
        (fourBytes [4])).entries (fourBytes [4]).tensorId).all (fun entry =>
          entry.shape = [4] ∧ some entry.dtype = parseDtype "uint8" ∧ entry.device = "cpu") = true := by
      decide +kernel
    intro entry hentry
    rw [hentry] at hstored
    exact of_decide_eq_true hstored
  have hanswer : answerFor [[4], [4]] = (.ok response, (answerFor [[4], [4]]).2) := by
    rw [← hresponse]
  have hsound : ∀ ct ∈ [fourBytes [4], fourBytes [4]],
      ∃ bytes, CapturedSound plainLibrary calmInspect none ⟨fun _ => 0, 0⟩ ct bytes := by
    intro ct hct
    simp only [List.mem_cons, List.not_mem_nil, or_false, or_self] at hct
    exact ⟨_, hct ▸ capturedSound_fourBytes [4]⟩
  exact ⟨response, hresponse, (summaries_describe_iff (.new _ _) hsound hinj hanswer).mpr halike⟩

/-- The second of two tensors of the same bytes is described as the first one. -/
theorem not_describe_two_shapes : ∃ response, (answerFor [[4], [2, 2]]).1 = .ok response ∧
    ¬ List.Forall₂ (Describes plainLibrary calmInspect none ⟨fun _ => 0, 0⟩)
      [fourBytes [4], fourBytes [2, 2]] response.tensors := by
  have hshapes : (answerFor [[4], [2, 2]]).1.toOption.map
      (fun response => response.tensors.map TensorSummary.shape) = some [[4], [4]] := by
    decide +kernel
  cases hanswer : (answerFor [[4], [2, 2]]).1 with
  | error failure =>
    rw [hanswer] at hshapes
    cases hshapes
  | ok response =>
    rw [hanswer] at hshapes
    refine ⟨response, rfl, fun hdescribes => ?_⟩
    have hsaid : [[4], [2, 2]] = [[4], [4]] :=
      (shapes_of_describe hdescribes).symm.trans (Option.some.inj hshapes)
    exact absurd hsaid (by decide)

end RocketSurgeon.Daemon
