import RocketSurgeon.Daemon.TensorStats
import RocketSurgeon.Lib.FiniteMap

/-!
# The tensor store

Captured tensors by the hash of their bytes.  The store holds a limited number of entries and of
bytes and evicts the entry that was accessed longest ago.  A tensor that is stored already is
not stored again: what was first said about its bytes stays.

`blake3` is a parameter, `hash`.  Clock readings are left out.
-/

namespace RocketSurgeon.Daemon

open Lib Protocol FMap

structure StoredTensor where
  tensorId : String
  shape : List ℕ
  dtype : DType
  device : String
  data : List UInt8
  summary : Option (TensorStats FloatValue × List (TopKEntry FloatValue))
  lastAccessGen : ℕ

structure TensorStore where
  entries : List (String × StoredTensor)
  accessGeneration : ℕ
  maxEntries : ℕ
  maxBytes : ℕ
  currentBytes : ℕ

inductive StoreError
  | notFound (tensorId : String)
  | sliceOutOfBounds (offset len dataLen : ℕ)
  deriving DecidableEq, Repr

namespace TensorStore

def defaultMaxEntries : ℕ := 1024
def defaultMaxBytes : ℕ := 2 * 1024 * 1024 * 1024

def withLimits (maxEntries maxBytes : ℕ) : TensorStore := ⟨[], 0, maxEntries, maxBytes, 0⟩

def new : TensorStore := withLimits defaultMaxEntries defaultMaxBytes

def contains (store : TensorStore) (tensorId : String) : Bool :=
  (FMap.get store.entries tensorId).isSome

/-- The entry of least generation. -/
def oldest : List (String × StoredTensor) → Option (String × StoredTensor)
  | [] => none
  | entry :: rest =>
      match oldest rest with
      | none => some entry
      | some least => if entry.2.lastAccessGen ≤ least.2.lastAccessGen then some entry else some least

def evictOldest (store : TensorStore) : TensorStore :=
  match oldest store.entries with
  | none => store
  | some (id, removed) => { store with
      entries := FMap.remove store.entries id
      currentBytes := store.currentBytes - removed.data.length }

/-- Evict until there is room for `dataLen` bytes, at most `fuel` times. -/
def evictFor (dataLen : ℕ) : ℕ → TensorStore → TensorStore
  | 0, store => store
  | fuel + 1, store =>
      if store.entries ≠ [] ∧ (store.maxEntries ≤ store.entries.length ∨
          store.maxBytes < store.currentBytes + dataLen) then
        evictFor dataLen fuel store.evictOldest
      else store

/-- Give an entry the current generation. -/
def touch (store : TensorStore) (tensorId : String) : Option (StoredTensor × TensorStore) :=
  (FMap.get store.entries tensorId).map fun entry =>
    let entry := { entry with lastAccessGen := store.accessGeneration }
    (entry, { store with
      entries := FMap.insert store.entries tensorId entry
      accessGeneration := store.accessGeneration + 1 })

def insertWithId (store : TensorStore) (tensorId : String) (data : List UInt8) (shape : List ℕ)
    (dtype : DType) (device : String) : TensorHandle × TensorStore :=
  match store.touch tensorId with
  | some (existing, store) => (⟨tensorId, existing.shape, existing.dtype⟩, store)
  | none =>
      let store := evictFor data.length store.entries.length store
      (⟨tensorId, shape, dtype⟩, { store with
        entries := FMap.insert store.entries tensorId
          ⟨tensorId, shape, dtype, device, data, none, store.accessGeneration⟩
        accessGeneration := store.accessGeneration + 1
        currentBytes := store.currentBytes + data.length })

/-- The same under the hash of the bytes. -/
def insert (hash : List UInt8 → String) (store : TensorStore) (data : List UInt8) (shape : List ℕ)
    (dtype : DType) (device : String) : TensorHandle × TensorStore :=
  store.insertWithId (hash data) data shape dtype device

def get (store : TensorStore) (tensorId : String) : Option StoredTensor × TensorStore :=
  match store.touch tensorId with
  | some (entry, store) => (some entry, store)
  | none => (none, store)

def rawData (store : TensorStore) (tensorId : String) : Option (List UInt8) × TensorStore :=
  match store.touch tensorId with
  | some (entry, store) => (some entry.data, store)
  | none => (none, store)

/-- The summary of an entry, computed once; an error is a panic of the computation. -/
def summarize (heap : BinaryHeap (TopKHeapEntry FloatValue)) (store : TensorStore)
    (tensorId : String) : Except String (Option TensorSummary × TensorStore) :=
  match store.touch tensorId with
  | none => .ok (none, store)
  | some (entry, store) =>
      match entry.summary.or (computeSummary heap entry.data entry.dtype entry.shape) with
      | none => .error "attempt to calculate the remainder with a divisor of zero"
      | some (stats, topK) =>
          .ok (some ⟨entry.tensorId, entry.shape, entry.dtype, entry.device, stats, topK⟩,
            { store with
              entries := FMap.insert store.entries tensorId
                { entry with summary := some (stats, topK) } })

def slice (store : TensorStore) (tensorId : String) (offset len : ℕ) :
    Except StoreError (List UInt8) × TensorStore :=
  match store.touch tensorId with
  | none => (.error (.notFound tensorId), store)
  | some (entry, store) =>
      if 2 ^ 64 ≤ offset + len ∨ entry.data.length < offset + len then
        (.error (.sliceOutOfBounds offset len entry.data.length), store)
      else (.ok ((entry.data.drop offset).take len), store)

/-! ## What an operation does to an entry

An operation may give an entry a new generation and may add its summary; what the entry says
about its tensor stays.
-/

variable {heap : BinaryHeap (TopKHeapEntry FloatValue)} {store store' : TensorStore}
  {tensorId : String} {old entry : StoredTensor}

/-- An entry as it was, but for its generation and a summary that has been computed. -/
structure Refreshed (heap : BinaryHeap (TopKHeapEntry FloatValue)) (old entry : StoredTensor) :
    Prop where
  tensorId : entry.tensorId = old.tensorId
  shape : entry.shape = old.shape
  dtype : entry.dtype = old.dtype
  device : entry.device = old.device
  data : entry.data = old.data
  summary : entry.summary = old.summary ∨
    entry.summary = computeSummary heap old.data old.dtype old.shape

lemma refreshed_of_touched (hentry : entry = { old with lastAccessGen := gen }) :
    Refreshed heap old entry := by
  subst hentry
  exact ⟨rfl, rfl, rfl, rfl, rfl, .inl rfl⟩

/-- Every entry of a store, but the one under `tensorId`, was there before. -/
def KeptBut (tensorId : String) (store store' : TensorStore) : Prop :=
  ∀ id ≠ tensorId, ∀ entry, FMap.get store'.entries id = some entry →
    FMap.get store.entries id = some entry

lemma keptBut_of_insert
    (hentries : store'.entries = FMap.insert store.entries tensorId entry) :
    KeptBut tensorId store store' := by
  intro id hid found hfound
  rwa [hentries, get_insert_of_ne _ _ hid] at hfound

lemma get_evictOldest {id : String}
    (hget : FMap.get store.evictOldest.entries id = some entry) :
    FMap.get store.entries id = some entry := by
  unfold evictOldest at hget
  split at hget
  · exact hget
  · rw [remove, get_retain] at hget
    split_ifs at hget
    exact hget

lemma get_evictFor {id : String}
    (hget : FMap.get (evictFor dataLen fuel store).entries id = some entry) :
    FMap.get store.entries id = some entry := by
  induction fuel generalizing store with
  | zero => exact hget
  | succ fuel ih =>
    rw [evictFor] at hget
    split_ifs at hget
    · exact get_evictOldest (ih hget)
    · exact hget

lemma touch_eq_some (htouch : store.touch tensorId = some (entry, store')) :
    ∃ old, FMap.get store.entries tensorId = some old ∧
      entry = { old with lastAccessGen := store.accessGeneration } ∧
      store'.entries = FMap.insert store.entries tensorId entry := by
  obtain ⟨old, hold, hpair⟩ := Option.map_eq_some_iff.mp htouch
  cases hpair
  exact ⟨old, hold, rfl, rfl⟩

lemma touch_eq_none : store.touch tensorId = none ↔ FMap.get store.entries tensorId = none :=
  Option.map_eq_none_iff

lemma insertWithId_handle (data : List UInt8) (shape : List ℕ) (dtype : DType) (device : String) :
    (store.insertWithId tensorId data shape dtype device).1.tensorId = tensorId := by
  unfold insertWithId
  split
  · rfl
  · rfl

lemma insertWithId_cases (data : List UInt8) (shape : List ℕ) (dtype : DType) (device : String)
    (hinsert : (store.insertWithId tensorId data shape dtype device).2 = store') :
    KeptBut tensorId store store' ∧
      ((∃ old entry, FMap.get store.entries tensorId = some old ∧
          FMap.get store'.entries tensorId = some entry ∧ Refreshed heap old entry) ∨
        FMap.get store.entries tensorId = none ∧ ∃ gen, FMap.get store'.entries tensorId =
          some ⟨tensorId, shape, dtype, device, data, none, gen⟩) := by
  subst hinsert
  unfold insertWithId
  cases htouch : store.touch tensorId with
  | some touched =>
    obtain ⟨entry, store'⟩ := touched
    obtain ⟨old, hold, hentry, hentries⟩ := touch_eq_some htouch
    refine ⟨keptBut_of_insert hentries, .inl ⟨old, entry, hold, ?_, refreshed_of_touched hentry⟩⟩
    rw [hentries, get_insert_self]
  | none =>
    refine ⟨?_, .inr ⟨touch_eq_none.mp htouch, _, get_insert_self _ _ _⟩⟩
    intro id hid found hfound
    rw [get_insert_of_ne _ _ hid] at hfound
    exact get_evictFor hfound

lemma summarize_eq_ok (hsum : store.summarize heap tensorId = .ok (answer, store')) :
    KeptBut tensorId store store' ∧
      (FMap.get store.entries tensorId = none ∧ answer = none ∧
          FMap.get store'.entries tensorId = none ∨
        ∃ old entry stats topK, FMap.get store.entries tensorId = some old ∧
          FMap.get store'.entries tensorId = some entry ∧ Refreshed heap old entry ∧
          old.summary.or (computeSummary heap old.data old.dtype old.shape) = some (stats, topK) ∧
          answer = some ⟨old.tensorId, old.shape, old.dtype, old.device, stats, topK⟩) := by
  unfold summarize at hsum
  cases htouch : store.touch tensorId with
  | none =>
    rw [htouch] at hsum
    cases hsum
    have hnone := touch_eq_none.mp htouch
    exact ⟨fun _ _ _ hget => hget, .inl ⟨hnone, rfl, hnone⟩⟩
  | some touched =>
    obtain ⟨entry, touchedStore⟩ := touched
    obtain ⟨old, hold, rfl, hentries⟩ := touch_eq_some htouch
    rw [htouch] at hsum
    simp only at hsum
    cases hcomputed : old.summary.or (computeSummary heap old.data old.dtype old.shape) with
    | none =>
      rw [hcomputed] at hsum
      cases hsum
    | some computed =>
      rw [hcomputed] at hsum
      cases hsum
      have hcached : some computed = old.summary ∨
          some computed = computeSummary heap old.data old.dtype old.shape := by
        rcases Option.or_eq_some_iff.mp hcomputed with hcached | ⟨-, hfresh⟩
        · exact .inl hcached.symm
        · exact .inr hfresh.symm
      refine ⟨?_, .inr ⟨old, _, computed.1, computed.2, hold, get_insert_self _ _ _,
        ⟨rfl, rfl, rfl, rfl, rfl, hcached⟩, hcomputed, rfl⟩⟩
      intro id hid found hfound
      rw [get_insert_of_ne _ _ hid] at hfound
      exact keptBut_of_insert hentries id hid found hfound

/-! ## What holds of every entry -/

def All (p : String → StoredTensor → Prop) (store : TensorStore) : Prop :=
  ∀ id entry, FMap.get store.entries id = some entry → p id entry

section All

variable {p : String → StoredTensor → Prop}

lemma all_withLimits (maxEntries maxBytes : ℕ) : All p (withLimits maxEntries maxBytes) := by
  intro id entry hget
  cases hget

lemma All.of_keptBut (hall : store.All p) (hkept : KeptBut tensorId store store')
    (hentry : ∀ entry, FMap.get store'.entries tensorId = some entry → p tensorId entry) :
    store'.All p := by
  intro id entry hget
  by_cases hid : id = tensorId
  · exact hid ▸ hentry entry (hid ▸ hget)
  · exact hall id entry (hkept id hid entry hget)

variable (hrefresh : ∀ id old entry, p id old → Refreshed heap old entry → p id entry)

include hrefresh

lemma All.insertWithId (hall : store.All p) {data : List UInt8} {shape : List ℕ} {dtype : DType}
    {device : String} (hnew : FMap.get store.entries tensorId = none → ∀ gen,
      p tensorId ⟨tensorId, shape, dtype, device, data, none, gen⟩) :
    (store.insertWithId tensorId data shape dtype device).2.All p := by
  obtain ⟨hkept, ⟨old, entry, hold, hentry, hsame⟩ | ⟨hnone, gen, hentry⟩⟩ :=
    @insertWithId_cases heap store _ tensorId data shape dtype device rfl
  · refine hall.of_keptBut hkept fun found hfound => ?_
    cases hentry.symm.trans hfound
    exact hrefresh _ _ _ (hall _ _ hold) hsame
  · refine hall.of_keptBut hkept fun found hfound => ?_
    cases hentry.symm.trans hfound
    exact hnew hnone gen

lemma All.summarize (hall : store.All p) {answer : Option TensorSummary}
    (hsum : store.summarize heap tensorId = .ok (answer, store')) : store'.All p := by
  obtain ⟨hkept, ⟨-, -, hnone⟩ | ⟨old, entry, stats, topK, hold, hentry, hsame, -, -⟩⟩ :=
    summarize_eq_ok hsum
  · refine hall.of_keptBut hkept fun found hfound => ?_
    cases hnone.symm.trans hfound
  · refine hall.of_keptBut hkept fun found hfound => ?_
    cases hentry.symm.trans hfound
    exact hrefresh _ _ _ (hall _ _ hold) hsame

lemma All.touch (hall : store.All p) (htouch : store.touch tensorId = some (entry, store')) :
    store'.All p := by
  obtain ⟨old, hold, rfl, hentries⟩ := touch_eq_some htouch
  refine hall.of_keptBut (keptBut_of_insert hentries) fun found hfound => ?_
  rw [hentries, get_insert_self] at hfound
  cases hfound
  exact hrefresh _ _ _ (hall _ _ hold) (refreshed_of_touched rfl)

lemma All.get (hall : store.All p) : (store.get tensorId).2.All p := by
  unfold TensorStore.get
  cases htouch : store.touch tensorId with
  | none => exact hall
  | some touched => exact hall.touch hrefresh htouch

lemma All.rawData (hall : store.All p) : (store.rawData tensorId).2.All p := by
  unfold TensorStore.rawData
  cases htouch : store.touch tensorId with
  | none => exact hall
  | some touched => exact hall.touch hrefresh htouch

lemma All.slice (hall : store.All p) (off len : ℕ) :
    (store.slice tensorId off len).2.All p := by
  unfold TensorStore.slice
  cases htouch : store.touch tensorId with
  | none => exact hall
  | some touched =>
    have htouched := hall.touch hrefresh htouch
    dsimp only
    split_ifs
    · exact htouched
    · exact htouched

end All

end TensorStore

end RocketSurgeon.Daemon
