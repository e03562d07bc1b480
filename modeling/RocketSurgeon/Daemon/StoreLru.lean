import RocketSurgeon.Daemon.StoreBytes
import RocketSurgeon.Lib.Lru

/-!
# The tensor store as a cache

The store marks every access with a generation and evicts the entry of least generation.  As
generations only grow, an entry that is accessed is marked higher than all others: the entries, the
one accessed last in front, have descending generations, and the least one is the last.  So the
store is a cache that drops what was used longest ago.
-/

namespace RocketSurgeon.Daemon

open Lib Protocol List FMap TensorStore

/-- A call of the store. -/
inductive StoreCall
  | insert (data : List UInt8) (shape : List ℕ) (dtype : DType) (device : String)
  | insertWithId (tensorId : String) (data : List UInt8) (shape : List ℕ) (dtype : DType)
      (device : String)
  | get (tensorId : String)
  | rawData (tensorId : String)
  | summarize (tensorId : String)
  | slice (tensorId : String) (offset len : ℕ)

namespace TensorStore

/-- The store after a call.  A summary that cannot be computed panics, with the entry accessed. -/
def perform (hash : List UInt8 → String) (heap : BinaryHeap (TopKHeapEntry FloatValue))
    (store : TensorStore) : StoreCall → TensorStore
  | .insert data shape dtype device => (store.insert hash data shape dtype device).2
  | .insertWithId tensorId data shape dtype device =>
      (store.insertWithId tensorId data shape dtype device).2
  | .get tensorId => (store.get tensorId).2
  | .rawData tensorId => (store.rawData tensorId).2
  | .summarize tensorId =>
      match store.summarize heap tensorId with
      | .ok (_, store') => store'
      | .error _ => (store.get tensorId).2
  | .slice tensorId offset len => (store.slice tensorId offset len).2

/-- The call of the cache: every call but an insert uses the item of its id. -/
def cacheCall (hash : List UInt8 → String) : StoreCall → Lru.Call String
  | .insert data _ _ _ => .put (hash data) data.length
  | .insertWithId tensorId data _ _ _ => .put tensorId data.length
  | .get tensorId => .use tensorId
  | .rawData tensorId => .use tensorId
  | .summarize tensorId => .use tensorId
  | .slice tensorId _ _ => .use tensorId

def limits (store : TensorStore) : Lru.Limits := ⟨store.maxEntries, store.maxBytes⟩

/-- The ids of some entries with the lengths of their data. -/
def items (entries : List (String × StoredTensor)) : List (String × ℕ) :=
  entries.map fun entry => (entry.1, entry.2.data.length)

variable {hash : List UInt8 → String} {heap : BinaryHeap (TopKHeapEntry FloatValue)}
  {store store' : TensorStore} {tensorId : String} {entry : StoredTensor}
  {entries : List (String × StoredTensor)}

@[simp] lemma length_items : (items entries).length = entries.length := length_map _

@[simp] lemma total_items : Lru.total (items entries) = bytesOf entries := by
  rw [Lru.total, items, map_map, bytesOf]
  rfl

@[simp] lemma keys_items : (items entries).map Prod.fst = entries.map Prod.fst := by
  rw [items, map_map]
  rfl

lemma items_insert (entries : List (String × StoredTensor)) (tensorId : String)
    (entry : StoredTensor) :
    items (FMap.insert entries tensorId entry) =
      FMap.insert (items entries) tensorId entry.data.length := by
  rw [FMap.insert, FMap.insert, items, items, map_cons,
    remove_map fun entry : StoredTensor => entry.data.length]

/-! ## Generations -/

/-- What the store keeps: its count of bytes, its ids, and generations that descend from the entry
accessed last. -/
structure Recency (store : TensorStore) : Prop where
  counted : store.Counted
  ids : ∀ entry ∈ store.entries, entry.2.tensorId = entry.1
  descending : store.entries.Pairwise fun newer older =>
    older.2.lastAccessGen < newer.2.lastAccessGen
  below : ∀ entry ∈ store.entries, entry.2.lastAccessGen < store.accessGeneration

lemma recency_withLimits (maxEntries maxBytes : ℕ) :
    (withLimits maxEntries maxBytes).Recency where
  counted := counted_withLimits maxEntries maxBytes
  ids := forall_mem_nil _
  descending := .nil
  below := forall_mem_nil _

lemma Recency.insert (hrecency : store.Recency)
    (hentries : store'.entries = FMap.insert store.entries tensorId entry)
    (hclock : store'.accessGeneration = store.accessGeneration + 1)
    (hgeneration : entry.lastAccessGen = store.accessGeneration) (hid : entry.tensorId = tensorId)
    (hcount : store'.Counted) : store'.Recency := by
  have hothers : ∀ other ∈ remove store.entries tensorId, other ∈ store.entries :=
    fun _ hother => mem_of_mem_filter hother
  refine ⟨hcount, ?_, ?_, ?_⟩
  · rw [hentries]
    exact forall_mem_cons.mpr ⟨hid, fun other hother => hrecency.ids other (hothers other hother)⟩
  · rw [hentries]
    refine pairwise_cons.mpr ⟨fun other hother => ?_, hrecency.descending.filter _⟩
    rw [hgeneration]
    exact hrecency.below other (hothers other hother)
  · rw [hentries, hclock]
    refine forall_mem_cons.mpr ⟨hgeneration ▸ Nat.lt_succ_self _, fun other hother => ?_⟩
    exact (hrecency.below other (hothers other hother)).trans (Nat.lt_succ_self _)

lemma oldest_concat
    (hdescending : (entries ++ [last]).Pairwise fun newer older =>
      older.2.lastAccessGen < newer.2.lastAccessGen) :
    oldest (entries ++ [last]) = some last := by
  induction entries with
  | nil => rfl
  | cons entry rest ih =>
    rw [cons_append, pairwise_cons] at hdescending
    have hlast := hdescending.1 last (by simp)
    rw [cons_append, oldest, ih hdescending.2]
    exact if_neg (not_le.mpr hlast)

lemma Recency.evictOldest_concat (hrecency : store.Recency)
    (hentries : store.entries = entries ++ [last]) :
    store.evictOldest.entries = entries := by
  have hdescending := hrecency.descending
  have hkeys := hrecency.counted.keys
  rw [hentries] at hdescending hkeys
  rw [map_append, nodup_append] at hkeys
  unfold evictOldest
  rw [hentries, oldest_concat hdescending]
  dsimp only
  rw [remove, retain, filter_append, filter_cons_of_neg (by simp),
    filter_nil, append_nil]
  refine filter_eq_self.mpr fun entry hentry => decide_eq_true ?_
  exact hkeys.2.2 entry.1 (mem_map_of_mem hentry) last.1 (by simp)

lemma Recency.evictOldest (hrecency : store.Recency) : store.evictOldest.Recency := by
  have hcount := hrecency.counted.evictOldest
  unfold TensorStore.evictOldest at hcount ⊢
  split at hcount
  · exact hrecency
  · exact ⟨hcount, fun entry hentry => hrecency.ids entry (mem_of_mem_filter hentry),
      hrecency.descending.filter _, fun entry hentry =>
        hrecency.below entry (mem_of_mem_filter hentry)⟩

lemma Recency.evictFor (hrecency : store.Recency) (dataLen fuel : ℕ) :
    (evictFor dataLen fuel store).Recency := by
  induction fuel generalizing store with
  | zero => exact hrecency
  | succ fuel ih =>
    rw [TensorStore.evictFor]
    split
    · exact ih hrecency.evictOldest
    · exact hrecency

lemma evictOldest_fixed (store : TensorStore) :
    store.evictOldest.limits = store.limits ∧
      store.evictOldest.accessGeneration = store.accessGeneration := by
  unfold evictOldest
  split
  · exact ⟨rfl, rfl⟩
  · exact ⟨rfl, rfl⟩

lemma evictFor_fixed (store : TensorStore) (dataLen fuel : ℕ) :
    (evictFor dataLen fuel store).limits = store.limits ∧
      (evictFor dataLen fuel store).accessGeneration = store.accessGeneration := by
  induction fuel generalizing store with
  | zero => exact ⟨rfl, rfl⟩
  | succ fuel ih =>
    rw [evictFor]
    split
    · obtain ⟨hlimits, hclock⟩ := evictOldest_fixed store
      rw [← hlimits, ← hclock]
      exact ih store.evictOldest
    · exact ⟨rfl, rfl⟩

/-- Evicting makes room as the cache does. -/
lemma Recency.items_evictFor (hrecency : store.Recency) (dataLen : ℕ)
    (hfuel : store.entries.length ≤ fuel) :
    items (TensorStore.evictFor dataLen fuel store).entries =
      Lru.makeRoom store.limits dataLen (items store.entries) := by
  induction fuel generalizing store with
  | zero =>
    have hnone := length_eq_zero_iff.mp (Nat.le_zero.mp hfuel)
    rw [TensorStore.evictFor, hnone]
    rfl
  | succ fuel ih =>
    rw [TensorStore.evictFor]
    rcases eq_nil_or_concat' store.entries with hnone | ⟨newer, last, hconcat⟩
    · rw [if_neg fun hfull => hfull.1 hnone, hnone]
      rfl
    · have hsplit : items store.entries = items newer ++ [(last.1, last.2.data.length)] := by
        rw [hconcat, items, items, map_append]
        rfl
      have hallow : store.limits.Allow dataLen (items newer ++ [(last.1, last.2.data.length)]) ↔
          store.entries.length < store.maxEntries ∧
            store.currentBytes + dataLen ≤ store.maxBytes := by
        rw [← hsplit, Lru.Limits.Allow, length_items, total_items, ← hrecency.counted.bytes]
        rfl
      have hsome : store.entries ≠ [] := by simp [hconcat]
      rw [hsplit, Lru.makeRoom_concat]
      by_cases hroom : store.limits.Allow dataLen (items newer ++ [(last.1, last.2.data.length)])
      · rw [if_pos hroom, if_neg, hsplit]
        rintro ⟨-, hfull⟩
        obtain ⟨hcount, hbytes⟩ := hallow.mp hroom
        omega
      · rw [if_neg hroom, if_pos ⟨hsome, by rw [hallow] at hroom; omega⟩]
        have hevicted := hrecency.evictOldest_concat hconcat
        have hlen : store.evictOldest.entries.length ≤ fuel := by
          rw [hconcat, length_append, length_singleton] at hfuel
          rw [hevicted]
          omega
        rw [ih hrecency.evictOldest hlen, hevicted, (evictOldest_fixed store).1]

/-! ## One call -/

/-- An access: the entry gets a fresh generation and keeps its id and its data. -/
def Accessed (store : TensorStore) (tensorId : String) (store' : TensorStore) : Prop :=
  ∃ old entry, FMap.get store.entries tensorId = some old ∧ entry.tensorId = old.tensorId ∧
    entry.data = old.data ∧ entry.lastAccessGen = store.accessGeneration ∧
    store' = { store with
      entries := FMap.insert store.entries tensorId entry
      accessGeneration := store.accessGeneration + 1 }

lemma accessed_of_touch (htouch : store.touch tensorId = some (entry, store')) :
    store.Accessed tensorId store' := by
  obtain ⟨old, hold, hpair⟩ := Option.map_eq_some_iff.mp htouch
  cases hpair
  exact ⟨old, { old with lastAccessGen := store.accessGeneration }, hold, rfl, rfl, rfl, rfl⟩

lemma accessed_of_summarize (hsum : store.summarize heap tensorId = .ok (answer, store')) :
    FMap.get store.entries tensorId = none ∧ store' = store ∨ store.Accessed tensorId store' := by
  unfold summarize at hsum
  cases htouch : store.touch tensorId with
  | none =>
    rw [htouch] at hsum
    cases hsum
    exact .inl ⟨touch_eq_none.mp htouch, rfl⟩
  | some touched =>
    obtain ⟨old, hold, hpair⟩ := Option.map_eq_some_iff.mp htouch
    cases hpair
    rw [htouch] at hsum
    dsimp only at hsum
    split at hsum
    · cases hsum
    next stats topK _ =>
      cases hsum
      refine .inr ⟨old, { old with
        lastAccessGen := store.accessGeneration
        summary := some (stats, topK) }, hold, rfl, rfl, rfl, ?_⟩
      rw [insert_insert]

/-- What a call does to the store: it makes the cache's step and keeps what the store keeps. -/
structure Steps (store store' : TensorStore) (call : Lru.Call String) : Prop where
  items : items store'.entries = Lru.step store.limits (items store.entries) call
  recency : store'.Recency
  limits : store'.limits = store.limits
  clock : store'.accessGeneration ≤ store.accessGeneration + 1

lemma Accessed.steps (haccessed : store.Accessed tensorId store') (hrecency : store.Recency)
    (hcall : call = .use tensorId ∨ ∃ size, call = .put tensorId size) :
    store.Steps store' call := by
  obtain ⟨old, entry, hold, hid, hdata, hgeneration, rfl⟩ := haccessed
  have hitem : FMap.get (items store.entries) tensorId = some old.data.length := by
    rw [items, get_map (fun entry : StoredTensor => entry.data.length), hold,
      Option.map_some]
  refine ⟨?_, ?_, rfl, le_rfl⟩
  · dsimp only
    rw [items_insert, hdata]
    rcases hcall with rfl | ⟨size, rfl⟩
    · rw [Lru.step, Lru.use, hitem]
    · rw [Lru.step, Lru.put, hitem]
  · refine hrecency.insert rfl rfl hgeneration ?_ (hrecency.counted.replace hold rfl rfl hdata)
    exact hid.trans (hrecency.ids _ (mem_of_get hold))

lemma steps_of_absent (hrecency : store.Recency)
    (hnone : FMap.get store.entries tensorId = none) : store.Steps store (.use tensorId) where
  items := by
    rw [Lru.step, Lru.use, items,
      get_map (fun entry : StoredTensor => entry.data.length), hnone]
    rfl
  recency := hrecency
  limits := rfl
  clock := Nat.le_succ _

lemma steps_insertWithId (hrecency : store.Recency) (data : List UInt8) (shape : List ℕ)
    (dtype : DType) (device : String) :
    store.Steps (store.insertWithId tensorId data shape dtype device).2
      (.put tensorId data.length) := by
  have hcount := @Counted.insertWithId store tensorId hrecency.counted data shape dtype device
  unfold insertWithId at hcount ⊢
  cases htouch : store.touch tensorId with
  | some touched => exact (accessed_of_touch htouch).steps hrecency (.inr ⟨_, rfl⟩)
  | none =>
    rw [htouch] at hcount
    have hnone := touch_eq_none.mp htouch
    have hevicted := hrecency.evictFor data.length store.entries.length
    obtain ⟨hlimits, hclock⟩ := evictFor_fixed store data.length store.entries.length
    have habsent : FMap.get (TensorStore.evictFor data.length store.entries.length store).entries
        tensorId = none := by
      refine Option.eq_none_iff_forall_ne_some.mpr fun entry hentry => ?_
      cases hnone.symm.trans (get_evictFor hentry)
    refine ⟨?_, hevicted.insert rfl rfl rfl rfl hcount, hlimits, ?_⟩
    · dsimp only
      rw [Lru.step, Lru.put, items, items,
        get_map (fun entry : StoredTensor => entry.data.length), hnone, Option.map_none,
        FMap.insert, remove_eq_self habsent, map_cons]
      exact congrArg _ (hrecency.items_evictFor data.length le_rfl)
    · dsimp only
      rw [hclock]

/-- **A call of the store is a step of the cache.** -/
theorem steps_perform (hrecency : store.Recency) (call : StoreCall) :
    store.Steps (store.perform hash heap call) (cacheCall hash call) := by
  -- A call that only touches an entry, if it is there.
  have htouched : ∀ tensorId, store.Steps (store.get tensorId).2 (.use tensorId) := by
    intro tensorId
    unfold get
    cases htouch : store.touch tensorId with
    | some touched => exact (accessed_of_touch htouch).steps hrecency (.inl rfl)
    | none => exact steps_of_absent hrecency (touch_eq_none.mp htouch)
  cases call with
  | insert data shape dtype device | insertWithId tensorId data shape dtype device =>
    exact steps_insertWithId hrecency data shape dtype device
  | get tensorId => exact htouched tensorId
  | rawData tensorId =>
    have hsame : (store.rawData tensorId).2 = (store.get tensorId).2 := by
      unfold rawData get
      split <;> rfl
    rw [perform, hsame]
    exact htouched tensorId
  | summarize tensorId =>
    rw [perform]
    cases hsum : store.summarize heap tensorId with
    | error msg => exact htouched tensorId
    | ok answered =>
      rcases accessed_of_summarize hsum with ⟨hnone, heq⟩ | haccessed
      · dsimp only
        rw [heq]
        exact steps_of_absent hrecency hnone
      · exact haccessed.steps hrecency (.inl rfl)
  | slice tensorId off len =>
    have hsame : (store.slice tensorId off len).2 = (store.get tensorId).2 := by
      unfold slice get
      cases store.touch tensorId with
      | none => rfl
      | some touched =>
        dsimp only
        split_ifs
        · rfl
        · rfl
    rw [perform, hsame]
    exact htouched tensorId

/-! ## Runs -/

lemma steps_run (hrecency : store.Recency) (calls : List StoreCall) :
    items (calls.foldl (perform hash heap) store).entries =
        (calls.map (cacheCall hash)).foldl (Lru.step store.limits) (items store.entries) ∧
      (calls.foldl (perform hash heap) store).Recency ∧
      (calls.foldl (perform hash heap) store).limits = store.limits ∧
      (calls.foldl (perform hash heap) store).accessGeneration ≤
        store.accessGeneration + calls.length := by
  induction calls generalizing store with
  | nil => exact ⟨rfl, hrecency, rfl, le_rfl⟩
  | cons call calls ih =>
    have hstep := @steps_perform hash heap store hrecency call
    obtain ⟨hitems, hrun, hlimits, hclock⟩ := ih hstep.recency
    have hclock' := hstep.clock
    refine ⟨?_, hrun, hlimits.trans hstep.limits, ?_⟩
    · rw [foldl_cons, hitems, hstep.items, hstep.limits]
      rfl
    · rw [foldl_cons, length_cons]
      omega

/-- The store agrees with the cache, and its books are in order. -/
structure ExactLru (store : TensorStore) (cache : List (String × ℕ)) : Prop where
  bytes : store.currentBytes = (store.entries.map fun entry => entry.2.data.length).sum
  noUnderflow : ∀ dataLen fuel id removed,
    oldest (evictFor dataLen fuel store).entries = some (id, removed) →
      removed.data.length ≤ (evictFor dataLen fuel store).currentBytes
  ownIds : ∀ id entry, (id, entry) ∈ store.entries → entry.tensorId = id
  oneEach : (store.entries.map Prod.fst).Nodup
  generations : (store.entries.map fun entry => entry.2.lastAccessGen).Nodup
  count : store.entries.length ≤ store.maxEntries
  size : store.currentBytes ≤ store.maxBytes ∨ store.entries.length = 1
  ids : ∀ id, id ∈ store.entries.map Prod.fst ↔ id ∈ cache.map Prod.fst

lemma Recency.exactLru (hrecency : store.Recency) (hsome : 1 ≤ store.maxEntries)
    (hitems : items store.entries = cache) (hvalid : Lru.Valid store.limits cache) :
    store.ExactLru cache where
  bytes := hrecency.counted.bytes
  noUnderflow := fun dataLen fuel id removed holdest =>
    ((hrecency.counted.evictFor dataLen fuel).length_le_of_oldest holdest).2
  ownIds := fun id entry hmem => hrecency.ids _ hmem
  oneEach := hrecency.counted.keys
  generations := by
    rw [nodup_iff_pairwise_ne, pairwise_map]
    exact hrecency.descending.imp fun hlt => hlt.ne'
  count := by
    rcases hitems ▸ hvalid.within with hfew | ⟨hcount, -⟩
    · rw [length_items] at hfew
      omega
    · rwa [length_items] at hcount
  size := by
    rw [hrecency.counted.bytes]
    rcases hitems ▸ hvalid.within with hfew | ⟨-, hbytes⟩
    · rw [length_items] at hfew
      rcases Nat.le_one_iff_eq_zero_or_eq_one.mp hfew with hnone | hone
      · left
        rw [length_eq_zero_iff.mp hnone]
        exact Nat.zero_le _
      · exact .inr hone
    · rw [total_items] at hbytes
      exact .inl hbytes
  ids := by
    intro id
    rw [← hitems, keys_items]

/-- **After every run of calls the tensor store has the ids of a cache that drops what was used
longest ago.** -/
theorem exactLru_run (hash : List UInt8 → String) (heap : BinaryHeap (TopKHeapEntry FloatValue))
    {maxEntries : ℕ} (hsome : 1 ≤ maxEntries) (maxBytes : ℕ) (calls : List StoreCall) :
    (calls.foldl (perform hash heap) (withLimits maxEntries maxBytes)).ExactLru
        ((calls.map (cacheCall hash)).foldl (Lru.step ⟨maxEntries, maxBytes⟩) []) ∧
      (calls.foldl (perform hash heap) (withLimits maxEntries maxBytes)).accessGeneration ≤
        calls.length := by
  obtain ⟨hitems, hrecency, hlimits, hclock⟩ := @steps_run hash heap _
    (recency_withLimits maxEntries maxBytes) calls
  have hvalid := (Lru.valid_nil ⟨maxEntries, maxBytes⟩).run (calls.map (cacheCall hash))
  refine ⟨hrecency.exactLru ?_ hitems (hlimits.symm ▸ hvalid), ?_⟩
  · rw [show (calls.foldl (perform hash heap) (withLimits maxEntries maxBytes)).maxEntries =
      maxEntries from congrArg Lru.Limits.maxItems hlimits]
    exact hsome
  · rwa [withLimits, Nat.zero_add] at hclock

/-- A tensor that is used stays, and the one after it goes. -/
theorem exactLru_run_three : 1 ≤ 2 ∧
    ([StoreCall.insertWithId "a" [1] [1] .uint8 "cpu", .insertWithId "b" [2] [1] .uint8 "cpu",
      .rawData "a", .insertWithId "c" [3] [1] .uint8 "cpu"].foldl
        (perform (fun _ => "") ⟨fun entries entry => entries ++ [entry], List.tail⟩)
        (withLimits 2 8)).ExactLru [("c", 1), ("a", 1)] :=
  ⟨by decide, (exactLru_run (fun _ => "") ⟨fun entries entry => entries ++ [entry], tail⟩
    (by decide) 8 [.insertWithId "a" [1] [1] .uint8 "cpu", .insertWithId "b" [2] [1] .uint8 "cpu",
      .rawData "a", .insertWithId "c" [3] [1] .uint8 "cpu"]).1⟩

end TensorStore

end RocketSurgeon.Daemon
