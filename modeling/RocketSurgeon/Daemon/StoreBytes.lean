import RocketSurgeon.Daemon.TensorStore

/-!
# The bytes of the tensor store

The store counts the bytes it holds.  An eviction takes those of the removed entry off the count,
which is exact: the count is the sum over the entries, and no id has two of them.
-/

namespace RocketSurgeon.Daemon

open Lib Protocol FMap

namespace TensorStore

/-- The bytes of some entries. -/
def bytesOf (entries : List (String × StoredTensor)) : ℕ :=
  (entries.map fun entry => entry.2.data.length).sum

lemma bytesOf_cons (entry : String × StoredTensor) (entries : List (String × StoredTensor)) :
    bytesOf (entry :: entries) = entry.2.data.length + bytesOf entries := by
  rw [bytesOf, List.map_cons, List.sum_cons, bytesOf]

lemma bytesOf_perm {entries : List (String × StoredTensor)} (hperm : entries.Perm entries') :
    bytesOf entries = bytesOf entries' :=
  (hperm.map _).sum_eq

/-- The count is the sum over the entries. -/
structure Counted (store : TensorStore) : Prop where
  keys : (store.entries.map Prod.fst).Nodup
  bytes : store.currentBytes = bytesOf store.entries

variable {heap : BinaryHeap (TopKHeapEntry FloatValue)} {store store' : TensorStore}
  {tid : String} {entry : StoredTensor}

lemma counted_withLimits (maxEntries maxBytes : ℕ) : Counted (withLimits maxEntries maxBytes) :=
  ⟨List.nodup_nil, rfl⟩

lemma mem_of_oldest {entries : List (String × StoredTensor)}
    (holdest : oldest entries = some least) : least ∈ entries := by
  induction entries generalizing least with
  | nil => cases holdest
  | cons entry rest ih =>
    rw [oldest] at holdest
    split at holdest
    · cases holdest
      exact List.mem_cons_self
    next least' hrest =>
      split at holdest
      · cases holdest
        exact List.mem_cons_self
      · cases holdest
        exact List.mem_cons_of_mem _ (ih hrest)

namespace Counted

variable (hcount : store.Counted)

include hcount

lemma split (hentry : FMap.get store.entries tid = some entry) :
    store.currentBytes = entry.data.length + bytesOf (remove store.entries tid) := by
  rw [hcount.bytes, bytesOf_perm (perm_remove hcount.keys hentry), bytesOf_cons]

lemma replace (hold : FMap.get store.entries tid = some old)
    (hentries : store'.entries = FMap.insert store.entries tid entry)
    (hbytes : store'.currentBytes = store.currentBytes) (hdata : entry.data = old.data) :
    store'.Counted := by
  refine ⟨?_, ?_⟩
  · rw [hentries]
    exact nodup_keys_insert hcount.keys tid entry
  · rw [hbytes, hcount.split hold, hentries, FMap.insert, bytesOf_cons, hdata]

lemma touch (htouch : store.touch tid = some (entry, store')) : store'.Counted := by
  obtain ⟨old, hold, hpair⟩ := Option.map_eq_some_iff.mp htouch
  cases hpair
  exact hcount.replace hold rfl rfl rfl

lemma length_le_of_oldest {id : String} (holdest : oldest store.entries = some (id, removed)) :
    FMap.get store.entries id = some removed ∧ removed.data.length ≤ store.currentBytes := by
  have hremoved := get_of_mem hcount.keys (mem_of_oldest holdest)
  refine ⟨hremoved, ?_⟩
  rw [hcount.split hremoved]
  exact Nat.le_add_right _ _

lemma evictOldest : store.evictOldest.Counted := by
  unfold TensorStore.evictOldest
  split
  · exact hcount
  next id removed holdest =>
    obtain ⟨hremoved, -⟩ := hcount.length_le_of_oldest holdest
    refine ⟨?_, ?_⟩
    · dsimp only
      exact nodup_keys_retain hcount.keys _
    · dsimp only
      rw [hcount.split hremoved, Nat.add_sub_cancel_left]

lemma evictFor (dataLen fuel : ℕ) : (TensorStore.evictFor dataLen fuel store).Counted := by
  induction fuel generalizing store with
  | zero => exact hcount
  | succ fuel ih =>
    rw [TensorStore.evictFor]
    split
    · exact ih hcount.evictOldest
    · exact hcount

lemma insertWithId (data : List UInt8) (shape : List ℕ) (dtype : DType) (device : String) :
    (store.insertWithId tid data shape dtype device).2.Counted := by
  unfold TensorStore.insertWithId
  cases htouch : store.touch tid with
  | some touched => exact hcount.touch htouch
  | none =>
    have hevicted := hcount.evictFor data.length store.entries.length
    have habsent : FMap.get (TensorStore.evictFor data.length store.entries.length store).entries
        tid = none := by
      refine Option.eq_none_iff_forall_ne_some.mpr fun entry hentry => ?_
      cases (touch_eq_none.mp htouch).symm.trans (get_evictFor hentry)
    refine ⟨nodup_keys_insert hevicted.keys _ _, ?_⟩
    dsimp only
    rw [FMap.insert, bytesOf_cons, remove_eq_self habsent, hevicted.bytes, Nat.add_comm]

end Counted

end TensorStore

end RocketSurgeon.Daemon
