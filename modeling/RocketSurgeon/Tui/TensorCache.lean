import RocketSurgeon.Lib.FiniteMap

/-!
# The tensor cache

A map of at most `max_entries` summaries, with a queue of its keys from the
least to the most recently used.  The loop that makes room drops the key at
the front of the queue; it would spin if the queue ran out of keys before the
map had room.
-/

namespace RocketSurgeon.Tui

open Lib List

variable {K V : Type} [DecidableEq K]

structure TensorCache (K V : Type) where
  entries : List (K × V)
  order : List K
  maxEntries : ℕ

inductive Call (K V : Type)
  | get (key : K)
  | peek (key : K)
  | insert (key : K) (summary : V)

namespace TensorCache

def new (maxEntries : ℕ) : TensorCache K V := ⟨[], [], max maxEntries 1⟩

variable (cache : TensorCache K V)

def promote (key : K) : TensorCache K V :=
  if key ∈ cache.order then { cache with order := cache.order.erase key ++ [key] } else cache

def get (key : K) : Option V × TensorCache K V :=
  if (FMap.get cache.entries key).isSome then (FMap.get cache.entries key, cache.promote key)
  else (none, cache)

def peek (key : K) : Option V := FMap.get cache.entries key

/-- The loop that makes room; `none` if it has not ended after so many rounds. -/
def makeRoom : ℕ → TensorCache K V → Option (TensorCache K V)
  | 0, _ => none
  | rounds + 1, cache =>
      if cache.maxEntries ≤ cache.entries.length then
        match cache.order with
        | evicted :: order =>
            makeRoom rounds { cache with order, entries := FMap.remove cache.entries evicted }
        | [] => makeRoom rounds cache
      else some cache

def insert (rounds : ℕ) (key : K) (summary : V) : Option (TensorCache K V) :=
  if (FMap.get cache.entries key).isSome then
    some { cache.promote key with entries := FMap.insert cache.entries key summary }
  else (cache.makeRoom rounds).map fun cache =>
    { cache with
      order := cache.order ++ [key]
      entries := FMap.insert cache.entries key summary }

def step (rounds : ℕ) : Call K V → Option (TensorCache K V)
  | .get key => some (cache.get key).2
  | .peek _ => some cache
  | .insert key summary => cache.insert rounds key summary

end TensorCache

/-! ## The reference -/

/-- A cache as the list of its items from the least to the most recently used. -/
def touch (items : List (K × V)) (key : K) (summary : V) : List (K × V) :=
  FMap.remove items key ++ [(key, summary)]

/-- The items that stay when another comes. -/
def dropOldest (capacity : ℕ) (items : List (K × V)) : List (K × V) :=
  if items.length < capacity then items else items.tail

def lruStep (capacity : ℕ) (items : List (K × V)) : Call K V → List (K × V)
  | .get key =>
      match FMap.get items key with
      | some summary => touch items key summary
      | none => items
  | .peek _ => items
  | .insert key summary =>
      if (FMap.get items key).isSome then touch items key summary
      else dropOldest capacity items ++ [(key, summary)]

/-- The cache holds the items, and its queue has their keys in order. -/
structure Holds (capacity : ℕ) (cache : TensorCache K V) (items : List (K × V)) : Prop where
  maxEntries : cache.maxEntries = capacity
  order : cache.order = items.map Prod.fst
  nodup : (items.map Prod.fst).Nodup
  entries : cache.entries.Perm items
  room : items.length ≤ capacity

section Step

variable {capacity : ℕ} {cache : TensorCache K V} {items : List (K × V)}

lemma Holds.get_eq (hholds : Holds capacity cache items) (key : K) :
    FMap.get cache.entries key = FMap.get items key :=
  FMap.get_of_perm hholds.entries hholds.nodup key

lemma perm_touch (items : List (K × V)) (key : K) (summary : V) :
    (touch items key summary).Perm (FMap.insert items key summary) := perm_append_singleton _ _

lemma Holds.promote_eq (hholds : Holds capacity cache items)
    (hget : FMap.get items key = some known) (summary : V) :
    cache.promote key =
      ⟨cache.entries, (touch items key summary).map Prod.fst, cache.maxEntries⟩ := by
  have hmem : key ∈ cache.order := by
    rw [hholds.order]
    exact mem_map_of_mem (FMap.mem_of_get hget)
  have hkeys : cache.order.erase key = (FMap.remove items key).map Prod.fst := by
    rw [hholds.order, hholds.nodup.erase_eq_filter, filter_map]
    refine congrArg _ (filter_congr fun item _ => ?_)
    simp [bne, BEq.beq]
  rw [TensorCache.promote, if_pos hmem, hkeys, touch, map_append]
  rfl

lemma Holds.touched (hholds : Holds capacity cache items) (hget : FMap.get items key = some known)
    (summary : V) {stored : List (K × V)} (hstored : stored.Perm (FMap.insert items key summary)) :
    Holds capacity ⟨stored, (touch items key summary).map Prod.fst, cache.maxEntries⟩
      (touch items key summary) := by
  have hperm := perm_touch items key summary
  refine ⟨hholds.maxEntries, rfl, ?_, hstored.trans hperm.symm, ?_⟩
  · rw [(hperm.map Prod.fst).nodup_iff]
    exact FMap.nodup_keys_insert hholds.nodup key summary
  · rw [hperm.length_eq]
    exact (FMap.perm_remove hholds.nodup hget).length_eq ▸ hholds.room

/-- The loop ends in its second round: it drops one item, if any. -/
lemma Holds.makeRoom (hholds : Holds capacity cache items) (hcapacity : 0 < capacity)
    (rounds : ℕ) :
    ∃ roomy, cache.makeRoom (rounds + 2) = some roomy ∧
      Holds capacity roomy (dropOldest capacity items) ∧
      (dropOldest capacity items).length < capacity := by
  have hlen := hholds.entries.length_eq
  unfold dropOldest
  by_cases hroom : items.length < capacity
  · rw [if_pos hroom]
    refine ⟨cache, ?_, hholds, hroom⟩
    rw [TensorCache.makeRoom, if_neg (by rw [hholds.maxEntries]; omega)]
  · rw [if_neg hroom]
    cases items with
    | nil => exact absurd hcapacity hroom
    | cons oldest rest =>
      obtain ⟨hnew, hnodup⟩ := nodup_cons.mp hholds.nodup
      have hrest : FMap.remove (oldest :: rest) oldest.1 = rest := by
        rw [FMap.remove, FMap.retain, filter_cons_of_neg (by simp)]
        exact FMap.remove_eq_self (FMap.get_eq_none_iff.mpr hnew)
      have hentries : (FMap.remove cache.entries oldest.1).Perm rest := by
        rw [← hrest]
        exact hholds.entries.filter _
      have hshort : rest.length < capacity := hholds.room
      refine ⟨⟨FMap.remove cache.entries oldest.1, rest.map Prod.fst, cache.maxEntries⟩, ?_,
        ⟨hholds.maxEntries, rfl, hnodup, hentries, hshort.le⟩, hshort⟩
      rw [TensorCache.makeRoom, if_pos (by rw [hholds.maxEntries]; omega), hholds.order]
      exact if_neg (by rw [hholds.maxEntries, hentries.length_eq]; omega)

lemma Holds.push (hholds : Holds capacity cache items) (hnew : FMap.get items key = none)
    (hroom : items.length < capacity) (summary : V) :
    Holds capacity ⟨FMap.insert cache.entries key summary, cache.order ++ [key], cache.maxEntries⟩
      (items ++ [(key, summary)]) where
  maxEntries := hholds.maxEntries
  order := by rw [hholds.order, map_append]; rfl
  nodup := by
    rw [map_append, nodup_append_comm]
    exact nodup_cons.mpr ⟨FMap.get_eq_none_iff.mp hnew, hholds.nodup⟩
  entries := by
    rw [FMap.insert, FMap.remove_eq_self ((hholds.get_eq key).trans hnew)]
    exact (hholds.entries.cons _).trans (perm_append_singleton _ _).symm
  room := by
    rw [length_append]
    exact hroom

lemma Holds.step (hholds : Holds capacity cache items) (hcapacity : 0 < capacity) (rounds : ℕ)
    (call : Call K V) :
    ∃ cache', cache.step (rounds + 2) call = some cache' ∧
      Holds capacity cache' (lruStep capacity items call) := by
  cases call with
  | peek key => exact ⟨cache, rfl, hholds⟩
  | get key =>
    refine ⟨_, rfl, ?_⟩
    rw [TensorCache.get, lruStep, hholds.get_eq]
    cases hget : FMap.get items key with
    | none => exact hholds
    | some summary =>
      have hentries := hholds.entries.trans (FMap.perm_remove hholds.nodup hget)
      show Holds capacity (cache.promote key) _
      rw [hholds.promote_eq hget summary]
      exact hholds.touched hget summary hentries
  | insert key summary =>
    rw [TensorCache.step, TensorCache.insert, lruStep, hholds.get_eq]
    cases hget : FMap.get items key with
    | some known =>
      refine ⟨_, rfl, ?_⟩
      rw [hholds.promote_eq hget summary]
      exact hholds.touched hget summary ((hholds.entries.filter _).cons _)
    | none =>
      obtain ⟨roomy, hroomy, hkept, hroom⟩ := hholds.makeRoom hcapacity rounds
      have hnew : FMap.get (dropOldest capacity items) key = none := by
        rw [FMap.get_eq_none_iff] at hget ⊢
        unfold dropOldest
        split_ifs
        · exact hget
        · exact fun hmem => hget (((tail_sublist items).map _).subset hmem)
      rw [hroomy]
      exact ⟨_, rfl, hkept.push hnew hroom summary⟩

end Step

lemma Holds.run (hholds : Holds capacity cache items) (hcapacity : 0 < capacity) (rounds : ℕ)
    (calls : List (Call K V)) :
    ∃ cache', calls.foldlM (fun cache => cache.step (rounds + 2)) cache = some cache' ∧
      Holds capacity cache' (calls.foldl (lruStep capacity) items) := by
  induction calls generalizing cache items with
  | nil => exact ⟨cache, rfl, hholds⟩
  | cons call calls ih =>
    obtain ⟨next, hnext, hholds⟩ := hholds.step hcapacity rounds call
    rw [foldlM_cons, hnext]
    exact ih hholds

/-- The cache holds what the reference holds after the same calls, and every call ends, with no
more than two rounds of its loop. -/
theorem tensorCache_lru (capacity : ℕ) (calls : List (Call K V)) (rounds : ℕ) :
    ∃ cache, calls.foldlM (fun cache => cache.step (rounds + 2)) (TensorCache.new capacity) =
        some cache ∧
      cache.order.Nodup ∧ cache.order.Perm (cache.entries.map Prod.fst) ∧
      cache.entries.length ≤ max capacity 1 ∧
      ∀ key, FMap.get cache.entries key =
        FMap.get (calls.foldl (lruStep (max capacity 1)) []) key := by
  have hstart : Holds (max capacity 1) (TensorCache.new capacity : TensorCache K V) [] :=
    ⟨rfl, rfl, nodup_nil, .nil, Nat.zero_le _⟩
  obtain ⟨cache, hrun, hholds⟩ := hstart.run (le_max_right capacity 1) rounds calls
  refine ⟨cache, hrun, ?_, ?_, ?_, hholds.get_eq⟩
  · rw [hholds.order]
    exact hholds.nodup
  · rw [hholds.order]
    exact hholds.entries.symm.map Prod.fst
  · rw [hholds.entries.length_eq]
    exact hholds.room

end RocketSurgeon.Tui
