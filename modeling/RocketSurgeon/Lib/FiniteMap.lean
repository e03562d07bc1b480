import Mathlib

/-!
# Finite maps

A hash map as the list of its entries, newest first.  Insertion replaces the
entry of a key and `retain` keeps the entries whose key satisfies a predicate,
so a map built by these operations has one entry per key; the lookup laws below
hold of any list.
-/

namespace RocketSurgeon.Lib

open List

variable {K V : Type} [DecidableEq K] {k : K}

/-- The order in which the entries of a hash map are iterated: any order. -/
structure HashOrder (α : Type) where
  order : List α → List α
  perm : ∀ entries, (order entries).Perm entries

/-- The order of insertion, the last first. -/
def HashOrder.inserted (α : Type) : HashOrder α := ⟨id, .refl⟩

namespace FMap

variable (m : List (K × V))

def get : List (K × V) → K → Option V
  | [], _ => none
  | (key, value) :: rest, k => if key = k then some value else get rest k

/-- Keep the entries whose key satisfies `keep`. -/
def retain (m : List (K × V)) (keep : K → Bool) : List (K × V) :=
  m.filter fun entry => keep entry.1

def remove (m : List (K × V)) (k : K) : List (K × V) := retain m fun key => key ≠ k

def insert (m : List (K × V)) (k : K) (value : V) : List (K × V) := (k, value) :: remove m k

lemma get_retain (keep : K → Bool) (k : K) :
    get (retain m keep) k = if keep k then get m k else none := by
  induction m with
  | nil => simp [retain, get]
  | cons entry rest ih =>
    obtain ⟨key, value⟩ := entry
    unfold retain at ih ⊢
    rw [filter_cons]
    by_cases hkeep : keep key = true
    · rw [if_pos hkeep]
      by_cases hkey : key = k
      · simp [get, hkey, hkey ▸ hkeep]
      · simp [get, hkey, ih]
    · rw [if_neg hkeep, ih]
      by_cases hkey : key = k
      · simp [hkey ▸ hkeep]
      · simp [get, hkey]

@[simp] lemma get_remove_self (k : K) : get (remove m k) k = none := by
  simp [remove, get_retain]

lemma get_remove_of_ne (h : other ≠ k) :
    get (remove m k) other = get m other := by
  simp [remove, get_retain, h]

@[simp] lemma get_insert_self (k : K) (value : V) :
    get (insert m k value) k = some value := by
  simp [insert, get]

lemma get_insert_of_ne (value : V) (h : other ≠ k) :
    get (insert m k value) other = get m other := by
  rw [insert, get, if_neg (Ne.symm h), get_remove_of_ne m h]

/-! ## Maps with one entry per key -/

lemma mem_of_get {m : List (K × V)} (hget : get m k = some value) :
    (k, value) ∈ m := by
  induction m with
  | nil => cases hget
  | cons entry rest ih =>
    rw [get] at hget
    split_ifs at hget with hkey
    · cases hget
      exact hkey ▸ mem_cons_self
    · exact mem_cons_of_mem _ (ih hget)

lemma get_eq_none_iff {m : List (K × V)} : get m k = none ↔ k ∉ m.map Prod.fst := by
  induction m with
  | nil => simp [get]
  | cons entry rest ih =>
    obtain ⟨key, stored⟩ := entry
    by_cases hkey : key = k
    · simp [get, hkey]
    · simp [get, hkey, ih, Ne.symm hkey]

lemma get_of_mem {m : List (K × V)} (hkeys : (m.map Prod.fst).Nodup) (hmem : (k, value) ∈ m) :
    get m k = some value := by
  induction m with
  | nil => cases hmem
  | cons entry rest ih =>
    obtain ⟨key, stored⟩ := entry
    rw [map_cons, nodup_cons] at hkeys
    rcases mem_cons.mp hmem with heq | hrest
    · cases heq
      exact if_pos rfl
    · have hkey : key ≠ k := by
        rintro rfl
        exact hkeys.1 (mem_map.mpr ⟨_, hrest, rfl⟩)
      rw [get, if_neg hkey]
      exact ih hkeys.2 hrest

lemma get_of_perm {m : List (K × V)} (hperm : m'.Perm m) (hkeys : (m.map Prod.fst).Nodup) (k : K) :
    get m' k = get m k := by
  have hkeys' : (m'.map Prod.fst).Nodup := (hperm.map Prod.fst).nodup_iff.mpr hkeys
  refine Option.ext fun value => ⟨fun hget => ?_, fun hget => ?_⟩
  · exact get_of_mem hkeys (hperm.mem_iff.mp (mem_of_get hget))
  · exact get_of_mem hkeys' (hperm.mem_iff.mpr (mem_of_get hget))

lemma nodup_keys_retain {K : Type} {m : List (K × V)} (hkeys : (m.map Prod.fst).Nodup)
    (keep : K → Bool) :
    ((retain m keep).map Prod.fst).Nodup :=
  hkeys.sublist (filter_sublist.map Prod.fst)

lemma nodup_keys_insert {m : List (K × V)} (hkeys : (m.map Prod.fst).Nodup) (k : K) (value : V) :
    ((insert m k value).map Prod.fst).Nodup := by
  refine nodup_cons.mpr ⟨?_, nodup_keys_retain hkeys _⟩
  exact get_eq_none_iff.mp (get_remove_self m k)

lemma perm_remove {m : List (K × V)} (hkeys : (m.map Prod.fst).Nodup)
    (hget : get m k = some value) : m.Perm ((k, value) :: remove m k) := by
  induction m with
  | nil => cases hget
  | cons entry rest ih =>
    obtain ⟨key, stored⟩ := entry
    rw [map_cons, nodup_cons] at hkeys
    rw [get] at hget
    by_cases hkey : key = k
    · subst hkey
      rw [if_pos rfl] at hget
      cases hget
      have hrest : remove ((key, value) :: rest) key = rest := by
        have hne : ∀ entry ∈ rest, entry.1 ≠ key := fun entry hentry heq =>
          hkeys.1 (mem_map.mpr ⟨entry, hentry, heq⟩)
        rw [remove, retain, filter_cons_of_neg (by simp)]
        exact filter_eq_self.mpr fun entry hentry => by simpa using hne entry hentry
      rw [hrest]
    · rw [if_neg hkey] at hget
      have hhead : remove ((key, stored) :: rest) k = (key, stored) :: remove rest k := by
        rw [remove, retain, filter_cons_of_pos (by simpa using hkey)]
        rfl
      rw [hhead]
      exact ((ih hkeys.2 hget).cons _).trans (List.Perm.swap _ _ _)

lemma remove_eq_self {m : List (K × V)} (hget : get m k = none) : remove m k = m := by
  rw [get_eq_none_iff] at hget
  refine filter_eq_self.mpr fun entry hentry => ?_
  have hne : entry.1 ≠ k := fun heq => hget (mem_map.mpr ⟨entry, hentry, heq⟩)
  simpa using hne

lemma insert_insert (k : K) (value value' : V) :
    insert (insert m k value) k value' = insert m k value' := by
  rw [insert, insert, remove, retain, filter_cons_of_neg (by simp)]
  refine congrArg ((k, value') :: ·) (filter_eq_self.mpr fun entry hentry => ?_)
  exact (mem_filter.mp hentry).2

/-! ## Maps of values -/

section Values

variable {W : Type} (f : V → W)

lemma get_map (m : List (K × V)) (k : K) :
    get (m.map fun entry => (entry.1, f entry.2)) k = (get m k).map f := by
  induction m with
  | nil => rfl
  | cons entry rest ih =>
    rw [map_cons, get, get, ih]
    split_ifs
    · rfl
    · rfl

lemma remove_map (m : List (K × V)) (k : K) :
    remove (m.map fun entry => (entry.1, f entry.2)) k =
      (remove m k).map fun entry => (entry.1, f entry.2) := by
  rw [remove, retain, filter_map]
  rfl

end Values

/-! ## Maps filled entry by entry -/

section Fill

variable {A : Type} (key : A → K) (value : A → V)

lemma get_foldl_insert_of_ne {entries : List A} (m : List (K × V))
    (hne : ∀ entry ∈ entries, key entry ≠ k) :
    get (entries.foldl (fun m entry => insert m (key entry) (value entry)) m) k = get m k := by
  induction entries generalizing m with
  | nil => rfl
  | cons entry rest ih =>
    obtain ⟨hentry, hrest⟩ := forall_mem_cons.mp hne
    rw [foldl_cons, ih _ hrest, get_insert_of_ne m _ hentry.symm]

lemma exists_get_foldl_insert {entries : List A} (hsome : ∃ entry ∈ entries, key entry = k)
    (m : List (K × V)) :
    ∃ entry ∈ entries, key entry = k ∧
      get (entries.foldl (fun m entry => insert m (key entry) (value entry)) m) k =
        some (value entry) := by
  induction entries generalizing m with
  | nil =>
    obtain ⟨entry, hentry, -⟩ := hsome
    cases hentry
  | cons first rest ih =>
    rw [foldl_cons]
    by_cases hlater : ∃ entry ∈ rest, key entry = k
    · obtain ⟨entry, hentry, hkey, hget⟩ := ih hlater _
      exact ⟨entry, mem_cons_of_mem _ hentry, hkey, hget⟩
    · have hfirst : key first = k := by
        obtain ⟨entry, hentry, hkey⟩ := hsome
        rcases mem_cons.mp hentry with rfl | hrest
        · exact hkey
        · exact absurd ⟨entry, hrest, hkey⟩ hlater
      refine ⟨first, mem_cons_self, hfirst, ?_⟩
      rw [get_foldl_insert_of_ne _ _ _ fun entry hentry hkey => hlater ⟨entry, hentry, hkey⟩,
        hfirst, get_insert_self]

end Fill

end FMap

end RocketSurgeon.Lib
