import RocketSurgeon.Lib.FiniteMap

/-!
# Caches that drop what was used longest ago

A cache of items that have a size, as the list of them, the one used last in front.  Two limits
bound it: the number of items and their total size.  A new item is put in front after as many have
been dropped from the back as makes room for it, or all.
-/

namespace RocketSurgeon.Lib.Lru

open List FMap

variable {K : Type}

structure Limits where
  maxItems : ℕ
  maxTotal : ℕ
  deriving DecidableEq, Repr

def total (items : List (K × ℕ)) : ℕ := (items.map Prod.snd).sum

/-- There is room for one more item of the given size. -/
def Limits.Allow (limits : Limits) (size : ℕ) (items : List (K × ℕ)) : Prop :=
  items.length < limits.maxItems ∧ total items + size ≤ limits.maxTotal

instance (limits : Limits) (size : ℕ) (items : List (K × ℕ)) :
    Decidable (limits.Allow size items) :=
  inferInstanceAs (Decidable (_ ∧ _))

/-- Drop items from a list that has the oldest one in front until there is room for one more. -/
def dropOldest (limits : Limits) (size : ℕ) : List (K × ℕ) → List (K × ℕ)
  | [] => []
  | oldest :: newer =>
      if limits.Allow size (oldest :: newer) then oldest :: newer
      else dropOldest limits size newer

/-- Drop items from the back until there is room for one more. -/
def makeRoom (limits : Limits) (size : ℕ) (items : List (K × ℕ)) : List (K × ℕ) :=
  (dropOldest limits size items.reverse).reverse

variable {limits : Limits} {size : ℕ} {items front : List (K × ℕ)} {key other : K}

/-! ## Sizes -/

@[simp] lemma total_nil : total ([] : List (K × ℕ)) = 0 := rfl

@[simp] lemma total_cons (item : K × ℕ) (items : List (K × ℕ)) :
    total (item :: items) = item.2 + total items := by
  rw [total, map_cons, sum_cons, total]

@[simp] lemma total_append (items items' : List (K × ℕ)) :
    total (items ++ items') = total items + total items' := by
  rw [total, map_append, sum_append, total, total]

lemma total_reverse (items : List (K × ℕ)) : total items.reverse = total items := by
  rw [total, map_reverse, sum_reverse, total]

lemma total_perm (hperm : items.Perm items') :
    total items = total items' :=
  (hperm.map _).sum_eq

/-! ## Making room -/

lemma allow_reverse : limits.Allow size items.reverse ↔ limits.Allow size items := by
  rw [Limits.Allow, length_reverse, total_reverse, Limits.Allow]

lemma Limits.Allow.mono (hallow : limits.Allow size items) (hfront : front <+: items) :
    limits.Allow size front := by
  obtain ⟨back, rfl⟩ := hfront
  obtain ⟨hlen, htotal⟩ := hallow
  rw [length_append] at hlen
  rw [total_append] at htotal
  exact ⟨by omega, by omega⟩

lemma makeRoom_concat (items : List (K × ℕ)) (oldest : K × ℕ) :
    makeRoom limits size (items ++ [oldest]) =
      if limits.Allow size (items ++ [oldest]) then items ++ [oldest]
      else makeRoom limits size items := by
  have hallow : limits.Allow size (oldest :: items.reverse) ↔
      limits.Allow size (items ++ [oldest]) := by
    rw [← allow_reverse, reverse_cons, reverse_reverse]
  rw [makeRoom, reverse_append, reverse_singleton, singleton_append, dropOldest]
  by_cases hroom : limits.Allow size (items ++ [oldest])
  · rw [if_pos (hallow.mpr hroom), if_pos hroom, reverse_cons, reverse_reverse]
  · rw [if_neg (hallow.not.mpr hroom), if_neg hroom, makeRoom]

lemma makeRoom_kept (limits : Limits) (size : ℕ) (items : List (K × ℕ)) :
    makeRoom limits size items <+: items := by
  induction items using reverseRecOn with
  | nil => exact prefix_refl []
  | append_singleton items oldest ih =>
    rw [makeRoom_concat]
    split_ifs
    · exact prefix_refl _
    · exact ih.trans (prefix_append items [oldest])

lemma makeRoom_allow (limits : Limits) (size : ℕ) (items : List (K × ℕ)) :
    makeRoom limits size items = [] ∨ limits.Allow size (makeRoom limits size items) := by
  induction items using reverseRecOn with
  | nil => exact .inl rfl
  | append_singleton items oldest ih =>
    rw [makeRoom_concat]
    split_ifs with hroom
    · exact .inr hroom
    · exact ih

/-! ## Limits -/

/-- More than one item are within the limits. -/
def Limits.Within (limits : Limits) (items : List (K × ℕ)) : Prop :=
  items.length ≤ 1 ∨ items.length ≤ limits.maxItems ∧ total items ≤ limits.maxTotal

lemma Limits.Within.of_perm (hwithin : limits.Within items) (hperm : items.Perm items') :
    limits.Within items' := by
  unfold Limits.Within at hwithin ⊢
  rwa [← hperm.length_eq, ← total_perm hperm]

/-- A cache: its keys are distinct and it is within its limits. -/
structure Valid (limits : Limits) (items : List (K × ℕ)) : Prop where
  keys : (items.map Prod.fst).Nodup
  within : limits.Within items

lemma valid_nil (limits : Limits) : Valid limits ([] : List (K × ℕ)) :=
  ⟨nodup_nil, .inl (Nat.zero_le _)⟩

/-! ## Using and putting -/

variable [DecidableEq K]

/-- Move an item to the front. -/
def use (key : K) (items : List (K × ℕ)) : List (K × ℕ) :=
  match FMap.get items key with
  | some size => FMap.insert items key size
  | none => items

/-- Put an item in front; one that is there already is moved there as it is. -/
def put (limits : Limits) (key : K) (size : ℕ) (items : List (K × ℕ)) : List (K × ℕ) :=
  match FMap.get items key with
  | some known => FMap.insert items key known
  | none => (key, size) :: makeRoom limits size items

inductive Call (K : Type)
  | put (key : K) (size : ℕ)
  | use (key : K)
  deriving DecidableEq, Repr

def step (limits : Limits) (items : List (K × ℕ)) : Call K → List (K × ℕ)
  | .put key size => put limits key size items
  | .use key => use key items

/-! ## What holds of every cache -/

section

variable (hvalid : Valid limits items)

include hvalid

lemma Valid.moved (hget : FMap.get items key = some known) :
    Valid limits (FMap.insert items key known) :=
  ⟨nodup_keys_insert hvalid.keys key known,
    hvalid.within.of_perm (perm_remove hvalid.keys hget)⟩

lemma Valid.use (key : K) : Valid limits (use key items) := by
  unfold Lru.use
  cases hget : FMap.get items key with
  | some known => exact hvalid.moved hget
  | none => exact hvalid

lemma Valid.put (key : K) (size : ℕ) :
    Valid limits (put limits key size items) := by
  unfold Lru.put
  cases hget : FMap.get items key with
  | some known => exact hvalid.moved hget
  | none =>
    have hkept := (makeRoom_kept limits size items).sublist.map Prod.fst
    refine ⟨nodup_cons.mpr ⟨fun hmem => ?_, hvalid.keys.sublist hkept⟩, ?_⟩
    · exact get_eq_none_iff.mp hget (hkept.subset hmem)
    · rcases makeRoom_allow limits size items with hempty | ⟨hlen, htotal⟩
      · left
        rw [hempty, length_singleton]
      · right
        rw [length_cons, total_cons]
        exact ⟨hlen, by rwa [Nat.add_comm]⟩

lemma Valid.step (call : Call K) :
    Valid limits (step limits items call) := by
  cases call with
  | put key size => exact hvalid.put key size
  | use key => exact hvalid.use key

lemma Valid.run (calls : List (Call K)) :
    Valid limits (calls.foldl (Lru.step limits) items) := by
  induction calls generalizing items with
  | nil => exact hvalid
  | cons call calls ih => exact ih (hvalid.step call)

end

end RocketSurgeon.Lib.Lru
