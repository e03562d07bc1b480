import Mathlib

/-!
# Arrays in row-major order

The elements of an array of a given shape in one list, the last dimension running fastest:
the list is cut into as many rows of equal length as the first dimension says, and each row
is an array of the other dimensions.

`broadcast` copies an array into one of another shape: missing dimensions in front are taken
to be 1, and a dimension of 1 is repeated.
-/

namespace RocketSurgeon.Lib

open List

variable {α : Type} {width count : ℕ} {items : List α}

/-- A list cut into `count` rows. -/
def rows (width : ℕ) : ℕ → List α → List (List α)
  | 0, _ => []
  | count + 1, items => items.take width :: rows width count (items.drop width)

lemma flatten_rows (hlen : items.length = count * width) :
    (rows width count items).flatten = items := by
  induction count generalizing items with
  | zero =>
    rw [Nat.zero_mul] at hlen
    rw [eq_nil_of_length_eq_zero hlen]
    rfl
  | succ count ih =>
    have hrest : (items.drop width).length = count * width := by
      rw [length_drop, hlen, Nat.succ_mul]
      omega
    rw [rows, flatten_cons, ih hrest, take_append_drop]

lemma length_of_mem_rows (hlen : items.length = count * width)
    (hrow : row ∈ rows width count items) :
    row.length = width := by
  induction count generalizing items with
  | zero => cases hrow
  | succ count ih =>
    rw [Nat.succ_mul] at hlen
    rcases mem_cons.mp hrow with rfl | hrest
    · rw [length_take]
      omega
    · refine ih ?_ hrest
      rw [length_drop]
      omega

@[simp] lemma length_rows (width count : ℕ) (items : List α) :
    (rows width count items).length = count := by
  induction count generalizing items with
  | zero => rfl
  | succ count ih => rw [rows, length_cons, ih]

lemma mem_of_mem_rows (hrow : row ∈ rows width count items) (hitem : item ∈ row) :
    item ∈ items := by
  induction count generalizing items with
  | zero => cases hrow
  | succ count ih =>
    rcases mem_cons.mp hrow with rfl | hrest
    · exact mem_of_mem_take hitem
    · exact mem_of_mem_drop (ih hrest)

lemma rows_flatMap {β : Type} {piece : β → List α} {items : List β}
    (hwidth : ∀ item ∈ items, (piece item).length = width) :
    rows width items.length (items.flatMap piece) = items.map piece := by
  induction items with
  | nil => rfl
  | cons item items ih =>
    rw [forall_mem_cons] at hwidth
    rw [length_cons, rows, flatMap_cons, take_left' hwidth.1,
      drop_left' hwidth.1, ih hwidth.2, map_cons]

/-- The elements of an array of the shape `source` in an array of the shape `target`, which has
as many dimensions. -/
def broadcastAligned : List ℕ → List ℕ → List α → Option (List α)
  | [], [], items => some items
  | dim :: source, dim' :: target, items =>
      if dim = dim' then
        ((rows source.prod dim items).mapM (broadcastAligned source target)).map List.flatten
      else if dim = 1 then
        (broadcastAligned source target items).map fun row => (List.replicate dim' row).flatten
      else none
  | _, _, _ => none

/-- The elements of an array in an array of another shape. -/
def broadcast (source target : List ℕ) (items : List α) : Option (List α) :=
  if target.length < source.length then none
  else broadcastAligned (List.replicate (target.length - source.length) 1 ++ source) target items

lemma mapM_eq_some_self (hf : ∀ item ∈ items, f item = some item) :
    items.mapM f = some items := by
  induction items with
  | nil => rfl
  | cons item items ih =>
    rw [forall_mem_cons] at hf
    rw [mapM_cons, hf.1, ih hf.2]
    rfl

lemma broadcastAligned_self (hlen : items.length = shape.prod) :
    broadcastAligned shape shape items = some items := by
  induction shape generalizing items with
  | nil => rfl
  | cons dim shape ih =>
    rw [prod_cons] at hlen
    have hrows : (rows shape.prod dim items).mapM (broadcastAligned shape shape) =
        some (rows shape.prod dim items) :=
      mapM_eq_some_self fun row hrow => ih (length_of_mem_rows hlen hrow)
    rw [broadcastAligned, if_pos rfl, hrows, Option.map_some, flatten_rows hlen]

lemma broadcast_self (hlen : items.length = shape.prod) :
    broadcast shape shape items = some items := by
  rw [broadcast, if_neg (Nat.lt_irrefl _), Nat.sub_self]
  exact broadcastAligned_self hlen

end RocketSurgeon.Lib
