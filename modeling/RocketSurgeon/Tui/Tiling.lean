import RocketSurgeon.Lib.Extended

/-!
# Panel layouts

A layout is a tree of splits with the views at its leaves.  `resolve` cuts the
screen along the tree, in the ratios of the splits.
-/

namespace RocketSurgeon.Tui

open Lib List

/-- The numbers are of 16 bits. -/
structure Rect where
  x : ℕ
  y : ℕ
  width : ℕ
  height : ℕ

namespace Rect

/-- `Rect::new` of ratatui, as documented: what is past the largest 16-bit coordinate is cut off. -/
def new (x y width height : ℕ) : Rect := ⟨x, y, min (x + width) 65535 - x, min (y + height) 65535 - y⟩

def Contains (area : Rect) (cell : ℕ × ℕ) : Prop :=
  (area.x ≤ cell.1 ∧ cell.1 < area.x + area.width) ∧ area.y ≤ cell.2 ∧ cell.2 < area.y + area.height

instance (area : Rect) (cell : ℕ × ℕ) : Decidable (area.Contains cell) :=
  inferInstanceAs (Decidable (_ ∧ _))

def Inside (part area : Rect) : Prop :=
  (area.x ≤ part.x ∧ part.x + part.width ≤ area.x + area.width) ∧
    area.y ≤ part.y ∧ part.y + part.height ≤ area.y + area.height

/-- The right and the bottom edge are 16-bit numbers. -/
def Fits (area : Rect) : Prop := area.x + area.width < 2 ^ 16 ∧ area.y + area.height < 2 ^ 16

end Rect

/-- The 32-bit floats `0.1` and `0.9`. -/
def minRatio : ℚ := 13421773 / 2 ^ 27

def maxRatio : ℚ := 15099494 / 2 ^ 24

/-- `ratio.clamp(0.1, 0.9)`, which leaves what is no number as it is. -/
def clampRatio (ratio : Extended) : Extended :=
  if ratio.lt (.finite minRatio) then .finite minRatio
  else if Extended.lt (.finite maxRatio) ratio then .finite maxRatio
  else ratio

/-- The truncated products of sizes and ratios in 32-bit floats. -/
structure Truncation where
  product : ℕ → ℚ → ℕ
  product_le : ∀ size < 2 ^ 16, ∀ ratio, minRatio ≤ ratio → ratio ≤ maxRatio →
    product size ratio ≤ size

/-- `(f32::from(size) * ratio) as u16`. -/
def Truncation.part (t : Truncation) (size : ℕ) : Extended → ℕ
  | .finite ratio => t.product size ratio
  | .nan => 0
  | .inf negative => if negative ∨ size = 0 then 0 else 65535

inductive Layout (V : Type)
  | single (view : V)
  | hSplit (left right : Layout V) (ratio : Extended)
  | vSplit (top bottom : Layout V) (ratio : Extended)

namespace Layout

variable {V : Type}

def hsplit (left right : Layout V) (ratio : Extended) : Layout V :=
  .hSplit left right (clampRatio ratio)

def vsplit (top bottom : Layout V) (ratio : Extended) : Layout V :=
  .vSplit top bottom (clampRatio ratio)

/-- A sum of 16-bit numbers; `none` where it overflows. -/
def checkedAdd (first second : ℕ) : Option ℕ :=
  if first + second < 2 ^ 16 then some (first + second) else none

def resolve (t : Truncation) : Layout V → Rect → Option (List (V × Rect))
  | single view, area => some [(view, area)]
  | hSplit left right ratio, area => do
      let leftWidth := t.part area.width ratio
      let rightWidth := area.width - leftWidth
      let first ← left.resolve t (.new area.x area.y leftWidth area.height)
      let x ← checkedAdd area.x leftWidth
      let second ← right.resolve t (.new x area.y rightWidth area.height)
      return first ++ second
  | vSplit top bottom ratio, area => do
      let topHeight := t.part area.height ratio
      let bottomHeight := area.height - topHeight
      let first ← top.resolve t (.new area.x area.y area.width topHeight)
      let y ← checkedAdd area.y topHeight
      let second ← bottom.resolve t (.new area.x y area.width bottomHeight)
      return first ++ second

def viewIds : Layout V → List V
  | single view => [view]
  | hSplit left right _ => left.viewIds ++ right.viewIds
  | vSplit top bottom _ => top.viewIds ++ bottom.viewIds

/-- The layouts that the three constructors of the interface build. -/
inductive Built : Layout V → Prop
  | single (view : V) : Built (single view)
  | hsplit (hleft : Built left) (hright : Built right) (ratio : Extended) :
      Built (hsplit left right ratio)
  | vsplit (htop : Built top) (hbottom : Built bottom) (ratio : Extended) :
      Built (vsplit top bottom ratio)

end Layout

/-! ## The parts of a split -/

lemma clampRatio_cases (ratio : Extended) : clampRatio ratio = .nan ∨
    ∃ q, clampRatio ratio = .finite q ∧ minRatio ≤ q ∧ q ≤ maxRatio := by
  have hbounds : minRatio ≤ maxRatio := by
    unfold minRatio maxRatio
    norm_num
  cases ratio with
  | nan => exact .inl rfl
  | inf negative =>
    cases negative with
    | true => exact .inr ⟨minRatio, rfl, le_rfl, hbounds⟩
    | false => exact .inr ⟨maxRatio, rfl, hbounds, le_rfl⟩
  | finite q =>
    simp only [clampRatio, Extended.lt_finite, decide_eq_true_eq]
    split_ifs with hlow hhigh
    · exact .inr ⟨minRatio, rfl, le_rfl, hbounds⟩
    · exact .inr ⟨maxRatio, rfl, hbounds, le_rfl⟩
    · exact .inr ⟨q, rfl, not_lt.mp hlow, not_lt.mp hhigh⟩

lemma part_clampRatio_le (t : Truncation) (hsize : size < 2 ^ 16) (ratio : Extended) :
    t.part size (clampRatio ratio) ≤ size := by
  obtain hnan | ⟨q, hq, hlow, hhigh⟩ := clampRatio_cases ratio
  · rw [hnan]
    exact Nat.zero_le size
  · rw [hq]
    exact t.product_le size hsize q hlow hhigh

/-- The rectangles of the views, in their order, that share out the cells of an area. -/
structure Tiling (views : List V) (area : Rect) (rects : List (V × Rect)) : Prop where
  views : rects.map Prod.fst = views
  inside : ∀ entry ∈ rects, entry.2.Inside area
  shared : ∀ cell, rects.countP (fun entry => entry.2.Contains cell) =
    if area.Contains cell then 1 else 0

/-- Two parts that share out the cells of an area. -/
structure Cut (area part rest : Rect) : Prop where
  part_inside : part.Inside area
  rest_inside : rest.Inside area
  covers : ∀ cell, area.Contains cell ↔ part.Contains cell ∨ rest.Contains cell
  disjoint : ∀ cell, part.Contains cell → ¬ rest.Contains cell

lemma Rect.Inside.trans {part half area : Rect} (hpart : part.Inside half)
    (hhalf : half.Inside area) : part.Inside area := by
  unfold Inside at *
  omega

lemma Rect.Inside.fits {part area : Rect} (hpart : part.Inside area) (hfits : area.Fits) :
    part.Fits := by
  unfold Inside Fits at *
  omega

lemma Tiling.append {ids ids' : List V} (hcut : Cut area part rest) (hpart : Tiling ids part rects)
    (hrest : Tiling ids' rest rects') : Tiling (ids ++ ids') area (rects ++ rects') where
  views := by rw [map_append, hpart.views, hrest.views]
  inside := by
    intro entry hentry
    obtain hentry | hentry := mem_append.mp hentry
    · exact (hpart.inside entry hentry).trans hcut.part_inside
    · exact (hrest.inside entry hentry).trans hcut.rest_inside
  shared := by
    intro cell
    have hcovers := hcut.covers cell
    have hdisjoint := hcut.disjoint cell
    rw [countP_append, hpart.shared, hrest.shared]
    split_ifs <;> tauto

lemma cut_width (hfits : area.Fits) (hsize : size ≤ area.width) :
    Cut area (.new area.x area.y size area.height)
      (.new (area.x + size) area.y (area.width - size) area.height) := by
  unfold Rect.Fits at hfits
  constructor <;> simp only [Rect.Inside, Rect.Contains, Rect.new] <;> omega

lemma cut_height (hfits : area.Fits) (hsize : size ≤ area.height) :
    Cut area (.new area.x area.y area.width size)
      (.new area.x (area.y + size) area.width (area.height - size)) := by
  unfold Rect.Fits at hfits
  constructor <;> simp only [Rect.Inside, Rect.Contains, Rect.new] <;> omega

lemma Layout.Built.tiling (t : Truncation) {layout : Layout V} (hbuilt : layout.Built)
    {area : Rect} (hfits : area.Fits) :
    ∃ rects, layout.resolve t area = some rects ∧ Tiling layout.viewIds area rects := by
  induction hbuilt generalizing area with
  | single view =>
    refine ⟨_, rfl, rfl, fun entry hentry => ?_, fun cell => ?_⟩
    · rw [mem_singleton.mp hentry]
      exact ⟨⟨le_rfl, le_rfl⟩, le_rfl, le_rfl⟩
    · simp [countP_cons]
  | hsplit hleft hright ratio ihleft ihright =>
    have hedge := hfits.1
    have hpart := part_clampRatio_le t (by omega : area.width < 2 ^ 16) ratio
    have hcut := cut_width hfits hpart
    obtain ⟨first, hfirst, htiles⟩ := ihleft (hcut.part_inside.fits hfits)
    obtain ⟨second, hsecond, htiles'⟩ := ihright (hcut.rest_inside.fits hfits)
    refine ⟨first ++ second, ?_, htiles.append hcut htiles'⟩
    have hx : checkedAdd area.x (t.part area.width (clampRatio ratio)) = some _ :=
      if_pos (by omega)
    simp only [Layout.hsplit, resolve, hfirst, hx, hsecond, Option.bind_eq_bind, Option.bind_some]
    rfl
  | vsplit htop hbottom ratio ihtop ihbottom =>
    have hedge := hfits.2
    have hpart := part_clampRatio_le t (by omega : area.height < 2 ^ 16) ratio
    have hcut := cut_height hfits hpart
    obtain ⟨first, hfirst, htiles⟩ := ihtop (hcut.part_inside.fits hfits)
    obtain ⟨second, hsecond, htiles'⟩ := ihbottom (hcut.rest_inside.fits hfits)
    refine ⟨first ++ second, ?_, htiles.append hcut htiles'⟩
    have hy : checkedAdd area.y (t.part area.height (clampRatio ratio)) = some _ :=
      if_pos (by omega)
    simp only [Layout.vsplit, resolve, hfirst, hy, hsecond, Option.bind_eq_bind, Option.bind_some]
    rfl

/-- Resolving a layout gives every view a rectangle inside the area, and every cell to one of
them. -/
theorem resolve_partition (t : Truncation) (layout : Layout V) (area : Rect)
    (hbuilt : layout.Built) (hfits : area.Fits) :
    ∃ rects, layout.resolve t area = some rects ∧ rects.map Prod.fst = layout.viewIds ∧
      (∀ entry ∈ rects, entry.2.Inside area) ∧
      ∀ cell, area.Contains cell → rects.countP (fun entry => entry.2.Contains cell) = 1 := by
  obtain ⟨rects, hresolve, htiling⟩ := hbuilt.tiling t hfits
  refine ⟨rects, hresolve, htiling.views, htiling.inside, fun cell hcell => ?_⟩
  rw [htiling.shared, if_pos hcell]

/-- Products that are not rounded before they are truncated. -/
def Truncation.exact : Truncation where
  product size ratio := ⌊size * ratio⌋₊
  product_le size _ ratio hlow hhigh := by
    have hone : maxRatio ≤ 1 := by
      unfold maxRatio
      norm_num
    exact Nat.floor_le_of_le (mul_le_of_le_one_right (Nat.cast_nonneg size) (hhigh.trans hone))

theorem resolve_partition_screen :
    ∃ rects, (Layout.vsplit (.single 0) (.hsplit (.single 1) (.single 2) .nan) (.finite 2)).resolve
        .exact ⟨0, 0, 80, 24⟩ = some rects ∧ rects.map Prod.fst = [0, 1, 2] ∧
      (∀ entry ∈ rects, entry.2.Inside ⟨0, 0, 80, 24⟩) ∧
      ∀ cell, Rect.Contains ⟨0, 0, 80, 24⟩ cell →
        rects.countP (fun entry => entry.2.Contains cell) = 1 :=
  resolve_partition .exact _ _ (.vsplit (.single 0) (.hsplit (.single 1) (.single 2) _) _)
    (by unfold Rect.Fits; decide)

/-! ## Moving the outermost split -/

/-- `add` is the sum of 32-bit floats. -/
def Layout.adjustRatio (add : Extended → Extended → Extended) (layout : Layout V)
    (delta : Extended) : Layout V :=
  match layout with
  | single view => .single view
  | hSplit left right ratio => .hSplit left right (clampRatio (add ratio delta))
  | vSplit top bottom ratio => .vSplit top bottom (clampRatio (add ratio delta))

lemma Layout.Built.adjustRatio (add : Extended → Extended → Extended) {layout : Layout V}
    (hbuilt : layout.Built) (delta : Extended) :
    (layout.adjustRatio add delta).Built ∧
      (layout.adjustRatio add delta).viewIds = layout.viewIds := by
  cases hbuilt with
  | single view => exact ⟨.single view, rfl⟩
  | hsplit hleft hright ratio => exact ⟨.hsplit hleft hright _, rfl⟩
  | vsplit htop hbottom ratio => exact ⟨.vsplit htop hbottom _, rfl⟩

/-- **However often a split is moved, the views share out the area**, whatever the sums are. -/
theorem tiling_adjustRatio (t : Truncation) (add : Extended → Extended → Extended)
    (deltas : List Extended) (layout : Layout V) (area : Rect) (hbuilt : layout.Built)
    (hfits : area.Fits) :
    ∃ rects, (deltas.foldl (Layout.adjustRatio add) layout).resolve t area = some rects ∧
      Tiling layout.viewIds area rects := by
  induction deltas generalizing layout with
  | nil => exact hbuilt.tiling t hfits
  | cons delta deltas ih =>
    obtain ⟨hmoved, hviews⟩ := hbuilt.adjustRatio add delta
    rw [← hviews]
    exact ih _ hmoved

theorem tiling_adjustRatio_screen :
    ∃ rects, ([.nan, .finite (1 / 8), .finite 3].foldl (Layout.adjustRatio Extended.add)
        (.hsplit (.single 0) (.single 1) .nan)).resolve .exact ⟨0, 0, 80, 24⟩ = some rects ∧
      Tiling [0, 1] ⟨0, 0, 80, 24⟩ rects :=
  tiling_adjustRatio .exact _ _ _ _ (.hsplit (.single 0) (.single 1) .nan)
    (by unfold Rect.Fits; decide)

end RocketSurgeon.Tui
