import RocketSurgeon.Lib.LittleEndian

/-!
# Pieces of a byte string

Formats with fixed offsets: a piece that stands behind a front of known length is found by
dropping the front, and the pieces of a table of equal width are found at the multiples of
the width.
-/

namespace RocketSurgeon.Lib

variable {α β : Type}

lemma take_drop_append {rest : List β} (hstart : front.length = start)
    (hlen : piece.length = length) :
    ((front ++ (piece ++ rest)).drop start).take length = piece := by
  rw [List.drop_left' hstart, List.take_left' hlen]

lemma length_flatMap_of_width {items : List α} {piece : α → List β}
    (hwidth : ∀ item ∈ items, (piece item).length = width) :
    (items.flatMap piece).length = items.length * width := by
  rw [List.length_flatMap, List.map_congr_left hwidth, List.map_const', List.sum_replicate,
    smul_eq_mul]

lemma take_drop_flatMap {items : List α} (hwidth : ∀ item ∈ items, (piece item).length = width)
    (hi : i < items.length) (rest : List β) :
    ((items.flatMap piece ++ rest).drop (i * width)).take width = piece items[i] := by
  have hitems : items.take i ++ items[i] :: items.drop (i + 1) = items := by
    rw [← List.drop_eq_getElem_cons hi, List.take_append_drop]
  have hsplit : items.flatMap piece ++ rest = (items.take i).flatMap piece ++
      (piece items[i] ++ ((items.drop (i + 1)).flatMap piece ++ rest)) := by
    calc items.flatMap piece ++ rest
        = (items.take i ++ items[i] :: items.drop (i + 1)).flatMap piece ++ rest := by rw [hitems]
      _ = _ := by simp only [List.flatMap_append, List.flatMap_cons, List.append_assoc]
  have hfront : ((items.take i).flatMap piece).length = i * width := by
    rw [length_flatMap_of_width fun item hitem => hwidth item (List.mem_of_mem_take hitem),
      List.length_take, min_eq_left hi.le]
  rw [hsplit]
  exact take_drop_append hfront (hwidth _ (List.getElem_mem hi))

lemma leNat_lt (bytes : List UInt8) : leNat bytes < 256 ^ bytes.length := by
  induction bytes with
  | nil => simp [leNat]
  | cons byte bytes ih =>
    have hbyte := byte.toNat_lt
    have hcons : leNat (byte :: bytes) = byte.toNat + 256 * leNat bytes := rfl
    rw [hcons, List.length_cons, pow_succ']
    omega

lemma leNat_take_lt (bytes : List UInt8) (width : ℕ) :
    leNat (bytes.take width) < 256 ^ width := by
  calc leNat (bytes.take width) < 256 ^ (bytes.take width).length := leNat_lt _
    _ ≤ 256 ^ width := Nat.pow_le_pow_right (by decide) (List.length_take_le _ _)

end RocketSurgeon.Lib
