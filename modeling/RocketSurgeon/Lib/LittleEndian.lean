import Mathlib

/-!
# Little-endian integers

A fixed-width unsigned integer in a byte buffer: `leBytes width value` is the
`width` bytes of `value`, least significant first, with everything above
`256 ^ width` dropped, and `leNat` reads such bytes back.  The round trip is
exact below `256 ^ width`.
-/

namespace RocketSurgeon.Lib

/-- The `width` low bytes of `value`, least significant first. -/
def leBytes : ℕ → ℕ → List UInt8
  | 0, _ => []
  | width + 1, value => UInt8.ofNat value :: leBytes width (value / 256)

/-- The integer whose little-endian bytes are `bytes`. -/
def leNat (bytes : List UInt8) : ℕ :=
  bytes.foldr (fun byte rest => byte.toNat + 256 * rest) 0

@[simp] lemma length_leBytes (width value : ℕ) : (leBytes width value).length = width := by
  induction width generalizing value with
  | zero => rfl
  | succ width ih => simp [leBytes, ih]

lemma leNat_leBytes_mod (width value : ℕ) :
    leNat (leBytes width value) = value % 256 ^ width := by
  induction width generalizing value with
  | zero => simp [leBytes, leNat, Nat.mod_one]
  | succ width ih =>
    have hrest : leNat (leBytes width (value / 256)) = value / 256 % 256 ^ width := ih _
    calc leNat (leBytes (width + 1) value)
        = (UInt8.ofNat value).toNat + 256 * leNat (leBytes width (value / 256)) := rfl
      _ = value % 256 + 256 * (value / 256 % 256 ^ width) := by
          rw [hrest, UInt8.toNat_ofNat']
      _ = value % 256 ^ (width + 1) := by rw [pow_succ', Nat.mod_mul]

lemma leNat_leBytes {width value : ℕ} (hvalue : value < 256 ^ width) :
    leNat (leBytes width value) = value := by
  rw [leNat_leBytes_mod, Nat.mod_eq_of_lt hvalue]

end RocketSurgeon.Lib
