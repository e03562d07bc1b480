import Mathlib

/-!
# The packets of a trace file

A trace file is a stream of packets, each behind the tag of the field `packet`
and its length as a base-128 number.  `decodePackets` is the reader of such a
stream.
-/

namespace RocketSurgeon.Perfetto

open List

lemma toNat_shiftRight_seven (value : UInt64) : (value >>> 7).toNat = value.toNat / 128 := by
  simp [Nat.shiftRight_eq_div_pow]

lemma shiftRight_seven_eq_zero_iff (value : UInt64) : value >>> 7 = 0 ↔ value.toNat < 128 := by
  rw [← UInt64.toNat_inj, toNat_shiftRight_seven]
  exact Nat.div_eq_zero_iff_lt (by decide)

/-- The bytes that `encode_varint` pushes. -/
def encodeVarint (value : UInt64) : List UInt8 :=
  let byte := (value &&& 0x7F).toUInt8
  if value >>> 7 = 0 then [byte] else (byte ||| 0x80) :: encodeVarint (value >>> 7)
termination_by value.toNat
decreasing_by
  rw [shiftRight_seven_eq_zero_iff] at *
  rw [toNat_shiftRight_seven]
  omega

def field1TagAndLength (payloadLen : UInt64) : List UInt8 := 0x0A :: encodeVarint payloadLen

/-- A packet as prost sees it: the bytes `encode` writes are as many as `encoded_len` says. -/
structure TracePacket where
  encodedLen : UInt64
  encode : List UInt8
  length_encode : encode.length = encodedLen.toNat

structure TraceWriter where
  writer : List UInt8
  buf : List UInt8

def TraceWriter.writePacket (w : TraceWriter) (packet : TracePacket) : TraceWriter :=
  let buf := field1TagAndLength packet.encodedLen ++ packet.encode
  ⟨w.writer ++ buf, buf⟩

/-! ## The reader -/

/-- A base-128 number of at most the given number of bytes, and what follows it. -/
def decodeVarint : ℕ → List UInt8 → Option (ℕ × List UInt8)
  | limit + 1, byte :: rest =>
      if byte.toNat < 128 then some (byte.toNat, rest)
      else (decodeVarint limit rest).map fun high => (byte.toNat % 128 + 128 * high.1, high.2)
  | _, _ => none

/-- Length-delimited fields with the number 1, up to the end of the bytes. -/
def decodeFields : ℕ → List UInt8 → Option (List (List UInt8))
  | _, [] => some []
  | 0, _ :: _ => none
  | fuel + 1, byte :: bytes => do
      let (key, rest) ← decodeVarint 10 (byte :: bytes)
      let (length, rest) ← decodeVarint 10 rest
      if key = 1 * 8 + 2 ∧ length ≤ rest.length then
        let fields ← decodeFields fuel (rest.drop length)
        return rest.take length :: fields
      else none

def decodePackets (bytes : List UInt8) : Option (List (List UInt8)) :=
  decodeFields bytes.length bytes

/-- The number whose base-128 digits are the low seven bits of the bytes. -/
def base128 (bytes : List UInt8) : ℕ := Nat.ofDigits 128 (bytes.map fun byte => byte.toNat % 128)

/-! ## Numbers -/

lemma toNat_low (value : UInt64) : (value &&& 0x7F).toUInt8.toNat = value.toNat % 128 := by
  have hmask : (0x7F : UInt64).toNat = 2 ^ 7 - 1 := rfl
  rw [UInt64.toNat_toUInt8, UInt64.toNat_and, hmask, Nat.and_two_pow_sub_one_eq_mod]
  omega

lemma toNat_or_continuation {byte : UInt8} (hbyte : byte.toNat < 128) :
    (byte ||| 0x80).toNat = 128 + byte.toNat := by
  have hbit : (0x80 : UInt8).toNat = 2 ^ 7 * 1 := rfl
  rw [UInt8.toNat_or, hbit, Nat.or_comm, ← Nat.two_pow_add_eq_or_of_lt hbyte]

/-- The encoding of a number below a power of the base. -/
lemma encodeVarint_spec (value : UInt64) {limit : ℕ} (hvalue : value.toNat < 128 ^ (limit + 1)) :
    (encodeVarint value).length ≤ limit + 1 ∧ base128 (encodeVarint value) = value.toNat ∧
      ∀ rest, decodeVarint (limit + 1) (encodeVarint value ++ rest) = some (value.toNat, rest) := by
  induction value using encodeVarint.induct generalizing limit with
  | case1 value hlast =>
    have hsmall := (shiftRight_seven_eq_zero_iff value).mp hlast
    have hlow := (toNat_low value).trans (Nat.mod_eq_of_lt hsmall)
    rw [encodeVarint, if_pos hlast]
    refine ⟨Nat.le_add_left 1 limit, ?_, fun rest => ?_⟩
    · rw [base128, map_singleton, Nat.ofDigits_singleton, hlow, Nat.mod_eq_of_lt hsmall]
    · rw [singleton_append, decodeVarint, hlow, if_pos hsmall]
  | case2 value hmore ih =>
    rw [encodeVarint, if_neg hmore]
    rw [shiftRight_seven_eq_zero_iff] at hmore
    have hlow := toNat_low value
    have hbyte := toNat_or_continuation (hlow ▸ Nat.mod_lt _ (by decide))
    rw [hlow] at hbyte
    obtain _ | limit := limit
    · omega
    have hhigh : (value >>> 7).toNat < 128 ^ (limit + 1) := by
      rw [toNat_shiftRight_seven, Nat.div_lt_iff_lt_mul (by decide)]
      exact hvalue
    obtain ⟨hlen, hvalue, hdecode⟩ := ih hhigh
    rw [toNat_shiftRight_seven] at hvalue hdecode
    refine ⟨Nat.succ_le_succ hlen, ?_, fun rest => ?_⟩
    · rw [base128, map_cons, Nat.ofDigits_cons, ← base128, hvalue, hbyte]
      omega
    · rw [cons_append, decodeVarint, if_neg (by omega), hdecode, hbyte]
      simp only [Option.map_some, Option.some.injEq, Prod.mk.injEq, and_true]
      omega

lemma toNat_lt_pow_ten (value : UInt64) : value.toNat < 128 ^ (9 + 1) :=
  value.toNat_lt.trans (by decide)

/-! ## Packets -/

lemma decodeFields_packets (packets : List TracePacket) {fuel : ℕ}
    (hfuel : packets.length ≤ fuel) :
    decodeFields fuel (packets.flatMap fun packet =>
        field1TagAndLength packet.encodedLen ++ packet.encode) =
      some (packets.map TracePacket.encode) := by
  induction packets generalizing fuel with
  | nil => cases fuel <;> rfl
  | cons packet packets ih =>
    obtain _ | fuel := fuel
    · cases hfuel
    obtain ⟨-, -, hlen⟩ := encodeVarint_spec packet.encodedLen (toNat_lt_pow_ten _)
    have ih := ih (Nat.le_of_succ_le_succ hfuel)
    rw [flatMap_cons, field1TagAndLength, append_assoc, cons_append, decodeFields]
    have hkey (rest : List UInt8) : decodeVarint 10 (0x0A :: rest) = some (10, rest) := rfl
    rw [hkey, Option.bind_eq_bind, Option.bind_some]
    dsimp only
    rw [hlen, Option.bind_eq_bind, Option.bind_some]
    dsimp only
    rw [if_pos (by simp [packet.length_encode]), drop_left' packet.length_encode,
      take_left' packet.length_encode, ih]
    rfl

lemma writer_foldl_writePacket (packets : List TracePacket) (w : TraceWriter) :
    (packets.foldl TraceWriter.writePacket w).writer = w.writer ++ packets.flatMap fun packet =>
      field1TagAndLength packet.encodedLen ++ packet.encode := by
  induction packets generalizing w with
  | nil => simp
  | cons packet packets ih => simp [ih, TraceWriter.writePacket]

/-- The reader takes the packets that were written out of the stream, whatever bytes they hold,
and a number is written in the fewest bytes, at most ten. -/
theorem decodePackets_writePacket (packets : List TracePacket) :
    decodePackets (packets.foldl TraceWriter.writePacket ⟨[], []⟩).writer =
        some (packets.map TracePacket.encode) ∧
      ∀ value, 1 ≤ (encodeVarint value).length ∧ (encodeVarint value).length ≤ 10 ∧
        decodeVarint 10 (encodeVarint value) = some (value.toNat, []) ∧
        base128 (encodeVarint value) = value.toNat ∧
        ∀ bytes, bytes ≠ [] → base128 bytes = value.toNat →
          (encodeVarint value).length ≤ bytes.length := by
  refine ⟨?_, fun value => ?_⟩
  · rw [writer_foldl_writePacket]
    refine decodeFields_packets packets ?_
    rw [nil_append, length_flatMap, ← @length_map _ _ packets]
    exact length_le_sum_of_one_le _ (by simp [field1TagAndLength])
  · obtain ⟨hlength, hvalue, hdecode⟩ := encodeVarint_spec value (toNat_lt_pow_ten value)
    refine ⟨?_, hlength, append_nil (encodeVarint value) ▸ hdecode [], hvalue, ?_⟩
    · rw [encodeVarint]
      split_ifs <;> simp
    · intro bytes hbytes hsame
      obtain ⟨first, rest, rfl⟩ := exists_cons_of_ne_nil hbytes
      have hdigits : ∀ digit ∈ (first :: rest).map fun byte => byte.toNat % 128, digit < 128 := by
        intro digit hdigit
        obtain ⟨byte, -, rfl⟩ := mem_map.mp hdigit
        exact Nat.mod_lt _ (by decide)
      have hbound := Nat.ofDigits_lt_base_pow_length (by decide : 1 < 128) hdigits
      rw [length_map, ← base128, hsame] at hbound
      exact (encodeVarint_spec value hbound).1

end RocketSurgeon.Perfetto
