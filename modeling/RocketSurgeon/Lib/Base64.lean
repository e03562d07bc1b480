import Mathlib

/-!
# Base64

The standard alphabet with padding.  Three bytes make four characters, and a rest of one or two
bytes makes a last group that is filled up with `=`.  Decoding is strict: padding stands
at the very end and is complete, and the bits that no byte uses are zero.  This is what the crate
base64 documents of its engine `STANDARD`: canonical padding is required, and trailing bits that are
set are an error.
-/

namespace RocketSurgeon.Lib.Base64

def alphabet : List Char :=
  "ABCDEFGHIJKLMNOPQRSTUVWXYZabcdefghijklmnopqrstuvwxyz0123456789+/".toList

/-- The character of six bits. -/
def sextetChar (n : ℕ) : Char := alphabet.getD n 'A'

/-- The six bits of a character. -/
def sextet (c : Char) : Option ℕ :=
  let n := alphabet.idxOf c
  if n < 64 then some n else none

lemma sextet_sextetChar {n : ℕ} (hn : n < 64) : sextet (sextetChar n) = some n := by
  have hall : ∀ i : Fin 64, sextet (sextetChar i) = some i.val := by decide +kernel
  exact hall ⟨n, hn⟩

lemma sextetChar_ne_pad {n : ℕ} (hn : n < 64) : sextetChar n ≠ '=' := by
  intro hpad
  have hnone : sextet '=' = none := by decide
  rw [← hpad, sextet_sextetChar hn] at hnone
  cases hnone

def encode : List UInt8 → List Char
  | [] => []
  | [a] =>
      let n := a.toNat * 16
      [sextetChar (n / 64), sextetChar (n % 64), '=', '=']
  | [a, b] =>
      let n := (a.toNat * 256 + b.toNat) * 4
      [sextetChar (n / 4096), sextetChar (n / 64 % 64), sextetChar (n % 64), '=']
  | a :: b :: c :: rest =>
      let n := (a.toNat * 256 + b.toNat) * 256 + c.toNat
      sextetChar (n / 262144) :: sextetChar (n / 4096 % 64) :: sextetChar (n / 64 % 64) ::
        sextetChar (n % 64) :: encode rest

/-- The byte in a last group with two padding characters. -/
def decodeOne (c0 c1 : Char) : Option (List UInt8) := do
  let s0 ← sextet c0
  let s1 ← sextet c1
  let n := s0 * 64 + s1
  if n % 16 = 0 then some [UInt8.ofNat (n / 16)] else none

/-- The bytes in a last group with one padding character. -/
def decodeTwo (c0 c1 c2 : Char) : Option (List UInt8) := do
  let s0 ← sextet c0
  let s1 ← sextet c1
  let s2 ← sextet c2
  let n := (s0 * 64 + s1) * 64 + s2
  if n % 4 = 0 then some [UInt8.ofNat (n / 1024), UInt8.ofNat (n / 4 % 256)] else none

def decodeThree (c0 c1 c2 c3 : Char) : Option (List UInt8) := do
  let s0 ← sextet c0
  let s1 ← sextet c1
  let s2 ← sextet c2
  let s3 ← sextet c3
  let n := ((s0 * 64 + s1) * 64 + s2) * 64 + s3
  some [UInt8.ofNat (n / 65536), UInt8.ofNat (n / 256 % 256), UInt8.ofNat (n % 256)]

def decode : List Char → Option (List UInt8)
  | [] => some []
  | c0 :: c1 :: c2 :: c3 :: rest =>
      if rest = [] ∧ c3 = '=' then
        if c2 = '=' then decodeOne c0 c1 else decodeTwo c0 c1 c2
      else do
        let bytes ← decodeThree c0 c1 c2 c3
        let tail ← decode rest
        return bytes ++ tail
  | _ => none

section RoundTrip

variable (a b c : UInt8)

lemma decodeOne_encode :
    decodeOne (sextetChar (a.toNat * 16 / 64)) (sextetChar (a.toNat * 16 % 64)) = some [a] := by
  have ha := a.toNat_lt
  rw [decodeOne, sextet_sextetChar (by omega), sextet_sextetChar (by omega)]
  have hn : a.toNat * 16 / 64 * 64 + a.toNat * 16 % 64 = a.toNat * 16 := by omega
  simp [hn]

lemma decodeTwo_encode :
    let n := (a.toNat * 256 + b.toNat) * 4
    decodeTwo (sextetChar (n / 4096)) (sextetChar (n / 64 % 64)) (sextetChar (n % 64)) =
      some [a, b] := by
  have ha := a.toNat_lt
  have hb := b.toNat_lt
  intro n
  rw [decodeTwo, sextet_sextetChar (by omega), sextet_sextetChar (by omega),
    sextet_sextetChar (by omega)]
  have hn : (n / 4096 * 64 + n / 64 % 64) * 64 + n % 64 = n := by omega
  have hzero : n % 4 = 0 := by omega
  have hfirst : n / 1024 = a.toNat := by omega
  have hsecond : n / 4 % 256 = b.toNat := by omega
  simp [hn, hzero, hfirst, hsecond]

lemma decodeThree_encode :
    let n := (a.toNat * 256 + b.toNat) * 256 + c.toNat
    decodeThree (sextetChar (n / 262144)) (sextetChar (n / 4096 % 64)) (sextetChar (n / 64 % 64))
      (sextetChar (n % 64)) = some [a, b, c] := by
  have ha := a.toNat_lt
  have hb := b.toNat_lt
  have hc := c.toNat_lt
  intro n
  rw [decodeThree, sextet_sextetChar (by omega), sextet_sextetChar (by omega),
    sextet_sextetChar (by omega), sextet_sextetChar (by omega)]
  have hn : ((n / 262144 * 64 + n / 4096 % 64) * 64 + n / 64 % 64) * 64 + n % 64 = n := by omega
  have hfirst : n / 65536 = a.toNat := by omega
  have hsecond : n / 256 % 256 = b.toNat := by omega
  have hthird : n % 256 = c.toNat := by omega
  simp [hn, hfirst, hsecond, hthird]

end RoundTrip

lemma decode_encode (bytes : List UInt8) : decode (encode bytes) = some bytes := by
  induction bytes using encode.induct with
  | case1 => rfl
  | case2 a =>
    exact decodeOne_encode a
  | case3 a b =>
    rw [encode, decode, if_pos ⟨rfl, rfl⟩, if_neg (sextetChar_ne_pad (Nat.mod_lt _ (by decide)))]
    exact decodeTwo_encode a b
  | case4 a b c rest ih =>
    have hpad : sextetChar (((a.toNat * 256 + b.toNat) * 256 + c.toNat) % 64) ≠ '=' :=
      sextetChar_ne_pad (Nat.mod_lt _ (by decide))
    rw [encode, decode, if_neg fun h => hpad h.2, decodeThree_encode, ih]
    rfl

example : encode [77, 97] = "TWE=".toList := by decide

/-- The text of some bytes. -/
def encodeText (bytes : List UInt8) : String := String.ofList (encode bytes)

def decodeText (text : String) : Option (List UInt8) := decode text.toList

lemma decodeText_encodeText (bytes : List UInt8) : decodeText (encodeText bytes) = some bytes := by
  rw [decodeText, encodeText, String.toList_ofList]
  exact decode_encode bytes

lemma encodeText_injective : Function.Injective encodeText := by
  intro first second hsame
  have hdecoded := congrArg decodeText hsame
  rw [decodeText_encodeText, decodeText_encodeText] at hdecoded
  exact Option.some.inj hdecoded

end RocketSurgeon.Lib.Base64
