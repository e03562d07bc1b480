import Mathlib

/-!
# Text

Text as it travels and as it is parsed: the UTF-8 bytes of a string, and the usual
operations of a header parser on its characters (trim, split once, compare without case,
read a number).

A byte below 128 in the UTF-8 bytes of a text is a character of the text, so a text without
line feeds has no line-feed byte.
-/

namespace RocketSurgeon.Lib

open List

variable (text : String)

/-! ## UTF-8 -/

/-- The UTF-8 bytes of a text. -/
def utf8 (text : String) : List UInt8 := text.toByteArray.data.toList

/-- The text that has the given UTF-8 bytes, if they are valid. -/
def ofUtf8 (bytes : List UInt8) : Option String := String.fromUTF8? ⟨bytes.toArray⟩

@[simp] lemma length_utf8 : (utf8 text).length = text.utf8ByteSize := rfl

@[simp] lemma utf8_append (first second : String) :
    utf8 (first ++ second) = utf8 first ++ utf8 second := by
  simp [utf8, String.toByteArray_append]

@[simp] lemma ofUtf8_utf8 : ofUtf8 (utf8 text) = some text := by
  have hbytes : (⟨(utf8 text).toArray⟩ : ByteArray) = text.toByteArray := by
    simp [utf8]
  rw [ofUtf8, hbytes, String.fromUTF8?, dif_pos text.isValidUTF8]
  rfl

lemma toNat_eq_of_mem_utf8EncodeChar (hbyte : byte.toNat < 128)
    (hmem : byte ∈ String.utf8EncodeChar c) : c.toNat = byte.toNat := by
  unfold String.utf8EncodeChar at hmem
  dsimp only at hmem
  split at hmem
  next hascii =>
    obtain rfl := mem_singleton.mp hmem
    exact (Nat.mod_eq_of_lt (show c.val.toNat < 2 ^ 8 by omega)).symm
  · split at hmem
    · simp only [mem_cons, not_mem_nil, or_false] at hmem
      rcases hmem with rfl | rfl <;> simp only [UInt8.toNat_ofNat'] at hbyte <;> omega
    · split at hmem
      · simp only [mem_cons, not_mem_nil, or_false] at hmem
        rcases hmem with rfl | rfl | rfl <;> simp only [UInt8.toNat_ofNat'] at hbyte <;> omega
      · simp only [mem_cons, not_mem_nil, or_false] at hmem
        rcases hmem with rfl | rfl | rfl | rfl <;> simp only [UInt8.toNat_ofNat'] at hbyte <;> omega

lemma utf8_eq_flatMap : utf8 text = text.toList.flatMap String.utf8EncodeChar := by
  have hencode : text.toByteArray = text.toList.utf8Encode := by
    rw [← String.toByteArray_ofList, String.ofList_toList]
  rw [utf8, hencode]
  simp [utf8Encode]

lemma not_mem_utf8 {text : String} (hascii : c.toNat < 128) (hmem : c ∉ text.toList) :
    UInt8.ofNat c.toNat ∉ utf8 text := by
  intro hbyte
  have hcode : (UInt8.ofNat c.toNat).toNat = c.toNat := by
    exact Nat.mod_eq_of_lt (by omega)
  rw [utf8_eq_flatMap] at hbyte
  obtain ⟨found, hfound, hencoded⟩ := mem_flatMap.mp hbyte
  have htoNat := toNat_eq_of_mem_utf8EncodeChar (by omega) hencoded
  have hsame : found = c := Char.toNat_inj.mp (htoNat.trans hcode)
  exact hmem (hsame ▸ hfound)

/-! ## Characters -/

/-- White space as Unicode has it. -/
def isWhitespace (c : Char) : Bool :=
  let n := c.toNat
  9 ≤ n && n ≤ 13 || n = 32 || n = 0x85 || n = 0xA0 || n = 0x1680 || 0x2000 ≤ n && n ≤ 0x200A ||
    n = 0x2028 || n = 0x2029 || n = 0x202F || n = 0x205F || n = 0x3000

/-- A text without the white space at its ends. -/
def trim (text : List Char) : List Char := (text.dropWhile isWhitespace).rdropWhile isWhitespace

/-- What stands before and behind the first separator. -/
def splitOnce (separator : Char) : List Char → Option (List Char × List Char)
  | [] => none
  | c :: rest =>
      if c = separator then some ([], rest)
      else (splitOnce separator rest).map fun (before, behind) => (c :: before, behind)

/-- Equality up to the case of ASCII letters. -/
def eqIgnoreAsciiCase (first second : List Char) : Bool :=
  first.map Char.toLower == second.map Char.toLower

/-- A number without its plus sign. -/
def dropPlus : List Char → List Char
  | '+' :: rest => rest
  | text => text

/-- An unsigned number of the given width: digits, with an optional plus sign. -/
def parseUnsigned (bits : ℕ) (text : List Char) : Option ℕ :=
  let digits := dropPlus text
  if digits ≠ [] ∧ digits.all Char.isDigit ∧ Nat.ofDigitChars 10 digits 0 < 2 ^ bits then
    some (Nat.ofDigitChars 10 digits 0)
  else none

lemma splitOnce_append (hbefore : separator ∉ before) (behind : List Char) :
    splitOnce separator (before ++ separator :: behind) = some (before, behind) := by
  induction before with
  | nil => simp [splitOnce]
  | cons c before ih =>
    rw [mem_cons, not_or] at hbefore
    rw [cons_append, splitOnce, if_neg (Ne.symm hbefore.1), ih hbefore.2]
    rfl

lemma not_mem_of_mem_splitOn {text : List Char} (hpart : part ∈ text.splitOn separator) :
    separator ∉ part := by
  induction text generalizing part with
  | nil =>
    rw [splitOn_nil, mem_singleton] at hpart
    rw [hpart]
    exact not_mem_nil
  | cons char text ih =>
    rw [splitOn_cons_eq_if_modifyHead] at hpart
    split_ifs at hpart with hchar
    · rcases mem_cons.mp hpart with rfl | hpart
      · exact not_mem_nil
      · exact ih hpart
    · cases hrest : text.splitOn separator with
      | nil => exact absurd hrest (splitOn_ne_nil _ _)
      | cons first rest =>
        rw [hrest, modifyHead_cons] at hpart
        rcases mem_cons.mp hpart with rfl | hpart
        · rw [mem_cons, not_or]
          exact ⟨fun heq => hchar (by simp [heq]), ih (hrest ▸ mem_cons_self)⟩
        · exact ih (hrest ▸ mem_cons_of_mem _ hpart)

lemma not_isWhitespace_of_isDigit (hdigit : c.isDigit = true) :
    isWhitespace c = false := by
  have hrange : 48 ≤ c.toNat ∧ c.toNat ≤ 57 := by
    simpa [Char.isDigit, UInt32.le_iff_toNat_le] using hdigit
  simp only [isWhitespace, Bool.or_eq_false_iff, Bool.and_eq_false_iff, decide_eq_false_iff_not]
  omega

lemma not_mem_toDigits (hc : c.isDigit = false) (n : ℕ) : c ∉ Nat.toDigits 10 n := by
  intro hmem
  have hdigit := Nat.isDigit_of_mem_toDigits (by decide) (by decide) hmem
  exact Bool.false_ne_true (hc.symm.trans hdigit)

lemma parseUnsigned_trim_toDigits (hn : n < 2 ^ bits) :
    parseUnsigned bits (trim (' ' :: Nat.toDigits 10 n)) = some n := by
  have hdigit : ∀ c ∈ Nat.toDigits 10 n, c.isDigit = true := fun c hc =>
    Nat.isDigit_of_mem_toDigits (by decide) (by decide) hc
  have hne : Nat.toDigits 10 n ≠ [] := Nat.toDigits_ne_nil
  have htrim : trim (' ' :: Nat.toDigits 10 n) = Nat.toDigits 10 n := by
    have hfront : (Nat.toDigits 10 n).dropWhile isWhitespace = Nat.toDigits 10 n := by
      obtain ⟨c, rest, hcons⟩ := exists_cons_of_ne_nil hne
      rw [hcons, dropWhile_cons_of_neg]
      rw [not_isWhitespace_of_isDigit (hdigit c (hcons ▸ mem_cons_self))]
      exact Bool.false_ne_true
    have hback : (Nat.toDigits 10 n).rdropWhile isWhitespace = Nat.toDigits 10 n := by
      rw [rdropWhile_eq_self_iff]
      intro hnil
      rw [not_isWhitespace_of_isDigit (hdigit _ (getLast_mem hnil))]
      exact Bool.false_ne_true
    rw [trim, dropWhile_cons_of_pos (by decide), hfront, hback]
  have hplus : dropPlus (Nat.toDigits 10 n) = Nat.toDigits 10 n := by
    unfold dropPlus
    split
    next rest hcons =>
      have hbad := hdigit '+' (hcons ▸ mem_cons_self)
      exact absurd hbad (by decide)
    · rfl
  have hvalue : Nat.ofDigitChars 10 (Nat.toDigits 10 n) 0 = n := Nat.ofDigitChars_ten_toDigits
  have hall : (Nat.toDigits 10 n).all Char.isDigit = true := all_eq_true.mpr hdigit
  rw [htrim, parseUnsigned, hplus, hvalue, if_pos ⟨hne, hall, hn⟩]

end RocketSurgeon.Lib
