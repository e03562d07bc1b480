import RocketSurgeon.Lib.LittleEndian

/-!
# A flat byte memory

A mapped region is a function from offsets to bytes.  `writeBytes` copies a byte
list to an offset and `readBytes` copies one out.  The two facts every proof
about a region rests on are that a range reads back what was written to it and
that a write leaves every disjoint range alone; the integer cells at the end are
these two facts for a little-endian word.
-/

namespace RocketSurgeon.Lib

variable {offset other length width value : ℕ} {data : List UInt8} (mem : Memory)

/-- The contents of a memory region, by offset. -/
abbrev Memory := ℕ → UInt8

def writeBytes (mem : Memory) (offset : ℕ) (data : List UInt8) : Memory := fun address =>
  if offset ≤ address ∧ address < offset + data.length then data.getD (address - offset) 0
  else mem address

def readBytes (mem : Memory) (offset length : ℕ) : List UInt8 :=
  (List.range length).map fun index => mem (offset + index)

@[simp] lemma length_readBytes (offset length : ℕ) :
    (readBytes mem offset length).length = length := by
  simp [readBytes]

lemma readBytes_congr {mem : Memory}
    (h : ∀ address, offset ≤ address → address < offset + length → mem address = mem' address) :
    readBytes mem offset length = readBytes mem' offset length := by
  refine List.map_congr_left fun idx hindex => ?_
  rw [List.mem_range] at hindex
  exact h _ (Nat.le_add_right _ _) (by omega)

lemma readBytes_inside {mem : Memory}
    (hread : readBytes mem offset whole = readBytes mem' offset whole)
    (hin : start + length ≤ whole) :
    readBytes mem (offset + start) length = readBytes mem' (offset + start) length := by
  refine readBytes_congr fun address hlow hhigh => ?_
  have hmap := List.map_inj_left.mp hread (address - offset) (List.mem_range.mpr (by omega))
  rwa [show offset + (address - offset) = address by omega] at hmap

lemma readBytes_writeBytes (offset : ℕ) (data : List UInt8) :
    readBytes (writeBytes mem offset data) offset data.length = data := by
  refine List.ext_getElem (by simp) fun idx hindex hdata => ?_
  simp [readBytes, writeBytes, hdata]

lemma readBytes_writeBytes_inside (offset : ℕ) (hin : start + length ≤ data.length) :
    readBytes (writeBytes mem offset data) (offset + start) length =
      (data.drop start).take length := by
  refine List.ext_getElem (by simp; omega) fun idx hindex hpiece => ?_
  rw [length_readBytes] at hindex
  have hbelow : start + idx < data.length := by omega
  simp [readBytes, writeBytes, Nat.add_assoc, hbelow]

lemma readBytes_writeBytes_of_disjoint
    (h : other + length ≤ offset ∨ offset + data.length ≤ other) :
    readBytes (writeBytes mem offset data) other length = readBytes mem other length := by
  refine readBytes_congr fun address hlow hhigh => ?_
  have houtside : ¬ (offset ≤ address ∧ address < offset + data.length) := by omega
  simp [writeBytes, houtside]

/-! ## Integer cells -/

/-- Store the low `width` bytes of `value`. -/
def storeLE (mem : Memory) (offset width value : ℕ) : Memory :=
  writeBytes mem offset (leBytes width value)

/-- Load a `width`-byte integer. -/
def loadLE (mem : Memory) (offset width : ℕ) : ℕ :=
  leNat (readBytes mem offset width)

lemma loadLE_storeLE (offset : ℕ) (hvalue : value < 256 ^ width) :
    loadLE (storeLE mem offset width value) offset width = value := by
  have hread : readBytes (writeBytes mem offset (leBytes width value)) offset width =
      leBytes width value := by
    simpa using readBytes_writeBytes mem offset (leBytes width value)
  rw [loadLE, storeLE, hread, leNat_leBytes hvalue]

lemma loadLE_writeBytes_of_disjoint (h : other + width ≤ offset ∨ offset + data.length ≤ other) :
    loadLE (writeBytes mem offset data) other width = loadLE mem other width := by
  rw [loadLE, loadLE, readBytes_writeBytes_of_disjoint mem h]

lemma loadLE_storeLE_of_disjoint (h : other + width ≤ offset ∨ offset + width' ≤ other) :
    loadLE (storeLE mem offset width' value) other width = loadLE mem other width :=
  loadLE_writeBytes_of_disjoint mem (by simpa using h)

lemma readBytes_storeLE_of_disjoint (h : other + length ≤ offset ∨ offset + width ≤ other) :
    readBytes (storeLE mem offset width value) other length = readBytes mem other length :=
  readBytes_writeBytes_of_disjoint mem (by simpa using h)

end RocketSurgeon.Lib
