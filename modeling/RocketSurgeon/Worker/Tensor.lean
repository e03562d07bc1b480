import RocketSurgeon.Lib.RowMajor
import RocketSurgeon.Lib.Slices
import RocketSurgeon.Worker.Arena

/-!
# Tensors

The tensors of the Python side: a dtype, a shape, a device and the bit patterns of the elements
in row-major order.  A tensor that is contiguous is, in memory, the little-endian bytes of its
elements one after the other.
-/

namespace RocketSurgeon.Worker

open Lib

/-- The dtypes of the tensor library.  Only those that the daemon knows are told apart. -/
inductive TorchDtype
  | float16
  | bfloat16
  | float32
  | float64
  | int8
  | int16
  | int32
  | int64
  | uint8
  | bool
  | other (name : String) (itemSize : ℕ)
  deriving DecidableEq, Repr

namespace TorchDtype

/-- The name of a dtype behind `torch.`. -/
def name : TorchDtype → String
  | .float16 => "float16"
  | .bfloat16 => "bfloat16"
  | .float32 => "float32"
  | .float64 => "float64"
  | .int8 => "int8"
  | .int16 => "int16"
  | .int32 => "int32"
  | .int64 => "int64"
  | .uint8 => "uint8"
  | .bool => "bool"
  | .other name _ => name

def str (dtype : TorchDtype) : String := "torch." ++ dtype.name

/-- `element_size`, in bytes. -/
def itemSize : TorchDtype → ℕ
  | .float16 | .bfloat16 | .int16 => 2
  | .float32 | .int32 => 4
  | .float64 | .int64 => 8
  | .int8 | .uint8 | .bool => 1
  | .other _ itemSize => itemSize

/-- The bit patterns of an element are below this; a truth value is 0 or 1. -/
def patterns : TorchDtype → ℕ
  | .bool => 2
  | dtype => 256 ^ dtype.itemSize

lemma patterns_le (dtype : TorchDtype) : dtype.patterns ≤ 256 ^ dtype.itemSize := by
  cases dtype with
  | bool => decide
  | _ => exact le_rfl

end TorchDtype

/-- The dtype that is stored under a tag. -/
def DtypeTag.torch : DtypeTag → TorchDtype
  | .float16 => .float16
  | .bfloat16 => .bfloat16
  | .float32 => .float32
  | .float64 => .float64

lemma DtypeTag.str_torch (tag : DtypeTag) : tag.torch.str = tag.toTorchStr := by
  cases tag <;> rfl

lemma DtypeTag.itemSize_torch (tag : DtypeTag) : tag.torch.itemSize = tag.elemSize := by
  cases tag <;> rfl

/-- A tensor.  Its dimensions and the number of its bytes are non-negative 64-bit numbers. -/
structure Tensor where
  dtype : TorchDtype
  shape : List ℕ
  device : String
  elems : List ℕ
  count : elems.length = shape.prod
  range : ∀ bits ∈ elems, bits < dtype.patterns
  dims : ∀ dim ∈ shape, dim < 2 ^ 63
  size : shape.prod * dtype.itemSize < 2 ^ 63

namespace Tensor

/-- The number of bytes of a tensor. -/
def byteSize (tensor : Tensor) : ℕ := tensor.elems.length * tensor.dtype.itemSize

/-- The bytes of a tensor that is contiguous. -/
def bytes (tensor : Tensor) : List UInt8 :=
  tensor.elems.flatMap (leBytes tensor.dtype.itemSize)

/-- The elements from one index of the last dimension to another. -/
def sliceElems (tensor : Tensor) (start stop : ℕ) : List ℕ :=
  (rows (tensor.shape.getLastD 0) tensor.shape.dropLast.prod tensor.elems).flatMap fun row =>
    (row.take stop).drop start

lemma mem_of_mem_sliceElems {tensor : Tensor} (hbits : bits ∈ tensor.sliceElems start stop) :
    bits ∈ tensor.elems := by
  obtain ⟨row, hrow, hmem⟩ := List.mem_flatMap.mp hbits
  exact mem_of_mem_rows hrow (List.mem_of_mem_take (List.mem_of_mem_drop hmem))

lemma prod_shape {shape : List ℕ} (hshape : shape ≠ []) :
    shape.prod = shape.dropLast.prod * shape.getLastD 0 := by
  conv_lhs => rw [← List.dropLast_append_getLast hshape]
  rw [List.prod_append, List.prod_singleton, List.getLastD_eq_getLast?,
    List.getLast?_eq_some_getLast hshape, Option.getD_some]

/-- `tensor[..., start:stop]`, for a tensor that has a last dimension. -/
def slice (tensor : Tensor) (hshape : tensor.shape ≠ []) (start stop : ℕ) : Tensor where
  dtype := tensor.dtype
  shape := tensor.shape.dropLast ++ [min stop (tensor.shape.getLastD 0) - start]
  device := tensor.device
  elems := tensor.sliceElems start stop
  count := by
    have hwidth : ∀ row ∈ rows (tensor.shape.getLastD 0) tensor.shape.dropLast.prod tensor.elems,
        ((row.take stop).drop start).length = min stop (tensor.shape.getLastD 0) - start := by
      intro row hrow
      rw [List.length_drop, List.length_take,
        length_of_mem_rows (tensor.count.trans (prod_shape hshape)) hrow]
    rw [sliceElems, length_flatMap_of_width hwidth, length_rows, List.prod_append,
      List.prod_singleton]
  range := fun bits hbits => tensor.range bits (mem_of_mem_sliceElems hbits)
  dims := by
    have hlast : tensor.shape.getLastD 0 ∈ tensor.shape := by
      rw [List.getLastD_eq_getLast?, List.getLast?_eq_some_getLast hshape]
      exact List.getLast_mem hshape
    intro dim hdim
    rcases List.mem_append.mp hdim with hfront | hsliced
    · exact tensor.dims dim (List.dropLast_subset _ hfront)
    · have hbound := tensor.dims _ hlast
      rw [List.mem_singleton] at hsliced
      omega
  size := by
    refine lt_of_le_of_lt (Nat.mul_le_mul_right _ ?_) tensor.size
    rw [List.prod_append, List.prod_singleton, prod_shape hshape]
    exact Nat.mul_le_mul_left _ (by omega)

end Tensor

/-- The first `count` elements of the given width at an address. -/
def viewElems (mem : Memory) (address width count : ℕ) : List ℕ :=
  (List.range count).map fun i => loadLE mem (address + i * width) width

lemma viewElems_writeBytes {count : ℕ} (mem : Memory) (address : ℕ) {elems : List ℕ}
    (hrange : ∀ bits ∈ elems, bits < 256 ^ width) (hcount : count ≤ elems.length) :
    viewElems (writeBytes mem address (elems.flatMap (leBytes width))) address width count =
      elems.take count := by
  have hwidth : ∀ bits ∈ elems, (leBytes width bits).length = width := fun _ _ =>
    length_leBytes _ _
  refine List.ext_getElem (by simp [viewElems, hcount]) fun i hi hi' => ?_
  have hrow : i < elems.length := lt_of_lt_of_le (by simpa [viewElems] using hi) hcount
  have hin : i * width + width ≤ (elems.flatMap (leBytes width)).length := by
    rw [length_flatMap_of_width hwidth, ← Nat.succ_mul]
    exact Nat.mul_le_mul_right width hrow
  have hpiece : ((elems.flatMap (leBytes width)).drop (i * width)).take width =
      leBytes width elems[i] := by
    have hread := take_drop_flatMap hwidth hrow []
    rwa [List.append_nil] at hread
  simp only [viewElems, List.getElem_map, List.getElem_range, List.getElem_take]
  rw [loadLE, readBytes_writeBytes_inside mem address hin, hpiece]
  exact leNat_leBytes (hrange _ (List.getElem_mem hrow))

end RocketSurgeon.Worker
