import RocketSurgeon.Lib.Float64
import RocketSurgeon.Lib.LittleEndian
import RocketSurgeon.Lib.RowMajor
import RocketSurgeon.Protocol.Inspect

/-!
# Tensor statistics

The bytes of a tensor are read as numbers, and two passes over these make the summary a client
gets: running moments, extrema and the norm first, then a histogram and the entries of
largest magnitude.

The passes are written over any arithmetic; the daemon runs them on 64-bit floats.  The
standard library's heap is a parameter: of the entries that are equally small it may
drop any.
-/

namespace RocketSurgeon.Daemon

open Lib Protocol

variable {shape : List ℕ}

def numHistogramBins : ℕ := 64
def defaultTopK : ℕ := 10

/-- The arithmetic of the passes. -/
structure FloatOps (F : Type) where
  ofNat : ℕ → F
  infinity : F
  negInfinity : F
  /-- `SPARSITY_EPSILON`. -/
  epsilon : F
  add : F → F → F
  sub : F → F → F
  mul : F → F → F
  div : F → F → F
  mulAdd : F → F → F → F
  sqrt : F → F
  abs : F → F
  lt : F → F → Bool
  isNan : F → Bool
  isFinite : F → Bool
  floorNat : F → ℕ

/-- 64-bit floats. -/
def FloatOps.f64 : FloatOps FloatValue where
  ofNat := Float64.ofNat
  infinity := .inf false
  negInfinity := .inf true
  epsilon := Float64.ofRat false (1 / 10 ^ 8)
  add := Float64.add
  sub := Float64.sub
  mul := Float64.mul
  div := Float64.div
  mulAdd := Float64.mulAdd
  sqrt := Float64.sqrt
  abs := Float64.abs
  lt := Float64.lt
  isNan := Float64.isNan
  isFinite := Float64.isFinite
  floorNat := Float64.floorNat

section Passes

variable {F : Type} (ops : FloatOps F)

/-! ## First pass -/

structure Pass1Result (F : Type) where
  n : ℕ
  mean : F
  m2 : F
  min : F
  max : F
  absMax : F
  sparseCount : ℕ
  nanCount : ℕ
  infCount : ℕ
  l2Accum : F
  l2Scale : F
  deriving DecidableEq, Repr

def Pass1Result.empty : Pass1Result F where
  n := 0
  mean := ops.ofNat 0
  m2 := ops.ofNat 0
  min := ops.infinity
  max := ops.negInfinity
  absMax := ops.ofNat 0
  sparseCount := 0
  nanCount := 0
  infCount := 0
  l2Accum := ops.ofNat 0
  l2Scale := ops.ofNat 0

def Pass1Result.finiteCount (r : Pass1Result F) : ℕ := r.n - r.nanCount - r.infCount

/-- The scaled sum of squares: the scale is the largest magnitude so far, and what was summed
under a smaller one is rescaled. -/
def l2Step (accum scale x : F) : F × F :=
  let ax := ops.abs x
  let rescaled :=
    if ops.lt scale ax then
      let accum :=
        if ops.lt (ops.ofNat 0) scale then
          let ratio := ops.div scale ax
          ops.mul (ops.mul accum ratio) ratio
        else accum
      (accum, ax)
    else (accum, scale)
  if ops.lt (ops.ofNat 0) rescaled.2 then
    let scaled := ops.div x rescaled.2
    (ops.add rescaled.1 (ops.mul scaled scaled), rescaled.2)
  else rescaled

/-- One value of the first pass.  What is not finite is counted and otherwise skipped. -/
def pass1Step (r : Pass1Result F) (x : F) : Pass1Result F :=
  let r := { r with n := r.n + 1 }
  if ops.isFinite x then
    let delta := ops.sub x r.mean
    let mean := ops.add r.mean (ops.div delta (ops.ofNat r.finiteCount))
    let delta2 := ops.sub x mean
    let ax := ops.abs x
    let l2 := l2Step ops r.l2Accum r.l2Scale x
    { r with
      mean
      m2 := ops.add r.m2 (ops.mul delta delta2)
      min := if ops.lt x r.min then x else r.min
      max := if ops.lt r.max x then x else r.max
      absMax := if ops.lt r.absMax ax then ax else r.absMax
      sparseCount := if ops.lt ax ops.epsilon then r.sparseCount + 1 else r.sparseCount
      l2Accum := l2.1
      l2Scale := l2.2 }
  else if ops.isNan x then { r with nanCount := r.nanCount + 1 }
  else { r with infCount := r.infCount + 1 }

def computePass1 (values : List F) : Pass1Result F :=
  values.foldl (pass1Step ops) (.empty ops)

/-! ### Merging two first passes -/

/-- `f64::min`: what is no number loses. -/
def FloatOps.min (a b : F) : F :=
  if ops.isNan a then b else if ops.isNan b then a else if ops.lt b a then b else a

/-- `f64::max`. -/
def FloatOps.max (a b : F) : F :=
  if ops.isNan a then b else if ops.isNan b then a else if ops.lt a b then b else a

def FloatOps.ge (a b : F) : Bool := !ops.lt a b && !ops.isNan a && !ops.isNan b

/-- Mean and `m2` of both parts. -/
def mergeMoments (a b : Pass1Result F) : F × F :=
  let total := a.finiteCount + b.finiteCount
  if total = 0 then (ops.ofNat 0, ops.ofNat 0)
  else
    let delta := ops.sub b.mean a.mean
    (ops.mulAdd delta (ops.div (ops.ofNat b.finiteCount) (ops.ofNat total)) a.mean,
      ops.mulAdd (ops.mul delta delta)
        (ops.div (ops.mul (ops.ofNat a.finiteCount) (ops.ofNat b.finiteCount)) (ops.ofNat total))
        (ops.add a.m2 b.m2))

/-- Scale and scaled sum of squares of both parts, under the larger scale. -/
def mergeL2 (a b : Pass1Result F) : F × F :=
  if ops.ge a.l2Scale b.l2Scale then
    if ops.lt (ops.ofNat 0) a.l2Scale && ops.lt (ops.ofNat 0) b.l2Scale then
      let ratio := ops.div b.l2Scale a.l2Scale
      (a.l2Scale, ops.mulAdd (ops.mul b.l2Accum ratio) ratio a.l2Accum)
    else (a.l2Scale, a.l2Accum)
  else if ops.lt (ops.ofNat 0) b.l2Scale && ops.lt (ops.ofNat 0) a.l2Scale then
    let ratio := ops.div a.l2Scale b.l2Scale
    (b.l2Scale, ops.mulAdd (ops.mul a.l2Accum ratio) ratio b.l2Accum)
  else (b.l2Scale, b.l2Accum)

def mergePass1 (a b : Pass1Result F) : Pass1Result F :=
  if a.n = 0 then b
  else if b.n = 0 then a
  else
    let moments := mergeMoments ops a b
    let l2 := mergeL2 ops a b
    { n := a.n + b.n
      mean := moments.1
      m2 := moments.2
      min := ops.min a.min b.min
      max := ops.max a.max b.max
      absMax := ops.max a.absMax b.absMax
      sparseCount := a.sparseCount + b.sparseCount
      nanCount := a.nanCount + b.nanCount
      infCount := a.infCount + b.infCount
      l2Accum := l2.2
      l2Scale := l2.1 }

/-! ## Second pass -/

structure TopKHeapEntry (F : Type) where
  absValue : F
  originalValue : F
  flatIndex : ℕ
  deriving DecidableEq, Repr

/-- The heap of the standard library, as the list it keeps its entries in; the least entry stands
first. -/
structure BinaryHeap (α : Type) where
  push : List α → α → List α
  pop : List α → List α

def histogramBin (rangeMin range x : F) : ℕ :=
  if ops.lt (ops.ofNat 0) range then
    let frac := ops.div (ops.sub x rangeMin) range
    min (ops.floorNat (ops.mul frac (ops.ofNat numHistogramBins))) (numHistogramBins - 1)
  -- All values are the same: the bin in the middle takes them.
  else numHistogramBins / 2

variable (heap : BinaryHeap (TopKHeapEntry F))

/-- Keep the `k` entries of largest magnitude. -/
def keepTopK (k : ℕ) (entries : List (TopKHeapEntry F)) (entry : TopKHeapEntry F) :
    List (TopKHeapEntry F) :=
  if entries.length < k then heap.push entries entry
  else
    match entries.head? with
    | some least =>
        if ops.lt least.absValue entry.absValue then heap.push (heap.pop entries) entry else entries
    | none => entries

structure Pass2Result (F : Type) where
  counts : List ℕ
  edges : List F
  topK : List (TopKHeapEntry F)

/-- One value of the second pass, at its position in the list. -/
def pass2Step (rangeMin range : F) (k : ℕ) (state : List ℕ × List (TopKHeapEntry F))
    (x : F × ℕ) : List ℕ × List (TopKHeapEntry F) :=
  if ops.isFinite x.1 then
    (state.1.modify (histogramBin ops rangeMin range x.1) (· + 1),
      keepTopK ops heap k state.2 ⟨ops.abs x.1, x.1, x.2⟩)
  else state

def computePass2 (values : List F) (rangeMin rangeMax : F) (k : ℕ) : Pass2Result F :=
  let range := ops.sub rangeMax rangeMin
  let passed := values.zipIdx.foldl (pass2Step ops heap rangeMin range k)
    (List.replicate numHistogramBins 0, [])
  { counts := passed.1
    edges := (List.range (numHistogramBins + 1)).map fun i =>
      if ops.lt (ops.ofNat 0) range then
        ops.mulAdd range (ops.div (ops.ofNat i) (ops.ofNat numHistogramBins)) rangeMin
      else rangeMin
    -- A stable sort by descending magnitude.
    topK := passed.2.insertionSort fun a b => ops.lt a.absValue b.absValue = false }

/-! ## The summary -/

/-- The coordinates of a position, the last one first; a dimension of zero divides by zero. -/
def indexFromLast : ℕ → List ℕ → Option (List ℕ)
  | _, [] => some []
  | remaining, dim :: rest =>
      if dim = 0 then none
      else (indexFromLast (remaining / dim) rest).map fun index => remaining % dim :: index

def flatIndexToMulti (flat : ℕ) (shape : List ℕ) : Option (List ℕ) :=
  (indexFromLast flat shape.reverse).map List.reverse

def emptyStats : TensorStats F where
  mean := ops.ofNat 0
  std := ops.ofNat 0
  min := ops.ofNat 0
  max := ops.ofNat 0
  absMax := ops.ofNat 0
  sparsity := ops.ofNat 1
  l2Norm := ops.ofNat 0
  histogram := {
    bins := numHistogramBins
    edges := List.replicate (numHistogramBins + 1) (ops.ofNat 0)
    counts := List.replicate numHistogramBins 0 }

/-- The summary of some values; `none` if the code panics. -/
def summarizeValues (values : List F) (shape : List ℕ) :
    Option (TensorStats F × List (TopKEntry F)) :=
  if values.isEmpty then some (emptyStats ops, [])
  else
    let p1 := computePass1 ops values
    let finiteCount := p1.finiteCount
    if finiteCount = 0 then some (emptyStats ops, [])
    else
      let variance :=
        if 1 < finiteCount then ops.div p1.m2 (ops.ofNat finiteCount) else ops.ofNat 0
      let p2 := computePass2 ops heap values p1.min p1.max (min defaultTopK finiteCount)
      let stats : TensorStats F := {
        mean := p1.mean
        std := ops.sqrt variance
        min := p1.min
        max := p1.max
        absMax := p1.absMax
        sparsity := ops.div (ops.ofNat p1.sparseCount) (ops.ofNat finiteCount)
        l2Norm :=
          if ops.lt (ops.ofNat 0) p1.l2Scale then ops.mul p1.l2Scale (ops.sqrt p1.l2Accum)
          else ops.ofNat 0
        histogram := ⟨numHistogramBins, p2.edges, p2.counts⟩ }
      (p2.topK.mapM fun entry =>
        (flatIndexToMulti entry.flatIndex shape).map fun index => ⟨index, entry.originalValue⟩).map
          fun topK => (stats, topK)

end Passes

/-! ## Reading values -/

/-- `chunks_exact`: what is left over at the end is dropped. -/
def chunksExact (width : ℕ) (data : List UInt8) : List (List UInt8) :=
  rows width (data.length / width) data

/-- A pattern as a number in two's complement. -/
def twosComplement (bits pattern : ℕ) : ℤ :=
  if pattern < 2 ^ (bits - 1) then pattern else pattern - 2 ^ bits

/-- Read every `width` bytes as a little-endian pattern. -/
def readPatterns (width : ℕ) (value : ℕ → FloatValue) (data : List UInt8) : List FloatValue :=
  (chunksExact width data).map fun chunk => value (leNat chunk)

def readF16Values : List UInt8 → List FloatValue := readPatterns 2 FloatFormat.half.decode
def readBf16Values : List UInt8 → List FloatValue := readPatterns 2 FloatFormat.bfloat16.decode
def readF32Values : List UInt8 → List FloatValue := readPatterns 4 FloatFormat.single.decode
def readF64Values : List UInt8 → List FloatValue := readPatterns 8 FloatFormat.double.decode

def readI16Values : List UInt8 → List FloatValue :=
  readPatterns 2 fun pattern => Float64.ofInt (twosComplement 16 pattern)

def readI32Values : List UInt8 → List FloatValue :=
  readPatterns 4 fun pattern => Float64.ofInt (twosComplement 32 pattern)

def readI64Values : List UInt8 → List FloatValue :=
  readPatterns 8 fun pattern => Float64.ofInt (twosComplement 64 pattern)

def readI8Values (data : List UInt8) : List FloatValue :=
  data.map fun byte => Float64.ofInt (twosComplement 8 byte.toNat)

def readU8Values (data : List UInt8) : List FloatValue :=
  data.map fun byte => Float64.ofInt byte.toNat

def readBoolValues (data : List UInt8) : List FloatValue :=
  data.map fun byte => if byte ≠ 0 then Float64.ofNat 1 else Float64.ofNat 0

def decodeValues (data : List UInt8) : DType → List FloatValue
  | .float16 => readF16Values data
  | .bfloat16 => readBf16Values data
  | .float32 => readF32Values data
  | .float64 => readF64Values data
  | .int8 => readI8Values data
  | .int16 => readI16Values data
  | .int32 => readI32Values data
  | .int64 => readI64Values data
  | .uint8 => readU8Values data
  | .bool => readBoolValues data

def computeSummary (heap : BinaryHeap (TopKHeapEntry FloatValue)) (data : List UInt8)
    (dtype : DType) (shape : List ℕ) :
    Option (TensorStats FloatValue × List (TopKEntry FloatValue)) :=
  summarizeValues .f64 heap (decodeValues data dtype) shape

/-! ## No panic

The only panic is the division by a dimension of zero.  A tensor with such a dimension has no
elements, and then no coordinates are computed.
-/

lemma isSome_indexFromLast (hshape : ∀ dim ∈ shape, 0 < dim) (flat : ℕ) :
    (indexFromLast flat shape).isSome := by
  induction shape generalizing flat with
  | nil => rfl
  | cons dim rest ih =>
    obtain ⟨hdim, hrest⟩ := List.forall_mem_cons.mp hshape
    rw [indexFromLast, if_neg hdim.ne', Option.isSome_map]
    exact ih hrest _

lemma isSome_flatIndexToMulti (hshape : ∀ dim ∈ shape, 0 < dim) (flat : ℕ) :
    (flatIndexToMulti flat shape).isSome := by
  rw [flatIndexToMulti, Option.isSome_map]
  exact isSome_indexFromLast (fun dim hdim => hshape dim (List.mem_reverse.mp hdim)) flat

lemma isSome_mapM {α β : Type} {f : α → Option β} (hf : ∀ a, (f a).isSome) (as : List α) :
    (as.mapM f).isSome := by
  induction as with
  | nil => rfl
  | cons a as ih =>
    obtain ⟨b, hb⟩ := Option.isSome_iff_exists.mp (hf a)
    obtain ⟨bs, hbs⟩ := Option.isSome_iff_exists.mp ih
    rw [List.mapM_cons, hb, hbs]
    rfl

lemma isSome_summarizeValues (ops : FloatOps F) (heap : BinaryHeap (TopKHeapEntry F))
    (hshape : values ≠ [] → ∀ dim ∈ shape, 0 < dim) :
    (summarizeValues ops heap values shape).isSome := by
  unfold summarizeValues
  split_ifs with hempty
  · rfl
  · have hdims := hshape fun hnil => hempty (hnil ▸ rfl)
    by_cases hfinite : (computePass1 ops values).finiteCount = 0
    · rw [if_pos hfinite]
      rfl
    · rw [if_neg hfinite, Option.isSome_map]
      refine isSome_mapM (fun entry => ?_) _
      rw [Option.isSome_map]
      exact isSome_flatIndexToMulti hdims entry.flatIndex

lemma decodeValues_nil (dtype : DType) : decodeValues [] dtype = [] := by
  cases dtype <;> rfl

lemma isSome_computeSummary (heap : BinaryHeap (TopKHeapEntry FloatValue)) (dtype : DType)
    (hshape : data ≠ [] → ∀ dim ∈ shape, 0 < dim) :
    (computeSummary heap data dtype shape).isSome := by
  refine isSome_summarizeValues _ heap fun hvalues => hshape ?_
  rintro rfl
  exact hvalues (decodeValues_nil dtype)

end RocketSurgeon.Daemon
