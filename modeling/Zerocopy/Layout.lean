import Mathlib.Data.List.Basic

/-! Layouts of the types the casts target, and the byte size that pointer metadata gives them. -/

namespace Zerocopy

/-! ### Machine words -/

/-- `usize::checked_add`: the sum, unless it passes `usize::MAX`. -/
def checkedAdd (usizeMax a b : Nat) : Option Nat :=
  if a + b ≤ usizeMax then some (a + b) else none

/-- `usize::checked_mul`: the product, unless it passes `usize::MAX`. -/
def checkedMul (usizeMax a b : Nat) : Option Nat :=
  if a * b ≤ usizeMax then some (a * b) else none

/-- `usize::checked_sub`: the difference, unless it would go below zero. -/
def checkedSub (a b : Nat) : Option Nat :=
  if b ≤ a then some (a - b) else none

/-- `checked_add` returns the sum exactly when it fits in a `usize`. -/
@[simp] theorem checkedAdd_eq_some {usizeMax a b s : Nat} :
    checkedAdd usizeMax a b = some s ↔ a + b ≤ usizeMax ∧ a + b = s := by
  unfold checkedAdd; split <;> simp_all

/-- `checked_mul` returns the product exactly when it fits in a `usize`. -/
@[simp] theorem checkedMul_eq_some {usizeMax a b s : Nat} :
    checkedMul usizeMax a b = some s ↔ a * b ≤ usizeMax ∧ a * b = s := by
  unfold checkedMul; split <;> simp_all

/-- `checked_sub` returns the difference exactly when it does not go below zero. -/
@[simp] theorem checkedSub_eq_some {a b s : Nat} : checkedSub a b = some s ↔ b ≤ a ∧ a - b = s := by
  unfold checkedSub; split <;> simp_all

/-- `checked_sub` fails exactly when it would go below zero. -/
@[simp] theorem checkedSub_eq_none {a b : Nat} : checkedSub a b = none ↔ a < b := by
  unfold checkedSub; split <;> simp_all

/-! ### Padding and rounding -/

/--
Modelled from the spec: `util::padding_needed_for`, whose module is not in the source.
The fewest bytes that bring `len` up to a multiple of `align`.
-/
def paddingNeededFor (len align : Nat) : Nat := (align - len % align) % align

/-- `round_up(n, align)` of the spec: the least multiple of `align` that is at least `n`. -/
def roundUp (n align : Nat) : Nat := (n + align - 1) / align * align

section Rounding

variable {n m align : Nat}

/-- Padding is always shorter than the alignment it pads to. -/
theorem paddingNeededFor_lt (positive : 0 < align) : paddingNeededFor n align < align :=
  Nat.mod_lt _ positive

/-- Padding brings the length to a multiple of the alignment. -/
theorem add_paddingNeededFor_mod (positive : 0 < align) :
    (n + paddingNeededFor n align) % align = 0 := by
  -- Either the length is already aligned, or the padding is the distance to the next multiple.
  have below := Nat.mod_lt n positive
  unfold paddingNeededFor
  by_cases aligned : n % align = 0
  · simp [aligned]
  · rw [Nat.mod_eq_of_lt (by omega : align - n % align < align), Nat.add_mod,
      Nat.mod_eq_of_lt (by omega : align - n % align < align),
      show n % align + (align - n % align) = align by omega, Nat.mod_self]

/-- No shorter padding aligns the length: `padding_needed_for` is the least one. -/
theorem paddingNeededFor_le (positive : 0 < align) {p : Nat} (aligned : (n + p) % align = 0) :
    paddingNeededFor n align ≤ p := by
  -- The two remainders add up to a whole alignment, unless the length is already aligned.
  have below := Nat.mod_lt n positive
  have sum : (n % align + p % align) % align = 0 := by rwa [← Nat.add_mod]
  unfold paddingNeededFor
  by_cases zero : n % align = 0
  · simp [zero]
  · rw [Nat.mod_eq_of_lt (by omega : align - n % align < align)]
    have whole : n % align + p % align = align := by
      rcases Nat.lt_or_ge (n % align + p % align) align with small | large
      · rw [Nat.mod_eq_of_lt small] at sum; omega
      · rw [Nat.mod_eq_sub_mod large, Nat.mod_eq_of_lt (by have := Nat.mod_lt p positive; omega)]
          at sum
        omega
    have := Nat.mod_le p align
    omega

/-- Adding the padding is rounding up: the code's arithmetic computes the spec's `round_up`. -/
theorem add_paddingNeededFor (positive : 0 < align) :
    n + paddingNeededFor n align = roundUp n align := by
  -- The padded length is the multiple of `align` that the ceiling division lands on.
  have aligned := add_paddingNeededFor_mod (n := n) positive
  have below := paddingNeededFor_lt (n := n) positive
  have exact := Nat.div_mul_cancel (Nat.dvd_of_mod_eq_zero aligned)
  have quotient : (n + align - 1) / align = (n + paddingNeededFor n align) / align := by
    apply Nat.div_eq_of_lt_le
    · rw [exact]; omega
    · rw [Nat.succ_mul, exact]; omega
  rw [roundUp, quotient, exact]

/-- A length that is already aligned needs no padding. -/
theorem paddingNeededFor_of_mod (aligned : n % align = 0) : paddingNeededFor n align = 0 := by
  simp [paddingNeededFor, aligned]

/-- Rounding up lands on a multiple of the alignment. -/
theorem roundUp_mod (positive : 0 < align) : roundUp n align % align = 0 := by
  rw [← add_paddingNeededFor positive]; exact add_paddingNeededFor_mod positive

/-- Rounding up never goes down. -/
theorem le_roundUp (positive : 0 < align) : n ≤ roundUp n align := by
  rw [← add_paddingNeededFor positive]; omega

/-- Rounding up moves by less than one alignment. -/
theorem roundUp_lt (positive : 0 < align) : roundUp n align < n + align := by
  rw [← add_paddingNeededFor positive]; have := paddingNeededFor_lt (n := n) positive; omega

/-- Rounding up stops at the first multiple of the alignment at or above `n`. -/
theorem roundUp_le (positive : 0 < align) (below : n ≤ m) (aligned : m % align = 0) :
    roundUp n align ≤ m := by
  -- The distance to `m` is itself an aligning padding, so it is no shorter than the least one.
  rw [← add_paddingNeededFor positive]
  have := paddingNeededFor_le (n := n) positive (p := m - n) (by rwa [Nat.add_sub_cancel' below])
  omega

/-- A multiple of the alignment rounds up to itself. -/
theorem roundUp_of_mod (positive : 0 < align) (aligned : n % align = 0) : roundUp n align = n :=
  Nat.le_antisymm (roundUp_le positive (Nat.le_refl n) aligned) (le_roundUp positive)

/-- Rounding up is monotone. -/
theorem roundUp_mono (positive : 0 < align) (below : n ≤ m) : roundUp n align ≤ roundUp m align :=
  roundUp_le positive (Nat.le_trans below (le_roundUp positive)) (roundUp_mod positive)

end Rounding

/-! ### Layouts -/

/-- `TrailingSliceLayout`: where a slice DST's trailing slice starts, and the size of one
element. -/
structure TrailingSliceLayout where
  offset : Nat
  elemSize : Nat
deriving DecidableEq, Repr

/-- `SizeInfo`: the size of a sized type, or the trailing-slice layout of a slice DST. -/
inductive SizeInfo
  | sized (size : Nat)
  | sliceDst (trailing : TrailingSliceLayout)
deriving DecidableEq, Repr

/--
`DstLayout`, the layout `KnownLayout::LAYOUT` gives a type.
Alignments are powers of two, as the safety section of `KnownLayout::LAYOUT` requires.
-/
structure DstLayout where
  align : Nat
  sizeInfo : SizeInfo
  align_isPowerOfTwo : align.isPowerOfTwo

/-- `core::alloc::Layout` of a sized type: `mem::size_of::<T>()` and `mem::align_of::<T>()`. -/
structure Layout where
  size : Nat
  align : Nat
  align_isPowerOfTwo : align.isPowerOfTwo

/-- Every alignment is at least one. -/
@[simp] theorem DstLayout.align_pos (T : DstLayout) : 0 < T.align :=
  Nat.pos_of_isPowerOfTwo T.align_isPowerOfTwo

/-- Every alignment is at least one. -/
@[simp] theorem Layout.align_pos (T : Layout) : 0 < T.align :=
  Nat.pos_of_isPowerOfTwo T.align_isPowerOfTwo

/-- A sized type's `KnownLayout::LAYOUT`: its alignment, and `SizeInfo::Sized` of its size. -/
def DstLayout.forType (T : Layout) : DstLayout :=
  ⟨T.align, .sized T.size, T.align_isPowerOfTwo⟩

/-- A sized type's layout keeps its alignment and says it is sized. -/
@[simp] theorem DstLayout.forType_align (T : Layout) : (DstLayout.forType T).align = T.align := rfl

@[simp] theorem DstLayout.forType_sizeInfo (T : Layout) :
    (DstLayout.forType T).sizeInfo = .sized T.size := rfl

/-- `Unalign<T>`: the size of `T`, with alignment one. -/
def Layout.unalign (T : Layout) : Layout := ⟨T.size, 1, ⟨0, rfl⟩⟩

/-- `Unalign<T>` keeps the size of `T` and has alignment one. -/
@[simp] theorem Layout.unalign_size (T : Layout) : T.unalign.size = T.size := rfl
@[simp] theorem Layout.unalign_align (T : Layout) : T.unalign.align = 1 := rfl

/-- Not in the source: `util::assert_dst_is_not_zst`, of the `util` module. From the casts'
`Compile-Time Assertions`: a slice DST whose elements are zero-sized does not compile. -/
def assertDstIsNotZst (T : DstLayout) : Bool :=
  match T.sizeInfo with
  | .sized _ => true
  | .sliceDst trailing => trailing.elemSize != 0

/-! ### Pointer metadata -/

/-- `PointerMetadata`: `()` for sized types, an element count (`usize`) for slice DSTs. -/
inductive PointerMetadata
  | unit
  | count (elems : Nat)
deriving DecidableEq, Repr

/-- `PointerMetadata::size_for_metadata`, both implementations: a sized layout's size, or the
padded size of `elems` trailing elements, `None` once a step passes `usize::MAX`. -/
def PointerMetadata.sizeForMetadata (usizeMax : Nat) : PointerMetadata → DstLayout → Option Nat
  | .unit, layout =>
    match layout.sizeInfo with
    | .sized size => some size
    -- Unreachable for `()` metadata, which only sized types carry.
    | .sliceDst _ => none
  | .count elems, layout =>
    match layout.sizeInfo with
    | .sliceDst ⟨offset, elemSize⟩ => do
      let sliceLen ← checkedMul usizeMax elemSize elems
      let withoutPadding ← checkedAdd usizeMax offset sliceLen
      checkedAdd usizeMax withoutPadding (paddingNeededFor withoutPadding layout.align)
    -- Unreachable for `usize` metadata, which only slice DSTs carry.
    | .sized _ => none

/--
The exact size of a slice DST with `elems` trailing elements, as the safety section of
`KnownLayout::LAYOUT` states it: `offset + elem_size * elems` rounded up to the alignment.
-/
def DstLayout.sizeForElems (T : DstLayout) (trailing : TrailingSliceLayout) (elems : Nat) : Nat :=
  roundUp (trailing.offset + trailing.elemSize * elems) T.align

/-- A byte length some value of `T` has: a sized type's size, or a slice DST's size for some
element count. -/
def DstLayout.ValidSize (T : DstLayout) (len : Nat) : Prop :=
  match T.sizeInfo with
  | .sized size => len = size
  | .sliceDst trailing => ∃ elems, len = T.sizeForElems trailing elems

/-- The valid size of a sized type is its size. -/
@[simp] theorem DstLayout.validSize_forType (T : Layout) (len : Nat) :
    (DstLayout.forType T).ValidSize len ↔ len = T.size := Iff.rfl

/-- The size of a slice DST, whatever its element count, is a multiple of its alignment. -/
theorem DstLayout.sizeForElems_mod (T : DstLayout) (trailing : TrailingSliceLayout) (elems : Nat) :
    T.sizeForElems trailing elems % T.align = 0 :=
  roundUp_mod T.align_pos

/-! ### Counts that need the same size

Padding can give several element counts one size. The count that fills a size `S` exactly,
`(S - offset) / elem_size`, is the largest of them; it is the only one once the alignment is at
most the element size.
-/

section SameSize

variable {T : DstLayout} {trailing : TrailingSliceLayout} (positive : 0 < trailing.elemSize)
include positive

/-- Every count whose unpadded size fits in `S` is at most the count that fills `S`. -/
theorem le_fill {j S : Nat} (within : trailing.offset + trailing.elemSize * j ≤ S) :
    j ≤ (S - trailing.offset) / trailing.elemSize :=
  (Nat.le_div_iff_mul_le positive).mpr (by rw [Nat.mul_comm]; omega)

/-- Every count of the same size as `n` is at most the count that fills that size. -/
theorem le_fill_of_sizeForElems_eq {j n : Nat}
    (same : T.sizeForElems trailing j = T.sizeForElems trailing n) :
    j ≤ (T.sizeForElems trailing n - trailing.offset) / trailing.elemSize :=
  le_fill positive (same ▸ le_roundUp T.align_pos)

/-- The count that fills the size of `n` elements needs that same size. -/
theorem sizeForElems_fill (n : Nat) :
    T.sizeForElems trailing ((T.sizeForElems trailing n - trailing.offset) / trailing.elemSize) =
      T.sizeForElems trailing n := by
  have covers : trailing.offset + trailing.elemSize * n ≤ T.sizeForElems trailing n :=
    le_roundUp T.align_pos
  have filled := Nat.mul_div_le (T.sizeForElems trailing n - trailing.offset) trailing.elemSize
  have more := Nat.mul_le_mul_left trailing.elemSize
    (le_fill_of_sizeForElems_eq (T := T) (j := n) (n := n) positive rfl)
  apply Nat.le_antisymm
  · -- What fills `S` fits in it, and `S` is aligned.
    exact roundUp_le T.align_pos (by omega) (T.sizeForElems_mod trailing n)
  · -- It is at least `n`, so it needs at least as much.
    exact roundUp_mono T.align_pos (by omega)

/-- Once the alignment is at most the element size, only `n` itself has the size of `n`
elements. -/
theorem fill_eq_of_align_le (wide : T.align ≤ trailing.elemSize) (n : Nat) :
    (T.sizeForElems trailing n - trailing.offset) / trailing.elemSize = n := by
  apply Nat.le_antisymm _ (le_fill_of_sizeForElems_eq positive rfl)
  -- One more element would already pass the rounded-up size.
  by_contra! longer
  have filled := Nat.mul_div_le (T.sizeForElems trailing n - trailing.offset) trailing.elemSize
  have more := Nat.mul_le_mul_left trailing.elemSize (Nat.succ_le_of_lt longer)
  have close : T.sizeForElems trailing n < trailing.offset + trailing.elemSize * n + T.align :=
    roundUp_lt T.align_pos
  have covers : trailing.offset + trailing.elemSize * n ≤ T.sizeForElems trailing n :=
    le_roundUp T.align_pos
  rw [Nat.mul_succ] at more
  omega

end SameSize

/--
With an element count, `size_for_metadata` returns the exact padded size exactly when that size
fits in a `usize`: no intermediate check rejects a representable result.
-/
theorem sizeForMetadata_count_eq (usizeMax : Nat) (T : DstLayout) {trailing : TrailingSliceLayout}
    (dst : T.sizeInfo = .sliceDst trailing) (elems : Nat) :
    (PointerMetadata.count elems).sizeForMetadata usizeMax T =
      if T.sizeForElems trailing elems ≤ usizeMax then some (T.sizeForElems trailing elems)
      else none := by
  -- Each checked step fails only when the final size already exceeds `usize::MAX`.
  obtain ⟨offset, elemSize⟩ := trailing
  have padded := add_paddingNeededFor (n := offset + elemSize * elems) T.align_pos
  have grows := le_roundUp (n := offset + elemSize * elems) T.align_pos
  simp only [PointerMetadata.sizeForMetadata, dst, DstLayout.sizeForElems, ← padded] at grows ⊢
  unfold checkedMul checkedAdd
  by_cases fits : offset + elemSize * elems + paddingNeededFor (offset + elemSize * elems) T.align
      ≤ usizeMax
  · simp [fits, show elemSize * elems ≤ usizeMax by omega,
      show offset + elemSize * elems ≤ usizeMax by omega]
  · by_cases product : elemSize * elems ≤ usizeMax
    · by_cases sum : offset + elemSize * elems ≤ usizeMax <;> simp [fits, product, sum]
    · simp [fits, product]

/-- `size_for_metadata` with a count is exact: the padded size exactly when it fits in a `usize`,
aligned and less than one alignment above the unpadded size. -/
theorem sizeForMetadata_count_exact (usizeMax : Nat) (T : DstLayout)
    {trailing : TrailingSliceLayout} (dst : T.sizeInfo = .sliceDst trailing) (elems s : Nat) :
    ((PointerMetadata.count elems).sizeForMetadata usizeMax T = some s ↔
        T.sizeForElems trailing elems ≤ usizeMax ∧ s = T.sizeForElems trailing elems) ∧
      ((PointerMetadata.count elems).sizeForMetadata usizeMax T = none ↔
        usizeMax < T.sizeForElems trailing elems) ∧
      ((PointerMetadata.count elems).sizeForMetadata usizeMax T = some s →
        s % T.align = 0 ∧ trailing.offset + trailing.elemSize * elems ≤ s ∧
          s < trailing.offset + trailing.elemSize * elems + T.align) := by
  -- Everything follows from the closed form and the three facts about rounding up.
  have aligned := T.sizeForElems_mod trailing elems
  have above := le_roundUp (n := trailing.offset + trailing.elemSize * elems) T.align_pos
  have close := roundUp_lt (n := trailing.offset + trailing.elemSize * elems) T.align_pos
  rw [sizeForMetadata_count_eq usizeMax T dst elems]
  unfold DstLayout.sizeForElems at aligned ⊢
  by_cases fits : roundUp (trailing.offset + trailing.elemSize * elems) T.align ≤ usizeMax
  · simp only [fits, if_true, Option.some.injEq, true_and, reduceCtorEq, false_iff, not_lt]
    exact ⟨eq_comm, fun same => same ▸ ⟨aligned, above, close⟩⟩
  · simp only [fits, if_false, reduceCtorEq, false_iff, false_and, true_iff, not_le,
      IsEmpty.forall_iff, and_true, true_and]
    omega

/-- The padded layout with offset 2, one-byte elements and alignment 2: seven elements need
`round_up(9, 2) = 10` bytes on a 64-bit target. -/
theorem sizeForMetadata_count_padded :
    (⟨2, .sliceDst ⟨2, 1⟩, ⟨1, rfl⟩⟩ : DstLayout).sizeInfo = .sliceDst ⟨2, 1⟩ ∧
      (PointerMetadata.count 7).sizeForMetadata 18446744073709551615
        ⟨2, .sliceDst ⟨2, 1⟩, ⟨1, rfl⟩⟩ = some 10 :=
  ⟨rfl, (sizeForMetadata_count_exact 18446744073709551615 ⟨2, .sliceDst ⟨2, 1⟩, ⟨1, rfl⟩⟩ rfl
    7 10).1.2 ⟨by decide, by decide⟩⟩

end Zerocopy
