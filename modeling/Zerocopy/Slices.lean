import Zerocopy.TrailingElems

/-! Slices `[E]` of a sized element type `E`: their layout, the `Ref`s cast to them, and the
deprecated `slice_from*` casts that `FromBytes` keeps for them. -/

namespace Zerocopy

/-- Modelled from the spec: `DstLayout::for_slice::<E>()`, the `KnownLayout::LAYOUT` of `[E]`:
`E`'s alignment, and `E`s trailing from offset zero. -/
def DstLayout.forSlice (E : Layout) : DstLayout :=
  ⟨E.align, .sliceDst ⟨0, E.size⟩, E.align_isPowerOfTwo⟩

/-- A slice is aligned as its elements are, and its elements trail from offset zero. -/
@[simp] theorem DstLayout.forSlice_align (E : Layout) : (DstLayout.forSlice E).align = E.align :=
  rfl

@[simp] theorem DstLayout.forSlice_sizeInfo (E : Layout) :
    (DstLayout.forSlice E).sizeInfo = .sliceDst ⟨0, E.size⟩ := rfl

/-- A cast to `[E]` compiles exactly when `E` is not zero-sized. -/
@[simp] theorem assertDstIsNotZst_forSlice (E : Layout) :
    assertDstIsNotZst (.forSlice E) = true ↔ 0 < E.size := by
  simp [assertDstIsNotZst, Nat.pos_iff_ne_zero]

/-! ### The size of `n` elements

Every Rust type's size is a multiple of its alignment, so `n` elements need no padding.
-/

section Padded

variable {E : Layout} (padded : E.size % E.align = 0)
include padded

/-- `n` elements of `[E]` take exactly `size_of::<E>() * n` bytes. -/
theorem sizeForElems_forSlice (n : Nat) :
    (DstLayout.forSlice E).sizeForElems ⟨0, E.size⟩ n = E.size * n := by
  -- A multiple of the element size is a multiple of the alignment, so nothing is rounded.
  show roundUp (0 + E.size * n) E.align = E.size * n
  rw [Nat.zero_add]
  exact roundUp_of_mod E.align_pos
    (Nat.mod_eq_zero_of_dvd
      (Nat.dvd_trans (Nat.dvd_of_mod_eq_zero padded) (Nat.dvd_mul_right _ n)))

/-- `size_for_metadata` of `n` elements of `[E]` is `size_of::<E>() * n`, unless that overflows a
`usize`. -/
theorem sizeForMetadata_forSlice (usizeMax n : Nat) :
    (PointerMetadata.count n).sizeForMetadata usizeMax (.forSlice E) =
      if E.size * n ≤ usizeMax then some (E.size * n) else none := by
  rw [sizeForMetadata_count_eq usizeMax _ rfl, sizeForElems_forSlice padded]

/-- The count the exact cast infers for `[E]` from `len` bytes is `len / size_of::<E>()`:
rounding the length down to the alignment drops no whole element. -/
theorem fill_forSlice (len : Nat) : len / E.align * E.align / E.size = len / E.size := by
  obtain ⟨m, size⟩ := Nat.dvd_of_mod_eq_zero padded
  rw [size, ← Nat.div_div_eq_div_mul, Nat.mul_div_cancel _ E.align_pos, Nat.div_div_eq_div_mul]

end Padded

/-- For `[E]` with elements of nonzero size, the `Ref` built for `n` elements is re-derived by
`deref` and `into_ref` with `n` elements: no other count has its size. -/
theorem forSlice_withElems_count (usizeMax : Nat) (B : ByteSlice) (E : Layout)
    (positive : 0 < E.size) (padded : E.size % E.align = 0) (bytes : Slice) (n : Nat) :
    (∀ r rest, Ref.fromPrefixWithElems usizeMax B (.forSlice E) bytes n = .ok (.ok (r, rest)) →
      r.deref usizeMax = .ok ⟨r.bytes, .count n⟩ ∧
        r.intoRef usizeMax = .ok ⟨r.bytes, .count n⟩) ∧
    (∀ r rest, Ref.fromSuffixWithElems usizeMax B (.forSlice E) bytes n = .ok (.ok (rest, r)) →
      r.deref usizeMax = .ok ⟨r.bytes, .count n⟩ ∧
        r.intoRef usizeMax = .ok ⟨r.bytes, .count n⟩) := by
  have dst : (DstLayout.forSlice E).sizeInfo = .sliceDst ⟨0, E.size⟩ := rfl
  have elemPositive : 0 < (⟨0, E.size⟩ : TrailingSliceLayout).elemSize := positive
  -- The alignment divides the element size, so it is at most that size and the count is exact.
  have exact := fill_eq_of_align_le (T := DstLayout.forSlice E) elemPositive
    (Nat.le_of_dvd positive (Nat.dvd_of_mod_eq_zero padded)) n
  have recasts : ∀ r : Ref B (.forSlice E), alignedTo r.bytes E.align ∧
      r.bytes.len = (DstLayout.forSlice E).sizeForElems ⟨0, E.size⟩ n →
      ∀ message, r.recast usizeMax message = .ok ⟨r.bytes, .count n⟩ := by
    rintro r ⟨aligned, sized⟩ message
    rw [Ref.recast_of_sizeForElems dst elemPositive aligned sized, exact]
  refine ⟨fun r _ built => ?_, fun r _ built => ?_⟩
  · have kept := Ref.fromPrefixWithElems_sized dst built
    exact ⟨recasts r kept _, recasts r kept _⟩
  · have kept := Ref.fromSuffixWithElems_sized dst built
    exact ⟨recasts r kept _, recasts r kept _⟩

/-- For `[u16]`, whose elements have size and alignment 2. -/
theorem forSlice_withElems_count_u16 :
    0 < 2 ∧ 2 % 2 = 0 ∧
      ∀ r rest, Ref.fromPrefixWithElems 18446744073709551615 .ref (.forSlice ⟨2, 2, ⟨1, rfl⟩⟩)
          ⟨0, [0, 0, 0, 0]⟩ 2 = .ok (.ok (r, rest)) →
        r.deref 18446744073709551615 = .ok ⟨r.bytes, .count 2⟩ ∧
          r.intoRef 18446744073709551615 = .ok ⟨r.bytes, .count 2⟩ :=
  ⟨by decide, by decide,
    (forSlice_withElems_count 18446744073709551615 .ref ⟨2, 2, ⟨1, rfl⟩⟩ (by decide) (by decide)
      ⟨0, [0, 0, 0, 0]⟩ 2).1⟩

/-! ### The deprecated `slice_from*` casts -/

/-- `FromBytes::slice_from`, deprecated: `<[Self]>::ref_from(bytes).ok()`. -/
def sliceFrom (usizeMax : Nat) (E : Layout) (bytes : Slice) : Option Ptr :=
  (refFrom usizeMax (.forSlice E) bytes).toOption

/-- `FromBytes::slice_from_prefix`, deprecated:
`<[Self]>::ref_from_prefix_with_trailing_elements(bytes, count).ok()`. -/
def sliceFromPrefix (usizeMax : Nat) (E : Layout) (bytes : Slice) (count : Nat) :
    Option (Ptr × Slice) :=
  (refFromPrefixWithTrailingElements usizeMax (.forSlice E) bytes count).toOption

/-- `FromBytes::slice_from_suffix`, deprecated:
`<[Self]>::ref_from_suffix_with_trailing_elements(bytes, count).ok()`. -/
def sliceFromSuffix (usizeMax : Nat) (E : Layout) (bytes : Slice) (count : Nat) :
    Option (Slice × Ptr) :=
  (refFromSuffixWithTrailingElements usizeMax (.forSlice E) bytes count).toOption

/-- `FromBytes::mut_slice_from`, deprecated: `<[Self]>::mut_from(bytes).ok()`. -/
def mutSliceFrom (usizeMax : Nat) (E : Layout) (bytes : Slice) : Option Ptr :=
  (mutFrom usizeMax (.forSlice E) bytes).toOption

/-- `FromBytes::mut_slice_from_prefix`, deprecated:
`<[Self]>::mut_from_prefix_with_trailing_elements(bytes, count).ok()`. -/
def mutSliceFromPrefix (usizeMax : Nat) (E : Layout) (bytes : Slice) (count : Nat) :
    Option (Ptr × Slice) :=
  (mutFromPrefixWithTrailingElements usizeMax (.forSlice E) bytes count).toOption

/-- `FromBytes::mut_slice_from_suffix`, deprecated:
`<[Self]>::mut_from_suffix_with_trailing_elements(bytes, count).ok()`. -/
def mutSliceFromSuffix (usizeMax : Nat) (E : Layout) (bytes : Slice) (count : Nat) :
    Option (Slice × Ptr) :=
  (mutFromSuffixWithTrailingElements usizeMax (.forSlice E) bytes count).toOption

section Deprecated

variable {E : Layout} (padded : E.size % E.align = 0)
include padded

/-- `slice_from_prefix` returns the first `size_of::<E>() * count` bytes as `count` elements and
the rest, when that size does not overflow, fits, and is aligned. -/
theorem sliceFromPrefix_eq (usizeMax : Nat) (bytes : Slice) (count : Nat) :
    sliceFromPrefix usizeMax E bytes count =
      if E.size * count ≤ usizeMax ∧ E.size * count ≤ bytes.len ∧ bytes.addr % E.align = 0 then
        some (⟨bytes.take (E.size * count), .count count⟩, bytes.drop (E.size * count))
      else none := by
  -- The engine's size is the elements' own size; then it checks the length and the alignment.
  simp only [sliceFromPrefix, refFromPrefixWithTrailingElements, refFromPrefixSuffix, tryCastInto,
    requiredSize, sizeForMetadata_forSlice padded]
  by_cases fits : E.size * count ≤ usizeMax <;> by_cases room : E.size * count ≤ bytes.len <;>
    by_cases aligned : bytes.addr % E.align = 0 <;>
    simp [fits, room, aligned, Nat.not_lt.mpr, Nat.lt_of_not_le, CastType.candidate,
      CastType.remainder, Except.toOption, DstLayout.forSlice]

/-- `slice_from_suffix` returns the last `size_of::<E>() * count` bytes as `count` elements and
those before, when that size does not overflow, fits, and is aligned. -/
theorem sliceFromSuffix_eq (usizeMax : Nat) (bytes : Slice) (count : Nat) :
    sliceFromSuffix usizeMax E bytes count =
      if E.size * count ≤ usizeMax ∧ E.size * count ≤ bytes.len ∧
          (bytes.addr + (bytes.len - E.size * count)) % E.align = 0 then
        some (bytes.take (bytes.len - E.size * count),
          ⟨bytes.drop (bytes.len - E.size * count), .count count⟩)
      else none := by
  -- The same checks, on the back of the bytes; the pair is swapped at the end.
  simp only [sliceFromSuffix, refFromSuffixWithTrailingElements, refFromPrefixSuffix, tryCastInto,
    requiredSize, sizeForMetadata_forSlice padded]
  by_cases fits : E.size * count ≤ usizeMax <;> by_cases room : E.size * count ≤ bytes.len <;>
    by_cases aligned : (bytes.addr + (bytes.len - E.size * count)) % E.align = 0 <;>
    simp [fits, room, aligned, Nat.not_lt.mpr, Nat.lt_of_not_le, CastType.candidate,
      CastType.remainder, Except.toOption, Except.map, DstLayout.forSlice]

/-- The exact cast to `[E]` takes the whole buffer as `len / size_of::<E>()` elements when its
length is a whole number of elements and it is aligned for `E`; it fails on size first. -/
theorem tryCastIntoNoLeftover_forSlice (usizeMax : Nat) (bytes : Slice) :
    tryCastIntoNoLeftover usizeMax (.forSlice E) bytes none =
      if bytes.len % E.size = 0 then
        if bytes.addr % E.align = 0 then .ok ⟨bytes, .count (bytes.len / E.size)⟩
        else .error (.alignment bytes)
      else .error (.size bytes) := by
  -- The inferred count is `len / size_of::<E>()`, whose size is the length exactly when no
  -- partial element is left over.
  have whole := Nat.mod_add_div bytes.len E.size
  have exact : bytes.len = E.size * (bytes.len / E.size) ↔ bytes.len % E.size = 0 := by omega
  simp only [tryCastIntoNoLeftover, requiredSize, DstLayout.forSlice_align,
    DstLayout.forSlice_sizeInfo, Nat.not_lt_zero, if_false, Nat.sub_zero, fill_forSlice padded,
    sizeForElems_forSlice padded]
  by_cases divides : bytes.len % E.size = 0 <;> simp [divides, exact]

/-- `slice_from` returns the whole buffer as `len / size_of::<E>()` elements exactly when it is a
whole number of elements and aligned for `E`. -/
theorem sliceFrom_eq (usizeMax : Nat) (bytes : Slice) :
    sliceFrom usizeMax E bytes =
      if bytes.len % E.size = 0 ∧ bytes.addr % E.align = 0 then
        some ⟨bytes, .count (bytes.len / E.size)⟩
      else none := by
  rw [sliceFrom, refFrom, tryCastIntoNoLeftover_forSlice padded]
  split_ifs <;> simp_all [Except.toOption]

end Deprecated

/-- The deprecated `slice_from*` casts return the whole buffer, or `count` elements at its front
or back, exactly when the size does not overflow, fits and is aligned; else `None`. -/
theorem deprecated_slice_casts (usizeMax : Nat) (E : Layout) (padded : E.size % E.align = 0)
    (bytes : Slice) (count : Nat) :
    sliceFrom usizeMax E bytes =
      (if bytes.len % E.size = 0 ∧ bytes.addr % E.align = 0 then
        some ⟨bytes, .count (bytes.len / E.size)⟩
      else none) ∧
    mutSliceFrom usizeMax E bytes = sliceFrom usizeMax E bytes ∧
    sliceFromPrefix usizeMax E bytes count =
      (if E.size * count ≤ usizeMax ∧ E.size * count ≤ bytes.len ∧ bytes.addr % E.align = 0 then
        some (⟨bytes.take (E.size * count), .count count⟩, bytes.drop (E.size * count))
      else none) ∧
    mutSliceFromPrefix usizeMax E bytes count = sliceFromPrefix usizeMax E bytes count ∧
    sliceFromSuffix usizeMax E bytes count =
      (if E.size * count ≤ usizeMax ∧ E.size * count ≤ bytes.len ∧
          (bytes.addr + (bytes.len - E.size * count)) % E.align = 0 then
        some (bytes.take (bytes.len - E.size * count),
          ⟨bytes.drop (bytes.len - E.size * count), .count count⟩)
      else none) ∧
    mutSliceFromSuffix usizeMax E bytes count = sliceFromSuffix usizeMax E bytes count :=
  -- The exclusive casts run the engine exactly as the shared ones do.
  ⟨sliceFrom_eq padded usizeMax bytes, rfl, sliceFromPrefix_eq padded usizeMax bytes count, rfl,
    sliceFromSuffix_eq padded usizeMax bytes count, rfl⟩

/-- For `[u16]` and four bytes at an even address. -/
theorem deprecated_slice_casts_u16 :
    2 % 2 = 0 ∧
      sliceFromPrefix 18446744073709551615 ⟨2, 2, ⟨1, rfl⟩⟩ ⟨8, [1, 2, 3, 4]⟩ 1 =
        (if 2 * 1 ≤ 18446744073709551615 ∧ 2 * 1 ≤ (⟨8, [1, 2, 3, 4]⟩ : Slice).len ∧
            8 % 2 = 0 then
          some (⟨(⟨8, [1, 2, 3, 4]⟩ : Slice).take (2 * 1), .count 1⟩,
            (⟨8, [1, 2, 3, 4]⟩ : Slice).drop (2 * 1))
        else none) :=
  ⟨by decide, (deprecated_slice_casts 18446744073709551615 ⟨2, 2, ⟨1, rfl⟩⟩ (by decide)
    ⟨8, [1, 2, 3, 4]⟩ 1).2.2.1⟩

end Zerocopy
