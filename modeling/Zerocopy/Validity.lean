import Zerocopy.Slices

/-! `TryFromBytes::is_bit_valid` of the types built from other `TryFromBytes` types: a slice or an
array checks each of its elements, and an `UnsafeCell<T>` checks the `T` it wraps. -/

namespace Zerocopy

/-! ### Slices and arrays -/

/-- The elements `c.iter()` yields from a candidate `[E]` of `n` elements, as their bytes: a slice
lays element `i` out at offset `i * size_of::<E>()`, with no bytes between elements. -/
def sliceElems (size : Nat) : Nat → List UInt8 → List (List UInt8)
  | 0, _ => []
  | n + 1, bytes => bytes.take size :: sliceElems size n (bytes.drop size)

/-- A candidate of `n` elements yields `n` of them. -/
@[simp] theorem length_sliceElems (size n : Nat) (bytes : List UInt8) :
    (sliceElems size n bytes).length = n := by
  induction n generalizing bytes with
  | zero => rfl
  | succ n ih => simp [sliceElems, ih]

/-- Element `i` is the `size` bytes at offset `i * size`. -/
theorem getElem_sliceElems (size n : Nat) (bytes : List UInt8) (i : Nat)
    (inside : i < (sliceElems size n bytes).length) :
    (sliceElems size n bytes)[i] = (bytes.drop (i * size)).take size := by
  induction n generalizing bytes i with
  | zero => simp at inside
  | succ n ih =>
    cases i with
    | zero => simp [sliceElems]
    | succ i =>
      -- Past the head, element `i + 1` is element `i` of the rest, one element further on.
      simp [sliceElems, ih, Nat.succ_mul, Nat.add_comm]

/-- `TryFromBytes::is_bit_valid` of `[T]`: `c.iter().all(<T as TryFromBytes>::is_bit_valid)`,
each element seen with metadata `()`; a candidate with `()` metadata is rejected. -/
def sliceIsBitValid (E : Layout) (isBitValid : PointerMetadata → List UInt8 → Bool) :
    PointerMetadata → List UInt8 → Bool
  | .count n, bytes => (sliceElems E.size n bytes).all (isBitValid .unit)
  | .unit, _ => false

/-- `TryFromBytes::is_bit_valid` of `[T; N]`: `<[T] as TryFromBytes>::is_bit_valid(c.as_slice())`.
`as_slice` keeps the bytes and gives them the element count `N`. -/
def arrayIsBitValid (E : Layout) (isBitValid : PointerMetadata → List UInt8 → Bool) (N : Nat)
    (_ : PointerMetadata) (bytes : List UInt8) : Bool :=
  sliceIsBitValid E isBitValid (.count N) bytes

/-- `[T]` as a `TryFromBytes` type: the layout of a slice of `T`, and its `is_bit_valid`. -/
def TryFromBytes.slice (E : Layout) (isBitValid : PointerMetadata → List UInt8 → Bool) :
    TryFromBytes :=
  ⟨.forSlice E, sliceIsBitValid E isBitValid⟩

section Elementwise

variable {E : Layout} {isBitValid : PointerMetadata → List UInt8 → Bool} {n : Nat}
  {bytes : List UInt8}

/-- A slice of `n` elements is valid exactly when each of its elements is. -/
theorem sliceIsBitValid_iff :
    sliceIsBitValid E isBitValid (.count n) bytes = true ↔
      ∀ i < n, isBitValid .unit ((bytes.drop (i * E.size)).take E.size) = true := by
  -- `all` holds of a list exactly when it holds at every index, and element `i` is at `i * size`.
  simp only [sliceIsBitValid, List.all_eq_true, List.forall_mem_iff_getElem, length_sliceElems,
    getElem_sliceElems]

/-- A slice is rejected exactly when one of its elements is. -/
theorem sliceIsBitValid_eq_false :
    sliceIsBitValid E isBitValid (.count n) bytes = false ↔
      ∃ i < n, isBitValid .unit ((bytes.drop (i * E.size)).take E.size) = false := by
  rw [← Bool.not_eq_true, sliceIsBitValid_iff]
  simp

end Elementwise

/-! ### Arrays of arrays -/

/-- `[T; N]`'s layout: `N` values of `T` back to back, aligned as `T`. -/
def Layout.array (E : Layout) (N : Nat) : Layout := ⟨E.size * N, E.align, E.align_isPowerOfTwo⟩

@[simp] theorem Layout.array_size (E : Layout) (N : Nat) : (E.array N).size = E.size * N := rfl

/-- Value `j` of array `i`, in a run of arrays of `M` values of `size` bytes, is value `i * M + j`
of the run. -/
theorem take_drop_nested (size M i j : Nat) (inner : j < M) (bytes : List UInt8) :
    (((bytes.drop (i * (size * M))).take (size * M)).drop (j * size)).take size =
      (bytes.drop ((i * M + j) * size)).take size := by
  have fits : size ≤ size * M - j * size := by
    have := Nat.mul_le_mul_right size inner
    rw [Nat.succ_mul, Nat.mul_comm M] at this
    omega
  rw [List.drop_take, List.take_take, Nat.min_eq_left fits, List.drop_drop, Nat.add_mul,
    Nat.mul_assoc, Nat.mul_comm M size]

/-- `is_bit_valid` of `[[T; M]; N]` is that of `[T; N * M]` on the same bytes, for every element
check. -/
theorem arrayIsBitValid_nested (E : Layout) (isBitValid : PointerMetadata → List UInt8 → Bool)
    (M N : Nat) (meta : PointerMetadata) (bytes : List UInt8) :
    arrayIsBitValid (E.array M) (arrayIsBitValid E isBitValid M) N meta bytes =
      arrayIsBitValid E isBitValid (N * M) meta bytes := by
  -- Value `j` of array `i` is value `i * M + j` of the flat array, and every value below `N * M`
  -- is one of these.
  apply Bool.eq_iff_iff.mpr
  simp only [arrayIsBitValid, sliceIsBitValid_iff, Layout.array_size]
  constructor
  · intro valid t below
    have positive : 0 < M := Nat.pos_of_ne_zero fun empty => by simp [empty] at below
    have checked := valid (t / M) ((Nat.div_lt_iff_lt_mul positive).mpr below) (t % M)
      (Nat.mod_lt _ positive)
    rwa [take_drop_nested _ _ _ _ (Nat.mod_lt _ positive), Nat.div_add_mod'] at checked
  · intro valid i outer j inner
    rw [take_drop_nested _ _ _ _ inner]
    exact valid _ (calc i * M + j < (i + 1) * M := by rw [Nat.succ_mul]; omega
      _ ≤ N * M := Nat.mul_le_mul_right M outer)

/-- `try_ref_from` to `[E]`, where it compiles, returns the whole buffer exactly when it is a
whole number of aligned elements each of them valid, and else a validity error past those checks. -/
theorem tryRefFrom_slice (usizeMax : Nat) (E : Layout) (padded : E.size % E.align = 0)
    (isBitValid : PointerMetadata → List UInt8 → Bool) (bytes : Slice) :
    assertDstIsNotZst (.forSlice E) = true →
    (∀ p, tryRefFrom usizeMax (.slice E isBitValid) bytes = .ok p ↔
      bytes.len % E.size = 0 ∧ bytes.addr % E.align = 0 ∧
        (∀ i < bytes.len / E.size,
          isBitValid .unit ((bytes.data.drop (i * E.size)).take E.size) = true) ∧
        p = ⟨bytes, .count (bytes.len / E.size)⟩) ∧
    (∀ src, tryRefFrom usizeMax (.slice E isBitValid) bytes = .error (.validity src) ↔
      bytes.len % E.size = 0 ∧ bytes.addr % E.align = 0 ∧
        (∃ i < bytes.len / E.size,
          isBitValid .unit ((bytes.data.drop (i * E.size)).take E.size) = false) ∧
        src = bytes) := by
  -- The exact cast to `[E]` decides the size and the alignment; then each element is checked.
  have cast := tryCastIntoNoLeftover_forSlice padded usizeMax bytes
  have layout : (TryFromBytes.slice E isBitValid).layout = .forSlice E := rfl
  refine fun _ => ⟨fun p => ?_, fun src => ?_⟩
  · rw [tryRefFrom_eq_ok, layout, cast]
    by_cases divides : bytes.len % E.size = 0 <;> by_cases aligned : bytes.addr % E.align = 0 <;>
      simp only [divides, aligned, if_true, if_false, reduceCtorEq, false_and, true_and,
        Except.ok.injEq]
    constructor
    · rintro ⟨rfl, valid⟩
      exact ⟨sliceIsBitValid_iff.mp valid, rfl⟩
    · rintro ⟨valid, rfl⟩
      exact ⟨rfl, sliceIsBitValid_iff.mpr valid⟩
  · rw [tryRefFrom_eq_validity, layout, cast]
    by_cases divides : bytes.len % E.size = 0 <;> by_cases aligned : bytes.addr % E.align = 0 <;>
      simp only [divides, aligned, if_true, if_false, reduceCtorEq, false_and, true_and,
        Except.ok.injEq, exists_eq_left', exists_false]
    exact and_congr sliceIsBitValid_eq_false eq_comm

/-- For `[bool]`, whose elements are one byte of `0` or `1`: the aligned buffer `[0, 1, 2]` holds
three whole elements, and its last one rejects it. -/
theorem tryRefFrom_slice_bool :
    1 % 1 = 0 ∧ assertDstIsNotZst (.forSlice ⟨1, 1, ⟨0, rfl⟩⟩) = true ∧
      tryRefFrom 18446744073709551615 (.slice ⟨1, 1, ⟨0, rfl⟩⟩ fun _ b => b.all (· < 2))
        ⟨0, [0, 1, 2]⟩ = .error (.validity ⟨0, [0, 1, 2]⟩) :=
  ⟨by decide, rfl, ((tryRefFrom_slice 18446744073709551615 ⟨1, 1, ⟨0, rfl⟩⟩ (by decide)
    (fun _ b => b.all (· < 2)) ⟨0, [0, 1, 2]⟩ rfl).2 _).mpr
      ⟨by decide, by decide, ⟨2, by decide, by decide⟩, rfl⟩⟩

/-! ### `UnsafeCell` -/

/-- The aliasing of the pointer that `is_bit_valid` is called through. -/
inductive Aliasing
  | shared
  | exclusive
deriving DecidableEq, Repr

/-- `TryFromBytes::is_bit_valid` of `UnsafeCell<T>`: `none` through a shared pointer, where it
does not compile, else `T::is_bit_valid` of the same bytes and metadata. -/
def unsafeCellIsBitValid (isBitValid : PointerMetadata → List UInt8 → Bool) :
    Aliasing → PointerMetadata → List UInt8 → Option Bool
  | .shared, _, _ => none
  | .exclusive, meta, bytes => some (isBitValid meta bytes)

/-- `is_bit_valid` of `[T]` holds exactly when each element's does, so `[]` is valid and one bad
element rejects; `[T; N]` and `UnsafeCell<T>` check as `[T]` and `T` on the same bytes. -/
theorem isBitValid_elementwise (E : Layout) (isBitValid : PointerMetadata → List UInt8 → Bool)
    (n : Nat) (bytes : List UInt8) :
    (sliceIsBitValid E isBitValid (.count n) bytes = true ↔
      ∀ i < n, isBitValid .unit ((bytes.drop (i * E.size)).take E.size) = true) ∧
    sliceIsBitValid E isBitValid (.count 0) bytes = true ∧
    (∀ i < n, isBitValid .unit ((bytes.drop (i * E.size)).take E.size) = false →
      sliceIsBitValid E isBitValid (.count n) bytes = false) ∧
    (∀ meta, arrayIsBitValid E isBitValid n meta bytes =
      sliceIsBitValid E isBitValid (.count n) bytes) ∧
    (∀ meta,
      unsafeCellIsBitValid isBitValid .exclusive meta bytes = some (isBitValid meta bytes)) :=
  -- The empty slice has no element to reject it; arrays and cells pass the bytes on unchanged.
  ⟨sliceIsBitValid_iff, sliceIsBitValid_iff.mpr fun _ outside => absurd outside (Nat.not_lt_zero _),
    fun i inside invalid => sliceIsBitValid_eq_false.mpr ⟨i, inside, invalid⟩, fun _ => rfl,
    fun _ => rfl⟩

end Zerocopy
