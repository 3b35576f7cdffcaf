import Zerocopy.FromBytes
import Zerocopy.RefLaws

/-! What the `FromBytes` and `TryFromBytes` conversions return, for every buffer. -/

namespace Zerocopy

/-! ### Copies through `Unalign<T>` -/

/-- `read_from` copies the whole slice when it is exactly as long as a `T`, and otherwise gives
the slice back in a size error. -/
theorem readFrom_eq (T : Layout) (bytes : Slice) :
    readFrom T bytes =
      .ok (if exact : bytes.len = T.size then .ok ⟨bytes.data, exact⟩ else .error bytes) := by
  -- `Unalign<T>` has alignment one, so only the length decides; the copy reads every byte.
  by_cases exact : bytes.len = T.size
  · have whole : bytes.data.take T.size = bytes.data := List.take_of_length_le (Nat.le_of_eq exact)
    simp [readFrom, Ref.sizedFrom, exact, Layout.unalign, unalignedSizeError, Ref.read, ptrRead,
      Layout.intoInner, Ref.newUnchecked, whole, bind, Except.bind, pure, Except.pure]
  · simp [readFrom, Ref.sizedFrom, exact, Layout.unalign, unalignedSizeError, bind, Except.bind,
      pure, Except.pure]

/-- `read_from_prefix` copies the front `size_of::<T>()` bytes when the slice holds them. -/
theorem readFromPrefix_eq (T : Layout) (bytes : Slice) :
    readFromPrefix T bytes =
      .ok (if fits : T.size ≤ bytes.len then
          .ok ⟨(bytes.take T.size).data, (bytes.len_take _).trans (Nat.min_eq_left fits)⟩
        else .error bytes) := by
  -- `Unalign<T>` has alignment one, so only the size check decides; the copy reads the front.
  by_cases fits : T.size ≤ bytes.len
  · have exact : (bytes.take T.size).len = T.unalign.size :=
      (bytes.len_take _).trans (Nat.min_eq_left fits)
    simp [readFromPrefix, Ref.sizedFromPrefix_eq, fits, Nat.not_lt.mpr fits, unalignedSizeError,
      Ref.read, ptrRead_of_exact (alignedTo_one _) exact, Layout.intoInner, bind, Except.bind,
      pure, Except.pure]
  · simp [readFromPrefix, Ref.sizedFromPrefix_eq, fits, Nat.lt_of_not_le fits, unalignedSizeError,
      bind, Except.bind, pure, Except.pure]

/-- `read_from_suffix` copies the back `size_of::<T>()` bytes when the slice holds them. -/
theorem readFromSuffix_eq (T : Layout) (bytes : Slice) :
    readFromSuffix T bytes =
      .ok (if fits : T.size ≤ bytes.len then
          .ok ⟨(bytes.drop (bytes.len - T.size)).data,
            (bytes.len_drop _).trans (Nat.sub_sub_self fits)⟩
        else .error (.size bytes)) := by
  -- `Unalign<T>` has alignment one, so only the size check decides; the copy reads the back.
  by_cases fits : T.size ≤ bytes.len
  · have exact : (bytes.drop (bytes.len - T.size)).len = T.unalign.size :=
      (bytes.len_drop _).trans (Nat.sub_sub_self fits)
    simp [readFromSuffix, Ref.sizedFromSuffix_eq, fits, Nat.not_lt.mpr fits, unalignedSizeError,
      Ref.read, ptrRead_of_exact (alignedTo_one _) exact, Layout.intoInner, bind, Except.bind,
      pure, Except.pure]
  · simp [readFromSuffix, Ref.sizedFromSuffix_eq, fits, Nat.lt_of_not_le fits, unalignedSizeError,
      bind, Except.bind, pure, Except.pure]

/-- `try_read_from` fails on size exactly when the slice is not as long as a `T`, then on
validity exactly when `is_bit_valid` rejects the copy, and otherwise returns the copy. -/
theorem tryReadFrom_eq (T : Layout) (isBitValid : PointerMetadata → List UInt8 → Bool)
    (bytes : Slice) :
    tryReadFrom T isBitValid bytes =
      .ok (if exact : bytes.len = T.size then
          if isBitValid .unit bytes.data then .ok ⟨bytes.data, exact⟩
          else .error (.validity bytes)
        else .error (.size bytes)) := by
  by_cases exact : bytes.len = T.size <;> by_cases valid : isBitValid .unit bytes.data <;>
    simp [tryReadFrom, readFrom_eq, exact, valid, bind, Except.bind, pure, Except.pure]

/-! ### Casts that check validity -/

section Validity

variable {usizeMax : Nat} {T : TryFromBytes} {bytes : Slice}

/-- `try_ref_from` succeeds exactly with a candidate of the exact cast that `is_bit_valid`
accepts. -/
theorem tryRefFrom_eq_ok {p : Ptr} :
    tryRefFrom usizeMax T bytes = .ok p ↔
      tryCastIntoNoLeftover usizeMax T.layout bytes none = .ok p ∧
        T.isBitValid p.meta p.region.data := by
  -- Once the cast succeeds, `is_bit_valid` alone decides.
  unfold tryRefFrom
  cases cast : tryCastIntoNoLeftover usizeMax T.layout bytes none with
  | error e => simp
  | ok c =>
    by_cases valid : T.isBitValid c.meta c.region.data
    · simp only [tryIntoValid, valid, if_true, Except.ok.injEq]
      exact ⟨fun same => ⟨same, same ▸ valid⟩, And.left⟩
    · simp only [tryIntoValid, valid, if_false, Except.ok.injEq, reduceCtorEq, false_iff]
      exact fun ⟨same, accepted⟩ => valid (same ▸ accepted)

/-- `try_ref_from` fails on validity exactly when the exact cast returns a candidate that
`is_bit_valid` rejects, and the error carries that candidate's bytes. -/
theorem tryRefFrom_eq_validity {src : Slice} :
    tryRefFrom usizeMax T bytes = .error (.validity src) ↔
      ∃ p, tryCastIntoNoLeftover usizeMax T.layout bytes none = .ok p ∧
        T.isBitValid p.meta p.region.data = false ∧ p.region = src := by
  -- Only a candidate that `is_bit_valid` rejects becomes a validity error.
  unfold tryRefFrom
  cases cast : tryCastIntoNoLeftover usizeMax T.layout bytes none with
  | error e => simp
  | ok c =>
    by_cases valid : T.isBitValid c.meta c.region.data <;> simp [tryIntoValid, valid]

/-- The prefix or suffix cast with validation succeeds exactly with a candidate of the engine's
cast that `is_bit_valid` accepts, beside the engine's remainder. -/
theorem tryRefFromPrefixSuffix_eq_ok {castType : CastType} {meta : Option PointerMetadata}
    {p : Ptr} {rest : Slice} :
    tryRefFromPrefixSuffix usizeMax T bytes castType meta = .ok (p, rest) ↔
      tryCastInto usizeMax T.layout bytes castType meta = .ok (p, rest) ∧
        T.isBitValid p.meta p.region.data := by
  -- Once the cast succeeds, `is_bit_valid` alone decides.
  unfold tryRefFromPrefixSuffix
  cases cast : tryCastInto usizeMax T.layout bytes castType meta with
  | error e => simp
  | ok pair =>
    obtain ⟨c, extra⟩ := pair
    by_cases valid : T.isBitValid c.meta c.region.data
    · simp only [tryIntoValid, valid, if_true, Except.ok.injEq]
      exact ⟨fun same => ⟨same, (Prod.mk.inj same).1 ▸ valid⟩, And.left⟩
    · simp only [tryIntoValid, valid, if_false, Except.ok.injEq, reduceCtorEq, false_iff]
      exact fun ⟨same, accepted⟩ => valid ((Prod.mk.inj same).1 ▸ accepted)

/-- The prefix or suffix cast with validation fails on validity exactly when the engine's
candidate is rejected by `is_bit_valid`, and the error carries the candidate's bytes. -/
theorem tryRefFromPrefixSuffix_eq_validity {castType : CastType}
    {meta : Option PointerMetadata} {src : Slice} :
    tryRefFromPrefixSuffix usizeMax T bytes castType meta = .error (.validity src) ↔
      ∃ p rest, tryCastInto usizeMax T.layout bytes castType meta = .ok (p, rest) ∧
        T.isBitValid p.meta p.region.data = false ∧ p.region = src := by
  -- Only a candidate that `is_bit_valid` rejects becomes a validity error.
  unfold tryRefFromPrefixSuffix
  cases cast : tryCastInto usizeMax T.layout bytes castType meta with
  | error e => simp
  | ok pair =>
    obtain ⟨c, extra⟩ := pair
    by_cases valid : T.isBitValid c.meta c.region.data <;> simp [tryIntoValid, valid]

end Validity

/-- The suffix entry points swap the halves of a success. -/
@[simp] theorem map_swap_eq_ok {ε α β : Type} {x : Except ε (α × β)} {a : β} {b : α} :
    x.map Prod.swap = .ok (a, b) ↔ x = .ok (b, a) := by
  rcases x with _ | ⟨c, d⟩
  · simp [Except.map]
  · simp [Except.map, and_comm]

/-- Swapping keeps an error as it is. -/
@[simp] theorem map_swap_eq_error {ε α β : Type} {x : Except ε (α × β)} {e : ε} :
    x.map Prod.swap = .error e ↔ x = .error e := by
  rcases x with _ | _ <;> simp [Except.map]

/-- Every `TryFromBytes` conversion validates exactly the candidate it returns, and fails on
validity exactly when its size and alignment checks pass and `is_bit_valid` rejects. -/
theorem tryFrom_validates (usizeMax : Nat) (T : TryFromBytes) (bytes : Slice) :
    (∀ p, tryRefFrom usizeMax T bytes = .ok p ↔
      tryCastIntoNoLeftover usizeMax T.layout bytes none = .ok p ∧
        T.isBitValid p.meta p.region.data) ∧
    (∀ p, tryMutFrom usizeMax T bytes = .ok p ↔
      tryCastIntoNoLeftover usizeMax T.layout bytes none = .ok p ∧
        T.isBitValid p.meta p.region.data) ∧
    (∀ p rest, tryRefFromPrefix usizeMax T bytes = .ok (p, rest) ↔
      tryCastInto usizeMax T.layout bytes .Prefix none = .ok (p, rest) ∧
        T.isBitValid p.meta p.region.data) ∧
    (∀ p rest, tryMutFromPrefix usizeMax T bytes = .ok (p, rest) ↔
      tryCastInto usizeMax T.layout bytes .Prefix none = .ok (p, rest) ∧
        T.isBitValid p.meta p.region.data) ∧
    (∀ p rest, tryRefFromSuffix usizeMax T bytes = .ok (rest, p) ↔
      tryCastInto usizeMax T.layout bytes .Suffix none = .ok (p, rest) ∧
        T.isBitValid p.meta p.region.data) ∧
    (∀ p rest, tryMutFromSuffix usizeMax T bytes = .ok (rest, p) ↔
      tryCastInto usizeMax T.layout bytes .Suffix none = .ok (p, rest) ∧
        T.isBitValid p.meta p.region.data) ∧
    (∀ src, tryRefFrom usizeMax T bytes = .error (.validity src) ↔
      ∃ p, tryCastIntoNoLeftover usizeMax T.layout bytes none = .ok p ∧
        T.isBitValid p.meta p.region.data = false ∧ p.region = src) ∧
    (∀ src, tryMutFrom usizeMax T bytes = .error (.validity src) ↔
      ∃ p, tryCastIntoNoLeftover usizeMax T.layout bytes none = .ok p ∧
        T.isBitValid p.meta p.region.data = false ∧ p.region = src) ∧
    (∀ src, tryRefFromPrefix usizeMax T bytes = .error (.validity src) ↔
      ∃ p rest, tryCastInto usizeMax T.layout bytes .Prefix none = .ok (p, rest) ∧
        T.isBitValid p.meta p.region.data = false ∧ p.region = src) ∧
    (∀ src, tryMutFromPrefix usizeMax T bytes = .error (.validity src) ↔
      ∃ p rest, tryCastInto usizeMax T.layout bytes .Prefix none = .ok (p, rest) ∧
        T.isBitValid p.meta p.region.data = false ∧ p.region = src) ∧
    (∀ src, tryRefFromSuffix usizeMax T bytes = .error (.validity src) ↔
      ∃ p rest, tryCastInto usizeMax T.layout bytes .Suffix none = .ok (p, rest) ∧
        T.isBitValid p.meta p.region.data = false ∧ p.region = src) ∧
    (∀ src, tryMutFromSuffix usizeMax T bytes = .error (.validity src) ↔
      ∃ p rest, tryCastInto usizeMax T.layout bytes .Suffix none = .ok (p, rest) ∧
        T.isBitValid p.meta p.region.data = false ∧ p.region = src) ∧
    (∀ (U : Layout) (isBitValid : PointerMetadata → List UInt8 → Bool),
      tryReadFrom U isBitValid bytes =
        .ok (if exact : bytes.len = U.size then
            if isBitValid .unit bytes.data then .ok ⟨bytes.data, exact⟩
            else .error (.validity bytes)
          else .error (.size bytes))) := by
  -- The mutable forms are the shared ones, and the suffix forms swap the prefix-suffix result.
  refine ⟨fun _ => tryRefFrom_eq_ok, fun _ => tryRefFrom_eq_ok,
    fun _ _ => tryRefFromPrefixSuffix_eq_ok, fun _ _ => tryRefFromPrefixSuffix_eq_ok,
    fun _ _ => ?_, fun _ _ => ?_, fun _ => tryRefFrom_eq_validity, fun _ => tryRefFrom_eq_validity,
    fun _ => tryRefFromPrefixSuffix_eq_validity, fun _ => tryRefFromPrefixSuffix_eq_validity,
    fun _ => ?_, fun _ => ?_, fun U isBitValid => tryReadFrom_eq U isBitValid bytes⟩
  all_goals
    simp only [tryRefFromSuffix, tryMutFromSuffix, tryMutFromPrefixSuffix, map_swap_eq_ok,
      map_swap_eq_error, Prod.swap_prod_mk]
  · exact tryRefFromPrefixSuffix_eq_ok
  · exact tryRefFromPrefixSuffix_eq_ok
  · exact tryRefFromPrefixSuffix_eq_validity
  · exact tryRefFromPrefixSuffix_eq_validity

/-- For a target of alignment one no `Ref` constructor fails on alignment, so the `unaligned_*`
constructors and the `read_from*` copies never reach their `unreachable!()`. -/
theorem unaligned_never_unreachable (usizeMax : Nat) (T : DstLayout) (unaligned : T.align = 1)
    (B : ByteSlice) (bytes : Slice) (count : Nat) :
    Outcome.of (Ref.from usizeMax B T bytes) ≠ .alignment ∧
    (∃ o, Outcome.of <$> Ref.fromPrefix usizeMax B T bytes = .ok o ∧ o ≠ .alignment) ∧
    (∃ o, Outcome.of <$> Ref.fromSuffix usizeMax B T bytes = .ok o ∧ o ≠ .alignment) ∧
    (∃ o, Outcome.of <$> Ref.fromPrefixWithElems usizeMax B T bytes count = .ok o ∧
      o ≠ .alignment) ∧
    (∃ o, Outcome.of <$> Ref.fromSuffixWithElems usizeMax B T bytes count = .ok o ∧
      o ≠ .alignment) ∧
    (∃ r, Ref.unalignedFrom usizeMax B T bytes = .ok r) ∧
    (∃ r, Ref.unalignedFromPrefix usizeMax B T bytes = .ok r) ∧
    (∃ r, Ref.unalignedFromSuffix usizeMax B T bytes = .ok r) ∧
    (∃ r, Ref.unalignedFromPrefixWithElems usizeMax B T bytes count = .ok r) ∧
    (∃ r, Ref.unalignedFromSuffixWithElems usizeMax B T bytes count = .ok r) ∧
    ∀ U : Layout,
      Outcome.of (Ref.sizedFrom .ref U.unalign bytes) ≠ .alignment ∧
      (∃ o, Outcome.of <$> Ref.sizedFromPrefix .ref U.unalign bytes = .ok o ∧ o ≠ .alignment) ∧
      (∃ o, Outcome.of <$> Ref.sizedFromSuffix .ref U.unalign bytes = .ok o ∧ o ≠ .alignment) ∧
      (∃ r, readFrom U bytes = .ok r) ∧ (∃ r, readFromPrefix U bytes = .ok r) ∧
      (∃ o, Outcome.of <$> readFromSuffix U bytes = .ok o ∧ o ≠ .alignment) := by
  -- Each `unaligned_*` constructor maps a verdict that is never an alignment error.
  have fromPrefix := Ref.fromPrefix_ne_alignment unaligned usizeMax B bytes
  have fromSuffix := Ref.fromSuffix_ne_alignment unaligned usizeMax B bytes
  have fromPrefixWithElems := Ref.fromPrefixWithElems_ne_alignment unaligned usizeMax B bytes count
  have fromSuffixWithElems := Ref.fromSuffixWithElems_ne_alignment unaligned usizeMax B bytes count
  refine ⟨Ref.from_ne_alignment unaligned bytes, fromPrefix, fromSuffix, fromPrefixWithElems,
    fromSuffixWithElems, Ref.unalignedSizeError_ok (Ref.from_ne_alignment unaligned bytes),
    Ref.bind_unalignedSizeError_ok fromPrefix, Ref.bind_unalignedSizeError_ok fromSuffix,
    Ref.bind_unalignedSizeError_ok fromPrefixWithElems,
    Ref.bind_unalignedSizeError_ok fromSuffixWithElems,
    fun U => ⟨Ref.sizedFrom_unalign_ne_alignment U bytes,
      Ref.sizedFromPrefix_unalign_ne_alignment U bytes,
      Ref.sizedFromSuffix_unalign_ne_alignment U bytes, ⟨_, readFrom_eq U bytes⟩,
      ⟨_, readFromPrefix_eq U bytes⟩, ⟨_, by rw [readFromSuffix_eq]; rfl, ?_⟩⟩⟩
  -- `read_from_suffix` reports only size errors.
  split <;> simp

/-- `[u8]`, of alignment 1: `unaligned_from` on three bytes at an odd address returns. -/
theorem unaligned_never_unreachable_bytes :
    (⟨1, .sliceDst ⟨0, 1⟩, ⟨0, rfl⟩⟩ : DstLayout).align = 1 ∧
      ∃ r, Ref.unalignedFrom 18446744073709551615 .ref ⟨1, .sliceDst ⟨0, 1⟩, ⟨0, rfl⟩⟩
        ⟨3, [1, 2, 3]⟩ = .ok r :=
  ⟨rfl, (unaligned_never_unreachable 18446744073709551615 ⟨1, .sliceDst ⟨0, 1⟩, ⟨0, rfl⟩⟩ rfl
    .ref ⟨3, [1, 2, 3]⟩ 2).2.2.2.2.2.1⟩

end Zerocopy