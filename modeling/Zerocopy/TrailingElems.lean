import Zerocopy.FromBytesLaws

/-! `Ref`'s `*_with_elems` constructors against `FromBytes`'s `*_with_trailing_elements` casts: the
same verdicts and the same bytes, but a `Ref` keeps only its bytes, and its `T` is re-derived from
their length. -/

namespace Zerocopy

/-- A conversion behind a panic-free wrapper that succeeds returns its value. -/
theorem exists_ok_of_outcome {Src α : Type} {x : Except Fault (Except (CastError Src) α)}
    (verdict : Outcome.of <$> x = .ok .ok) : ∃ y, x = .ok (.ok y) := by
  -- The wrapper returned, and the conversion under it ended well.
  rcases x with _ | result
  · cases verdict
  · obtain ⟨y, rfl⟩ := Outcome.of_eq_ok.mp (Except.ok.inj verdict)
    exact ⟨y, rfl⟩

namespace Ref

variable {usizeMax : Nat} {B : ByteSlice} {T : DstLayout} {bytes rest : Slice} {n : Nat}
  {r : Ref B T}

/-- `from_prefix_with_elems` gives the verdict of the engine's prefix cast with the same count. -/
theorem outcome_fromPrefixWithElems_engine (usizeMax : Nat) (B : ByteSlice) (T : DstLayout)
    (bytes : Slice) (n : Nat) :
    Outcome.of <$> Ref.fromPrefixWithElems usizeMax B T bytes n =
      .ok (Outcome.of (tryCastInto usizeMax T bytes .Prefix (some (.count n)))) := by
  -- Both ask `size_for_metadata` for the size, then check it fits and the front is aligned.
  rw [outcome_fromPrefixWithElems, outcome_tryCastInto]
  cases sized : (PointerMetadata.count n).sizeForMetadata usizeMax T <;>
    simp [requiredSize, sized, CastType.candidate]

/-- `from_suffix_with_elems` gives the verdict of the engine's suffix cast with the same count. -/
theorem outcome_fromSuffixWithElems_engine (usizeMax : Nat) (B : ByteSlice) (T : DstLayout)
    (bytes : Slice) (n : Nat) :
    Outcome.of <$> Ref.fromSuffixWithElems usizeMax B T bytes n =
      .ok (Outcome.of (tryCastInto usizeMax T bytes .Suffix (some (.count n)))) := by
  rw [outcome_fromSuffixWithElems, outcome_tryCastInto]
  cases sized : (PointerMetadata.count n).sizeForMetadata usizeMax T <;>
    simp [requiredSize, sized, CastType.candidate]

/-- What `from_prefix_with_elems` returns, the engine's prefix cast with the same count returns
too, with the count as its metadata. -/
theorem tryCastInto_of_fromPrefixWithElems
    (built : Ref.fromPrefixWithElems usizeMax B T bytes n = .ok (.ok (r, rest))) :
    tryCastInto usizeMax T bytes .Prefix (some (.count n)) = .ok (⟨r.bytes, .count n⟩, rest) := by
  -- The size of the count fits and `from` found the front aligned: the engine's checks.
  obtain ⟨S, sized, fits, made, rfl⟩ := fromPrefixWithElems_eq_ok.mp built
  have aligned := (from_invariant made).1
  rw [from_bytes made] at aligned ⊢
  exact tryCastInto_eq_ok.mpr ⟨S, by simp [requiredSize, sized], fits, aligned, rfl, rfl⟩

/-- What `from_suffix_with_elems` returns, the engine's suffix cast with the same count returns
too, with the count as its metadata. -/
theorem tryCastInto_of_fromSuffixWithElems
    (built : Ref.fromSuffixWithElems usizeMax B T bytes n = .ok (.ok (rest, r))) :
    tryCastInto usizeMax T bytes .Suffix (some (.count n)) = .ok (⟨r.bytes, .count n⟩, rest) := by
  -- The size of the count fits and `from` found the back aligned: the engine's checks.
  obtain ⟨S, sized, fits, made, rfl⟩ := fromSuffixWithElems_eq_ok.mp built
  have aligned := (from_invariant made).1
  rw [from_bytes made] at aligned ⊢
  exact tryCastInto_eq_ok.mpr ⟨S, by simp [requiredSize, sized], fits, aligned, rfl, rfl⟩

section Recast

variable {trailing : TrailingSliceLayout} (dst : T.sizeInfo = .sliceDst trailing)
include dst

/-- The re-cast of aligned bytes as long as `n` elements need sees the count that fills them. -/
theorem recast_of_sizeForElems (positive : 0 < trailing.elemSize)
    (aligned : alignedTo r.bytes T.align) (sized : r.bytes.len = T.sizeForElems trailing n)
    (message : String) :
    r.recast usizeMax message = .ok ⟨r.bytes,
      .count ((T.sizeForElems trailing n - trailing.offset) / trailing.elemSize)⟩ := by
  -- The exact cast infers the count that fills the bytes, and they are aligned.
  have cast : tryCastIntoNoLeftover usizeMax T r.bytes none =
      .ok ⟨r.bytes, .count ((T.sizeForElems trailing n - trailing.offset) / trailing.elemSize)⟩ :=
    tryCastIntoNoLeftover_eq_ok.mpr
      ⟨sized ▸ requiredSize_sizeForElems usizeMax dst positive n, aligned, rfl⟩
  simp [recast, cast]

/-- The bytes `from_prefix_with_elems` keeps are aligned and as long as `n` elements need. -/
theorem fromPrefixWithElems_sized
    (built : Ref.fromPrefixWithElems usizeMax B T bytes n = .ok (.ok (r, rest))) :
    alignedTo r.bytes T.align ∧ r.bytes.len = T.sizeForElems trailing n := by
  -- The bytes are the front `S`, and `S` is the size of `n` elements.
  obtain ⟨S, sized, fits, made, -⟩ := fromPrefixWithElems_eq_ok.mp built
  rw [sizeForMetadata_count_eq usizeMax T dst] at sized
  split at sized <;> cases sized
  exact ⟨(from_invariant made).1, by simp [from_bytes made, Nat.min_eq_left fits]⟩

/-- The bytes `from_suffix_with_elems` keeps are aligned and as long as `n` elements need. -/
theorem fromSuffixWithElems_sized
    (built : Ref.fromSuffixWithElems usizeMax B T bytes n = .ok (.ok (rest, r))) :
    alignedTo r.bytes T.align ∧ r.bytes.len = T.sizeForElems trailing n := by
  -- The bytes are the back `S`, and `S` is the size of `n` elements.
  obtain ⟨S, sized, fits, made, -⟩ := fromSuffixWithElems_eq_ok.mp built
  rw [sizeForMetadata_count_eq usizeMax T dst] at sized
  split at sized <;> cases sized
  exact ⟨(from_invariant made).1, by simp [from_bytes made, Nat.sub_sub_self fits]⟩

end Recast

end Ref

/-- `Ref`'s `*_with_elems` constructors and the `*_with_trailing_elements` casts agree on every
slice DST, and the `Ref`'s `deref` sees the largest count of the same size as `n`. -/
theorem withElems_agree (usizeMax : Nat) (T : DstLayout) {trailing : TrailingSliceLayout}
    (dst : T.sizeInfo = .sliceDst trailing) (positive : 0 < trailing.elemSize) (B : ByteSlice)
    (bytes : Slice) (n : Nat) :
    let filled := (T.sizeForElems trailing n - trailing.offset) / trailing.elemSize
    Outcome.of <$> Ref.fromPrefixWithElems usizeMax B T bytes n =
      .ok (Outcome.of (refFromPrefixWithTrailingElements usizeMax T bytes n)) ∧
    Outcome.of <$> Ref.fromSuffixWithElems usizeMax B T bytes n =
      .ok (Outcome.of (refFromSuffixWithTrailingElements usizeMax T bytes n)) ∧
    Outcome.of <$> Ref.fromPrefixWithElems usizeMax B T bytes n =
      .ok (Outcome.of (mutFromPrefixWithTrailingElements usizeMax T bytes n)) ∧
    Outcome.of <$> Ref.fromSuffixWithElems usizeMax B T bytes n =
      .ok (Outcome.of (mutFromSuffixWithTrailingElements usizeMax T bytes n)) ∧
    ((∃ x, Ref.unalignedFromPrefixWithElems usizeMax B T bytes n = .ok (.ok x)) ↔
      ∃ y, refFromPrefixWithTrailingElements usizeMax T bytes n = .ok y) ∧
    ((∃ x, Ref.unalignedFromSuffixWithElems usizeMax B T bytes n = .ok (.ok x)) ↔
      ∃ y, refFromSuffixWithTrailingElements usizeMax T bytes n = .ok y) ∧
    (∀ r rest, Ref.fromPrefixWithElems usizeMax B T bytes n = .ok (.ok (r, rest)) ∨
        Ref.unalignedFromPrefixWithElems usizeMax B T bytes n = .ok (.ok (r, rest)) →
      refFromPrefixWithTrailingElements usizeMax T bytes n = .ok (⟨r.bytes, .count n⟩, rest) ∧
      r.deref usizeMax = .ok ⟨r.bytes, .count filled⟩ ∧
      r.intoRef usizeMax = .ok ⟨r.bytes, .count filled⟩) ∧
    (∀ r rest, Ref.fromSuffixWithElems usizeMax B T bytes n = .ok (.ok (rest, r)) ∨
        Ref.unalignedFromSuffixWithElems usizeMax B T bytes n = .ok (.ok (rest, r)) →
      refFromSuffixWithTrailingElements usizeMax T bytes n = .ok (rest, ⟨r.bytes, .count n⟩) ∧
      r.deref usizeMax = .ok ⟨r.bytes, .count filled⟩ ∧
      r.intoRef usizeMax = .ok ⟨r.bytes, .count filled⟩) ∧
    n ≤ filled ∧ T.sizeForElems trailing filled = T.sizeForElems trailing n ∧
    (∀ j, T.sizeForElems trailing j = T.sizeForElems trailing n → j ≤ filled) ∧
    (T.align ≤ trailing.elemSize → filled = n) := by
  intro filled
  have prefixVerdict := Ref.outcome_fromPrefixWithElems_engine usizeMax B T bytes n
  have suffixVerdict := Ref.outcome_fromSuffixWithElems_engine usizeMax B T bytes n
  -- A `Ref` from either constructor holds the bytes of `n` elements, whose re-cast fills them.
  have recasts : ∀ r : Ref B T,
      alignedTo r.bytes T.align ∧ r.bytes.len = T.sizeForElems trailing n →
      r.deref usizeMax = .ok ⟨r.bytes, .count filled⟩ ∧
        r.intoRef usizeMax = .ok ⟨r.bytes, .count filled⟩ :=
    fun _ fits => ⟨Ref.recast_of_sizeForElems dst positive fits.1 fits.2 _,
      Ref.recast_of_sizeForElems dst positive fits.1 fits.2 _⟩
  refine ⟨prefixVerdict, ?_, prefixVerdict, ?_, ⟨?_, ?_⟩, ⟨?_, ?_⟩, ?_, ?_,
    le_fill_of_sizeForElems_eq positive rfl, sizeForElems_fill positive n,
    fun _ => le_fill_of_sizeForElems_eq positive, fun wide => fill_eq_of_align_le positive wide n⟩
  · rw [suffixVerdict]; simp [refFromSuffixWithTrailingElements, refFromPrefixSuffix]
  · rw [suffixVerdict]; simp [mutFromSuffixWithTrailingElements, mutFromPrefixSuffix]
  · -- An `unaligned_*` success is a success of the checked constructor under it.
    rintro ⟨⟨r, rest⟩, built⟩
    exact ⟨_, Ref.tryCastInto_of_fromPrefixWithElems (Ref.ok_of_bind_unalignedSizeError built)⟩
  · -- A cast that succeeds gives the checked constructor the `ok` verdict too.
    rintro ⟨y, cast⟩
    obtain ⟨x, built⟩ := exists_ok_of_outcome
      (prefixVerdict.trans (congrArg Except.ok (Outcome.of_eq_ok.mpr ⟨y, cast⟩)))
    exact ⟨x, by simp [Ref.unalignedFromPrefixWithElems, built, bind, Except.bind]⟩
  · rintro ⟨⟨rest, r⟩, built⟩
    exact ⟨_, map_swap_eq_ok.mpr
      (Ref.tryCastInto_of_fromSuffixWithElems (Ref.ok_of_bind_unalignedSizeError built))⟩
  · rintro ⟨y, cast⟩
    obtain ⟨x, built⟩ := exists_ok_of_outcome (suffixVerdict.trans (congrArg Except.ok
      ((Outcome.of_map Prod.swap _).symm.trans (Outcome.of_eq_ok.mpr ⟨y, cast⟩))))
    exact ⟨x, by simp [Ref.unalignedFromSuffixWithElems, built, bind, Except.bind]⟩
  · rintro r rest built
    have made := built.elim id Ref.ok_of_bind_unalignedSizeError
    exact ⟨Ref.tryCastInto_of_fromPrefixWithElems made,
      recasts r (Ref.fromPrefixWithElems_sized dst made)⟩
  · rintro r rest built
    have made := built.elim id Ref.ok_of_bind_unalignedSizeError
    exact ⟨map_swap_eq_ok.mpr (Ref.tryCastInto_of_fromSuffixWithElems made),
      recasts r (Ref.fromSuffixWithElems_sized dst made)⟩

/-- The padded layout with offset 2, one-byte elements and alignment 2, over ten aligned bytes: both
casts with count 7 agree. -/
theorem withElems_agree_padded :
    (⟨2, .sliceDst ⟨2, 1⟩, ⟨1, rfl⟩⟩ : DstLayout).sizeInfo = .sliceDst ⟨2, 1⟩ ∧
      0 < (⟨2, 1⟩ : TrailingSliceLayout).elemSize ∧
      Outcome.of <$> Ref.fromPrefixWithElems 18446744073709551615 .ref
          ⟨2, .sliceDst ⟨2, 1⟩, ⟨1, rfl⟩⟩ ⟨0, List.replicate 10 0⟩ 7 =
        .ok (Outcome.of (refFromPrefixWithTrailingElements 18446744073709551615
          ⟨2, .sliceDst ⟨2, 1⟩, ⟨1, rfl⟩⟩ ⟨0, List.replicate 10 0⟩ 7)) :=
  ⟨rfl, by decide, (withElems_agree 18446744073709551615 ⟨2, .sliceDst ⟨2, 1⟩, ⟨1, rfl⟩⟩ rfl
    (by decide) .ref ⟨0, List.replicate 10 0⟩ 7).1⟩

/-- Over ten bytes, count 7 takes all ten, and `deref` of the `Ref` sees 8 trailing elements:
7 and 8 elements both round up to ten bytes. -/
theorem fromPrefixWithElems_deref_padded :
    ∃ r rest, Ref.fromPrefixWithElems 18446744073709551615 .ref
        ⟨2, .sliceDst ⟨2, 1⟩, ⟨1, rfl⟩⟩ ⟨0, List.replicate 10 0⟩ 7 = .ok (.ok (r, rest)) ∧
      refFromPrefixWithTrailingElements 18446744073709551615
        ⟨2, .sliceDst ⟨2, 1⟩, ⟨1, rfl⟩⟩ ⟨0, List.replicate 10 0⟩ 7 =
          .ok (⟨r.bytes, .count 7⟩, rest) ∧
      r.deref 18446744073709551615 = .ok ⟨r.bytes, .count 8⟩ :=
  ⟨_, _, rfl, rfl, rfl⟩

end Zerocopy
