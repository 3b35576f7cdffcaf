import Zerocopy.FromBytesLaws

/-! Which bytes each conversion hands back: a split of the buffer on success, and on failure the
buffer, or the part of it that a later check rejected. -/

namespace Zerocopy

/-! ### Splits -/

namespace Ref

variable {usizeMax : Nat} {B : ByteSlice} {T : DstLayout} {bytes rest : Slice} {count : Nat}
  {r : Ref B T}

/-- `sized_from_prefix` splits the buffer into the `T` and the bytes after it. -/
theorem sizedFromPrefix_isSplit {T : Layout} {r : Ref B (.forType T)}
    (built : Ref.sizedFromPrefix B T bytes = .ok (.ok (r, rest))) : bytes.IsSplit r.bytes rest := by
  -- Only the last branch succeeds, and it splits where the `T` ends.
  rw [sizedFromPrefix_eq] at built
  split_ifs at built with short <;> cases built
  exact bytes.isSplit_take_drop (Nat.le_of_not_lt short)

/-- `sized_from_suffix` splits the buffer into the bytes before the `T` and the `T`. -/
theorem sizedFromSuffix_isSplit {T : Layout} {r : Ref B (.forType T)}
    (built : Ref.sizedFromSuffix B T bytes = .ok (.ok (rest, r))) : bytes.IsSplit rest r.bytes := by
  -- Only the last branch succeeds, and it splits where the `T` starts.
  rw [sizedFromSuffix_eq] at built
  split_ifs at built <;> cases built
  exact bytes.isSplit_take_drop (Nat.sub_le _ _)

/-- `from_prefix` splits the buffer where the engine's candidate ends. -/
theorem fromPrefix_isSplit (built : Ref.fromPrefix usizeMax B T bytes = .ok (.ok (r, rest))) :
    bytes.IsSplit r.bytes rest := by
  -- Only a success of the engine gets through, and it tiles the buffer.
  rw [fromPrefix_eq] at built
  split at built <;> rename_i cast <;> cases built
  exact tryCastInto_prefix_isSplit cast

/-- `from_suffix` splits the buffer where the engine's candidate starts. -/
theorem fromSuffix_isSplit (built : Ref.fromSuffix usizeMax B T bytes = .ok (.ok (rest, r))) :
    bytes.IsSplit rest r.bytes := by
  -- Only a success of the engine gets through, and it tiles the buffer.
  rw [fromSuffix_eq] at built
  split at built <;> rename_i cast <;> cases built
  exact tryCastInto_suffix_isSplit cast

/-- `from_prefix_with_elems` splits the buffer after the bytes its count needs. -/
theorem fromPrefixWithElems_isSplit
    (built : Ref.fromPrefixWithElems usizeMax B T bytes count = .ok (.ok (r, rest))) :
    bytes.IsSplit r.bytes rest := by
  obtain ⟨S, -, fits, made, rfl⟩ := fromPrefixWithElems_eq_ok.mp built
  rw [from_bytes made]
  exact bytes.isSplit_take_drop fits

/-- `from_suffix_with_elems` splits the buffer before the bytes its count needs. -/
theorem fromSuffixWithElems_isSplit
    (built : Ref.fromSuffixWithElems usizeMax B T bytes count = .ok (.ok (rest, r))) :
    bytes.IsSplit rest r.bytes := by
  obtain ⟨S, -, -, made, rfl⟩ := fromSuffixWithElems_eq_ok.mp built
  rw [from_bytes made]
  exact bytes.isSplit_take_drop (Nat.sub_le _ _)

end Ref

/-- Every prefix or suffix cast that succeeds splits the buffer into what it matched and what it
left, with no byte lost, repeated or moved. -/
theorem casts_split (usizeMax : Nat) (B : ByteSlice) (bytes : Slice) (count : Nat) :
    (∀ (T : Layout) (r : Ref B (.forType T)) rest,
      Ref.sizedFromPrefix B T bytes = .ok (.ok (r, rest)) → bytes.IsSplit r.bytes rest) ∧
    (∀ (T : Layout) (r : Ref B (.forType T)) rest,
      Ref.sizedFromSuffix B T bytes = .ok (.ok (rest, r)) → bytes.IsSplit rest r.bytes) ∧
    (∀ T (r : Ref B T) rest,
      Ref.fromPrefix usizeMax B T bytes = .ok (.ok (r, rest)) → bytes.IsSplit r.bytes rest) ∧
    (∀ T (r : Ref B T) rest,
      Ref.fromSuffix usizeMax B T bytes = .ok (.ok (rest, r)) → bytes.IsSplit rest r.bytes) ∧
    (∀ T (r : Ref B T) rest,
      Ref.fromPrefixWithElems usizeMax B T bytes count = .ok (.ok (r, rest)) →
        bytes.IsSplit r.bytes rest) ∧
    (∀ T (r : Ref B T) rest,
      Ref.fromSuffixWithElems usizeMax B T bytes count = .ok (.ok (rest, r)) →
        bytes.IsSplit rest r.bytes) ∧
    (∀ T (r : Ref B T) rest,
      Ref.unalignedFromPrefix usizeMax B T bytes = .ok (.ok (r, rest)) →
        bytes.IsSplit r.bytes rest) ∧
    (∀ T (r : Ref B T) rest,
      Ref.unalignedFromSuffix usizeMax B T bytes = .ok (.ok (rest, r)) →
        bytes.IsSplit rest r.bytes) ∧
    (∀ T (r : Ref B T) rest,
      Ref.unalignedFromPrefixWithElems usizeMax B T bytes count = .ok (.ok (r, rest)) →
        bytes.IsSplit r.bytes rest) ∧
    (∀ T (r : Ref B T) rest,
      Ref.unalignedFromSuffixWithElems usizeMax B T bytes count = .ok (.ok (rest, r)) →
        bytes.IsSplit rest r.bytes) ∧
    (∀ T p rest, refFromPrefix usizeMax T bytes = .ok (p, rest) → bytes.IsSplit p.region rest) ∧
    (∀ T p rest, refFromSuffix usizeMax T bytes = .ok (rest, p) → bytes.IsSplit rest p.region) ∧
    (∀ T p rest, mutFromPrefix usizeMax T bytes = .ok (p, rest) → bytes.IsSplit p.region rest) ∧
    (∀ T p rest, mutFromSuffix usizeMax T bytes = .ok (rest, p) → bytes.IsSplit rest p.region) ∧
    (∀ T p rest, refFromPrefixWithTrailingElements usizeMax T bytes count = .ok (p, rest) →
      bytes.IsSplit p.region rest) ∧
    (∀ T p rest, refFromSuffixWithTrailingElements usizeMax T bytes count = .ok (rest, p) →
      bytes.IsSplit rest p.region) ∧
    (∀ T p rest, mutFromPrefixWithTrailingElements usizeMax T bytes count = .ok (p, rest) →
      bytes.IsSplit p.region rest) ∧
    (∀ T p rest, mutFromSuffixWithTrailingElements usizeMax T bytes count = .ok (rest, p) →
      bytes.IsSplit rest p.region) ∧
    (∀ T p rest, tryRefFromPrefix usizeMax T bytes = .ok (p, rest) → bytes.IsSplit p.region rest) ∧
    (∀ T p rest, tryRefFromSuffix usizeMax T bytes = .ok (rest, p) → bytes.IsSplit rest p.region) ∧
    (∀ T p rest, tryMutFromPrefix usizeMax T bytes = .ok (p, rest) → bytes.IsSplit p.region rest) ∧
    (∀ T p rest, tryMutFromSuffix usizeMax T bytes = .ok (rest, p) → bytes.IsSplit rest p.region) ∧
    (∀ mid, mid ≤ bytes.len → B.splitAtUnchecked bytes mid = .ok (bytes.take mid, bytes.drop mid) ∧
      bytes.IsSplit (bytes.take mid) (bytes.drop mid)) := by
  -- The `Ref` casts split as shown above; the others are the engine's casts, perhaps swapped and
  -- behind a validity check.
  refine ⟨fun _ _ _ => Ref.sizedFromPrefix_isSplit, fun _ _ _ => Ref.sizedFromSuffix_isSplit,
    fun _ _ _ => Ref.fromPrefix_isSplit, fun _ _ _ => Ref.fromSuffix_isSplit,
    fun _ _ _ => Ref.fromPrefixWithElems_isSplit, fun _ _ _ => Ref.fromSuffixWithElems_isSplit,
    fun _ _ _ built => Ref.fromPrefix_isSplit (Ref.ok_of_bind_unalignedSizeError built),
    fun _ _ _ built => Ref.fromSuffix_isSplit (Ref.ok_of_bind_unalignedSizeError built),
    fun _ _ _ built => Ref.fromPrefixWithElems_isSplit (Ref.ok_of_bind_unalignedSizeError built),
    fun _ _ _ built => Ref.fromSuffixWithElems_isSplit (Ref.ok_of_bind_unalignedSizeError built),
    fun _ _ _ => tryCastInto_prefix_isSplit,
    fun _ _ _ built => tryCastInto_suffix_isSplit (map_swap_eq_ok.mp built),
    fun _ _ _ => tryCastInto_prefix_isSplit,
    fun _ _ _ built => tryCastInto_suffix_isSplit (map_swap_eq_ok.mp built),
    fun _ _ _ => tryCastInto_prefix_isSplit,
    fun _ _ _ built => tryCastInto_suffix_isSplit (map_swap_eq_ok.mp built),
    fun _ _ _ => tryCastInto_prefix_isSplit,
    fun _ _ _ built => tryCastInto_suffix_isSplit (map_swap_eq_ok.mp built),
    fun _ _ _ built => tryCastInto_prefix_isSplit (tryRefFromPrefixSuffix_eq_ok.mp built).1,
    fun _ _ _ built =>
      tryCastInto_suffix_isSplit (tryRefFromPrefixSuffix_eq_ok.mp (map_swap_eq_ok.mp built)).1,
    fun _ _ _ built => tryCastInto_prefix_isSplit (tryRefFromPrefixSuffix_eq_ok.mp built).1,
    fun _ _ _ built =>
      tryCastInto_suffix_isSplit (tryRefFromPrefixSuffix_eq_ok.mp (map_swap_eq_ok.mp built)).1,
    fun _ inside => ⟨B.splitAtUnchecked_of_le inside, bytes.isSplit_take_drop inside⟩⟩

/-- Two `u16`s split off the front of five bytes leave the last byte, with nothing lost. -/
theorem casts_split_u16_elems :
    Ref.fromPrefixWithElems 18446744073709551615 .ref ⟨2, .sliceDst ⟨0, 2⟩, ⟨1, rfl⟩⟩
        ⟨0, [1, 2, 3, 4, 5]⟩ 2 = .ok (.ok (⟨⟨0, [1, 2, 3, 4]⟩⟩, ⟨4, [5]⟩)) ∧
      (⟨0, [1, 2, 3, 4, 5]⟩ : Slice).IsSplit ⟨0, [1, 2, 3, 4]⟩ ⟨4, [5]⟩ :=
  ⟨rfl, (casts_split 18446744073709551615 .ref ⟨0, [1, 2, 3, 4, 5]⟩ 2).2.2.2.2.1
    ⟨2, .sliceDst ⟨0, 2⟩, ⟨1, rfl⟩⟩ ⟨⟨0, [1, 2, 3, 4]⟩⟩ ⟨4, [5]⟩ rfl⟩

/-! ### Error sources -/

namespace Ref

variable {usizeMax : Nat} {B : ByteSlice} {T : DstLayout} {bytes : Slice} {count : Nat}

/-- Every error of `from_prefix` carries the whole buffer. -/
theorem fromPrefix_error_src {e : CastError Slice}
    (failed : Ref.fromPrefix usizeMax B T bytes = .ok (.error e)) : e.toTry.src = bytes := by
  rw [fromPrefix_eq] at failed
  split at failed <;> cases failed
  exact ConvertError.src_toTry_mapSrc _ _ _ fun _ => rfl

/-- Every error of `from_suffix` carries the whole buffer. -/
theorem fromSuffix_error_src {e : CastError Slice}
    (failed : Ref.fromSuffix usizeMax B T bytes = .ok (.error e)) : e.toTry.src = bytes := by
  rw [fromSuffix_eq] at failed
  split at failed <;> cases failed
  exact ConvertError.src_toTry_mapSrc _ _ _ fun _ => rfl

/-- The `unaligned_*` error map returns an error exactly for a size error, whose source it
keeps. -/
theorem unalignedSizeError_eq_ok_error {Src α : Type} {result : Except (CastError Src) α}
    {src : Src} : unalignedSizeError result = .ok (.error src) ↔ result = .error (.size src) := by
  rcases result with (_ | _ | impossible) | _
  · simp [unalignedSizeError]
  · simp [unalignedSizeError]
  · exact nomatch impossible
  · simp [unalignedSizeError]

/-- An error of an `unaligned_*` constructor is a size error of the constructor under it. -/
theorem size_of_bind_unalignedSizeError {Src α : Type}
    {x : Except Fault (Except (CastError Src) α)} {src : Src}
    (failed : (x >>= unalignedSizeError) = .ok (.error src)) : x = .ok (.error (.size src)) := by
  rcases x with _ | y
  · cases failed
  · exact congrArg Except.ok (unalignedSizeError_eq_ok_error.mp failed)

/-- The size errors of `from_prefix_with_elems` carry the whole buffer. -/
theorem fromPrefixWithElems_size_src {src : Slice}
    (failed : Ref.fromPrefixWithElems usizeMax B T bytes count = .ok (.error (.size src))) :
    src = bytes := by
  rcases fromPrefixWithElems_error failed with same | ⟨_, _, _, wrong⟩
  · cases same; rfl
  · cases wrong

/-- The size errors of `from_suffix_with_elems` carry the whole buffer. -/
theorem fromSuffixWithElems_size_src {src : Slice}
    (failed : Ref.fromSuffixWithElems usizeMax B T bytes count = .ok (.error (.size src))) :
    src = bytes := by
  rcases fromSuffixWithElems_error failed with same | ⟨_, _, _, wrong⟩
  · cases same; rfl
  · cases wrong

end Ref

section TryErrors

variable {usizeMax : Nat} {T : TryFromBytes} {bytes : Slice}

/-- Every error of `try_ref_from` carries the whole buffer: its candidate, when `is_bit_valid`
rejects one, is the whole buffer. -/
theorem tryRefFrom_error_src {e : TryCastError Slice}
    (failed : tryRefFrom usizeMax T bytes = .error e) : e.src = bytes := by
  -- An engine error carries the buffer, and the exact cast's candidate is the buffer.
  unfold tryRefFrom at failed
  cases cast : tryCastIntoNoLeftover usizeMax T.layout bytes none with
  | error rejected =>
    rw [cast] at failed
    cases failed
    exact tryCastIntoNoLeftover_error_src cast
  | ok candidate =>
    rw [cast] at failed
    by_cases valid : T.isBitValid candidate.meta candidate.region.data <;>
      simp only [tryIntoValid, valid, if_true, if_false, reduceCtorEq, Except.error.injEq] at failed
    cases failed
    exact (tryCastIntoNoLeftover_eq_ok.mp cast).2.2

/-- An error of the prefix or suffix cast with validation is a size or alignment error that
carries the whole buffer, or a validity error that carries the engine's candidate. -/
theorem tryRefFromPrefixSuffix_error {castType : CastType} {meta : Option PointerMetadata}
    {e : TryCastError Slice}
    (failed : tryRefFromPrefixSuffix usizeMax T bytes castType meta = .error e) :
    ((∀ src, e ≠ .validity src) ∧ e.src = bytes) ∨
      ∃ p rest, tryCastInto usizeMax T.layout bytes castType meta = .ok (p, rest) ∧
        e = .validity p.region := by
  unfold tryRefFromPrefixSuffix at failed
  cases cast : tryCastInto usizeMax T.layout bytes castType meta with
  | error rejected =>
    -- The engine's errors are size and alignment errors, and carry the buffer.
    rw [cast] at failed
    cases failed
    exact .inl ⟨ConvertError.toTry_ne_validity rejected, tryCastInto_error_src cast⟩
  | ok pair =>
    -- Past the engine, the only error is the candidate's validity error.
    obtain ⟨candidate, extra⟩ := pair
    rw [cast] at failed
    by_cases valid : T.isBitValid candidate.meta candidate.region.data <;>
      simp only [tryIntoValid, valid, if_true, if_false, reduceCtorEq, Except.error.injEq] at failed
    exact .inr ⟨candidate, extra, rfl, failed.symm⟩

end TryErrors

/-- Every failed conversion hands back the whole buffer, save a validity error of a prefix or
suffix `try_*` cast, which hands back the candidate `is_bit_valid` rejected. -/
theorem error_sources (usizeMax : Nat) (B : ByteSlice) (bytes : Slice) (count : Nat) :
    (∀ T e, Ref.from usizeMax B T bytes = .error e → e.toTry.src = bytes) ∧
    (∀ T e, Ref.fromPrefix usizeMax B T bytes = .ok (.error e) → e.toTry.src = bytes) ∧
    (∀ T e, Ref.fromSuffix usizeMax B T bytes = .ok (.error e) → e.toTry.src = bytes) ∧
    (∀ T src, Ref.fromPrefixWithElems usizeMax B T bytes count = .ok (.error (.size src)) →
      src = bytes) ∧
    (∀ T src, Ref.fromSuffixWithElems usizeMax B T bytes count = .ok (.error (.size src)) →
      src = bytes) ∧
    (∀ T src, Ref.unalignedFrom usizeMax B T bytes = .ok (.error src) → src = bytes) ∧
    (∀ T src, Ref.unalignedFromPrefix usizeMax B T bytes = .ok (.error src) → src = bytes) ∧
    (∀ T src, Ref.unalignedFromSuffix usizeMax B T bytes = .ok (.error src) → src = bytes) ∧
    (∀ T src, Ref.unalignedFromPrefixWithElems usizeMax B T bytes count = .ok (.error src) →
      src = bytes) ∧
    (∀ T src, Ref.unalignedFromSuffixWithElems usizeMax B T bytes count = .ok (.error src) →
      src = bytes) ∧
    (∀ T e, refFrom usizeMax T bytes = .error e → e.toTry.src = bytes) ∧
    (∀ T e, mutFrom usizeMax T bytes = .error e → e.toTry.src = bytes) ∧
    (∀ T e, refFromPrefix usizeMax T bytes = .error e → e.toTry.src = bytes) ∧
    (∀ T e, refFromSuffix usizeMax T bytes = .error e → e.toTry.src = bytes) ∧
    (∀ T e, mutFromPrefix usizeMax T bytes = .error e → e.toTry.src = bytes) ∧
    (∀ T e, mutFromSuffix usizeMax T bytes = .error e → e.toTry.src = bytes) ∧
    (∀ T e, refFromWithTrailingElements usizeMax T bytes count = .error e → e.toTry.src = bytes) ∧
    (∀ T e, mutFromWithTrailingElements usizeMax T bytes count = .error e → e.toTry.src = bytes) ∧
    (∀ T e, refFromPrefixWithTrailingElements usizeMax T bytes count = .error e →
      e.toTry.src = bytes) ∧
    (∀ T e, refFromSuffixWithTrailingElements usizeMax T bytes count = .error e →
      e.toTry.src = bytes) ∧
    (∀ T e, mutFromPrefixWithTrailingElements usizeMax T bytes count = .error e →
      e.toTry.src = bytes) ∧
    (∀ T e, mutFromSuffixWithTrailingElements usizeMax T bytes count = .error e →
      e.toTry.src = bytes) ∧
    (∀ T e, tryRefFrom usizeMax T bytes = .error e → e.src = bytes) ∧
    (∀ T e, tryMutFrom usizeMax T bytes = .error e → e.src = bytes) ∧
    (∀ T e, tryRefFromPrefix usizeMax T bytes = .error e →
      ((∀ src, e ≠ .validity src) ∧ e.src = bytes) ∨
        ∃ p rest, tryCastInto usizeMax T.layout bytes .Prefix none = .ok (p, rest) ∧
          e = .validity p.region) ∧
    (∀ T e, tryRefFromSuffix usizeMax T bytes = .error e →
      ((∀ src, e ≠ .validity src) ∧ e.src = bytes) ∨
        ∃ p rest, tryCastInto usizeMax T.layout bytes .Suffix none = .ok (p, rest) ∧
          e = .validity p.region) ∧
    (∀ T e, tryMutFromPrefix usizeMax T bytes = .error e →
      ((∀ src, e ≠ .validity src) ∧ e.src = bytes) ∨
        ∃ p rest, tryCastInto usizeMax T.layout bytes .Prefix none = .ok (p, rest) ∧
          e = .validity p.region) ∧
    (∀ T e, tryMutFromSuffix usizeMax T bytes = .error e →
      ((∀ src, e ≠ .validity src) ∧ e.src = bytes) ∨
        ∃ p rest, tryCastInto usizeMax T.layout bytes .Suffix none = .ok (p, rest) ∧
          e = .validity p.region) := by
  -- An `unaligned_*` error is a size error of the constructor under it; the suffix forms of
  -- `FromBytes` and `TryFromBytes` keep the errors of the casts they swap.
  have unalignedFrom : ∀ T src, Ref.unalignedFrom usizeMax B T bytes = .ok (.error src) →
      src = bytes := fun _ _ failed =>
    Ref.from_error_src (Ref.unalignedSizeError_eq_ok_error.mp failed)
  exact ⟨fun _ _ => Ref.from_error_src, fun _ _ => Ref.fromPrefix_error_src,
    fun _ _ => Ref.fromSuffix_error_src, fun _ _ => Ref.fromPrefixWithElems_size_src,
    fun _ _ => Ref.fromSuffixWithElems_size_src, unalignedFrom,
    fun _ _ failed => Ref.fromPrefix_error_src (Ref.size_of_bind_unalignedSizeError failed),
    fun _ _ failed => Ref.fromSuffix_error_src (Ref.size_of_bind_unalignedSizeError failed),
    fun _ _ failed => Ref.fromPrefixWithElems_size_src (Ref.size_of_bind_unalignedSizeError failed),
    fun _ _ failed => Ref.fromSuffixWithElems_size_src (Ref.size_of_bind_unalignedSizeError failed),
    fun _ _ => tryCastIntoNoLeftover_error_src, fun _ _ => tryCastIntoNoLeftover_error_src,
    fun _ _ => tryCastInto_error_src,
    fun _ _ failed => tryCastInto_error_src (map_swap_eq_error.mp failed),
    fun _ _ => tryCastInto_error_src,
    fun _ _ failed => tryCastInto_error_src (map_swap_eq_error.mp failed),
    fun _ _ => tryCastIntoNoLeftover_error_src, fun _ _ => tryCastIntoNoLeftover_error_src,
    fun _ _ => tryCastInto_error_src,
    fun _ _ failed => tryCastInto_error_src (map_swap_eq_error.mp failed),
    fun _ _ => tryCastInto_error_src,
    fun _ _ failed => tryCastInto_error_src (map_swap_eq_error.mp failed),
    fun _ _ => tryRefFrom_error_src, fun _ _ => tryRefFrom_error_src,
    fun _ _ => tryRefFromPrefixSuffix_error,
    fun _ _ failed => tryRefFromPrefixSuffix_error (map_swap_eq_error.mp failed),
    fun _ _ => tryRefFromPrefixSuffix_error,
    fun _ _ failed => tryRefFromPrefixSuffix_error (map_swap_eq_error.mp failed)⟩

/-- `bool::try_ref_from_prefix` of `[2, 0]`, a `bool` being one byte of `0` or `1`: the first
byte is no `bool`, and the validity error carries that one byte, not the buffer. -/
theorem tryRefFromPrefix_rejects_front :
    tryRefFromPrefix 18446744073709551615 ⟨.forType ⟨1, 1, ⟨0, rfl⟩⟩, fun _ b => b.all (· < 2)⟩
      ⟨0, [2, 0]⟩ = .error (.validity ⟨0, [2]⟩) := by
  rfl

/-- The same rejected front byte is the candidate of the engine's prefix cast. -/
theorem error_sources_bool_front :
    ∃ p rest, tryCastInto 18446744073709551615 (.forType ⟨1, 1, ⟨0, rfl⟩⟩) ⟨0, [2, 0]⟩ .Prefix
      none = .ok (p, rest) ∧ (.validity ⟨0, [2]⟩ : TryCastError Slice) = .validity p.region := by
  obtain ⟨-, -, -, -, -, -, -, -, -, -, -, -, -, -, -, -, -, -, -, -, -, -, -, -, tryPrefix, -⟩ :=
    error_sources 18446744073709551615 .ref ⟨0, [2, 0]⟩ 0
  exact (tryPrefix ⟨.forType ⟨1, 1, ⟨0, rfl⟩⟩, fun _ b => b.all (· < 2)⟩ (.validity ⟨0, [2]⟩)
    rfl).resolve_left fun ⟨notValidity, _⟩ => notValidity _ rfl

/-- `[u16]` with one element, from the 4-byte buffer at address 1: the alignment error carries
the two bytes split off, not the buffer. -/
theorem fromPrefixWithElems_misaligned_front :
    Ref.fromPrefixWithElems 18446744073709551615 .ref ⟨2, .sliceDst ⟨0, 2⟩, ⟨1, rfl⟩⟩
      ⟨1, [0, 0, 0, 0]⟩ 1 = .ok (.error (.alignment ⟨1, [0, 0]⟩)) := by
  rfl

end Zerocopy
