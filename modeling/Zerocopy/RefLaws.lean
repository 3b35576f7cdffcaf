import Zerocopy.Ref

/-! What each `Ref` constructor returns, with its panics ruled out, and the invariant it keeps. -/

namespace Zerocopy

/-- `ptr::read` of a `T` from aligned bytes exactly as long as a `T` copies all of them. -/
theorem ptrRead_of_exact {T : Layout} {bytes : Slice} (aligned : alignedTo bytes T.align)
    (exact : bytes.len = T.size) : ptrRead T bytes = .ok ⟨bytes.data, exact⟩ := by
  have fits : alignedTo bytes T.align ∧ T.size ≤ bytes.len := ⟨aligned, Nat.le_of_eq exact.symm⟩
  simp only [ptrRead, dif_pos fits]
  exact congrArg Except.ok (Subtype.ext (List.take_of_length_le (Nat.le_of_eq exact)))

namespace Ref

variable {usizeMax : Nat} {B : ByteSlice}

/-! ### Closed forms -/

/-- `sized_from_prefix` splits off the first `size_of::<T>()` bytes once they fit and are aligned,
and never panics. -/
theorem sizedFromPrefix_eq (B : ByteSlice) (T : Layout) (bytes : Slice) :
    Ref.sizedFromPrefix B T bytes =
      .ok (if bytes.len < T.size then .error (.size bytes)
        else if ¬alignedTo bytes T.align then .error (.alignment bytes)
        else .ok (⟨bytes.take T.size⟩, bytes.drop T.size)) := by
  -- Each check of the source is one branch; past them the split point lies inside the slice.
  by_cases short : bytes.len < T.size
  · simp [sizedFromPrefix, short, pure, Except.pure]
  · by_cases aligned : alignedTo bytes T.align <;>
      simp [sizedFromPrefix, short, aligned, trySplitAt_eq, Nat.le_of_not_lt short, bind,
        Except.bind, pure, Except.pure, newUnchecked]

/-- `sized_from_suffix` splits off the last `size_of::<T>()` bytes once they fit, then checks their
alignment, and never panics. -/
theorem sizedFromSuffix_eq (B : ByteSlice) (T : Layout) (bytes : Slice) :
    Ref.sizedFromSuffix B T bytes =
      .ok (if bytes.len < T.size then .error (.size bytes)
        else if ¬alignedTo (bytes.drop (bytes.len - T.size)) T.align then
          .error (.alignment (bytes.drop (bytes.len - T.size)))
        else .ok (bytes.take (bytes.len - T.size), ⟨bytes.drop (bytes.len - T.size)⟩)) := by
  -- Each check of the source is one branch; past them the split point lies inside the slice.
  by_cases short : bytes.len < T.size
  · simp [sizedFromSuffix, short, checkedSub, pure, Except.pure, Nat.not_le.mpr short]
  · by_cases aligned : alignedTo (bytes.drop (bytes.len - T.size)) T.align <;>
      simp [sizedFromSuffix, short, aligned, checkedSub, Nat.le_of_not_lt short, trySplitAt_eq,
        bind, Except.bind, pure, Except.pure, newUnchecked]

/-- `from_prefix` returns the engine's candidate and remainder, re-split from the original bytes,
and never panics or reaches undefined behaviour. -/
theorem fromPrefix_eq (usizeMax : Nat) (B : ByteSlice) (T : DstLayout) (bytes : Slice) :
    Ref.fromPrefix usizeMax B T bytes =
      .ok (match tryCastInto usizeMax T bytes .Prefix none with
        | .error e => .error (e.mapSrc fun _ => bytes)
        | .ok (p, rest) => .ok (⟨p.region⟩, rest)) := by
  cases cast : tryCastInto usizeMax T bytes .Prefix none with
  | error e => simp [fromPrefix, cast, pure, Except.pure]
  | ok result =>
    obtain ⟨p, rest⟩ := result
    obtain ⟨size, -, fits, -, region, rfl⟩ := tryCastInto_eq_ok.mp cast
    -- The remainder is everything after the candidate, so the split point is the candidate's size.
    simp [fromPrefix, cast, Nat.sub_sub_self fits, trySplitAt_eq, fits, region,
      CastType.candidate, CastType.remainder, bind, Except.bind, pure, Except.pure, newUnchecked]

/-- `from_suffix` returns the engine's remainder and candidate, re-split from the original bytes,
and never panics. -/
theorem fromSuffix_eq (usizeMax : Nat) (B : ByteSlice) (T : DstLayout) (bytes : Slice) :
    Ref.fromSuffix usizeMax B T bytes =
      .ok (match tryCastInto usizeMax T bytes .Suffix none with
        | .error e => .error (e.mapSrc fun _ => bytes)
        | .ok (p, rest) => .ok (rest, ⟨p.region⟩)) := by
  cases cast : tryCastInto usizeMax T bytes .Suffix none with
  | error e => simp [fromSuffix, cast, pure, Except.pure]
  | ok result =>
    obtain ⟨p, rest⟩ := result
    obtain ⟨size, -, fits, -, region, rfl⟩ := tryCastInto_eq_ok.mp cast
    -- The remainder is everything before the candidate, so the split point is where it ends.
    simp [fromSuffix, cast, trySplitAt_eq, region, CastType.candidate, CastType.remainder, bind,
      Except.bind, pure, Except.pure, newUnchecked]

/-- `from_prefix_with_elems` casts the front bytes that `count` elements need with `from`, and
never panics: it splits only after checking that they fit. -/
theorem fromPrefixWithElems_eq (usizeMax : Nat) (B : ByteSlice) (T : DstLayout) (bytes : Slice)
    (count : Nat) :
    Ref.fromPrefixWithElems usizeMax B T bytes count =
      .ok (match (PointerMetadata.count count).sizeForMetadata usizeMax T with
        | none => .error (.size bytes)
        | some expectedLen =>
          if bytes.len < expectedLen then .error (.size bytes)
          else (Ref.from usizeMax B T (bytes.take expectedLen)).map
            fun l => (l, bytes.drop expectedLen)) := by
  -- Past the size check, `split_at` is inside the slice and cannot panic.
  cases size : (PointerMetadata.count count).sizeForMetadata usizeMax T with
  | none => simp [fromPrefixWithElems, size, pure, Except.pure]
  | some expectedLen =>
    by_cases short : bytes.len < expectedLen
    · simp [fromPrefixWithElems, size, short, pure, Except.pure]
    · simp [fromPrefixWithElems, size, short, B.splitAt_of_le (Nat.le_of_not_lt short), bind,
        Except.bind, pure, Except.pure]

/-- `from_suffix_with_elems` casts the back bytes that `count` elements need with `from`, and
never panics. -/
theorem fromSuffixWithElems_eq (usizeMax : Nat) (B : ByteSlice) (T : DstLayout) (bytes : Slice)
    (count : Nat) :
    Ref.fromSuffixWithElems usizeMax B T bytes count =
      .ok (match (PointerMetadata.count count).sizeForMetadata usizeMax T with
        | none => .error (.size bytes)
        | some expectedLen =>
          if bytes.len < expectedLen then .error (.size bytes)
          else (Ref.from usizeMax B T (bytes.drop (bytes.len - expectedLen))).map
            fun l => (bytes.take (bytes.len - expectedLen), l)) := by
  -- Past the size check, `split_at` is inside the slice and cannot panic.
  cases size : (PointerMetadata.count count).sizeForMetadata usizeMax T with
  | none => simp [fromSuffixWithElems, size, pure, Except.pure]
  | some expectedLen =>
    by_cases short : bytes.len < expectedLen
    · simp [fromSuffixWithElems, size, short, checkedSub, Nat.not_le.mpr short, pure, Except.pure]
    · simp [fromSuffixWithElems, size, short, checkedSub, Nat.le_of_not_lt short,
        B.splitAt_of_le (Nat.sub_le bytes.len expectedLen), bind, Except.bind, pure, Except.pure]

/-! ### The invariant -/

variable {T : DstLayout}

/-- `from` keeps exactly the bytes it was given. -/
theorem from_bytes {bytes : Slice} {r : Ref B T} (built : Ref.from usizeMax B T bytes = .ok r) :
    r.bytes = bytes := by
  unfold Ref.from at built
  split at built <;> cases built
  rfl

/-- Every error of `from` carries the bytes it was given. -/
theorem from_error_src {bytes : Slice} {e : CastError Slice}
    (failed : Ref.from usizeMax B T bytes = .error e) : e.toTry.src = bytes := by
  unfold Ref.from at failed
  split at failed <;> cases failed
  exact ConvertError.src_toTry_mapSrc _ _ _ fun _ => rfl

/-- `from_prefix_with_elems` succeeds exactly when the bytes its count needs fit and `from`
accepts the front ones; the rest of the buffer comes back beside them. -/
theorem fromPrefixWithElems_eq_ok {bytes rest : Slice} {count : Nat} {r : Ref B T} :
    Ref.fromPrefixWithElems usizeMax B T bytes count = .ok (.ok (r, rest)) ↔
      ∃ S, (PointerMetadata.count count).sizeForMetadata usizeMax T = some S ∧ S ≤ bytes.len ∧
        Ref.from usizeMax B T (bytes.take S) = .ok r ∧ rest = bytes.drop S := by
  -- Read the closed form: only its last branch can succeed.
  rw [fromPrefixWithElems_eq]
  cases sized : (PointerMetadata.count count).sizeForMetadata usizeMax T with
  | none => simp
  | some S =>
    by_cases short : bytes.len < S
    · simp [short, Nat.not_le.mpr short]
    · cases cast : Ref.from usizeMax B T (bytes.take S) <;>
        simp [short, cast, Nat.le_of_not_lt short, Except.map, eq_comm]

/-- `from_suffix_with_elems` succeeds exactly when the bytes its count needs fit and `from`
accepts the back ones; the head of the buffer comes back beside them. -/
theorem fromSuffixWithElems_eq_ok {bytes rest : Slice} {count : Nat} {r : Ref B T} :
    Ref.fromSuffixWithElems usizeMax B T bytes count = .ok (.ok (rest, r)) ↔
      ∃ S, (PointerMetadata.count count).sizeForMetadata usizeMax T = some S ∧ S ≤ bytes.len ∧
        Ref.from usizeMax B T (bytes.drop (bytes.len - S)) = .ok r ∧
          rest = bytes.take (bytes.len - S) := by
  -- Read the closed form: only its last branch can succeed.
  rw [fromSuffixWithElems_eq]
  cases sized : (PointerMetadata.count count).sizeForMetadata usizeMax T with
  | none => simp
  | some S =>
    by_cases short : bytes.len < S
    · simp [short, Nat.not_le.mpr short]
    · cases cast : Ref.from usizeMax B T (bytes.drop (bytes.len - S)) <;>
        simp [short, cast, Nat.le_of_not_lt short, Except.map, eq_comm, and_comm]

/-- A `Ref` over bytes that the exact cast accepts keeps the invariant. -/
theorem invariant_of_tryCastIntoNoLeftover {bytes : Slice} {meta : Option PointerMetadata}
    {p : Ptr} (cast : tryCastIntoNoLeftover usizeMax T bytes meta = .ok p) :
    (⟨bytes⟩ : Ref B T).Invariant := by
  have region := (tryCastIntoNoLeftover_eq_ok.mp cast).2.2
  exact region ▸ tryCastIntoNoLeftover_ok_fits cast

/-- A `Ref` over the candidate of a prefix or suffix cast keeps the invariant. -/
theorem invariant_of_tryCastInto {bytes : Slice} {castType : CastType}
    {meta : Option PointerMetadata} {p : Ptr} {rest : Slice}
    (cast : tryCastInto usizeMax T bytes castType meta = .ok (p, rest)) :
    (⟨p.region⟩ : Ref B T).Invariant :=
  tryCastInto_ok_fits cast

/-- `sized_from` keeps the invariant. -/
theorem sizedFrom_invariant {T : Layout} {bytes : Slice} {r : Ref B (.forType T)}
    (built : Ref.sizedFrom B T bytes = .ok r) : r.Invariant := by
  unfold sizedFrom at built
  split_ifs at built with wrong aligned
  cases built
  exact ⟨aligned, by simpa using wrong⟩

/-- `sized_from_prefix` keeps the invariant. -/
theorem sizedFromPrefix_invariant {T : Layout} {bytes rest : Slice} {r : Ref B (.forType T)}
    (built : Ref.sizedFromPrefix B T bytes = .ok (.ok (r, rest))) : r.Invariant := by
  rw [sizedFromPrefix_eq] at built
  split_ifs at built with short aligned <;> cases built
  exact ⟨aligned, by simp; omega⟩

/-- `sized_from_suffix` keeps the invariant. -/
theorem sizedFromSuffix_invariant {T : Layout} {bytes rest : Slice} {r : Ref B (.forType T)}
    (built : Ref.sizedFromSuffix B T bytes = .ok (.ok (rest, r))) : r.Invariant := by
  rw [sizedFromSuffix_eq] at built
  split_ifs at built with short aligned <;> cases built
  exact ⟨aligned, by simp; omega⟩

/-- `from` keeps the invariant. -/
theorem from_invariant {bytes : Slice} {r : Ref B T}
    (built : Ref.from usizeMax B T bytes = .ok r) : r.Invariant := by
  unfold Ref.from at built
  split at built <;> rename_i cast
  · cases built
  · cases built; exact invariant_of_tryCastIntoNoLeftover cast

/-- `from_prefix` keeps the invariant. -/
theorem fromPrefix_invariant {bytes rest : Slice} {r : Ref B T}
    (built : Ref.fromPrefix usizeMax B T bytes = .ok (.ok (r, rest))) : r.Invariant := by
  rw [fromPrefix_eq] at built
  split at built <;> rename_i cast
  · cases built
  · cases built; exact invariant_of_tryCastInto cast

/-- `from_suffix` keeps the invariant. -/
theorem fromSuffix_invariant {bytes rest : Slice} {r : Ref B T}
    (built : Ref.fromSuffix usizeMax B T bytes = .ok (.ok (rest, r))) : r.Invariant := by
  rw [fromSuffix_eq] at built
  split at built <;> rename_i cast
  · cases built
  · cases built; exact invariant_of_tryCastInto cast

/-- `from_prefix_with_elems` keeps the invariant: its `Ref` is made by `from`. -/
theorem fromPrefixWithElems_invariant {bytes rest : Slice} {count : Nat} {r : Ref B T}
    (built : Ref.fromPrefixWithElems usizeMax B T bytes count = .ok (.ok (r, rest))) :
    r.Invariant :=
  let ⟨_, _, _, made, _⟩ := fromPrefixWithElems_eq_ok.mp built
  from_invariant made

/-- `from_suffix_with_elems` keeps the invariant: its `Ref` is made by `from`. -/
theorem fromSuffixWithElems_invariant {bytes rest : Slice} {count : Nat} {r : Ref B T}
    (built : Ref.fromSuffixWithElems usizeMax B T bytes count = .ok (.ok (rest, r))) :
    r.Invariant :=
  let ⟨_, _, _, made, _⟩ := fromSuffixWithElems_eq_ok.mp built
  from_invariant made

/-- The error map of the `unaligned_*` constructors lets through exactly the successes. -/
@[simp] theorem unalignedSizeError_eq_ok_ok {Src α : Type} {result : Except (CastError Src) α}
    {r : α} : unalignedSizeError result = .ok (.ok r) ↔ result = .ok r := by
  rcases result with (_ | _ | impossible) | _
  · simp [unalignedSizeError]
  · simp [unalignedSizeError]
  · exact nomatch impossible
  · simp [unalignedSizeError]

/-- A constructor behind the `unaligned_*` error map returns what the constructor returns. -/
theorem ok_of_bind_unalignedSizeError {Src α : Type} {x : Except Fault (Except (CastError Src) α)}
    {r : α} (built : (x >>= unalignedSizeError) = .ok (.ok r)) : x = .ok (.ok r) := by
  rcases x with _ | y
  · cases built
  · exact congrArg Except.ok (unalignedSizeError_eq_ok_ok.mp built)

/-- The `unaligned_*` error map panics only on an alignment error. -/
theorem unalignedSizeError_ok {Src α : Type} {result : Except (CastError Src) α}
    (notAlignment : Outcome.of result ≠ .alignment) : ∃ y, unalignedSizeError result = .ok y := by
  rcases result with (_ | _ | impossible) | _
  · exact absurd rfl notAlignment
  · exact ⟨_, rfl⟩
  · exact nomatch impossible
  · exact ⟨_, rfl⟩

/-- Behind a constructor that does not panic, the `unaligned_*` error map panics only on an
alignment error. -/
theorem bind_unalignedSizeError_ok {Src α : Type} {x : Except Fault (Except (CastError Src) α)}
    (returns : ∃ o, Outcome.of <$> x = .ok o ∧ o ≠ .alignment) :
    ∃ y, (x >>= unalignedSizeError) = .ok y := by
  obtain ⟨o, verdict, notAlignment⟩ := returns
  rcases x with _ | result
  · cases verdict
  · simp only [Except.map_ok, Except.ok.injEq] at verdict
    exact unalignedSizeError_ok (verdict ▸ notAlignment)

/-- `unaligned_from` keeps the invariant. -/
theorem unalignedFrom_invariant {bytes : Slice} {r : Ref B T}
    (built : Ref.unalignedFrom usizeMax B T bytes = .ok (.ok r)) : r.Invariant :=
  from_invariant (unalignedSizeError_eq_ok_ok.mp built)

/-- `unaligned_from_prefix` keeps the invariant. -/
theorem unalignedFromPrefix_invariant {bytes rest : Slice} {r : Ref B T}
    (built : Ref.unalignedFromPrefix usizeMax B T bytes = .ok (.ok (r, rest))) : r.Invariant :=
  fromPrefix_invariant (ok_of_bind_unalignedSizeError built)

/-- `unaligned_from_suffix` keeps the invariant. -/
theorem unalignedFromSuffix_invariant {bytes rest : Slice} {r : Ref B T}
    (built : Ref.unalignedFromSuffix usizeMax B T bytes = .ok (.ok (rest, r))) : r.Invariant :=
  fromSuffix_invariant (ok_of_bind_unalignedSizeError built)

/-- `unaligned_from_prefix_with_elems` keeps the invariant. -/
theorem unalignedFromPrefixWithElems_invariant {bytes rest : Slice} {count : Nat} {r : Ref B T}
    (built : Ref.unalignedFromPrefixWithElems usizeMax B T bytes count = .ok (.ok (r, rest))) :
    r.Invariant :=
  fromPrefixWithElems_invariant (ok_of_bind_unalignedSizeError built)

/-- `unaligned_from_suffix_with_elems` keeps the invariant. -/
theorem unalignedFromSuffixWithElems_invariant {bytes rest : Slice} {count : Nat} {r : Ref B T}
    (built : Ref.unalignedFromSuffixWithElems usizeMax B T bytes count = .ok (.ok (rest, r))) :
    r.Invariant :=
  fromSuffixWithElems_invariant (ok_of_bind_unalignedSizeError built)

/-- `Clone` keeps the invariant: the copy has the same address and length. -/
theorem clone_invariant {r : Ref .ref T} (inv : r.Invariant) : r.clone.Invariant := inv

/-- On a `Ref` that keeps the invariant, the re-cast of its bytes succeeds and points at all of
them: the `expect` never panics. -/
theorem recast_of_invariant (usizeMax : Nat) {r : Ref B T} (inv : r.Invariant)
    (message : String) :
    ∃ meta, r.recast usizeMax message = .ok ⟨r.bytes, meta⟩ := by
  obtain ⟨meta, cast⟩ := tryCastIntoNoLeftover_of_fits usizeMax inv.1 inv.2
  exact ⟨meta, by simp [recast, cast]⟩

/-- On a `Ref` that keeps the invariant, `read` copies out exactly its whole byte slice. -/
theorem read_of_invariant {T : Layout} {r : Ref B (.forType T)} (inv : r.Invariant) :
    ∃ v, r.read T = .ok v ∧ v.val = r.bytes.data :=
  ⟨_, ptrRead_of_exact inv.1 inv.2, rfl⟩

/-- On a `Ref` that keeps the invariant, `write` replaces exactly its whole byte slice. -/
theorem write_of_invariant {T : Layout} {r : Ref B (.forType T)} (inv : r.Invariant)
    (t : T.Value) : r.write T t = .ok ⟨⟨r.bytes.addr, t.val⟩⟩ := by
  have whole : r.bytes.data.length = T.size := inv.2
  have fits : alignedTo r.bytes T.align ∧ T.size ≤ r.bytes.len := ⟨inv.1, Nat.le_of_eq whole.symm⟩
  simp [write, ptrWrite, fits, Except.map, List.drop_of_length_le (Nat.le_of_eq whole)]

/-! ### Verdicts -/

/-- `from` ends as the exact cast of its bytes does. -/
theorem outcome_from (bytes : Slice) :
    Outcome.of (Ref.from usizeMax B T bytes) =
      Outcome.of (tryCastIntoNoLeftover usizeMax T bytes none) := by
  unfold Ref.from
  split <;> rename_i cast <;> simp [cast]

/-- `from_prefix` ends as the engine's prefix cast does. -/
theorem outcome_fromPrefix (bytes : Slice) :
    Outcome.of <$> Ref.fromPrefix usizeMax B T bytes =
      .ok (Outcome.of (tryCastInto usizeMax T bytes .Prefix none)) := by
  rw [fromPrefix_eq]
  split <;> rename_i cast <;> simp [cast]

/-- `from_suffix` ends as the engine's suffix cast does. -/
theorem outcome_fromSuffix (bytes : Slice) :
    Outcome.of <$> Ref.fromSuffix usizeMax B T bytes =
      .ok (Outcome.of (tryCastInto usizeMax T bytes .Suffix none)) := by
  rw [fromSuffix_eq]
  split <;> rename_i cast <;> simp [cast]

/-- `from` on exactly the bytes some value of `T` needs only checks their alignment. -/
theorem outcome_from_of_validSize {bytes : Slice} (valid : T.ValidSize bytes.len) :
    Outcome.of (Ref.from usizeMax B T bytes) =
      .sizeThenAlign True (bytes.addr % T.align = 0) := by
  obtain ⟨meta, required⟩ := requiredSize_none_of_validSize usizeMax valid
  rw [outcome_from, outcome_tryCastIntoNoLeftover, required]
  simp [Outcome.sizeThenAlign]

/-- The sizes that `size_for_metadata` computes are sizes of `T`. -/
theorem validSize_of_sizeForMetadata {meta : PointerMetadata} {size : Nat}
    (sized : meta.sizeForMetadata usizeMax T = some size) : T.ValidSize size :=
  requiredSize_validSize
    (show requiredSize usizeMax T 0 (some meta) = some (meta, size) by simp [requiredSize, sized])

/-- The front bytes that a count's size asks for, split off a buffer that holds them, are as long
as a value of `T`. -/
theorem validSize_take {bytes : Slice} {count S : Nat}
    (sized : (PointerMetadata.count count).sizeForMetadata usizeMax T = some S)
    (fits : S ≤ bytes.len) : T.ValidSize (bytes.take S).len := by
  simpa [Nat.min_eq_left fits] using validSize_of_sizeForMetadata sized

/-- So are the back bytes it asks for. -/
theorem validSize_drop {bytes : Slice} {count S : Nat}
    (sized : (PointerMetadata.count count).sizeForMetadata usizeMax T = some S)
    (fits : S ≤ bytes.len) : T.ValidSize (bytes.drop (bytes.len - S)).len := by
  simpa [Nat.sub_sub_self fits] using validSize_of_sizeForMetadata sized

/-- `sized_from` checks the length, then the alignment. -/
theorem outcome_sizedFrom (T : Layout) (bytes : Slice) :
    Outcome.of (Ref.sizedFrom B T bytes) =
      .sizeThenAlign (bytes.len = T.size) (bytes.addr % T.align = 0) := by
  unfold Ref.sizedFrom
  by_cases exact : bytes.len = T.size <;> by_cases aligned : bytes.addr % T.align = 0 <;>
    simp [exact, aligned, Outcome.sizeThenAlign, alignedTo]

/-- `sized_from_prefix` checks that the slice is long enough, then its alignment. -/
theorem outcome_sizedFromPrefix (T : Layout) (bytes : Slice) :
    Outcome.of <$> Ref.sizedFromPrefix B T bytes =
      .ok (.sizeThenAlign (T.size ≤ bytes.len) (bytes.addr % T.align = 0)) := by
  rw [sizedFromPrefix_eq]
  by_cases short : bytes.len < T.size <;> by_cases aligned : bytes.addr % T.align = 0 <;>
    simp [short, aligned, Outcome.sizeThenAlign, alignedTo]

/-- `sized_from_suffix` checks that the slice is long enough, then the alignment of its back. -/
theorem outcome_sizedFromSuffix (T : Layout) (bytes : Slice) :
    Outcome.of <$> Ref.sizedFromSuffix B T bytes =
      .ok (.sizeThenAlign (T.size ≤ bytes.len)
        ((bytes.addr + (bytes.len - T.size)) % T.align = 0)) := by
  rw [sizedFromSuffix_eq]
  by_cases short : bytes.len < T.size <;>
    by_cases aligned : (bytes.addr + (bytes.len - T.size)) % T.align = 0 <;>
    simp [short, aligned, Outcome.sizeThenAlign, alignedTo]

/-- `from_prefix_with_elems` checks the size its count needs, then, through `from` on the bytes
it split off, their alignment. -/
theorem outcome_fromPrefixWithElems (bytes : Slice) (count : Nat) :
    Outcome.of <$> Ref.fromPrefixWithElems usizeMax B T bytes count =
      .ok (match (PointerMetadata.count count).sizeForMetadata usizeMax T with
        | none => .size
        | some S => .sizeThenAlign (S ≤ bytes.len) (bytes.addr % T.align = 0)) := by
  -- Past the size check, the verdict is that of `from` on the front bytes.
  rw [fromPrefixWithElems_eq]
  cases sized : (PointerMetadata.count count).sizeForMetadata usizeMax T with
  | none => rfl
  | some S =>
    by_cases short : bytes.len < S
    · simp [short, Outcome.sizeThenAlign]
    · -- The front `S` bytes are a size of `T`, so `from` only checks where they start.
      have valid := validSize_take sized (Nat.le_of_not_lt short)
      simp only [short, if_false, Except.map_ok, Outcome.of_map, outcome_from_of_validSize valid,
        Slice.take_addr]
      simp [Outcome.sizeThenAlign, Nat.le_of_not_lt short]

/-- `from_suffix_with_elems` checks the size its count needs, then the alignment of the back
bytes it split off. -/
theorem outcome_fromSuffixWithElems (bytes : Slice) (count : Nat) :
    Outcome.of <$> Ref.fromSuffixWithElems usizeMax B T bytes count =
      .ok (match (PointerMetadata.count count).sizeForMetadata usizeMax T with
        | none => .size
        | some S => .sizeThenAlign (S ≤ bytes.len)
            ((bytes.addr + (bytes.len - S)) % T.align = 0)) := by
  -- Past the size check, the verdict is that of `from` on the back bytes.
  rw [fromSuffixWithElems_eq]
  cases sized : (PointerMetadata.count count).sizeForMetadata usizeMax T with
  | none => rfl
  | some S =>
    by_cases short : bytes.len < S
    · simp [short, Outcome.sizeThenAlign]
    · have valid := validSize_drop sized (Nat.le_of_not_lt short)
      simp only [short, if_false, Except.map_ok, Outcome.of_map, outcome_from_of_validSize valid,
        Slice.drop_addr]
      simp [Outcome.sizeThenAlign, Nat.le_of_not_lt short]

/-- On bytes whose length is a size of `T`, `from` can only fail on alignment. -/
theorem from_error_of_validSize {bytes : Slice} {e : CastError Slice}
    (valid : T.ValidSize bytes.len) (failed : Ref.from usizeMax B T bytes = .error e) :
    e = .alignment bytes := by
  -- Its verdict passes the size check, so an error is an alignment error.
  have verdict : Outcome.of (Ref.from usizeMax B T bytes) = _ := outcome_from_of_validSize valid
  have src := from_error_src failed
  rw [failed] at verdict
  rcases e with rejected | short | impossible
  · cases src; rfl
  · simp only [Outcome.of_error, Outcome.ofError_size, Outcome.sizeThenAlign, not_true_eq_false,
      if_false] at verdict
    split_ifs at verdict
  · exact nomatch impossible

/-- Every error of `from_prefix_with_elems` carries the whole buffer, save an alignment error,
which carries the front bytes that `from` rejected. -/
theorem fromPrefixWithElems_error {bytes : Slice} {count : Nat} {e : CastError Slice}
    (failed : Ref.fromPrefixWithElems usizeMax B T bytes count = .ok (.error e)) :
    e = .size bytes ∨ ∃ S, (PointerMetadata.count count).sizeForMetadata usizeMax T = some S ∧
      S ≤ bytes.len ∧ e = .alignment (bytes.take S) := by
  -- A size error carries the buffer; past the size check only `from` can fail.
  rw [fromPrefixWithElems_eq] at failed
  cases sized : (PointerMetadata.count count).sizeForMetadata usizeMax T with
  | none => simp only [sized, Except.ok.injEq, Except.error.injEq] at failed; exact .inl failed.symm
  | some S =>
    by_cases short : bytes.len < S
    · simp only [sized, short, if_true, Except.ok.injEq, Except.error.injEq] at failed
      exact .inl failed.symm
    · -- The front `S` bytes are a size of `T`, so `from` rejects them only on alignment.
      have valid := validSize_take sized (Nat.le_of_not_lt short)
      cases cast : Ref.from usizeMax B T (bytes.take S) with
      | ok made => simp [sized, short, cast, Except.map] at failed
      | error rejected =>
        simp only [sized, short, if_false, cast, Except.map, Except.ok.injEq,
          Except.error.injEq] at failed
        exact .inr ⟨S, rfl, Nat.le_of_not_lt short, failed ▸ from_error_of_validSize valid cast⟩

/-- Every error of `from_suffix_with_elems` carries the whole buffer, save an alignment error,
which carries the back bytes that `from` rejected. -/
theorem fromSuffixWithElems_error {bytes : Slice} {count : Nat} {e : CastError Slice}
    (failed : Ref.fromSuffixWithElems usizeMax B T bytes count = .ok (.error e)) :
    e = .size bytes ∨ ∃ S, (PointerMetadata.count count).sizeForMetadata usizeMax T = some S ∧
      S ≤ bytes.len ∧ e = .alignment (bytes.drop (bytes.len - S)) := by
  -- A size error carries the buffer; past the size check only `from` can fail.
  rw [fromSuffixWithElems_eq] at failed
  cases sized : (PointerMetadata.count count).sizeForMetadata usizeMax T with
  | none => simp only [sized, Except.ok.injEq, Except.error.injEq] at failed; exact .inl failed.symm
  | some S =>
    by_cases short : bytes.len < S
    · simp only [sized, short, if_true, Except.ok.injEq, Except.error.injEq] at failed
      exact .inl failed.symm
    · have valid := validSize_drop sized (Nat.le_of_not_lt short)
      cases cast : Ref.from usizeMax B T (bytes.drop (bytes.len - S)) with
      | ok made => simp [sized, short, cast, Except.map] at failed
      | error rejected =>
        simp only [sized, short, if_false, cast, Except.map, Except.ok.injEq,
          Except.error.injEq] at failed
        exact .inr ⟨S, rfl, Nat.le_of_not_lt short, failed ▸ from_error_of_validSize valid cast⟩

/-! ### Targets of alignment 1 -/

section Unaligned

variable (unaligned : T.align = 1)
include unaligned

/-- `from` never fails on alignment when `T`'s alignment is 1. -/
theorem from_ne_alignment (bytes : Slice) :
    Outcome.of (Ref.from usizeMax B T bytes) ≠ .alignment := by
  rw [outcome_from]
  exact tryCastIntoNoLeftover_ne_alignment unaligned

/-- `from_prefix` returns, and never fails on alignment when `T`'s alignment is 1. -/
theorem fromPrefix_ne_alignment (usizeMax : Nat) (B : ByteSlice) (bytes : Slice) :
    ∃ o, Outcome.of <$> Ref.fromPrefix usizeMax B T bytes = .ok o ∧ o ≠ .alignment :=
  ⟨_, outcome_fromPrefix bytes, tryCastInto_ne_alignment unaligned⟩

/-- `from_suffix` returns, and never fails on alignment when `T`'s alignment is 1. -/
theorem fromSuffix_ne_alignment (usizeMax : Nat) (B : ByteSlice) (bytes : Slice) :
    ∃ o, Outcome.of <$> Ref.fromSuffix usizeMax B T bytes = .ok o ∧ o ≠ .alignment :=
  ⟨_, outcome_fromSuffix bytes, tryCastInto_ne_alignment unaligned⟩

/-- `from_prefix_with_elems` returns, and never fails on alignment when `T`'s alignment is 1. -/
theorem fromPrefixWithElems_ne_alignment (usizeMax : Nat) (B : ByteSlice) (bytes : Slice)
    (count : Nat) :
    ∃ o, Outcome.of <$> Ref.fromPrefixWithElems usizeMax B T bytes count = .ok o ∧
      o ≠ .alignment := by
  refine ⟨_, outcome_fromPrefixWithElems bytes count, ?_⟩
  split
  · simp
  · exact Outcome.sizeThenAlign_ne_alignment (unaligned ▸ Nat.mod_one _)

/-- `from_suffix_with_elems` returns, and never fails on alignment when `T`'s alignment is 1. -/
theorem fromSuffixWithElems_ne_alignment (usizeMax : Nat) (B : ByteSlice) (bytes : Slice)
    (count : Nat) :
    ∃ o, Outcome.of <$> Ref.fromSuffixWithElems usizeMax B T bytes count = .ok o ∧
      o ≠ .alignment := by
  refine ⟨_, outcome_fromSuffixWithElems bytes count, ?_⟩
  split
  · simp
  · exact Outcome.sizeThenAlign_ne_alignment (unaligned ▸ Nat.mod_one _)

end Unaligned

/-- `sized_from` to `Unalign<T>` never fails on alignment. -/
theorem sizedFrom_unalign_ne_alignment (T : Layout) (bytes : Slice) :
    Outcome.of (Ref.sizedFrom B T.unalign bytes) ≠ .alignment := by
  rw [outcome_sizedFrom]
  exact Outcome.sizeThenAlign_ne_alignment (Nat.mod_one _)

/-- `sized_from_prefix` to `Unalign<T>` returns, and never fails on alignment. -/
theorem sizedFromPrefix_unalign_ne_alignment (T : Layout) (bytes : Slice) :
    ∃ o, Outcome.of <$> Ref.sizedFromPrefix B T.unalign bytes = .ok o ∧ o ≠ .alignment :=
  ⟨_, outcome_sizedFromPrefix T.unalign bytes, Outcome.sizeThenAlign_ne_alignment (Nat.mod_one _)⟩

/-- `sized_from_suffix` to `Unalign<T>` returns, and never fails on alignment. -/
theorem sizedFromSuffix_unalign_ne_alignment (T : Layout) (bytes : Slice) :
    ∃ o, Outcome.of <$> Ref.sizedFromSuffix B T.unalign bytes = .ok o ∧ o ≠ .alignment :=
  ⟨_, outcome_sizedFromSuffix T.unalign bytes, Outcome.sizeThenAlign_ne_alignment (Nat.mod_one _)⟩

end Ref

/-- Every `Ref` constructor returns a `Ref` aligned for `T` and as long as a value of `T`, which
`Clone` keeps, so the re-casts never panic and `read` and `write` act on the whole slice. -/
theorem ref_invariant (usizeMax : Nat) (B : ByteSlice) (bytes : Slice) (count : Nat) :
    (∀ (T : Layout) (r : Ref B (.forType T)), Ref.sizedFrom B T bytes = .ok r → r.Invariant) ∧
    (∀ (T : Layout) (r : Ref B (.forType T)) rest,
      Ref.sizedFromPrefix B T bytes = .ok (.ok (r, rest)) → r.Invariant) ∧
    (∀ (T : Layout) (r : Ref B (.forType T)) rest,
      Ref.sizedFromSuffix B T bytes = .ok (.ok (rest, r)) → r.Invariant) ∧
    (∀ T (r : Ref B T), Ref.from usizeMax B T bytes = .ok r → r.Invariant) ∧
    (∀ T (r : Ref B T) rest,
      Ref.fromPrefix usizeMax B T bytes = .ok (.ok (r, rest)) → r.Invariant) ∧
    (∀ T (r : Ref B T) rest,
      Ref.fromSuffix usizeMax B T bytes = .ok (.ok (rest, r)) → r.Invariant) ∧
    (∀ T (r : Ref B T) rest,
      Ref.fromPrefixWithElems usizeMax B T bytes count = .ok (.ok (r, rest)) → r.Invariant) ∧
    (∀ T (r : Ref B T) rest,
      Ref.fromSuffixWithElems usizeMax B T bytes count = .ok (.ok (rest, r)) → r.Invariant) ∧
    (∀ T (r : Ref B T), Ref.unalignedFrom usizeMax B T bytes = .ok (.ok r) → r.Invariant) ∧
    (∀ T (r : Ref B T) rest,
      Ref.unalignedFromPrefix usizeMax B T bytes = .ok (.ok (r, rest)) → r.Invariant) ∧
    (∀ T (r : Ref B T) rest,
      Ref.unalignedFromSuffix usizeMax B T bytes = .ok (.ok (rest, r)) → r.Invariant) ∧
    (∀ T (r : Ref B T) rest,
      Ref.unalignedFromPrefixWithElems usizeMax B T bytes count = .ok (.ok (r, rest)) →
        r.Invariant) ∧
    (∀ T (r : Ref B T) rest,
      Ref.unalignedFromSuffixWithElems usizeMax B T bytes count = .ok (.ok (rest, r)) →
        r.Invariant) ∧
    (∀ T (r : Ref .ref T), r.Invariant → r.clone.Invariant) ∧
    (∀ T (r : Ref B T), r.Invariant → ∃ p, p.region = r.bytes ∧ r.deref usizeMax = .ok p ∧
      r.derefMut usizeMax = .ok p ∧ r.intoRef usizeMax = .ok p ∧ r.intoMut usizeMax = .ok p) ∧
    (∀ (T : Layout) (r : Ref B (.forType T)), r.Invariant →
      (∃ v, r.read T = .ok v ∧ v.val = r.bytes.data) ∧
        ∀ t, r.write T t = .ok ⟨⟨r.bytes.addr, t.val⟩⟩) := by
  -- The re-casts all make the same exact cast, which the invariant lets through.
  have recasts : ∀ T (r : Ref B T), r.Invariant → ∃ p, p.region = r.bytes ∧
      r.deref usizeMax = .ok p ∧ r.derefMut usizeMax = .ok p ∧ r.intoRef usizeMax = .ok p ∧
      r.intoMut usizeMax = .ok p := by
    intro T r inv
    obtain ⟨meta, cast⟩ := tryCastIntoNoLeftover_of_fits usizeMax inv.1 inv.2
    exact ⟨⟨r.bytes, meta⟩, rfl, by simp [Ref.deref, Ref.derefMut, Ref.intoRef, Ref.intoMut,
      Ref.recast, cast]⟩
  exact ⟨fun _ _ => Ref.sizedFrom_invariant, fun _ _ _ => Ref.sizedFromPrefix_invariant,
    fun _ _ _ => Ref.sizedFromSuffix_invariant, fun _ _ => Ref.from_invariant,
    fun _ _ _ => Ref.fromPrefix_invariant, fun _ _ _ => Ref.fromSuffix_invariant,
    fun _ _ _ => Ref.fromPrefixWithElems_invariant, fun _ _ _ => Ref.fromSuffixWithElems_invariant,
    fun _ _ => Ref.unalignedFrom_invariant, fun _ _ _ => Ref.unalignedFromPrefix_invariant,
    fun _ _ _ => Ref.unalignedFromSuffix_invariant,
    fun _ _ _ => Ref.unalignedFromPrefixWithElems_invariant,
    fun _ _ _ => Ref.unalignedFromSuffixWithElems_invariant, fun _ _ => Ref.clone_invariant,
    recasts, fun _ _ inv => ⟨Ref.read_of_invariant inv, Ref.write_of_invariant inv⟩⟩

/-- Two `u16`s split off the front of five bytes make a `Ref` that keeps the invariant. -/
theorem ref_invariant_u16_elems :
    Ref.fromPrefixWithElems 18446744073709551615 .ref ⟨2, .sliceDst ⟨0, 2⟩, ⟨1, rfl⟩⟩
        ⟨0, [1, 2, 3, 4, 5]⟩ 2 = .ok (.ok (⟨⟨0, [1, 2, 3, 4]⟩⟩, ⟨4, [5]⟩)) ∧
      (⟨⟨0, [1, 2, 3, 4]⟩⟩ : Ref .ref ⟨2, .sliceDst ⟨0, 2⟩, ⟨1, rfl⟩⟩).Invariant :=
  ⟨rfl, (ref_invariant 18446744073709551615 .ref ⟨0, [1, 2, 3, 4, 5]⟩ 2).2.2.2.2.2.2.1 _
    ⟨⟨0, [1, 2, 3, 4]⟩⟩ ⟨4, [5]⟩ rfl⟩

/-- Every `Ref` constructor checks size, then alignment, and never panics; the hand-written
`sized_from*` and the engine-backed `from*` give the same verdicts. -/
theorem ref_outcome (usizeMax : Nat) (B : ByteSlice) (bytes : Slice) (count : Nat) :
    (∀ T : Layout,
      Outcome.of (Ref.sizedFrom B T bytes) =
          .sizeThenAlign (bytes.len = T.size) (bytes.addr % T.align = 0) ∧
      Outcome.of (Ref.from usizeMax B (.forType T) bytes) =
          .sizeThenAlign (bytes.len = T.size) (bytes.addr % T.align = 0) ∧
      Outcome.of <$> Ref.sizedFromPrefix B T bytes =
          .ok (.sizeThenAlign (T.size ≤ bytes.len) (bytes.addr % T.align = 0)) ∧
      Outcome.of <$> Ref.fromPrefix usizeMax B (.forType T) bytes =
          .ok (.sizeThenAlign (T.size ≤ bytes.len) (bytes.addr % T.align = 0)) ∧
      Outcome.of <$> Ref.sizedFromSuffix B T bytes =
          .ok (.sizeThenAlign (T.size ≤ bytes.len)
            ((bytes.addr + (bytes.len - T.size)) % T.align = 0)) ∧
      Outcome.of <$> Ref.fromSuffix usizeMax B (.forType T) bytes =
          .ok (.sizeThenAlign (T.size ≤ bytes.len)
            ((bytes.addr + (bytes.len - T.size)) % T.align = 0))) ∧
    (∀ T : DstLayout,
      Outcome.of <$> Ref.fromPrefixWithElems usizeMax B T bytes count =
          .ok (match (PointerMetadata.count count).sizeForMetadata usizeMax T with
            | none => .size
            | some S => .sizeThenAlign (S ≤ bytes.len) (bytes.addr % T.align = 0)) ∧
      Outcome.of <$> Ref.fromSuffixWithElems usizeMax B T bytes count =
          .ok (match (PointerMetadata.count count).sizeForMetadata usizeMax T with
            | none => .size
            | some S => .sizeThenAlign (S ≤ bytes.len)
                ((bytes.addr + (bytes.len - S)) % T.align = 0))) := by
  -- The engine-backed casts reduce to the engine's verdicts on a sized `T`.
  refine ⟨fun T => ⟨Ref.outcome_sizedFrom T bytes, ?_, Ref.outcome_sizedFromPrefix T bytes, ?_,
    Ref.outcome_sizedFromSuffix T bytes, ?_⟩,
    fun T => ⟨Ref.outcome_fromPrefixWithElems bytes count,
      Ref.outcome_fromSuffixWithElems bytes count⟩⟩
  · rw [Ref.outcome_from, outcome_tryCastIntoNoLeftover]; rfl
  · rw [Ref.outcome_fromPrefix, outcome_tryCastInto]; rfl
  · rw [Ref.outcome_fromSuffix, outcome_tryCastInto]; rfl

/-- The defensive branches of the `Ref` constructors are dead: no `unchecked_sub` underflows, no
`try_split_at` after a passed check fails, and the `*_with_elems` constructors never panic. -/
theorem defensive_branches_dead (usizeMax : Nat) (B : ByteSlice) (bytes : Slice) :
    (∀ mid, trySplitAt B bytes mid =
      .ok (if mid ≤ bytes.len then .ok (bytes.take mid, bytes.drop mid) else .error bytes)) ∧
    (∀ mid, (∃ r, trySplitAt .refMut bytes mid = .ok r) ∧
      ∃ r, trySplitAt .cellRefMut bytes mid = .ok r) ∧
    (∀ T p rest, tryCastInto usizeMax T bytes .Prefix none = .ok (p, rest) →
      uncheckedSub bytes.len rest.len = .ok (bytes.len - rest.len) ∧
        trySplitAt B bytes (bytes.len - rest.len) = .ok (.ok (p.region, rest))) ∧
    (∀ T p rest, tryCastInto usizeMax T bytes .Suffix none = .ok (p, rest) →
      trySplitAt B bytes rest.len = .ok (.ok (rest, p.region))) ∧
    (∀ T : Layout, T.size ≤ bytes.len →
      trySplitAt B bytes T.size = .ok (.ok (bytes.take T.size, bytes.drop T.size))) ∧
    (∀ (T : Layout) splitAt, checkedSub bytes.len T.size = some splitAt →
      trySplitAt B bytes splitAt = .ok (.ok (bytes.take splitAt, bytes.drop splitAt))) ∧
    (∀ T count, ∃ r, Ref.fromPrefixWithElems usizeMax B T bytes count = .ok r) ∧
    (∀ T count, ∃ r, Ref.fromSuffixWithElems usizeMax B T bytes count = .ok r) := by
  refine ⟨trySplitAt_eq B bytes, fun mid => ⟨⟨_, trySplitAt_eq _ _ _⟩, ⟨_, trySplitAt_eq _ _ _⟩⟩,
    fun T p rest cast => ?_,
    fun T p rest cast => trySplitAt_of_isSplit B (tryCastInto_suffix_isSplit cast),
    fun T fits => by rw [trySplitAt_eq, if_pos fits], fun T splitAt found => ?_,
    fun T count => ⟨_, Ref.fromPrefixWithElems_eq usizeMax B T bytes count⟩,
    fun T count => ⟨_, Ref.fromSuffixWithElems_eq usizeMax B T bytes count⟩⟩
  · -- A successful prefix cast tiles the buffer, so the remainder is no longer than it and the
    -- split point is the candidate's length.
    have split := tryCastInto_prefix_isSplit cast
    have lengths := split.len_add
    rw [uncheckedSub_of_le (by omega), show bytes.len - rest.len = p.region.len by omega]
    exact ⟨rfl, trySplitAt_of_isSplit B split⟩
  · obtain ⟨-, rfl⟩ := checkedSub_eq_some.mp found
    rw [trySplitAt_eq, if_pos (Nat.sub_le _ _)]

/-- `from_prefix` of a `u16` over three bytes: the remainder is one byte, the subtraction gives
the split point `2`, and the `&mut [u8]` split there succeeds. -/
theorem defensive_branches_dead_u16 :
    tryCastInto 18446744073709551615 (.forType ⟨2, 2, ⟨1, rfl⟩⟩) ⟨0, [1, 2, 3]⟩ .Prefix none =
        .ok (⟨⟨0, [1, 2]⟩, .unit⟩, ⟨2, [3]⟩) ∧
      uncheckedSub 3 1 = .ok 2 ∧
      trySplitAt .refMut ⟨0, [1, 2, 3]⟩ 2 = .ok (.ok (⟨0, [1, 2]⟩, ⟨2, [3]⟩)) :=
  ⟨rfl, (defensive_branches_dead 18446744073709551615 .refMut ⟨0, [1, 2, 3]⟩).2.2.1
    (.forType ⟨2, 2, ⟨1, rfl⟩⟩) ⟨⟨0, [1, 2]⟩, .unit⟩ ⟨2, [3]⟩ rfl⟩

end Zerocopy
