import Zerocopy.ByteSlice

/-! The cast engine, which turns a byte slice into a pointer to a `T`, modelled from the spec. -/

namespace Zerocopy

/-! ### Errors -/

/-- `ConvertError`: an alignment, a size or a validity error, each carrying the source it was
raised on. -/
inductive ConvertError (A S V : Type)
  | alignment (src : A)
  | size (src : S)
  | validity (src : V)
deriving DecidableEq, Repr

/-- `CastError`: the error of a cast to a type whose every bit pattern is valid. -/
abbrev CastError (Src : Type) := ConvertError Src Src Empty

/-- `TryCastError`: the error of a cast that also checks bit validity. -/
abbrev TryCastError (Src : Type) := ConvertError Src Src Src

namespace ConvertError

variable {A B : Type}

/-- `with_src` and `map_src` of a `CastError`: the same error, about another source. -/
def mapSrc (f : A → B) : CastError A → CastError B
  | .alignment src => .alignment (f src)
  | .size src => .size (f src)
  | .validity impossible => nomatch impossible

/-- A `CastError` as a `TryCastError`, through `From`. -/
def toTry : CastError A → TryCastError A
  | .alignment src => .alignment src
  | .size src => .size src
  | .validity impossible => nomatch impossible

/-- A cast error never becomes a validity error. -/
@[simp] theorem toTry_ne_validity (e : CastError A) (src : A) : e.toTry ≠ .validity src := by
  rcases e with _ | _ | impossible
  · simp [toTry]
  · simp [toTry]
  · exact nomatch impossible

/-- The source an error carries back to the caller. -/
def src : TryCastError A → A
  | .alignment src | .size src | .validity src => src

/-- An error re-sourced to one fixed buffer carries that buffer back. -/
@[simp] theorem src_toTry_mapSrc (f : A → B) (e : CastError A) (src : B)
    (same : ∀ a, f a = src) : (e.mapSrc f).toTry.src = src := by
  cases e with
  | alignment => exact same _
  | size => exact same _
  | validity impossible => exact nomatch impossible

end ConvertError

/-- How a conversion ended, forgetting what it carries: success, or the kind of its error. -/
inductive Outcome
  | ok
  | size
  | alignment
  | validity
deriving DecidableEq, Repr

/-- The kind of a conversion error. -/
def Outcome.ofError {A S V : Type} : ConvertError A S V → Outcome
  | .size _ => .size
  | .alignment _ => .alignment
  | .validity _ => .validity

/-- The outcome of a conversion's result. -/
def Outcome.of {A S V α : Type} : Except (ConvertError A S V) α → Outcome
  | .ok _ => .ok
  | .error e => .ofError e

namespace Outcome

variable {A S V α : Type}

/-- A success is the `ok` verdict, and an error the verdict of its kind. -/
@[simp] theorem of_ok (a : α) : Outcome.of (.ok a : Except (ConvertError A S V) α) = .ok := rfl

@[simp] theorem of_error (e : ConvertError A S V) :
    Outcome.of (.error e : Except (ConvertError A S V) α) = .ofError e := rfl

@[simp] theorem ofError_size (src : S) : ofError (.size src : ConvertError A S V) = .size := rfl

@[simp] theorem ofError_alignment (src : A) :
    ofError (.alignment src : ConvertError A S V) = .alignment := rfl

@[simp] theorem ofError_validity (src : V) :
    ofError (.validity src : ConvertError A S V) = .validity := rfl

/-- Re-sourcing an error keeps its kind. -/
@[simp] theorem ofError_mapSrc {Src Src' : Type} (f : Src → Src') (e : CastError Src) :
    ofError (e.mapSrc f) = ofError e := by
  rcases e with _ | _ | impossible
  · rfl
  · rfl
  · exact nomatch impossible

/-- Mapping a success keeps the outcome. -/
@[simp] theorem of_map {β : Type} (f : α → β) (x : Except (ConvertError A S V) α) :
    Outcome.of (x.map f) = Outcome.of x := by
  rcases x with (_ | _ | _) | _ <;> rfl

/-- A conversion ends well exactly when it succeeds. -/
theorem of_eq_ok {x : Except (ConvertError A S V) α} : Outcome.of x = .ok ↔ ∃ a, x = .ok a := by
  rcases x with (_ | _ | _) | a <;> simp [Outcome.of, ofError]

end Outcome

/-- The verdict of a size check followed by an alignment check. -/
def Outcome.sizeThenAlign (fits aligned : Prop) [Decidable fits] [Decidable aligned] : Outcome :=
  if ¬fits then .size else if ¬aligned then .alignment else .ok

/-- Where the alignment check passes, the verdict is never an alignment error. -/
theorem Outcome.sizeThenAlign_ne_alignment {fits aligned : Prop} [Decidable fits]
    [Decidable aligned] (passes : aligned) : Outcome.sizeThenAlign fits aligned ≠ .alignment := by
  unfold sizeThenAlign
  split_ifs <;> simp_all

/-! ### Typed pointers -/

/-- A `Ptr<T>`, and the `&T` made from it: the bytes it covers, and its pointer metadata. -/
structure Ptr where
  region : Slice
  meta : PointerMetadata
deriving DecidableEq, Repr

/-- `CastType`: whether the `T` is cast from the front or from the back of the bytes. -/
inductive CastType
  | Prefix
  | Suffix
deriving DecidableEq, Repr

namespace CastType

/-- The bytes a cast of `size` bytes takes: the first `size` bytes, or the last. -/
def candidate : CastType → Slice → Nat → Slice
  | .Prefix, src, size => src.take size
  | .Suffix, src, size => src.drop (src.len - size)

/-- The bytes a cast of `size` bytes leaves over, before or after the candidate. -/
def remainder : CastType → Slice → Nat → Slice
  | .Prefix, src, size => src.drop size
  | .Suffix, src, size => src.take (src.len - size)

/-- A candidate that fits is exactly `size` bytes long. -/
@[simp] theorem len_candidate (castType : CastType) {src : Slice} {size : Nat}
    (fits : size ≤ src.len) : (castType.candidate src size).len = size := by
  cases castType <;> simp [candidate] <;> omega

end CastType

/-! ### The engine -/

/-- Modelled from the spec: `util::aligned_to`, whose module is not in the source. Whether a
slice starts at a multiple of the alignment. -/
def alignedTo (bytes : Slice) (align : Nat) : Prop := bytes.addr % align = 0

/-- Alignment is decided on the address's remainder. -/
instance (bytes : Slice) (align : Nat) : Decidable (alignedTo bytes align) :=
  inferInstanceAs (Decidable (bytes.addr % align = 0))

/-- Every slice is aligned to one. -/
@[simp] theorem alignedTo_one (bytes : Slice) : alignedTo bytes 1 := Nat.mod_one _

/-- Modelled from the spec: step 1 of `Ptr::try_cast_into`, not in the source. The candidate's
metadata and size: the caller's count, a sized type's size, or the most elements that fit. -/
def requiredSize (usizeMax : Nat) (T : DstLayout) (len : Nat) :
    Option PointerMetadata → Option (PointerMetadata × Nat)
  | some meta => (meta.sizeForMetadata usizeMax T).map (meta, ·)
  | none =>
    match T.sizeInfo with
    | .sized size => some (.unit, size)
    | .sliceDst trailing =>
      let room := len / T.align * T.align
      if room < trailing.offset then none
      else
        let elems := (room - trailing.offset) / trailing.elemSize
        some (.count elems, T.sizeForElems trailing elems)

/-- Modelled from the spec: `Ptr::try_cast_into`, not in the source. A prefix or suffix
candidate, after a size and then an alignment check, whose errors carry the whole buffer. -/
def tryCastInto (usizeMax : Nat) (T : DstLayout) (src : Slice) (castType : CastType)
    (meta : Option PointerMetadata) : Except (CastError Slice) (Ptr × Slice) :=
  match requiredSize usizeMax T src.len meta with
  | none => .error (.size src)
  | some (meta, size) =>
    if src.len < size then .error (.size src)
    else if (castType.candidate src size).addr % T.align = 0 then
      .ok (⟨castType.candidate src size, meta⟩, castType.remainder src size)
    else .error (.alignment src)

/--
Modelled from the spec: `Ptr::try_cast_into_no_leftover`, the exact cast. The buffer must have
exactly the size the candidate needs, and then be aligned.
-/
def tryCastIntoNoLeftover (usizeMax : Nat) (T : DstLayout) (src : Slice)
    (meta : Option PointerMetadata) : Except (CastError Slice) Ptr :=
  match requiredSize usizeMax T src.len meta with
  | none => .error (.size src)
  | some (meta, size) =>
    if src.len ≠ size then .error (.size src)
    else if src.addr % T.align = 0 then .ok ⟨src, meta⟩
    else .error (.alignment src)

/-! ### What the engine guarantees -/

section Engine

variable {usizeMax : Nat} {T : DstLayout} {src : Slice} {castType : CastType}
  {meta : Option PointerMetadata}

/-- Every size the engine asks of a candidate is a size some value of `T` has. -/
theorem requiredSize_validSize {len size : Nat} {meta' : PointerMetadata}
    (required : requiredSize usizeMax T len meta = some (meta', size)) : T.ValidSize size := by
  unfold DstLayout.ValidSize
  cases info : T.sizeInfo with
  | sized =>
    -- A sized type is asked its size, whichever metadata the caller gives.
    rcases meta with _ | _ | elems <;>
      simp_all [requiredSize, PointerMetadata.sizeForMetadata]
  | sliceDst trailing =>
    rcases meta with _ | _ | elems
    · -- Without a count, the size is that of the inferred count.
      simp only [requiredSize, info] at required
      split at required
      · simp at required
      · simp only [Option.some.injEq, Prod.mk.injEq] at required
        exact ⟨_, required.2.symm⟩
    · simp [requiredSize, PointerMetadata.sizeForMetadata, info] at required
    · -- With a count, the size is that count's exact size.
      simp only [requiredSize, sizeForMetadata_count_eq usizeMax T info] at required
      split at required <;> simp_all
      exact ⟨elems, required.2.symm⟩

/-- Inferred from the size of `n` elements, the count is the one that fills that size, the most
elements that fit in it. -/
theorem requiredSize_fill (usizeMax : Nat) {trailing : TrailingSliceLayout}
    (dst : T.sizeInfo = .sliceDst trailing) (n : Nat) :
    requiredSize usizeMax T (T.sizeForElems trailing n) none =
      let filled := (T.sizeForElems trailing n - trailing.offset) / trailing.elemSize
      some (.count filled, T.sizeForElems trailing filled) := by
  -- The size is aligned, so all of it is room for the offset and the elements.
  have room : T.sizeForElems trailing n / T.align * T.align = T.sizeForElems trailing n :=
    Nat.div_mul_cancel (Nat.dvd_of_mod_eq_zero (T.sizeForElems_mod trailing n))
  have covers : trailing.offset ≤ T.sizeForElems trailing n :=
    Nat.le_trans (Nat.le_add_right _ _) (le_roundUp T.align_pos)
  simp only [requiredSize, dst, room]
  exact if_neg (Nat.not_lt.mpr covers)

/-- Inferred from the size of `n` elements, the count is the one that fills that size: the
largest count of that size, not necessarily `n`. -/
theorem requiredSize_sizeForElems (usizeMax : Nat) {trailing : TrailingSliceLayout}
    (dst : T.sizeInfo = .sliceDst trailing) (positive : 0 < trailing.elemSize) (n : Nat) :
    requiredSize usizeMax T (T.sizeForElems trailing n) none =
      some (.count ((T.sizeForElems trailing n - trailing.offset) / trailing.elemSize),
        T.sizeForElems trailing n) := by
  simp only [requiredSize_fill usizeMax dst n, sizeForElems_fill positive n]

/-- Inferred from a buffer whose length is a size of `T`, the size the engine asks is that
length: the count fills the buffer exactly. -/
theorem requiredSize_none_of_validSize (usizeMax : Nat) {len : Nat} (valid : T.ValidSize len) :
    ∃ meta', requiredSize usizeMax T len none = some (meta', len) := by
  unfold DstLayout.ValidSize at valid
  cases info : T.sizeInfo with
  | sized => simp only [info] at valid; exact ⟨.unit, by simp [requiredSize, info, valid]⟩
  | sliceDst trailing =>
    simp only [info] at valid
    obtain ⟨elems, rfl⟩ := valid
    -- The filling count has the size of `elems` elements; zero-sized elements add nothing.
    have same : T.sizeForElems trailing
        ((T.sizeForElems trailing elems - trailing.offset) / trailing.elemSize) =
          T.sizeForElems trailing elems := by
      rcases Nat.eq_zero_or_pos trailing.elemSize with zero | positive
      · simp [DstLayout.sizeForElems, zero]
      · exact sizeForElems_fill positive elems
    exact ⟨_, by simp only [requiredSize_fill usizeMax info elems, same]; rfl⟩

/-- A prefix or suffix cast succeeds exactly when the size is known, fits, and the candidate is
aligned; it then returns the candidate and the remainder. -/
theorem tryCastInto_eq_ok {p : Ptr} {rest : Slice} :
    tryCastInto usizeMax T src castType meta = .ok (p, rest) ↔
      ∃ size, requiredSize usizeMax T src.len meta = some (p.meta, size) ∧ size ≤ src.len ∧
        (castType.candidate src size).addr % T.align = 0 ∧
        p.region = castType.candidate src size ∧ rest = castType.remainder src size := by
  -- Follow the engine's checks: each one that fails contradicts the right-hand side.
  unfold tryCastInto
  split <;> rename_i required
  · simp [required]
  · rename_i meta' size
    simp only [required, Option.some.injEq, Prod.mk.injEq]
    by_cases short : src.len < size
    · simp only [short, if_true, reduceCtorEq, false_iff, not_exists, not_and]
      intro _ _ _ long; omega
    · by_cases aligned : (castType.candidate src size).addr % T.align = 0
      · cases p
        simp only [short, aligned, if_false, if_true, Except.ok.injEq, Prod.mk.injEq, Ptr.mk.injEq]
        constructor
        · rintro ⟨⟨rfl, rfl⟩, rfl⟩; exact ⟨size, ⟨rfl, rfl⟩, by omega, aligned, rfl, rfl⟩
        · rintro ⟨_, ⟨rfl, rfl⟩, _, _, rfl, rfl⟩; exact ⟨⟨rfl, rfl⟩, rfl⟩
      · simp only [short, aligned, if_false, reduceCtorEq, false_iff, not_exists, not_and]
        rintro _ ⟨rfl, rfl⟩ _ misaligned; exact absurd misaligned aligned

/-- An exact cast succeeds exactly when the size is known, equals the buffer's length, and the
buffer is aligned; the pointer then covers the whole buffer. -/
theorem tryCastIntoNoLeftover_eq_ok {p : Ptr} :
    tryCastIntoNoLeftover usizeMax T src meta = .ok p ↔
      requiredSize usizeMax T src.len meta = some (p.meta, src.len) ∧ src.addr % T.align = 0 ∧
        p.region = src := by
  -- Follow the engine's checks: each one that fails contradicts the right-hand side.
  unfold tryCastIntoNoLeftover
  split <;> rename_i required
  · simp [required]
  · rename_i meta' size
    simp only [required, Option.some.injEq, Prod.mk.injEq]
    by_cases exact : src.len = size
    · subst exact
      cases p
      by_cases aligned : src.addr % T.align = 0 <;>
        simp [aligned, eq_comm, and_comm]
    · simp only [exact, if_true, ne_eq, not_false_eq_true, reduceCtorEq, false_iff, not_and]
      intro same; exact absurd same.2.symm exact

/-- Every engine error carries the whole buffer back. -/
theorem tryCastInto_error_src {e : CastError Slice}
    (failed : tryCastInto usizeMax T src castType meta = .error e) : e.toTry.src = src := by
  -- Both error branches are built from `src` itself.
  unfold tryCastInto at failed
  split at failed
  · cases failed; rfl
  · split_ifs at failed <;> cases failed <;> rfl

/-- Every error of the exact cast carries the whole buffer back. -/
theorem tryCastIntoNoLeftover_error_src {e : CastError Slice}
    (failed : tryCastIntoNoLeftover usizeMax T src meta = .error e) : e.toTry.src = src := by
  -- Both error branches are built from `src` itself.
  unfold tryCastIntoNoLeftover at failed
  split at failed
  · cases failed; rfl
  · split_ifs at failed <;> cases failed <;> rfl

/-- What a prefix or suffix cast points at is aligned for `T` and as long as some value of it. -/
theorem tryCastInto_ok_fits {p : Ptr} {rest : Slice}
    (cast : tryCastInto usizeMax T src castType meta = .ok (p, rest)) :
    alignedTo p.region T.align ∧ T.ValidSize p.region.len := by
  obtain ⟨size, required, fits, aligned, region, -⟩ := tryCastInto_eq_ok.mp cast
  rw [region, castType.len_candidate fits]
  exact ⟨aligned, requiredSize_validSize required⟩

/-- What an exact cast points at is aligned for `T` and as long as some value of it. -/
theorem tryCastIntoNoLeftover_ok_fits {p : Ptr}
    (cast : tryCastIntoNoLeftover usizeMax T src meta = .ok p) :
    alignedTo p.region T.align ∧ T.ValidSize p.region.len := by
  obtain ⟨required, aligned, rfl⟩ := tryCastIntoNoLeftover_eq_ok.mp cast
  exact ⟨aligned, requiredSize_validSize required⟩

/-- The exact cast, without a count, succeeds on every aligned buffer whose length is a size of
`T`, and points at the whole buffer. -/
theorem tryCastIntoNoLeftover_of_fits (usizeMax : Nat) (aligned : alignedTo src T.align)
    (valid : T.ValidSize src.len) :
    ∃ meta', tryCastIntoNoLeftover usizeMax T src none = .ok ⟨src, meta'⟩ := by
  obtain ⟨meta', required⟩ := requiredSize_none_of_validSize usizeMax valid
  exact ⟨meta', tryCastIntoNoLeftover_eq_ok.mpr ⟨required, aligned, rfl⟩⟩

/-- The verdict of a prefix or suffix cast: a size error unless the size is known and fits, then
an alignment error unless the candidate is aligned. -/
theorem outcome_tryCastInto :
    Outcome.of (tryCastInto usizeMax T src castType meta) =
      match requiredSize usizeMax T src.len meta with
      | none => .size
      | some (_, size) =>
        .sizeThenAlign (size ≤ src.len) ((castType.candidate src size).addr % T.align = 0) := by
  -- Each branch of the engine is the matching branch of the verdict.
  unfold tryCastInto
  split
  · rfl
  · rename_i size _
    by_cases short : src.len < size <;>
      by_cases aligned : (castType.candidate src size).addr % T.align = 0 <;>
      simp [short, aligned, Outcome.of, Outcome.sizeThenAlign, Nat.not_le.mpr, Nat.le_of_not_lt]

/-- The verdict of the exact cast: a size error unless the size is known and is the buffer's
length, then an alignment error unless the buffer is aligned. -/
theorem outcome_tryCastIntoNoLeftover :
    Outcome.of (tryCastIntoNoLeftover usizeMax T src meta) =
      match requiredSize usizeMax T src.len meta with
      | none => .size
      | some (_, size) => .sizeThenAlign (src.len = size) (src.addr % T.align = 0) := by
  -- Each branch of the engine is the matching branch of the verdict.
  unfold tryCastIntoNoLeftover
  split
  · rfl
  · rename_i size _
    by_cases exact : src.len = size <;> by_cases aligned : src.addr % T.align = 0 <;>
      simp [exact, aligned, Outcome.of, Outcome.sizeThenAlign]

/-- A target of alignment 1 never fails the engine's alignment check. -/
theorem tryCastInto_ne_alignment (unaligned : T.align = 1) :
    Outcome.of (tryCastInto usizeMax T src castType meta) ≠ .alignment := by
  rw [outcome_tryCastInto]
  split
  · simp
  · exact Outcome.sizeThenAlign_ne_alignment (unaligned ▸ Nat.mod_one _)

/-- The exact cast to a target of alignment 1 never fails the alignment check either. -/
theorem tryCastIntoNoLeftover_ne_alignment (unaligned : T.align = 1) :
    Outcome.of (tryCastIntoNoLeftover usizeMax T src meta) ≠ .alignment := by
  rw [outcome_tryCastIntoNoLeftover]
  split
  · simp
  · exact Outcome.sizeThenAlign_ne_alignment (unaligned ▸ Nat.mod_one _)

end Engine

/-- A prefix cast's candidate and remainder tile the buffer in that order, a suffix cast's in the
other. -/
theorem CastType.isSplit (castType : CastType) {src : Slice} {size : Nat} (fits : size ≤ src.len) :
    match castType with
    | .Prefix => src.IsSplit (castType.candidate src size) (castType.remainder src size)
    | .Suffix => src.IsSplit (castType.remainder src size) (castType.candidate src size) := by
  cases castType
  · exact src.isSplit_take_drop fits
  · have split := src.isSplit_take_drop (by omega : src.len - size ≤ src.len)
    simpa [candidate, remainder] using split

section Split

variable {usizeMax : Nat} {T : DstLayout} {src : Slice} {meta : Option PointerMetadata} {p : Ptr}
  {rest : Slice}

/-- The engine's prefix cast tiles the buffer with its candidate and then its remainder. -/
theorem tryCastInto_prefix_isSplit
    (cast : tryCastInto usizeMax T src .Prefix meta = .ok (p, rest)) :
    src.IsSplit p.region rest := by
  obtain ⟨size, -, fits, -, region, remainder⟩ := tryCastInto_eq_ok.mp cast
  rw [region, remainder]
  exact CastType.Prefix.isSplit fits

/-- The engine's suffix cast tiles the buffer with its remainder and then its candidate. -/
theorem tryCastInto_suffix_isSplit
    (cast : tryCastInto usizeMax T src .Suffix meta = .ok (p, rest)) :
    src.IsSplit rest p.region := by
  obtain ⟨size, -, fits, -, region, remainder⟩ := tryCastInto_eq_ok.mp cast
  rw [region, remainder]
  exact CastType.Suffix.isSplit fits

end Split

end Zerocopy
