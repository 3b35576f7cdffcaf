import Zerocopy.Slices

/-! Layouts of composite types: `DstLayout`'s combinators, which build a `repr(C)` struct's layout
from its fields' layouts, against a direct placement of the fields. -/

namespace Zerocopy

/-! ### Powers of two -/

/-- An alignment named by a `repr(align)` or `repr(packed)` attribute: a power of two. -/
abbrev Alignment := {align : Nat // align.isPowerOfTwo}

section PowersOfTwo

variable {a b : Nat}

/-- The smaller of two powers of two is one of them. -/
theorem isPowerOfTwo_min (left : a.isPowerOfTwo) (right : b.isPowerOfTwo) :
    (min a b).isPowerOfTwo :=
  by rw [Nat.min_def]; split <;> assumption

/-- So is the larger. -/
theorem isPowerOfTwo_max (left : a.isPowerOfTwo) (right : b.isPowerOfTwo) :
    (max a b).isPowerOfTwo :=
  by rw [Nat.max_def]; split <;> assumption

/-- A power of two divides every power of two at least as large. -/
theorem dvd_of_isPowerOfTwo_le (left : a.isPowerOfTwo) (right : b.isPowerOfTwo) (below : a ≤ b) :
    a ∣ b := by
  -- The exponents are ordered as the powers are.
  obtain ⟨i, rfl⟩ := left
  obtain ⟨j, rfl⟩ := right
  exact Nat.pow_dvd_pow 2 ((Nat.pow_le_pow_iff_right (by decide)).mp below)

end PowersOfTwo

/-! ### The combinators -/

namespace DstLayout

/-- Whether a layout is sized, rather than a slice DST. -/
def isSized (T : DstLayout) : Bool :=
  match T.sizeInfo with
  | .sized _ => true
  | .sliceDst _ => false

/-- The bytes a value of `T` with `elems` trailing elements covers before its trailing padding:
a sized type's size, or a slice DST's offset and elements. -/
def unpaddedSize (T : DstLayout) (elems : Nat) : Nat :=
  match T.sizeInfo with
  | .sized size => size
  | .sliceDst trailing => trailing.offset + trailing.elemSize * elems

/-- The size of a value of `T` with `elems` trailing elements: a sized type's size, or a slice
DST's size with its trailing padding. -/
def sizeWith (T : DstLayout) (elems : Nat) : Nat :=
  match T.sizeInfo with
  | .sized size => size
  | .sliceDst trailing => T.sizeForElems trailing elems

/-- Modelled from the spec: `DstLayout::new_zst`, not in the source. A struct with no fields:
size zero, aligned to its `repr(align)` or else to one. -/
def newZst : Option Alignment → DstLayout
  | some align => ⟨align.val, .sized 0, align.property⟩
  | none => ⟨1, .sized 0, ⟨0, rfl⟩⟩

/-- The alignment a field is placed at: its own, capped by the struct's `repr(packed)`. -/
def fieldAlign (field : DstLayout) : Option Alignment → Nat
  | some maxAlign => min field.align maxAlign.val
  | none => field.align

/-- A capped alignment is still a power of two. -/
theorem fieldAlign_isPowerOfTwo (field : DstLayout) (packed : Option Alignment) :
    (field.fieldAlign packed).isPowerOfTwo := by
  cases packed with
  | none => exact field.align_isPowerOfTwo
  | some maxAlign => exact isPowerOfTwo_min field.align_isPowerOfTwo maxAlign.property

/-- Modelled from the spec: `DstLayout::extend`, not in the source. `field` placed after a sized
`base` at its `repr(packed)`-capped alignment; extending a slice DST panics. -/
def extend (base field : DstLayout) (packed : Option Alignment) : Except Fault DstLayout :=
  match base.sizeInfo with
  | .sliceDst _ => .error (.panic "DstLayout::extend: the base is a slice DST")
  | .sized size =>
    let offset := size + paddingNeededFor size (field.fieldAlign packed)
    .ok ⟨max base.align (field.fieldAlign packed),
      match field.sizeInfo with
      | .sized fieldSize => .sized (offset + fieldSize)
      | .sliceDst trailing => .sliceDst ⟨offset + trailing.offset, trailing.elemSize⟩,
      isPowerOfTwo_max base.align_isPowerOfTwo (field.fieldAlign_isPowerOfTwo packed)⟩

/-- Modelled from the spec: `DstLayout::pad_to_align`. A sized layout padded to a multiple of its
alignment; a slice DST unchanged, since its padding depends on the count. -/
def padToAlign (T : DstLayout) : DstLayout :=
  match T.sizeInfo with
  | .sized size => ⟨T.align, .sized (size + paddingNeededFor size T.align), T.align_isPowerOfTwo⟩
  | .sliceDst _ => T

/-- Modelled from the tests of `derive(KnownLayout)`: a `repr(C)` struct's layout, its fields
appended by `extend` to `new_zst`, then padded to its alignment. -/
def reprC (reprAlign packed : Option Alignment) (fields : List DstLayout) :
    Except Fault DstLayout :=
  padToAlign <$> fields.foldlM (fun base field => base.extend field packed) (newZst reprAlign)

end DstLayout

/-! ### Direct placement -/

/-- The `repr(C)` placement rule stated directly: each field at the first offset past the ones
before it that its capped alignment divides; the alignment and the end of the last field. -/
def placeFields (packed : Option Alignment) (elems : Nat) :
    Nat × Nat → List DstLayout → Nat × Nat
  | state, [] => state
  | state, field :: rest =>
    placeFields packed elems (max state.1 (field.fieldAlign packed),
      roundUp state.2 (field.fieldAlign packed) + field.unpaddedSize elems) rest

/-- Placement never lowers the alignment, and ends at least as aligned as each field's capped
alignment. -/
theorem le_placeFields_align (packed : Option Alignment) (elems : Nat) :
    ∀ (fields : List DstLayout) (state : Nat × Nat),
      state.1 ≤ (placeFields packed elems state fields).1 ∧
        ∀ field ∈ fields, field.fieldAlign packed ≤ (placeFields packed elems state fields).1
  | [], _ => ⟨Nat.le_refl _, by simp⟩
  | field :: rest, state => by
    -- The next field raises the alignment to its own, and the rest never lowers it.
    obtain ⟨grows, covers⟩ := le_placeFields_align packed elems rest
      (max state.1 (field.fieldAlign packed),
        roundUp state.2 (field.fieldAlign packed) + field.unpaddedSize elems)
    simp only [placeFields, List.mem_cons, forall_eq_or_imp]
    exact ⟨le_trans (le_max_left _ _) grows, le_trans (le_max_right _ _) grows, covers⟩

namespace DstLayout

/-! ### One step: `extend` -/

/-- Extending a slice DST panics. -/
theorem extend_sliceDst {base : DstLayout} {trailing : TrailingSliceLayout}
    (dst : base.sizeInfo = .sliceDst trailing) (field : DstLayout) (packed : Option Alignment) :
    base.extend field packed = .error (.panic "DstLayout::extend: the base is a slice DST") := by
  simp [extend, dst]

/-- Extending a sized base gives the larger alignment, is sized exactly when the field is, and
places the field at the base's size rounded up to the field's capped alignment. -/
theorem extend_sized {base : DstLayout} {size : Nat} (sized : base.sizeInfo = .sized size)
    (field : DstLayout) (packed : Option Alignment) :
    ∃ T, base.extend field packed = .ok T ∧ T.align = max base.align (field.fieldAlign packed) ∧
      T.isSized = field.isSized ∧
      ∀ elems, T.unpaddedSize elems =
        roundUp size (field.fieldAlign packed) + field.unpaddedSize elems := by
  -- The field starts where the base's padding ends: the base's size rounded up.
  have start := add_paddingNeededFor (n := size)
    (Nat.pos_of_isPowerOfTwo (field.fieldAlign_isPowerOfTwo packed))
  simp only [extend, sized]
  refine ⟨_, rfl, rfl, ?_, fun elems => ?_⟩ <;> cases info : field.sizeInfo <;>
    simp [isSized, unpaddedSize, info, start, Nat.add_assoc]

/-! ### A whole struct -/

section Fold

variable (packed : Option Alignment)

/-- Appending fields one by one computes their direct placement, from the base's alignment and
bytes. -/
theorem foldlM_extend_place (elems : Nat) : ∀ {fields : List DstLayout} {base T : DstLayout},
    fields.foldlM (fun base field => base.extend field packed) base = .ok T →
      (T.align, T.unpaddedSize elems) =
        placeFields packed elems (base.align, base.unpaddedSize elems) fields
  | [], _, _, built => by
    -- No field is appended: the base comes back.
    cases built; rfl
  | field :: rest, base, T, built => by
    -- One field is placed after the base, and the rest after the extended base.
    cases info : base.sizeInfo with
    | sliceDst trailing => simp [extend_sliceDst info, bind, Except.bind] at built
    | sized size =>
      obtain ⟨next, extended, align, -, unpadded⟩ := extend_sized info field packed
      simp only [List.foldlM_cons, extended, bind, Except.bind] at built
      rw [foldlM_extend_place elems built, align, unpadded]
      simp [placeFields, unpaddedSize, info]

/-- Whether `P` holds of every entry but the last depends on the first entry only through
whether `P` holds of it. -/
theorem forall_dropLast_cons_congr {α : Type} {P : α → Prop} {a b : α} (same : P a ↔ P b) :
    ∀ rest : List α, (∀ x ∈ (a :: rest).dropLast, P x) ↔ ∀ x ∈ (b :: rest).dropLast, P x
  | [] => Iff.rfl
  | _ :: _ => by simp only [List.dropLast_cons₂, List.forall_mem_cons, same]

/-- Appending fields one by one succeeds exactly when every layout that gets extended is sized:
the base, and every field but the last. -/
theorem foldlM_extend_ok_iff : ∀ (fields : List DstLayout) (base : DstLayout),
    (∃ T, fields.foldlM (fun base field => base.extend field packed) base = .ok T) ↔
      ∀ layout ∈ (base :: fields).dropLast, layout.isSized
  | [], base => by simp [pure, Except.pure]
  | field :: rest, base => by
    cases info : base.sizeInfo with
    | sliceDst trailing =>
      -- Extending the slice DST base panics.
      simp [extend_sliceDst info, bind, Except.bind, isSized, info]
    | sized size =>
      -- The extended base is sized exactly when the field is, and the rest start from it.
      obtain ⟨next, extended, -, sizedness, -⟩ := extend_sized info field packed
      simp only [List.foldlM_cons, extended, bind, Except.bind]
      rw [foldlM_extend_ok_iff rest next,
        forall_dropLast_cons_congr (P := fun layout => layout.isSized = true)
          (show next.isSized = true ↔ field.isSized = true by rw [sizedness]) rest,
        List.dropLast_cons₂, List.forall_mem_cons]
      simp [isSized, info]

end Fold

/-- Padding keeps the alignment. -/
@[simp] theorem padToAlign_align (T : DstLayout) : T.padToAlign.align = T.align := by
  unfold padToAlign; split <;> rfl

/-- A padded layout's size, for every count of trailing elements, is its unpadded bytes rounded
up to its alignment. -/
theorem sizeWith_padToAlign (T : DstLayout) (elems : Nat) :
    T.padToAlign.sizeWith elems = roundUp (T.unpaddedSize elems) T.align := by
  -- A sized layout is padded now; a slice DST is padded once its element count is known.
  cases info : T.sizeInfo with
  | sized size => simp [padToAlign, sizeWith, unpaddedSize, info, add_paddingNeededFor T.align_pos]
  | sliceDst trailing => simp [padToAlign, sizeWith, unpaddedSize, info, sizeForElems]

/-- Padding a padded layout changes nothing. -/
theorem padToAlign_padToAlign (T : DstLayout) : T.padToAlign.padToAlign = T.padToAlign := by
  -- A padded size is a multiple of the alignment, so it needs no more padding.
  cases info : T.sizeInfo with
  | sliceDst trailing => simp [padToAlign, info]
  | sized size =>
    simp [padToAlign, info, paddingNeededFor_of_mod (add_paddingNeededFor_mod T.align_pos)]

/-- The sizes some value of `T` has are its sizes for some count of trailing elements. -/
theorem validSize_iff_sizeWith (T : DstLayout) (len : Nat) :
    T.ValidSize len ↔ ∃ elems, len = T.sizeWith elems := by
  unfold ValidSize sizeWith
  cases T.sizeInfo with
  | sized size => exact ⟨fun same => ⟨0, same⟩, fun ⟨_, same⟩ => same⟩
  | sliceDst trailing => rfl

/-- A `repr(C)` struct's layout is the padded direct placement of its fields, for every count of
trailing elements. -/
theorem reprC_place {reprAlign packed : Option Alignment} {fields : List DstLayout}
    {T : DstLayout} (built : reprC reprAlign packed fields = .ok T) (elems : Nat) :
    T.align = (placeFields packed elems ((newZst reprAlign).align, 0) fields).1 ∧
      T.sizeWith elems = roundUp (placeFields packed elems ((newZst reprAlign).align, 0) fields).2
        (placeFields packed elems ((newZst reprAlign).align, 0) fields).1 := by
  -- The fold places the fields; padding keeps the alignment and rounds the end up.
  unfold reprC at built
  rcases fold : fields.foldlM (fun base field => base.extend field packed) (newZst reprAlign)
    with _ | unpadded
  · simp [fold, Functor.map, Except.map] at built
  · simp only [fold, Functor.map, Except.map, Except.ok.injEq] at built
    subst built
    have placed := foldlM_extend_place packed elems fold
    have empty : (newZst reprAlign).unpaddedSize elems = 0 := by cases reprAlign <;> rfl
    rw [empty] at placed
    rw [← placed]
    exact ⟨padToAlign_align unpadded, sizeWith_padToAlign unpadded elems⟩

end DstLayout

/-! ### What the combinators guarantee -/

/-- `DstLayout::extend` as its Kani harnesses state it: the field at the least offset past the
base that its capped alignment divides, and a result aligned to both alignments. -/
theorem extend_placement (base field : DstLayout) (packed : Option Alignment) :
    (∀ trailing, base.sizeInfo = .sliceDst trailing →
      ∃ message, base.extend field packed = .error (.panic message)) ∧
    ∀ size, base.sizeInfo = .sized size →
      let offset := size + paddingNeededFor size (field.fieldAlign packed)
      ∃ T, base.extend field packed = .ok T ∧
        offset % field.fieldAlign packed = 0 ∧
        (∀ o, size ≤ o → o % field.fieldAlign packed = 0 → offset ≤ o) ∧
        T.align = max base.align (field.fieldAlign packed) ∧
        base.align ∣ T.align ∧ field.fieldAlign packed ∣ T.align ∧
        T.sizeInfo = match field.sizeInfo with
          | .sized fieldSize => .sized (offset + fieldSize)
          | .sliceDst trailing => .sliceDst ⟨offset + trailing.offset, trailing.elemSize⟩ := by
  refine ⟨fun _ dst => ⟨_, DstLayout.extend_sliceDst dst field packed⟩, fun size sized => ?_⟩
  -- The padding is the least that aligns the offset, and both alignments are powers of two no
  -- larger than the result's.
  have positive := Nat.pos_of_isPowerOfTwo (field.fieldAlign_isPowerOfTwo packed)
  have larger := isPowerOfTwo_max base.align_isPowerOfTwo (field.fieldAlign_isPowerOfTwo packed)
  simp only [DstLayout.extend, sized]
  refine ⟨_, rfl, add_paddingNeededFor_mod positive, fun o above aligned => ?_, rfl,
    dvd_of_isPowerOfTwo_le base.align_isPowerOfTwo larger (le_max_left _ _),
    dvd_of_isPowerOfTwo_le (field.fieldAlign_isPowerOfTwo packed) larger (le_max_right _ _), rfl⟩
  rw [add_paddingNeededFor positive]
  exact roundUp_le positive above aligned

/-- `DstLayout::pad_to_align` as its Kani harness states it: a sized size grows to the least
multiple of the alignment, a slice DST is unchanged, and padding twice pads once. -/
theorem padToAlign_spec (T : DstLayout) :
    T.padToAlign.align = T.align ∧
    (∀ size, T.sizeInfo = .sized size →
      T.padToAlign.sizeInfo = .sized (size + paddingNeededFor size T.align) ∧
        (size + paddingNeededFor size T.align) % T.align = 0 ∧
        ∀ m, size ≤ m → m % T.align = 0 → size + paddingNeededFor size T.align ≤ m) ∧
    (∀ trailing, T.sizeInfo = .sliceDst trailing → T.padToAlign = T) ∧
    T.padToAlign.padToAlign = T.padToAlign := by
  refine ⟨T.padToAlign_align, fun size sized => ⟨by simp [DstLayout.padToAlign, sized],
    add_paddingNeededFor_mod T.align_pos, fun m above aligned => ?_⟩,
    fun _ dst => by simp [DstLayout.padToAlign, dst], T.padToAlign_padToAlign⟩
  -- The padded size is the size rounded up, the least aligned length at or above it.
  rw [add_paddingNeededFor T.align_pos]
  exact roundUp_le T.align_pos above aligned

/-- Building a `repr(C)` struct's layout panics exactly when a field other than the last is a slice
DST: a dynamically sized field may only be the last one. -/
theorem reprC_ok_iff (reprAlign packed : Option Alignment) (fields : List DstLayout) :
    (∃ T, DstLayout.reprC reprAlign packed fields = .ok T) ↔
      ∀ field ∈ fields.dropLast, field.isSized := by
  -- Padding never fails, and the empty struct the fields are appended to is sized.
  have start : (DstLayout.newZst reprAlign).isSized := by cases reprAlign <;> rfl
  have padded : (∃ T, DstLayout.reprC reprAlign packed fields = .ok T) ↔
      ∃ T, fields.foldlM (fun (base field : DstLayout) => base.extend field packed)
        (DstLayout.newZst reprAlign) = .ok T := by
    unfold DstLayout.reprC
    cases fields.foldlM (fun (base field : DstLayout) => base.extend field packed)
      (DstLayout.newZst reprAlign) <;> simp [Functor.map, Except.map]
  rw [padded, DstLayout.foldlM_extend_ok_iff]
  cases fields with
  | nil => simp
  | cons field rest => simp [List.dropLast_cons₂, start]

/-- A `repr(C)` struct's layout, as the combinators build it, is the direct placement of its
fields, for every count of trailing elements. -/
theorem reprC_layout (reprAlign packed : Option Alignment) (fields : List DstLayout)
    {T : DstLayout} (built : DstLayout.reprC reprAlign packed fields = .ok T) :
    (∀ elems,
      T.align = (placeFields packed elems ((DstLayout.newZst reprAlign).align, 0) fields).1 ∧
      T.sizeWith elems =
        roundUp (placeFields packed elems ((DstLayout.newZst reprAlign).align, 0) fields).2
          T.align) ∧
    (DstLayout.newZst reprAlign).align ∣ T.align ∧
    (∀ field ∈ fields, field.fieldAlign packed ∣ T.align) ∧
    ∀ elems, T.sizeWith elems % T.align = 0 ∧
      (placeFields packed elems ((DstLayout.newZst reprAlign).align, 0) fields).2 ≤
        T.sizeWith elems := by
  -- The alignment is the placement's, which is at least each of these powers of two.
  obtain ⟨align, -⟩ := DstLayout.reprC_place built 0
  obtain ⟨grows, covers⟩ :=
    le_placeFields_align packed 0 fields ((DstLayout.newZst reprAlign).align, 0)
  refine ⟨fun elems => ?_, dvd_of_isPowerOfTwo_le (DstLayout.newZst reprAlign).align_isPowerOfTwo
    T.align_isPowerOfTwo (align ▸ grows), fun field member => dvd_of_isPowerOfTwo_le
    (field.fieldAlign_isPowerOfTwo packed) T.align_isPowerOfTwo (align ▸ covers field member),
    fun elems => ?_⟩
  · obtain ⟨same, size⟩ := DstLayout.reprC_place built elems
    exact ⟨same, by rw [size, ← same]⟩
  · -- Each size is the end of the fields rounded up to the alignment.
    obtain ⟨same, size⟩ := DstLayout.reprC_place built elems
    rw [size, ← same]
    exact ⟨roundUp_mod T.align_pos, le_roundUp T.align_pos⟩

/-- The spec's struct of a `u16` then a `u8`: alignment 2, size 4. -/
theorem reprC_layout_u16_u8 :
    DstLayout.reprC none none [.forType ⟨2, 2, ⟨1, rfl⟩⟩, .forType ⟨1, 1, ⟨0, rfl⟩⟩] =
        .ok ⟨2, .sized 4, ⟨1, rfl⟩⟩ ∧
      ∀ elems, 2 = (placeFields none elems (1, 0)
          [.forType ⟨2, 2, ⟨1, rfl⟩⟩, .forType ⟨1, 1, ⟨0, rfl⟩⟩]).1 ∧
        4 = roundUp (placeFields none elems (1, 0)
          [.forType ⟨2, 2, ⟨1, rfl⟩⟩, .forType ⟨1, 1, ⟨0, rfl⟩⟩]).2 2 :=
  ⟨rfl, (reprC_layout (T := ⟨2, .sized 4, ⟨1, rfl⟩⟩) none none
    [.forType ⟨2, 2, ⟨1, rfl⟩⟩, .forType ⟨1, 1, ⟨0, rfl⟩⟩] rfl).1⟩

/-- The lengths the cast engine accepts for a `repr(C)` struct, which every `Ref` to it has, are
exactly the padded direct placements of its fields for some count of trailing elements. -/
theorem reprC_validSize (reprAlign packed : Option Alignment) (fields : List DstLayout)
    {T : DstLayout} (built : DstLayout.reprC reprAlign packed fields = .ok T) (len : Nat) :
    T.ValidSize len ↔ ∃ elems,
      len = roundUp (placeFields packed elems ((DstLayout.newZst reprAlign).align, 0) fields).2
        (placeFields packed elems ((DstLayout.newZst reprAlign).align, 0) fields).1 := by
  -- Each size is the placement's, count by count.
  rw [T.validSize_iff_sizeWith]
  exact exists_congr fun elems => by rw [(DstLayout.reprC_place built elems).2]

/-- `KL10` of the tests: a `u32`-aligned field and a trailing `[u8]`, with eight bytes. -/
theorem reprC_validSize_kl10 :
    DstLayout.reprC none none [.forType ⟨4, 4, ⟨2, rfl⟩⟩, .forSlice ⟨1, 1, ⟨0, rfl⟩⟩] =
        .ok ⟨4, .sliceDst ⟨4, 1⟩, ⟨2, rfl⟩⟩ ∧
      ((⟨4, .sliceDst ⟨4, 1⟩, ⟨2, rfl⟩⟩ : DstLayout).ValidSize 8 ↔ ∃ elems,
        8 = roundUp (placeFields none elems (1, 0)
            [.forType ⟨4, 4, ⟨2, rfl⟩⟩, .forSlice ⟨1, 1, ⟨0, rfl⟩⟩]).2
          (placeFields none elems (1, 0)
            [.forType ⟨4, 4, ⟨2, rfl⟩⟩, .forSlice ⟨1, 1, ⟨0, rfl⟩⟩]).1) :=
  ⟨rfl, reprC_validSize none none [.forType ⟨4, 4, ⟨2, rfl⟩⟩, .forSlice ⟨1, 1, ⟨0, rfl⟩⟩] rfl 8⟩

/-- `KL11Packed` of the `derive(KnownLayout)` tests: `repr(packed)` caps the `u64`-aligned field
to one. -/
example :
    DstLayout.reprC none (some ⟨1, ⟨0, rfl⟩⟩)
        [.forType ⟨8, 8, ⟨3, rfl⟩⟩, .forType ⟨1, 1, ⟨0, rfl⟩⟩] =
      .ok ⟨1, .sized 9, ⟨0, rfl⟩⟩ := rfl

end Zerocopy
