import Zerocopy.Impls

/-! What the bytes of each type mean: the values of a type, and the bytes that hold each value.
The checks of `Impls` are judged against this: what `is_bit_valid` accepts holds exactly one value,
and what the conversions return is a value of the type they return. -/

namespace Zerocopy

/-! ### Values and their bytes

From the reference as the safety comments quote it: every bit pattern is an integer, a float, or
a raw pointer's address; `false` is `0x00` and `true` is `0x01`; a `char` is a Unicode scalar
value held as a `u32`; `NonZeroXxx` is a nonzero `Xxx`; and `None` of `Option<NonZeroXxx>` and of
an optional pointer is all zeros.
-/

/-- A nonzero integer of `k` bytes. -/
def NonZeroWord (k : Nat) : Type := {n : Fin (256 ^ k) // 0 < n.val}

/-- The integer an `Option` of a nonzero integer is held as: zero for `None`. -/
def NonZeroWord.optionVal {k : Nat} (n : Option (NonZeroWord k)) : Nat := n.elim 0 (·.val.val)

/-- The values of a primitive type. -/
def Prim.Value (tg : Target) : Prim → Type
  | .unit | .phantom => Unit
  | .int w => Fin (256 ^ tg.bytes w)
  | .f32 => Fin (256 ^ 4)
  | .f64 => Fin (256 ^ 8)
  | .bool => Bool
  | .char => Char
  | .nonZero w => NonZeroWord (tg.bytes w)
  | .optionNonZero w => Option (NonZeroWord (tg.bytes w))
  | .rawPtr => Fin (256 ^ tg.word)
  | .optionPtr => Option (NonZeroWord tg.word)

/-- The bytes that hold a value of a primitive type. -/
def Prim.encode (tg : Target) : (p : Prim) → p.Value tg → List UInt8
  | .unit, _ | .phantom, _ => []
  | .int w, n => tg.write (tg.bytes w) n.val
  | .f32, n => tg.write 4 n.val
  | .f64, n => tg.write 8 n.val
  | .bool, b => tg.write 1 (Bool.toNat b)
  | .char, c => tg.write 4 c.toNat
  | .nonZero w, n => tg.write (tg.bytes w) n.val.val
  | .optionNonZero w, n => tg.write (tg.bytes w) (NonZeroWord.optionVal n)
  | .rawPtr, n => tg.write tg.word n.val
  | .optionPtr, n => tg.write tg.word (NonZeroWord.optionVal n)

/-- The values of a type: an array holds `N` values of its element, `MaybeUninit<T>` any bytes of
the size of `T`, and the other wrappers a value of the type they wrap. -/
def Ty.Value (tg : Target) : Ty → Type
  | .prim p => p.Value tg
  | .array t n => {vs : List (t.Value tg) // vs.length = n}
  | .wrapper .maybeUninit t => (t.layout tg).Value
  | .wrapper .wrapping t | .wrapper .manuallyDrop t | .wrapper .unsafeCell t => t.Value tg

/-- The bytes that hold a value of a type: an array's elements back to back. -/
def Ty.encode (tg : Target) : (t : Ty) → t.Value tg → List UInt8
  | .prim p, v => p.encode tg v
  | .array t _, vs => vs.val.flatMap (t.encode tg)
  | .wrapper .maybeUninit _, v => v.val
  | .wrapper .wrapping t, v | .wrapper .manuallyDrop t, v | .wrapper .unsafeCell t, v =>
    t.encode tg v

/-- The thin pointers, whose check accepts only the null pointer. -/
def Prim.isPointer : Prim → Bool
  | .rawPtr | .optionPtr => true
  | _ => false

/-- Whether a pointer's check is reached inside a type; `MaybeUninit<T>` checks nothing. -/
def Ty.hasPointer : Ty → Bool
  | .prim p => p.isPointer
  | .array t _ => t.hasPointer
  | .wrapper .maybeUninit _ => false
  | .wrapper .wrapping t | .wrapper .manuallyDrop t | .wrapper .unsafeCell t => t.hasPointer

/-- A 64-bit little-endian target whose integers are aligned to their size. -/
def Target.x86_64 : Target where
  word := 8
  intAlign w := w.bytes 8
  intAlign_isPowerOfTwo
    | .w8 => ⟨0, rfl⟩ | .w16 => ⟨1, rfl⟩ | .w32 => ⟨2, rfl⟩ | .w64 => ⟨3, rfl⟩ | .w128 => ⟨4, rfl⟩
    | .size => ⟨3, rfl⟩
  intAlign_dvd _ := Nat.dvd_refl _
  littleEndian := true

/-! ### Integers of `k` bytes -/

section Words

variable (tg : Target) {k : Nat}

/-- Bytes of the right length read back to themselves through the integer they hold. -/
theorem Target.write_read_of_length {bytes : List UInt8} (size : bytes.length = k) :
    tg.write k (tg.read bytes) = bytes :=
  size ▸ tg.write_read bytes

/-- Bytes of the right length hold an integer that fits in them. -/
theorem Target.read_lt_of_length {bytes : List UInt8} (size : bytes.length = k) :
    tg.read bytes < 256 ^ k :=
  size ▸ tg.read_lt bytes

/-- Integers that fit are written to distinct bytes. -/
theorem Target.write_inj {a b : Nat} (ha : a < 256 ^ k) (hb : b < 256 ^ k)
    (same : tg.write k a = tg.write k b) : a = b := by
  have readBack := congrArg tg.read same
  rwa [tg.read_write, tg.read_write, Nat.mod_eq_of_lt ha, Nat.mod_eq_of_lt hb] at readBack

/-- An integer that fits reads back from its bytes. -/
@[simp] theorem Target.read_write_of_lt {n : Nat} (small : n < 256 ^ k) :
    tg.read (tg.write k n) = n := by
  rw [tg.read_write, Nat.mod_eq_of_lt small]

/-- Bytes of the right length hold some integer that fits. -/
theorem Target.exists_write {bytes : List UInt8} (size : bytes.length = k) :
    ∃ n : Fin (256 ^ k), tg.write k n.val = bytes :=
  ⟨⟨tg.read bytes, tg.read_lt_of_length size⟩, tg.write_read_of_length size⟩

/-- An optional nonzero integer is held as an integer that fits. -/
theorem NonZeroWord.optionVal_lt (n : Option (NonZeroWord k)) :
    NonZeroWord.optionVal n < 256 ^ k := by
  cases n with
  | none => exact Nat.pos_pow_of_pos k (by decide)
  | some n => exact n.val.isLt

/-- Distinct optional nonzero integers are held as distinct integers. -/
theorem NonZeroWord.optionVal_inj {n m : Option (NonZeroWord k)}
    (same : NonZeroWord.optionVal n = NonZeroWord.optionVal m) : n = m := by
  -- `None` is held as zero, which no nonzero integer is.
  rcases n with _ | ⟨n, pos⟩ <;> rcases m with _ | ⟨m, pos'⟩
  · rfl
  · exact absurd same.symm (Nat.pos_iff_ne_zero.mp pos')
  · exact absurd same (Nat.pos_iff_ne_zero.mp pos)
  · exact congrArg some (Subtype.ext (Fin.ext same))

/-- Bytes of the right length hold some optional nonzero integer: `None` when they are zero. -/
theorem Target.exists_write_optionVal {bytes : List UInt8} (size : bytes.length = k) :
    ∃ n : Option (NonZeroWord k), tg.write k (NonZeroWord.optionVal n) = bytes := by
  have readBack := tg.write_read_of_length size
  by_cases zero : tg.read bytes = 0
  · rw [zero] at readBack
    exact ⟨none, readBack⟩
  · exact ⟨some ⟨⟨tg.read bytes, tg.read_lt_of_length size⟩, Nat.pos_of_ne_zero zero⟩, readBack⟩

end Words

/-! ### Primitive types -/

section Primitive

variable (tg : Target)

@[simp] theorem Prim.length_encode (p : Prim) (v : p.Value tg) :
    (p.encode tg v).length = p.size tg := by
  cases p <;> simp [encode, size]

/-- Every candidate of a primitive type that `is_bit_valid` accepts holds a value. -/
theorem Prim.exists_encode {p : Prim} {bytes : List UInt8} (size : bytes.length = p.size tg)
    (valid : p.isBitValid tg bytes = true) : ∃ v, p.encode tg v = bytes := by
  cases p with
  | unit | phantom => exact ⟨(), (List.eq_nil_of_length_eq_zero size).symm⟩
  | int w | f32 | f64 | rawPtr => exact tg.exists_write size
  | optionNonZero w | optionPtr => exact tg.exists_write_optionVal size
  | nonZero w =>
    -- `NonZeroXxx::new` accepted the integer read, so it is not zero.
    have pos : 0 < tg.read bytes := Nat.pos_of_ne_zero (by simpa [isBitValid] using valid)
    exact ⟨⟨⟨tg.read bytes, tg.read_lt_of_length size⟩, pos⟩, tg.write_read_of_length size⟩
  | bool =>
    -- The byte read is below two, so it is the byte of `false` or of `true`.
    have small : tg.read bytes < 2 := by simpa [isBitValid] using valid
    have bit : Bool.toNat (decide (tg.read bytes = 1)) = tg.read bytes := by
      by_cases one : tg.read bytes = 1 <;> simp [one]; omega
    exact ⟨decide (tg.read bytes = 1),
      (congrArg (tg.write 1) bit).trans (tg.write_read_of_length size)⟩
  | char =>
    -- `char::from_u32` accepted the `u32` read, so it is the scalar value of some `char`.
    obtain ⟨c, found⟩ := Option.isSome_iff_exists.mp (by simpa [isBitValid] using valid)
    have read : c.toNat = tg.read bytes := by
      have fits : tg.read bytes < UInt32.size := tg.read_lt_of_length size
      rw [Char.toNat, (charFromU32_eq_some _ c).mp found]
      exact UInt32.toNat_ofNat_of_lt fits
    exact ⟨c, by rw [encode, read]; exact tg.write_read_of_length size⟩

/-- Distinct values of a primitive type are held in distinct bytes. -/
theorem Prim.encode_injective (p : Prim) : Function.Injective (p.encode tg) := by
  intro a b same
  cases p with
  | unit | phantom => rfl
  | int w | f32 | f64 | rawPtr => exact Fin.ext (tg.write_inj a.isLt b.isLt same)
  | nonZero w => exact Subtype.ext (Fin.ext (tg.write_inj a.val.isLt b.val.isLt same))
  | optionNonZero w | optionPtr =>
    exact NonZeroWord.optionVal_inj
      (tg.write_inj (NonZeroWord.optionVal_lt a) (NonZeroWord.optionVal_lt b) same)
  | bool =>
    have fits (b : Bool) : b.toNat < 256 ^ 1 := by cases b <;> decide
    have bits := tg.write_inj (fits a) (fits b) same
    cases a <;> cases b <;> simp_all
  | char =>
    have fits (c : Char) : c.toNat < 256 ^ 4 := c.val.toNat_lt_size
    exact Char.ext (UInt32.toNat.inj (tg.write_inj (fits a) (fits b) same))

/-- Every value of a primitive type other than a pointer passes `is_bit_valid`. -/
theorem Prim.isBitValid_encode {p : Prim} (notPointer : p.isPointer = false) (v : p.Value tg) :
    p.isBitValid tg (p.encode tg v) = true := by
  cases p with
  | bool => cases v <;> simp [encode, isBitValid]
  | char =>
    have fits : v.toNat < 256 ^ 4 := v.val.toNat_lt_size
    have same : v.toNat.toUInt32 = v.val := UInt32.toNat.inj (UInt32.toNat_ofNat_of_lt fits)
    simp only [encode, isBitValid, tg.read_write_of_lt fits, same]
    exact Option.isSome_iff_exists.mpr ⟨v, (charFromU32_eq_some _ v).mpr rfl⟩
  | nonZero w =>
    simp only [encode, isBitValid, tg.read_write_of_lt v.val.isLt]
    exact bne_iff_ne.mpr (Nat.pos_iff_ne_zero.mp v.property)
  | rawPtr | optionPtr => simp [isPointer] at notPointer
  | unit | int _ | f32 | f64 | optionNonZero _ | phantom => rfl

end Primitive

/-! ### Runs of elements -/

section Elements

variable {V : Type} (f : V → List UInt8) {size : Nat}

/-- Values whose bytes all have `size` bytes are laid out one `size` apart. -/
theorem length_flatMap_of_length (fixed : ∀ x, (f x).length = size) (xs : List V) :
    (xs.flatMap f).length = size * xs.length := by
  induction xs with
  | nil => rfl
  | cons x xs ih => simp only [List.flatMap_cons, List.length_append, fixed, ih, List.length_cons,
      Nat.mul_succ, Nat.add_comm]

/-- The elements `c.iter()` yields from a run of values' bytes are the values' bytes. -/
theorem sliceElems_flatMap (fixed : ∀ x, (f x).length = size) (xs : List V) :
    sliceElems size xs.length (xs.flatMap f) = xs.map f := by
  induction xs with
  | nil => rfl
  | cons x xs ih =>
    simp only [List.length_cons, sliceElems, List.flatMap_cons, List.map_cons,
      List.take_left' (fixed x), List.drop_left' (fixed x), ih]

/-- Two runs of as many values, each of `size` bytes, hold the same bytes only if they are the
same values, once one value is never held as another's bytes. -/
theorem flatMap_inj (fixed : ∀ x, (f x).length = size) (inj : Function.Injective f) :
    ∀ {xs ys : List V}, xs.length = ys.length → xs.flatMap f = ys.flatMap f → xs = ys
  | [], [], _, _ => rfl
  | x :: xs, y :: ys, count, same => by
    obtain ⟨head, tail⟩ := List.append_inj same ((fixed x).trans (fixed y).symm)
    rw [inj head, flatMap_inj fixed inj (Nat.succ.inj count) tail]

/-- If every accepted element holds a value, a run of `n` accepted elements holds `n` values. -/
theorem exists_flatMap_of_all (check : List UInt8 → Bool)
    (each : ∀ c, c.length = size → check c = true → ∃ x, f x = c) :
    ∀ (n : Nat) (bytes : List UInt8), bytes.length = size * n →
      (sliceElems size n bytes).all check = true →
        ∃ xs : List V, xs.length = n ∧ xs.flatMap f = bytes
  | 0, bytes, empty, _ => ⟨[], rfl, (List.eq_nil_of_length_eq_zero empty).symm⟩
  | n + 1, bytes, length, valid => by
    -- The first element holds a value, and the rest is a run of `n` accepted elements.
    simp only [sliceElems, List.all_cons, Bool.and_eq_true] at valid
    have front : (bytes.take size).length = size := by simp [length, Nat.mul_succ]
    have back : (bytes.drop size).length = size * n := by simp [length, Nat.mul_succ]
    obtain ⟨x, hx⟩ := each _ front valid.1
    obtain ⟨xs, count, hxs⟩ := exists_flatMap_of_all check each n _ back valid.2
    exact ⟨x :: xs, by simp [count], by rw [List.flatMap_cons, hx, hxs, List.take_append_drop]⟩

end Elements

/-! ### Every type -/

section Types

variable (tg : Target)

@[simp] theorem Ty.length_encode (t : Ty) (v : t.Value tg) :
    (t.encode tg v).length = t.size tg := by
  induction t with
  | prim p => exact p.length_encode tg v
  | array t n ih =>
    obtain ⟨vs, rfl⟩ := v
    exact length_flatMap_of_length _ ih vs
  | wrapper w t ih => cases w <;> first | exact ih v | exact v.property

/-- Every candidate of a type's size that `is_bit_valid` accepts holds a value of the type. -/
theorem Ty.exists_encode {t : Ty} {meta : PointerMetadata} {bytes : List UInt8}
    (size : bytes.length = t.size tg) (valid : t.isBitValid tg meta bytes = true) :
    ∃ v, t.encode tg v = bytes := by
  induction t generalizing meta bytes with
  | prim p => exact p.exists_encode tg size valid
  | array t n ih =>
    -- Each element accepted holds a value, so the run of them holds `n` values.
    obtain ⟨xs, count, hxs⟩ := exists_flatMap_of_all (t.encode tg) (t.isBitValid tg .unit)
      (fun _ length accepted => ih length accepted) n bytes size valid
    exact ⟨⟨xs, count⟩, hxs⟩
  | wrapper w t ih =>
    cases w
    case maybeUninit => exact ⟨⟨bytes, size⟩, rfl⟩
    all_goals exact ih size valid

/-- Distinct values of a type are held in distinct bytes. -/
theorem Ty.encode_injective (t : Ty) : Function.Injective (t.encode tg) := by
  induction t with
  | prim p => exact p.encode_injective tg
  | array t n ih =>
    rintro ⟨xs, rfl⟩ ⟨ys, count⟩ same
    exact Subtype.ext (flatMap_inj _ (t.length_encode tg) ih count.symm same)
  | wrapper w t ih =>
    cases w
    case maybeUninit => exact fun _ _ same => Subtype.ext same
    all_goals exact ih

/-- Every value of a type with no pointer check passes `is_bit_valid`. -/
theorem Ty.isBitValid_encode {t : Ty} (noPointer : t.hasPointer = false) (meta : PointerMetadata)
    (v : t.Value tg) : t.isBitValid tg meta (t.encode tg v) = true := by
  induction t generalizing meta with
  | prim p => exact p.isBitValid_encode tg noPointer v
  | array t n ih =>
    -- The elements checked are the elements' values' bytes.
    obtain ⟨vs, rfl⟩ := v
    show (sliceElems (t.size tg) vs.length (vs.flatMap (t.encode tg))).all _ = true
    rw [sliceElems_flatMap _ (t.length_encode tg)]
    simpa using fun v _ => ih noPointer .unit v
  | wrapper w t ih => cases w <;> first | rfl | exact ih noPointer meta v

/-- A candidate of the type's size that `is_bit_valid` accepts holds exactly one value. -/
theorem Ty.existsUnique_encode {t : Ty} {meta : PointerMetadata} {bytes : List UInt8}
    (size : bytes.length = t.size tg) (valid : t.isBitValid tg meta bytes = true) :
    ∃! v, t.encode tg v = bytes := by
  obtain ⟨v, hv⟩ := Ty.exists_encode tg size valid
  exact ⟨v, hv, fun w hw => t.encode_injective tg (hw.trans hv.symm)⟩

/-- For a type with no pointer check, `is_bit_valid` accepts exactly the candidates of its size
that hold a value. -/
theorem Ty.isBitValid_iff_exists_encode {t : Ty} (noPointer : t.hasPointer = false)
    (meta : PointerMetadata) {bytes : List UInt8} (size : bytes.length = t.size tg) :
    t.isBitValid tg meta bytes = true ↔ ∃ v, t.encode tg v = bytes :=
  ⟨fun valid => Ty.exists_encode tg size valid,
    fun ⟨v, encoded⟩ => encoded ▸ Ty.isBitValid_encode tg noPointer meta v⟩

/-- What `is_bit_valid` accepts at the type's size holds exactly one value of it, and for a type
with no pointer check it accepts exactly the bytes that hold a value. -/
theorem isBitValid_holds_one_value (tg : Target) (t : Ty) (meta : PointerMetadata)
    (bytes : List UInt8) (size : bytes.length = t.size tg) :
    (t.isBitValid tg meta bytes = true → ∃! v, t.encode tg v = bytes) ∧
      (t.hasPointer = false →
        (t.isBitValid tg meta bytes = true ↔ ∃ v, t.encode tg v = bytes)) :=
  -- Soundness and injectivity give the one value; completeness gives the converse.
  ⟨Ty.existsUnique_encode tg size,
    fun noPointer => Ty.isBitValid_iff_exists_encode tg noPointer meta size⟩

/-- The four bytes of `'A'` on a little-endian target hold exactly one `char`. -/
theorem isBitValid_holds_one_value_char :
    ∃! v, (Ty.prim .char).encode Target.x86_64 v = [65, 0, 0, 0] :=
  (isBitValid_holds_one_value Target.x86_64 (.prim .char) .unit [65, 0, 0, 0] rfl).1 (by decide)

end Types

/-! ### Skipping the validity check -/

section Skipping

variable {usizeMax : Nat} {T : TryFromBytes} {bytes : Slice}

/-- Where `is_bit_valid` accepts every candidate of the exact cast, `try_ref_from` is the cast. -/
theorem tryRefFrom_of_accepts
    (accepts : ∀ p, tryCastIntoNoLeftover usizeMax T.layout bytes none = .ok p →
      T.isBitValid p.meta p.region.data = true) :
    tryRefFrom usizeMax T bytes =
      (tryCastIntoNoLeftover usizeMax T.layout bytes none).mapError ConvertError.toTry := by
  unfold tryRefFrom
  cases cast : tryCastIntoNoLeftover usizeMax T.layout bytes none with
  | error e => rfl
  | ok p => simp [tryIntoValid, accepts p cast, Except.mapError]

/-- Where `is_bit_valid` accepts every candidate of the cast, the prefix or suffix cast with
validation is the cast. -/
theorem tryRefFromPrefixSuffix_of_accepts {castType : CastType} {meta : Option PointerMetadata}
    (accepts : ∀ p rest, tryCastInto usizeMax T.layout bytes castType meta = .ok (p, rest) →
      T.isBitValid p.meta p.region.data = true) :
    tryRefFromPrefixSuffix usizeMax T bytes castType meta =
      (tryCastInto usizeMax T.layout bytes castType meta).mapError ConvertError.toTry := by
  unfold tryRefFromPrefixSuffix
  cases cast : tryCastInto usizeMax T.layout bytes castType meta with
  | error e => rfl
  | ok pair => simp [tryIntoValid, accepts pair.1 pair.2 cast, Except.mapError]

/-- Where `is_bit_valid` accepts every candidate, `try_read_from` is `read_from`. -/
theorem tryReadFrom_of_accepts {L : Layout} {isBitValid : PointerMetadata → List UInt8 → Bool}
    (accepts : ∀ candidate, isBitValid .unit candidate = true) :
    tryReadFrom L isBitValid bytes = (fun r => r.mapError .size) <$> readFrom L bytes := by
  rw [tryReadFrom_eq, readFrom_eq]
  by_cases exact : bytes.len = L.size <;> simp [exact, accepts, Except.mapError]

end Skipping

/-! ### What the conversions return -/

section Conversions

variable (tg : Target)

/-- A slice `[T]` of a type of the tables is laid out without gaps: its element size is a
multiple of its alignment. -/
theorem Ty.layout_padded (t : Ty) : (t.layout tg).size % (t.layout tg).align = 0 :=
  Nat.mod_eq_zero_of_dvd (t.align_dvd_size tg)

/-- For a `FromBytes` type the validity check never rejects, so each `TryFromBytes` conversion
returns what its `FromBytes` counterpart does, its error mapped. -/
theorem fromBytes_skips_validation (usizeMax : Nat) (t : Ty)
    (fromBytes : t.implements .fromBytes = true) (bytes : Slice) :
    tryReadFrom (t.layout tg) (t.isBitValid tg) bytes =
        (fun r => r.mapError .size) <$> readFrom (t.layout tg) bytes ∧
      tryRefFrom usizeMax (t.tryFromBytes tg) bytes =
        (refFrom usizeMax (.forType (t.layout tg)) bytes).mapError ConvertError.toTry ∧
      (∀ castType meta, tryRefFromPrefixSuffix usizeMax (t.tryFromBytes tg) bytes castType meta =
        (refFromPrefixSuffix usizeMax (.forType (t.layout tg)) bytes meta castType).mapError
          ConvertError.toTry) ∧
      tryRefFrom usizeMax (.slice (t.layout tg) (t.isBitValid tg)) bytes =
        (refFrom usizeMax (.forSlice (t.layout tg)) bytes).mapError ConvertError.toTry := by
  -- Every candidate is accepted: a sized one by the table, a slice one element by element.
  have accepts := Ty.isBitValid_of_fromBytes tg fromBytes
  refine ⟨tryReadFrom_of_accepts (accepts .unit), tryRefFrom_of_accepts fun p _ => accepts _ _,
    fun _ _ => tryRefFromPrefixSuffix_of_accepts fun p _ _ => accepts _ _,
    tryRefFrom_of_accepts fun p cast => ?_⟩
  rw [TryFromBytes.slice, tryCastIntoNoLeftover_forSlice (t.layout_padded tg)] at cast
  split at cast <;> (try split at cast) <;> cases cast
  exact sliceIsBitValid_iff.mpr fun _ _ => accepts _ _

/-- `[u32; 2]` is `FromBytes`, so `try_ref_from` of three bytes fails as `ref_from` does. -/
theorem fromBytes_skips_validation_u32_pair :
    (Ty.array (.prim (.int .w32)) 2).implements .fromBytes = true ∧
      tryRefFrom 18446744073709551615
          ((Ty.array (.prim (.int .w32)) 2).tryFromBytes Target.x86_64) ⟨0, [1, 2, 3]⟩ =
        (refFrom 18446744073709551615
          (.forType ((Ty.array (.prim (.int .w32)) 2).layout Target.x86_64))
            ⟨0, [1, 2, 3]⟩).mapError ConvertError.toTry :=
  ⟨rfl, (fromBytes_skips_validation Target.x86_64 18446744073709551615
    (.array (.prim (.int .w32)) 2) rfl ⟨0, [1, 2, 3]⟩).2.1⟩

/-- `try_read_from` returns only values, the buffer's bytes, and for a type with no pointer check
returns one exactly when the buffer holds a value. -/
theorem tryReadFrom_values (t : Ty) (bytes : Slice) :
    (∀ v, tryReadFrom (t.layout tg) (t.isBitValid tg) bytes = .ok (.ok v) →
      v.val = bytes.data ∧ ∃! x, t.encode tg x = v.val) ∧
    (t.hasPointer = false →
      ((∃ v, tryReadFrom (t.layout tg) (t.isBitValid tg) bytes = .ok (.ok v)) ↔
          ∃ x, t.encode tg x = bytes.data) ∧
        (tryReadFrom (t.layout tg) (t.isBitValid tg) bytes = .ok (.error (.validity bytes)) ↔
          bytes.len = t.size tg ∧ ¬∃ x, t.encode tg x = bytes.data)) := by
  -- The copy is taken exactly when the size is right, and kept exactly when it is accepted.
  have exact (x : t.Value tg) (same : t.encode tg x = bytes.data) : bytes.len = t.size tg := by
    rw [Slice.len, ← same, Ty.length_encode]
  refine ⟨fun v returned => ?_, fun noPointer => ⟨?_, ?_⟩⟩
  · rw [tryReadFrom_eq] at returned
    split at returned <;> [split at returned; skip] <;> cases returned
    rename_i size valid
    exact ⟨rfl, Ty.existsUnique_encode tg size valid⟩
  · rw [tryReadFrom_eq]
    constructor
    · rintro ⟨v, returned⟩
      split at returned <;> [split at returned; skip] <;> cases returned
      rename_i size valid
      exact (Ty.existsUnique_encode tg size valid).exists
    · rintro ⟨x, same⟩
      have valid := Ty.isBitValid_encode tg noPointer .unit x
      rw [same] at valid
      exact ⟨⟨bytes.data, exact x same⟩, by simp [exact x same, valid]⟩
  · rw [tryReadFrom_eq]
    by_cases size : bytes.len = t.size tg
    · have holds := Ty.isBitValid_iff_exists_encode tg noPointer .unit size
      by_cases valid : t.isBitValid tg .unit bytes.data <;> simp_all
    · simp [size]

/-- `try_ref_from` of `[T]` returns the buffer only when it holds values of `T` back to back, and,
where it compiles and `T` has no pointer check, whenever it is aligned and does. -/
theorem tryRefFrom_slice_values (usizeMax : Nat) (t : Ty) (bytes : Slice) :
    (∀ p, tryRefFrom usizeMax (.slice (t.layout tg) (t.isBitValid tg)) bytes = .ok p →
      p = ⟨bytes, .count (bytes.len / t.size tg)⟩ ∧
        ∃ vs : List (t.Value tg), vs.length = bytes.len / t.size tg ∧
          vs.flatMap (t.encode tg) = bytes.data) ∧
    (t.hasPointer = false → assertDstIsNotZst (.forSlice (t.layout tg)) = true →
      bytes.addr % t.align tg = 0 →
      ∀ vs : List (t.Value tg), vs.flatMap (t.encode tg) = bytes.data →
        tryRefFrom usizeMax (.slice (t.layout tg) (t.isBitValid tg)) bytes =
          .ok ⟨bytes, .count (bytes.len / t.size tg)⟩) := by
  have cast := tryCastIntoNoLeftover_forSlice (t.layout_padded tg) usizeMax bytes
  refine ⟨fun p returned => ?_, fun noPointer compiles aligned vs same => ?_⟩
  · obtain ⟨castOk, valid⟩ := tryRefFrom_eq_ok.mp returned
    rw [TryFromBytes.slice, cast] at castOk
    split at castOk <;> (try split at castOk) <;> cases castOk
    rename_i whole _
    -- The accepted elements each hold a value, so the buffer holds `len / size` of them.
    have length : bytes.data.length = t.size tg * (bytes.len / t.size tg) :=
      (Nat.mul_div_cancel' (Nat.dvd_of_mod_eq_zero whole)).symm
    obtain ⟨xs, count, hxs⟩ := exists_flatMap_of_all (t.encode tg) (t.isBitValid tg .unit)
      (fun _ size accepted => Ty.exists_encode tg size accepted) _ _ length valid
    exact ⟨rfl, xs, count, hxs⟩
  · -- A run of values is a whole number of elements, each of which passes its check.
    have length : bytes.len = t.size tg * vs.length := by
      rw [Slice.len, ← same, length_flatMap_of_length _ (t.length_encode tg)]
    have valid : sliceIsBitValid (t.layout tg) (t.isBitValid tg)
        (.count (bytes.len / t.size tg)) bytes.data = true := by
      have pos : 0 < t.size tg := by simpa using compiles
      rw [length, Nat.mul_div_cancel_left _ pos, ← same]
      show (sliceElems (t.size tg) vs.length (vs.flatMap (t.encode tg))).all _ = true
      rw [sliceElems_flatMap _ (t.length_encode tg)]
      simpa using fun v _ => Ty.isBitValid_encode tg noPointer .unit v
    refine tryRefFrom_eq_ok.mpr ⟨?_, valid⟩
    rw [TryFromBytes.slice, cast]
    simp only [Ty.layout_size, Ty.layout_align, aligned, if_true, length, Nat.mul_mod_right]

/-- The references the validating casts return are aligned and hold exactly one value; for a type
with no pointer check, `try_ref_from` succeeds exactly on an aligned value. -/
theorem tryRefFrom_values (usizeMax : Nat) (t : Ty) (bytes : Slice) :
    (∀ p, tryRefFrom usizeMax (t.tryFromBytes tg) bytes = .ok p →
      p.region = bytes ∧ bytes.addr % t.align tg = 0 ∧ ∃! v, t.encode tg v = bytes.data) ∧
    (∀ castType p rest,
      tryRefFromPrefixSuffix usizeMax (t.tryFromBytes tg) bytes castType none = .ok (p, rest) →
        p.region.addr % t.align tg = 0 ∧ ∃! v, t.encode tg v = p.region.data) ∧
    (t.hasPointer = false →
      ((∃ p, tryRefFrom usizeMax (t.tryFromBytes tg) bytes = .ok p) ↔
        bytes.addr % t.align tg = 0 ∧ ∃ v, t.encode tg v = bytes.data)) := by
  -- The cast gives the alignment and the size of the type; `is_bit_valid` then gives the value.
  have whole {p : Ptr} (cast : tryCastIntoNoLeftover usizeMax (t.tryFromBytes tg).layout bytes none
      = .ok p) (valid : t.isBitValid tg p.meta p.region.data = true) :
      p.region = bytes ∧ bytes.addr % t.align tg = 0 ∧ ∃! v, t.encode tg v = bytes.data := by
    obtain ⟨_, aligned, region⟩ := tryCastIntoNoLeftover_eq_ok.mp cast
    have size := (tryCastIntoNoLeftover_ok_fits cast).2
    rw [region] at valid size
    exact ⟨region, aligned, Ty.existsUnique_encode tg size valid⟩
  refine ⟨fun p returned => ?_, fun castType p rest returned => ?_, fun noPointer => ⟨?_, ?_⟩⟩
  · obtain ⟨cast, valid⟩ := tryRefFrom_eq_ok.mp returned
    exact whole cast valid
  · obtain ⟨cast, valid⟩ := tryRefFromPrefixSuffix_eq_ok.mp returned
    obtain ⟨aligned, size⟩ := tryCastInto_ok_fits cast
    exact ⟨aligned, Ty.existsUnique_encode tg size valid⟩
  · rintro ⟨p, returned⟩
    obtain ⟨cast, valid⟩ := tryRefFrom_eq_ok.mp returned
    obtain ⟨_, aligned, holds⟩ := whole cast valid
    exact ⟨aligned, holds.exists⟩
  · -- An aligned buffer that holds a value has the type's size, and its value passes the check.
    rintro ⟨aligned, v, encoded⟩
    have size : bytes.len = t.size tg := by rw [Slice.len, ← encoded, Ty.length_encode]
    obtain ⟨meta', cast⟩ := tryCastIntoNoLeftover_of_fits usizeMax (T := (t.tryFromBytes tg).layout)
      aligned size
    have valid := Ty.isBitValid_encode tg noPointer meta' v
    rw [encoded] at valid
    exact ⟨_, tryRefFrom_eq_ok.mpr ⟨cast, valid⟩⟩

end Conversions

end Zerocopy
