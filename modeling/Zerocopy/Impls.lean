import Zerocopy.Validity
import Mathlib.Algebra.Group.Nat.Basic

/-! The sized types of the trait tables in `lib.rs`: what each implements, its layout, and its
`TryFromBytes::is_bit_valid`, for every type built from the primitive ones by arrays and by the
wrappers `Wrapping`, `ManuallyDrop`, `MaybeUninit` and `UnsafeCell`. -/

namespace Zerocopy

/-! ### The target -/

/-- The widths of the integer types: `u8` and `i8` through `u128` and `i128`, then `usize` and
`isize`. -/
inductive Width
  | w8
  | w16
  | w32
  | w64
  | w128
  | size
deriving DecidableEq, Repr

/-- The bytes of an integer of width `w`, where a `usize` has `word` bytes. -/
def Width.bytes (word : Nat) : Width → Nat
  | .w8 => 1
  | .w16 => 2
  | .w32 => 4
  | .w64 => 8
  | .w128 => 16
  | .size => word

/-- What the tables and the checks depend on in the target: the size of a `usize`, each integer
width's alignment, and the byte order `read_unaligned` reads in. -/
structure Target where
  word : Nat
  intAlign : Width → Nat
  intAlign_isPowerOfTwo : ∀ w, (intAlign w).isPowerOfTwo
  intAlign_dvd : ∀ w, intAlign w ∣ w.bytes word
  littleEndian : Bool

/-- The bytes of an integer of width `w` on this target. -/
def Target.bytes (tg : Target) (w : Width) : Nat := w.bytes tg.word

/-- A one-byte integer has alignment one: no alignment divides one but one. -/
@[simp] theorem Target.intAlign_w8 (tg : Target) : tg.intAlign .w8 = 1 :=
  Nat.dvd_one.mp (tg.intAlign_dvd .w8)

/-! ### Byte order -/

/-- The `k` low bytes of `n`, least significant first. -/
def leBytes : Nat → Nat → List UInt8
  | 0, _ => []
  | k + 1, n => n.toUInt8 :: leBytes k (n / 256)

/-- The number that `bytes` hold, least significant byte first. -/
def leValue : List UInt8 → Nat
  | [] => 0
  | b :: bytes => b.toNat + 256 * leValue bytes

/-- An integer as the target stores it: its `k` low bytes, in the target's byte order. -/
def Target.write (tg : Target) (k n : Nat) : List UInt8 :=
  if tg.littleEndian then leBytes k n else (leBytes k n).reverse

/-- `read_unaligned` of an integer: the number the bytes hold in the target's byte order. -/
def Target.read (tg : Target) (bytes : List UInt8) : Nat :=
  leValue (if tg.littleEndian then bytes else bytes.reverse)

@[simp] theorem length_leBytes (k n : Nat) : (leBytes k n).length = k := by
  induction k generalizing n <;> simp [leBytes, *]

/-- Converting to a byte keeps the low eight bits. -/
theorem toNat_toUInt8 (n : Nat) : n.toUInt8.toNat = n % 256 := rfl

/-- The bytes written read back as the number, cut to the bytes written. -/
theorem leValue_leBytes (k n : Nat) : leValue (leBytes k n) = n % 256 ^ k := by
  -- Each step peels the low byte off, and the rest is the same claim for `n / 256`.
  induction k generalizing n with
  | zero => simp [leBytes, leValue, Nat.mod_one]
  | succ k ih =>
    rw [leBytes, leValue, ih, toNat_toUInt8, Nat.pow_succ, Nat.mul_comm _ 256, Nat.mod_mul]

/-- Bytes read as a number and written back at their own length are the same bytes. -/
theorem leBytes_leValue (bytes : List UInt8) : leBytes bytes.length (leValue bytes) = bytes := by
  induction bytes with
  | nil => rfl
  | cons b bytes ih =>
    have small : b.toNat < 256 := b.toNat_lt_size
    simp only [List.length_cons, leBytes, leValue, List.cons.injEq]
    -- The low byte is the head, and what is above it is the number the tail holds.
    refine ⟨UInt8.toNat.inj ?_, ?_⟩
    · rw [toNat_toUInt8]; omega
    · rw [show (b.toNat + 256 * leValue bytes) / 256 = leValue bytes by omega, ih]

theorem leValue_lt (bytes : List UInt8) : leValue bytes < 256 ^ bytes.length := by
  induction bytes with
  | nil => simp [leValue]
  | cons b bytes ih =>
    have small : b.toNat < 256 := b.toNat_lt_size
    rw [leValue, List.length_cons, Nat.pow_succ]
    omega

@[simp] theorem Target.length_write (tg : Target) (k n : Nat) : (tg.write k n).length = k := by
  unfold Target.write; split <;> simp

/-- An integer written and read back is the integer, cut to the bytes written. -/
theorem Target.read_write (tg : Target) (k n : Nat) : tg.read (tg.write k n) = n % 256 ^ k := by
  unfold Target.read Target.write; split <;> simp [leValue_leBytes]

/-- Bytes read as an integer and written back are the same bytes. -/
theorem Target.write_read (tg : Target) (bytes : List UInt8) :
    tg.write bytes.length (tg.read bytes) = bytes := by
  unfold Target.read Target.write
  split
  · exact leBytes_leValue bytes
  · rw [← List.length_reverse, leBytes_leValue, List.reverse_reverse]

/-- A read integer fits in the bytes it was read from. -/
theorem Target.read_lt (tg : Target) (bytes : List UInt8) : tg.read bytes < 256 ^ bytes.length := by
  unfold Target.read; split
  · exact leValue_lt bytes
  · simpa using leValue_lt bytes.reverse

/-- Zero is written as zero bytes, in either byte order. -/
theorem Target.write_zero (tg : Target) (k : Nat) : tg.write k 0 = List.replicate k 0 := by
  have zeros : leBytes k 0 = List.replicate k 0 := by
    induction k with
    | zero => rfl
    | succ k ih => simp only [leBytes, Nat.zero_div, ih]; rfl
  unfold Target.write; split <;> simp [zeros]

/-- Zero bytes read as zero. -/
@[simp] theorem Target.read_replicate_zero (tg : Target) (k : Nat) :
    tg.read (List.replicate k 0) = 0 := by
  rw [← tg.write_zero, read_write, Nat.zero_mod]

/-! ### The checks the closures make -/

/-- `char::from_u32`: the `char` of a Unicode scalar value, and `None` for a surrogate or a number
past `char::MAX`. -/
def charFromU32 (i : UInt32) : Option Char :=
  if valid : i.isValidChar then some ⟨i, valid⟩ else none

/-- `char::from_u32` finds exactly the `char` whose scalar value it is given. -/
theorem charFromU32_eq_some (i : UInt32) (c : Char) : charFromU32 i = some c ↔ c.val = i := by
  unfold charFromU32
  split
  · exact ⟨fun same => by cases same; rfl, fun same => by cases c; cases same; rfl⟩
  · rename_i invalid
    exact ⟨nofun, fun same => absurd (same ▸ c.valid) invalid⟩

/-- Not in the source: `pointer::is_zeroed`. Modelled from the raw-pointer impls' safety comment:
`is_bit_valid` "only produces `true` for zeroed bytes". -/
def isZeroed (bytes : List UInt8) : Bool := bytes.all (· == 0)

/-- The zeroed candidates are the runs of zeros. -/
theorem isZeroed_iff (bytes : List UInt8) :
    isZeroed bytes = true ↔ bytes = List.replicate bytes.length 0 := by
  simp [isZeroed, List.eq_replicate_iff]

/-! ### Types -/

/-- The primitive sized types the tables in `lib.rs` give `TryFromBytes`. -/
inductive Prim
  /-- `()`. -/
  | unit
  /-- `uN` and `iN` of one width, which the tables and the checks treat alike. -/
  | int (w : Width)
  | f32
  | f64
  | bool
  | char
  /-- `NonZeroUN` and `NonZeroIN`. -/
  | nonZero (w : Width)
  /-- `Option<NonZeroUN>` and `Option<NonZeroIN>`. -/
  | optionNonZero (w : Width)
  /-- `*const T` and `*mut T`, for a sized `T`. -/
  | rawPtr
  /-- `Option<&T>`, `Option<&mut T>`, `Option<NonNull<T>>`, `Option<Box<T>>` and `Option` of a
  function pointer: each is a thin pointer whose zero bytes are `None`. -/
  | optionPtr
  /-- `PhantomData<T>`. -/
  | phantom
deriving DecidableEq, Repr

/-- The wrappers the tables pass a type's traits through. -/
inductive Wrapper
  | wrapping
  | manuallyDrop
  | maybeUninit
  | unsafeCell
deriving DecidableEq, Repr

/-- A sized type of the tables: a primitive type, an array `[T; N]`, or a wrapper of a type. -/
inductive Ty
  | prim (p : Prim)
  | array (elem : Ty) (n : Nat)
  | wrapper (w : Wrapper) (inner : Ty)
deriving DecidableEq, Repr

/-! ### Layouts

From the reference as the safety comments quote it: `char` and `f32` are sized and aligned as
`u32`, `f64` as `u64`, a thin pointer as `usize`, `NonZeroXxx` and `Option<NonZeroXxx>` as
`Xxx`; `[T; N]` has `N` times the size of `T` and its alignment, and each wrapper has the layout of
the type it wraps.
-/

/-- `size_of` of a primitive type. -/
def Prim.size (tg : Target) : Prim → Nat
  | .unit | .phantom => 0
  | .int w | .nonZero w | .optionNonZero w => tg.bytes w
  | .f32 | .char => 4
  | .f64 => 8
  | .bool => 1
  | .rawPtr | .optionPtr => tg.word

/-- `align_of` of a primitive type. -/
def Prim.align (tg : Target) : Prim → Nat
  | .unit | .phantom | .bool => 1
  | .int w | .nonZero w | .optionNonZero w => tg.intAlign w
  | .f32 | .char => tg.intAlign .w32
  | .f64 => tg.intAlign .w64
  | .rawPtr | .optionPtr => tg.intAlign .size

/-- `size_of` of a type. -/
def Ty.size (tg : Target) : Ty → Nat
  | .prim p => p.size tg
  | .array t n => t.size tg * n
  | .wrapper _ t => t.size tg

/-- `align_of` of a type. -/
def Ty.align (tg : Target) : Ty → Nat
  | .prim p => p.align tg
  | .array t _ => t.align tg
  | .wrapper _ t => t.align tg

theorem Ty.align_isPowerOfTwo (tg : Target) (t : Ty) : (t.align tg).isPowerOfTwo := by
  induction t with
  | prim p => cases p <;> first | exact ⟨0, rfl⟩ | exact tg.intAlign_isPowerOfTwo _
  | array t _ ih => exact ih
  | wrapper _ t ih => exact ih

/-- The layout of a type. -/
def Ty.layout (tg : Target) (t : Ty) : Layout := ⟨t.size tg, t.align tg, t.align_isPowerOfTwo tg⟩

@[simp] theorem Ty.layout_size (tg : Target) (t : Ty) : (t.layout tg).size = t.size tg := rfl
@[simp] theorem Ty.layout_align (tg : Target) (t : Ty) : (t.layout tg).align = t.align tg := rfl

/-- The size of every type is a multiple of its alignment, as the reference guarantees of every
Rust type: so a slice `[T]` of any of them lays its elements out aligned. -/
theorem Ty.align_dvd_size (tg : Target) (t : Ty) : t.align tg ∣ t.size tg := by
  induction t with
  | prim p =>
    cases p <;> first | exact Nat.dvd_refl _ | exact Nat.dvd_zero _ | exact tg.intAlign_dvd _
  | array t _ ih => exact Nat.dvd_trans ih (Nat.dvd_mul_right _ _)
  | wrapper _ t ih => exact ih

/-! ### The trait tables -/

/-- The traits of the tables besides `TryFromBytes`, which every type here implements. -/
inductive Trait
  | immutable
  | fromZeros
  | fromBytes
  | intoBytes
  | unaligned
deriving DecidableEq, Repr

/-- The traits the `unsafe_impl!` lines give each primitive type. `Option<NonZeroXxx>` and the
optional pointers are `Immutable` through `impl Immutable for Option<T>`. -/
def Prim.traits : Prim → List Trait
  | .unit | .phantom | .int .w8 | .optionNonZero .w8 =>
    [.immutable, .fromZeros, .fromBytes, .intoBytes, .unaligned]
  | .int _ | .f32 | .f64 | .optionNonZero _ => [.immutable, .fromZeros, .fromBytes, .intoBytes]
  | .bool => [.immutable, .fromZeros, .intoBytes, .unaligned]
  | .char => [.immutable, .fromZeros, .intoBytes]
  | .rawPtr | .optionPtr => [.immutable, .fromZeros]
  | .nonZero .w8 => [.immutable, .intoBytes, .unaligned]
  | .nonZero _ => [.immutable, .intoBytes]

/-- Whether a type implements a trait: wrappers and arrays follow the type inside, save that
`UnsafeCell` is never `Immutable` and `MaybeUninit` is `FromBytes` but never `IntoBytes`. -/
def Ty.implements : Ty → Trait → Bool
  | .prim p, tr => p.traits.contains tr
  | .array t _, tr => t.implements tr
  | .wrapper .unsafeCell _, .immutable => false
  | .wrapper .maybeUninit _, .fromZeros | .wrapper .maybeUninit _, .fromBytes => true
  | .wrapper .maybeUninit _, .intoBytes => false
  | .wrapper _ t, tr => t.implements tr

/-! ### `is_bit_valid` -/

/-- The primitives' `is_bit_valid` closures. Not in the source: `unsafe_impl!`; a type given no
closure accepts every candidate, as the safety comment of its impl says. -/
def Prim.isBitValid (tg : Target) : Prim → List UInt8 → Bool
  | .bool, bytes => tg.read bytes < 2
  | .char, bytes => (charFromU32 (tg.read bytes).toUInt32).isSome
  | .nonZero _, bytes => tg.read bytes != 0
  | .rawPtr, bytes | .optionPtr, bytes => isZeroed bytes
  | .unit, _ | .int _, _ | .f32, _ | .f64, _ | .optionNonZero _, _ | .phantom, _ => true

/-- `TryFromBytes::is_bit_valid` of a type. Not in the source: `impl_for_transparent_wrapper!`,
modelled from its premise that a wrapper has the validity of the type it wraps. -/
def Ty.isBitValid (tg : Target) : Ty → PointerMetadata → List UInt8 → Bool
  | .prim p, _, bytes => p.isBitValid tg bytes
  | .array t n, meta, bytes => arrayIsBitValid (t.layout tg) (t.isBitValid tg) n meta bytes
  | .wrapper .maybeUninit _, _, _ => true
  | .wrapper .wrapping t, meta, bytes | .wrapper .manuallyDrop t, meta, bytes
  | .wrapper .unsafeCell t, meta, bytes => t.isBitValid tg meta bytes

/-- Whether `is_bit_valid` through a pointer of aliasing `a` compiles: `UnsafeCell` needs an
exclusive one, which `forget_exclusive` (not in the source) makes shared again. -/
def Ty.isBitValidCompiles : Ty → Aliasing → Bool
  | .prim _, _ => true
  | .array t _, a => t.isBitValidCompiles a
  | .wrapper .maybeUninit _, _ => true
  | .wrapper .unsafeCell t, a => a == .exclusive && t.isBitValidCompiles .shared
  | .wrapper .wrapping t, a | .wrapper .manuallyDrop t, a => t.isBitValidCompiles a

/-- A type as a `TryFromBytes` type: its sized layout and its `is_bit_valid`. -/
def Ty.tryFromBytes (tg : Target) (t : Ty) : TryFromBytes :=
  ⟨.forType (t.layout tg), t.isBitValid tg⟩

/-! ### What the tables promise -/

section Tables

variable (tg : Target)

/-- The element `i` of a run of zeros is zeros. -/
theorem take_drop_replicate_zero {size n i : Nat} (inside : i < n) :
    ((List.replicate (size * n) (0 : UInt8)).drop (i * size)).take size =
      List.replicate size 0 := by
  have room : size ≤ size * n - i * size := by
    have := Nat.mul_le_mul_left size (Nat.succ_le_of_lt inside)
    rw [Nat.mul_succ, Nat.mul_comm size i] at this
    omega
  rw [List.drop_replicate, List.take_replicate, Nat.min_eq_left room]

/-- A primitive type that the table makes `FromBytes` has no closure: it accepts every candidate. -/
theorem Prim.isBitValid_of_fromBytes {p : Prim} (fromBytes : p.traits.contains .fromBytes = true)
    (bytes : List UInt8) : p.isBitValid tg bytes = true := by
  rcases p with _ | w | _ | _ | _ | _ | w | w | _ | _ | _ <;> (try cases w) <;>
    first | rfl | exact absurd fromBytes (by decide)

/-- A primitive type that the table makes `FromZeros` accepts zeros: they read as the integer zero,
which is below two and a `char`, and they are a null pointer. -/
theorem Prim.isBitValid_zeros_of_fromZeros {p : Prim}
    (fromZeros : p.traits.contains .fromZeros = true) :
    p.isBitValid tg (List.replicate (p.size tg) 0) = true := by
  rcases p with _ | w | _ | _ | _ | _ | w | w | _ | _ | _ <;> (try cases w) <;>
    first | rfl | exact absurd fromZeros (by decide) | exact (isZeroed_iff _).mpr (by simp) |
      (simp only [Prim.isBitValid, Target.read_replicate_zero]; decide)

/-- A primitive type that the table makes `Unaligned` has alignment one. -/
theorem Prim.align_of_unaligned {p : Prim} (unaligned : p.traits.contains .unaligned = true) :
    p.align tg = 1 := by
  rcases p with _ | w | _ | _ | _ | _ | w | w | _ | _ | _ <;> (try cases w) <;>
    first | rfl | exact tg.intAlign_w8 | exact absurd unaligned (by decide)

/-- A `FromBytes` type's `is_bit_valid` accepts every candidate. -/
theorem Ty.isBitValid_of_fromBytes {t : Ty} (fromBytes : t.implements .fromBytes = true)
    (meta : PointerMetadata) (bytes : List UInt8) : t.isBitValid tg meta bytes = true := by
  induction t generalizing meta bytes with
  | prim p => exact Prim.isBitValid_of_fromBytes tg fromBytes bytes
  | array t _ ih => exact sliceIsBitValid_iff.mpr fun _ _ => ih fromBytes _ _
  | wrapper w t ih => cases w <;> first | rfl | exact ih fromBytes _ _

/-- A `FromZeros` type's `is_bit_valid` accepts the candidate of all zeros. -/
theorem Ty.isBitValid_zeros_of_fromZeros {t : Ty} (fromZeros : t.implements .fromZeros = true)
    (meta : PointerMetadata) : t.isBitValid tg meta (List.replicate (t.size tg) 0) = true := by
  induction t generalizing meta with
  | prim p => exact Prim.isBitValid_zeros_of_fromZeros tg fromZeros
  | array t n ih =>
    -- Every element of a run of zeros is a run of zeros of the element's size.
    apply sliceIsBitValid_iff.mpr
    intro i inside
    rw [show (Ty.array t n).size tg = t.size tg * n from rfl, layout_size,
      take_drop_replicate_zero inside]
    exact ih fromZeros _
  | wrapper w t ih => cases w <;> first | rfl | exact ih fromZeros _

/-- Through an exclusive pointer, `is_bit_valid` compiles wherever it does through a shared one. -/
theorem Ty.isBitValidCompiles_exclusive {t : Ty} (shared : t.isBitValidCompiles .shared = true) :
    t.isBitValidCompiles .exclusive = true := by
  induction t with
  | prim p => rfl
  | array t _ ih => exact ih shared
  | wrapper w t ih => cases w <;> simp_all [isBitValidCompiles]

/-- An `Immutable` type's `is_bit_valid` compiles through a shared pointer: no `UnsafeCell` in it
is reached. -/
theorem Ty.isBitValidCompiles_of_immutable {t : Ty} (immutable : t.implements .immutable = true) :
    t.isBitValidCompiles .shared = true := by
  induction t with
  | prim p => rfl
  | array t _ ih => exact ih immutable
  | wrapper w t ih => cases w <;> simp_all [implements, isBitValidCompiles]

/-- An `Unaligned` type has alignment one. -/
theorem Ty.align_of_unaligned {t : Ty} (unaligned : t.implements .unaligned = true) :
    t.align tg = 1 := by
  induction t with
  | prim p => exact Prim.align_of_unaligned tg unaligned
  | array t _ ih => exact ih unaligned
  | wrapper w t ih => cases w <;> exact ih unaligned

end Tables

/-- The trait tables agree with the checks on every target: `FromBytes` accepts every candidate,
`FromZeros` the zeros, `Immutable` compiles shared, and `Unaligned` has alignment one. -/
theorem trait_tables_sound (tg : Target) (t : Ty) :
    (t.implements .fromBytes = true → ∀ meta bytes, t.isBitValid tg meta bytes = true) ∧
    (t.implements .fromZeros = true →
      ∀ meta, t.isBitValid tg meta (List.replicate (t.size tg) 0) = true) ∧
    (t.implements .immutable = true →
      t.isBitValidCompiles .shared = true ∧ t.isBitValidCompiles .exclusive = true) ∧
    (t.implements .unaligned = true → t.align tg = 1) :=
  ⟨Ty.isBitValid_of_fromBytes tg, Ty.isBitValid_zeros_of_fromZeros tg,
    fun immutable => ⟨Ty.isBitValidCompiles_of_immutable immutable,
      Ty.isBitValidCompiles_exclusive (Ty.isBitValidCompiles_of_immutable immutable)⟩,
    Ty.align_of_unaligned tg⟩

end Zerocopy
