import Zerocopy.Values
import Zerocopy.IntoBytes
import Zerocopy.Compose

/-! `transmute!`, `transmute_ref!` and `transmute_mut!`: the checks each macro makes before it
compiles, and that what it reinterprets, once they pass, is a value of its new type. -/

namespace Zerocopy

/-! ### The checks -/

/-- The checks of `transmute!`: its `false` branch asks `Src: IntoBytes` and `Dst: FromBytes`, and
`core::mem::transmute` asks for equal sizes. -/
def transmuteCompiles (tg : Target) (src dst : Ty) : Bool :=
  src.implements .intoBytes && dst.implements .fromBytes && src.size tg == dst.size tg

/-- The checks of `transmute_ref!`: `Src: IntoBytes + Immutable` and `Dst: FromBytes + Immutable`,
then `assert_size_eq!` and `assert_align_gt_eq!`. -/
def transmuteRefCompiles (tg : Target) (src dst : Ty) : Bool :=
  src.implements .intoBytes && src.implements .immutable && dst.implements .fromBytes &&
    dst.implements .immutable && src.size tg == dst.size tg && decide (dst.align tg ≤ src.align tg)

/-- The checks of `transmute_mut!`: both types `FromBytes + IntoBytes`, equal sizes and no greater
alignment, but not the `Immutable` its documented signature asks for. -/
def transmuteMutCompiles (tg : Target) (src dst : Ty) : Bool :=
  src.implements .fromBytes && src.implements .intoBytes && dst.implements .fromBytes &&
    dst.implements .intoBytes && src.size tg == dst.size tg && decide (dst.align tg ≤ src.align tg)

/-- Not in the source: `macro_util::transmute_ref` and `transmute_mut`. From the macros' safety
comments: the reference cast to the destination type, keeping its address and bytes. -/
def Ref.transmute {B : ByteSlice} {S : Layout} (D : Layout) (r : Ref B (.forType S)) :
    Ref B (.forType D) :=
  ⟨r.bytes⟩

section Checks

variable {tg : Target} {src dst : Ty}

/-- An address aligned for a type is aligned for any type of no greater alignment: alignments are
powers of two, so the smaller divides the larger. -/
theorem aligned_of_align_le (below : dst.align tg ≤ src.align tg) {addr : Nat}
    (aligned : addr % src.align tg = 0) : addr % dst.align tg = 0 :=
  Nat.mod_eq_zero_of_dvd (Nat.dvd_trans
    (dvd_of_isPowerOfTwo_le (dst.align_isPowerOfTwo tg) (src.align_isPowerOfTwo tg) below)
    (Nat.dvd_of_mod_eq_zero aligned))

/-- A well-formed reference cast to a type of the same size and no greater alignment is
well-formed. -/
theorem Ref.transmute_invariant {B : ByteSlice} {r : Ref B (.forType (src.layout tg))}
    (inv : r.Invariant) (size : src.size tg = dst.size tg) (below : dst.align tg ≤ src.align tg) :
    (r.transmute (dst.layout tg)).Invariant :=
  ⟨aligned_of_align_le below inv.1, inv.2.trans size⟩

/-- Bytes of the size of a `FromBytes` type hold exactly one value of it. -/
theorem existsUnique_encode_of_fromBytes (fromBytes : dst.implements .fromBytes = true)
    {bytes : List UInt8} (size : bytes.length = dst.size tg) : ∃! w, dst.encode tg w = bytes :=
  Ty.existsUnique_encode tg size (Ty.isBitValid_of_fromBytes tg fromBytes .unit bytes)

end Checks

/-! ### What the macros return -/

/-- `transmute!` and `transmute_ref!` never make an invalid value: the bytes of a `Src` hold
exactly one `Dst`, and the `&Dst` keeps the invariant of the `&Src` it came from. -/
theorem transmute_sound (tg : Target) (src dst : Ty) :
    (transmuteCompiles tg src dst = true →
      ∀ v : src.Value tg, ∃! w : dst.Value tg, dst.encode tg w = src.encode tg v) ∧
    (transmuteRefCompiles tg src dst = true →
      ∀ {B : ByteSlice} (r : Ref B (.forType (src.layout tg))), r.Invariant →
        (r.transmute (dst.layout tg)).Invariant ∧
          ∃! w : dst.Value tg, dst.encode tg w = (r.transmute (dst.layout tg)).bytes.data) := by
  -- Equal sizes and `Dst: FromBytes` give the value; the alignment check keeps the address
  -- aligned.
  refine ⟨fun compiles v => ?_, fun compiles B r inv => ?_⟩
  · simp only [transmuteCompiles, Bool.and_eq_true, beq_iff_eq] at compiles
    exact existsUnique_encode_of_fromBytes compiles.1.2 ((src.length_encode tg v).trans compiles.2)
  · simp only [transmuteRefCompiles, Bool.and_eq_true, beq_iff_eq, decide_eq_true_eq] at compiles
    obtain ⟨⟨⟨⟨_, fromBytes⟩, _⟩, size⟩, below⟩ := compiles
    exact ⟨Ref.transmute_invariant inv size below,
      existsUnique_encode_of_fromBytes fromBytes (inv.2.trans size)⟩

/-- Any reads and writes through `transmute_mut!`'s `&mut Dst` run without a fault, every read is
one `Dst`, and the bytes left, at the same address, are one `Src`. -/
theorem transmuteMut_sound (tg : Target) (src dst : Ty)
    (compiles : transmuteMutCompiles tg src dst = true) (r : Ref .refMut (.forType (src.layout tg)))
    (inv : r.Invariant) (ops : List (Ref.Op (dst.layout tg))) :
    ∃ last reads, (r.transmute (dst.layout tg)).run ops = .ok (last, reads) ∧
      (∀ x ∈ reads, ∃! w : dst.Value tg, dst.encode tg w = x.val) ∧
      last.bytes.addr = r.bytes.addr ∧ ∃! v : src.Value tg, src.encode tg v = last.bytes.data := by
  -- The `&mut Dst` is a store over the same bytes, and both types are `FromBytes`, so every byte
  -- string of their size is a value of either.
  simp only [transmuteMutCompiles, Bool.and_eq_true, beq_iff_eq, decide_eq_true_eq] at compiles
  obtain ⟨⟨⟨⟨⟨srcFromBytes, _⟩, dstFromBytes⟩, _⟩, size⟩, below⟩ := compiles
  let held : (dst.layout tg).Value := ⟨r.bytes.data, inv.2.trans size⟩
  have holds : (r.transmute (dst.layout tg)).bytes.data = held.val := rfl
  refine ⟨_, _, Ref.run_eq ops (Ref.transmute_invariant inv size below) holds,
    fun x _ => existsUnique_encode_of_fromBytes dstFromBytes x.property, rfl, ?_⟩
  exact existsUnique_encode_of_fromBytes srcFromBytes
    ((cellRun held ops).2.property.trans size.symm)

/-- A `u32` seen through `transmute_mut!` as `[u8; 4]`, overwritten and read back: the read sees
`[5, 6, 7, 8]`, which holds one `[u8; 4]`, and the bytes left hold one `u32`. -/
theorem transmuteMut_sound_u32 :
    transmuteMutCompiles Target.x86_64 (.prim (.int .w32)) (.array (.prim (.int .w8)) 4) = true ∧
      ∃ last reads,
        (Ref.transmute ((Ty.array (.prim (.int .w8)) 4).layout Target.x86_64)
          (⟨⟨0, [1, 2, 3, 4]⟩⟩ :
            Ref .refMut (.forType ((Ty.prim (.int .w32)).layout Target.x86_64)))).run
          [.write ⟨[5, 6, 7, 8], rfl⟩, .read] = .ok (last, reads) ∧
        (∀ x ∈ reads, ∃! w : (Ty.array (.prim (.int .w8)) 4).Value Target.x86_64,
          (Ty.array (.prim (.int .w8)) 4).encode Target.x86_64 w = x.val) ∧
        last.bytes.addr = 0 ∧
        ∃! v : (Ty.prim (.int .w32)).Value Target.x86_64,
          (Ty.prim (.int .w32)).encode Target.x86_64 v = last.bytes.data :=
  ⟨rfl, transmuteMut_sound Target.x86_64 (.prim (.int .w32)) (.array (.prim (.int .w8)) 4) rfl
    ⟨⟨0, [1, 2, 3, 4]⟩⟩ ⟨rfl, rfl⟩ [.write ⟨[5, 6, 7, 8], rfl⟩, .read]⟩

end Zerocopy
