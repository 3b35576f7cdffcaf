import Zerocopy.Layout

/-! Byte slices: the four `SplitByteSlice` implementations, and the splits built on them. -/

namespace Zerocopy

/--
Why a computation stopped without returning: a panic and its message, or undefined behaviour at
an unsafe operation whose precondition did not hold.
-/
inductive Fault
  | panic (message : String)
  | undefined (operation : String)
deriving DecidableEq, Repr

/-- The `[u8]` a byte slice dereferences to: the address of its first byte, and its bytes. -/
structure Slice where
  addr : Nat
  data : List UInt8
deriving DecidableEq, Repr

namespace Slice

/-- `<[u8]>::len`. -/
def len (s : Slice) : Nat := s.data.length

/-- `s[..mid]`: the first `mid` bytes, at the same address. -/
def take (s : Slice) (mid : Nat) : Slice := ⟨s.addr, s.data.take mid⟩

/-- `s[mid..]`: the bytes from `mid` on, starting `mid` bytes further. -/
def drop (s : Slice) (mid : Nat) : Slice := ⟨s.addr + mid, s.data.drop mid⟩

/-- `slice::from_raw_parts_mut(ptr, len)` over the allocation that `s` covers. -/
def fromRawParts (s : Slice) (ptr len : Nat) : Slice := ⟨ptr, (s.data.drop (ptr - s.addr)).take len⟩

/-- `left` and then `right` tile `whole`: `left` starts where `whole` does, `right` starts right
after `left`, and their bytes concatenate to `whole`'s. -/
def IsSplit (whole left right : Slice) : Prop :=
  left.addr = whole.addr ∧ right.addr = whole.addr + left.len ∧ left.data ++ right.data = whole.data

/-- Two slices share no address. -/
def Disjoint (s t : Slice) : Prop := s.addr + s.len ≤ t.addr ∨ t.addr + t.len ≤ s.addr

/-- Where the halves of a split start, and what they hold. -/
@[simp] theorem take_addr (s : Slice) (mid : Nat) : (s.take mid).addr = s.addr := rfl
@[simp] theorem drop_addr (s : Slice) (mid : Nat) : (s.drop mid).addr = s.addr + mid := rfl
@[simp] theorem take_data (s : Slice) (mid : Nat) : (s.take mid).data = s.data.take mid := rfl
@[simp] theorem drop_data (s : Slice) (mid : Nat) : (s.drop mid).data = s.data.drop mid := rfl

/-- The front half is as long as the split point, within the slice. -/
@[simp] theorem len_take (s : Slice) (mid : Nat) : (s.take mid).len = min mid s.len := by
  simp [len]

/-- The back half is what remains past the split point. -/
@[simp] theorem len_drop (s : Slice) (mid : Nat) : (s.drop mid).len = s.len - mid := by
  simp [len]

/-- Splitting inside the slice tiles it with its two halves. -/
theorem isSplit_take_drop (s : Slice) {mid : Nat} (inside : mid ≤ s.len) :
    s.IsSplit (s.take mid) (s.drop mid) := by
  simp [IsSplit, inside]

/-- The halves of a split are as long as the whole together. -/
theorem IsSplit.len_add {whole left right : Slice} (split : whole.IsSplit left right) :
    left.len + right.len = whole.len := by
  simp only [len, ← split.2.2, List.length_append]

/-- A split of a slice is its split at the length of the front half. -/
theorem IsSplit.eq_take_drop {whole left right : Slice} (split : whole.IsSplit left right) :
    whole.take left.len = left ∧ whole.drop left.len = right := by
  obtain ⟨wa, wd⟩ := whole
  obtain ⟨la, ld⟩ := left
  obtain ⟨ra, rd⟩ := right
  obtain ⟨front, back, joined⟩ := split
  -- The front half's bytes are the first `left.len` of the whole's, the back half's the rest.
  simp only at front back joined
  subst front back joined
  simp [take, drop, len]

/-- The halves of a split share no address. -/
theorem IsSplit.disjoint {whole left right : Slice} (split : whole.IsSplit left right) :
    left.Disjoint right :=
  .inl (by rw [split.2.1, split.1])

end Slice

/-- `unchecked_sub`: the difference, or undefined behaviour when it would go below zero. -/
def uncheckedSub (a b : Nat) : Except Fault Nat :=
  if b ≤ a then .ok (a - b) else .error (.undefined "usize::unchecked_sub")

/-- Within range, `unchecked_sub` is the difference. -/
@[simp] theorem uncheckedSub_of_le {a b : Nat} (within : b ≤ a) :
    uncheckedSub a b = .ok (a - b) := by
  simp [uncheckedSub, within]

/-- The byte-slice types `B` that implement `SplitByteSlice`. -/
inductive ByteSlice
  /-- `&[u8]`. -/
  | ref
  /-- `&mut [u8]`. -/
  | refMut
  /-- `cell::Ref<[u8]>`. -/
  | cellRef
  /-- `cell::RefMut<[u8]>`. -/
  | cellRefMut
deriving DecidableEq, Repr

/-- `split_at_unchecked` for `&[u8]`: both halves by `get_unchecked`. -/
def splitAtUncheckedRef (s : Slice) (mid : Nat) : Except Fault (Slice × Slice) :=
  if mid ≤ s.len then .ok (s.take mid, s.drop mid) else .error (.undefined "<[u8]>::get_unchecked")

/-- `split_at_unchecked` for `&mut [u8]`: both halves rebuilt from raw pointers and lengths. -/
def splitAtUncheckedRefMut (s : Slice) (mid : Nat) : Except Fault (Slice × Slice) := do
  let lPtr := s.addr
  let rPtr := lPtr + mid
  let lLen := mid
  let rLen ← uncheckedSub s.len mid
  return (s.fromRawParts lPtr lLen, s.fromRawParts rPtr rLen)

/--
`SplitByteSlice::split_at_unchecked` of each implementation. The `cell` guards split through
`map_split`, which hands the borrowed slice to the split of `&[u8]` or `&mut [u8]`.
-/
def ByteSlice.splitAtUnchecked : ByteSlice → Slice → Nat → Except Fault (Slice × Slice)
  | .ref, s, mid => splitAtUncheckedRef s mid
  | .refMut, s, mid => splitAtUncheckedRefMut s mid
  | .cellRef, s, mid => splitAtUncheckedRef s mid
  | .cellRefMut, s, mid => splitAtUncheckedRefMut s mid

/-- Within the slice, every implementation splits at `mid` into `s[..mid]` and `s[mid..]`. -/
theorem ByteSlice.splitAtUnchecked_of_le (B : ByteSlice) {s : Slice} {mid : Nat}
    (inside : mid ≤ s.len) : B.splitAtUnchecked s mid = .ok (s.take mid, s.drop mid) := by
  -- The raw-pointer split rebuilds the same two ranges of the allocation.
  have right : (s.data.drop mid).take (s.len - mid) = s.data.drop mid := by simp [Slice.len]
  cases B <;>
    simp [splitAtUnchecked, splitAtUncheckedRef, splitAtUncheckedRefMut, inside, Slice.fromRawParts,
      Slice.take, Slice.drop, right, bind, Except.bind, pure, Except.pure]

/-- `try_split_at`: the split at `mid`, or the slice back when `mid` is past its end. -/
def trySplitAt (B : ByteSlice) (slice : Slice) (mid : Nat) :
    Except Fault (Except Slice (Slice × Slice)) :=
  if mid ≤ slice.len then Except.ok <$> B.splitAtUnchecked slice mid else pure (.error slice)

/-- `SplitByteSlice::split_at`: the split at `mid`, panicking when `mid` is past the end. -/
def ByteSlice.splitAt (B : ByteSlice) (slice : Slice) (mid : Nat) :
    Except Fault (Slice × Slice) := do
  match ← trySplitAt B slice mid with
  | .ok splits => pure splits
  | .error _ => throw (.panic "mid > len")

/--
`try_split_at` never reaches undefined behaviour: it splits when `mid` is inside the slice and
gives the slice back otherwise.
-/
theorem trySplitAt_eq (B : ByteSlice) (slice : Slice) (mid : Nat) :
    trySplitAt B slice mid =
      .ok (if mid ≤ slice.len then .ok (slice.take mid, slice.drop mid) else .error slice) := by
  -- Inside the slice, every byte-slice type splits at `mid`; outside, nothing is split.
  unfold trySplitAt
  split
  · rename_i inside
    simp [B.splitAtUnchecked_of_le inside, Functor.map, Except.map]
  · rfl

/-- `try_split_at` at the length of a split's front half returns that split. -/
theorem trySplitAt_of_isSplit (B : ByteSlice) {whole left right : Slice}
    (split : whole.IsSplit left right) : trySplitAt B whole left.len = .ok (.ok (left, right)) := by
  have inside : left.len ≤ whole.len := split.len_add ▸ Nat.le_add_right _ _
  rw [trySplitAt_eq, if_pos inside, split.eq_take_drop.1, split.eq_take_drop.2]

/-- Inside the slice, `split_at` splits without panicking. -/
theorem ByteSlice.splitAt_of_le (B : ByteSlice) {slice : Slice} {mid : Nat}
    (inside : mid ≤ slice.len) : B.splitAt slice mid = .ok (slice.take mid, slice.drop mid) := by
  simp [splitAt, trySplitAt_eq, inside, bind, Except.bind, pure, Except.pure]

end Zerocopy
