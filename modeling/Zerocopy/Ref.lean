import Zerocopy.Cast

/-! `Ref`, a byte slice read as a `T`: its constructors, and the ways back to the `T`. -/

namespace Zerocopy

/-- `Ref<B, T>`: a byte slice of type `B`, read as a `T`. It keeps its bytes and nothing else. -/
structure Ref (B : ByteSlice) (T : DstLayout) where
  bytes : Slice
deriving DecidableEq, Repr

/-- A value of a sized type `T`: its bytes, exactly `mem::size_of::<T>()` of them. -/
def Layout.Value (T : Layout) : Type := {v : List UInt8 // v.length = T.size}

/-- Values are compared byte for byte. -/
instance (T : Layout) : DecidableEq T.Value :=
  inferInstanceAs (DecidableEq {v : List UInt8 // v.length = T.size})

namespace Ref

variable {B : ByteSlice} {T : DstLayout}

/-- `Ref::new_unchecked`. Its safety condition, that the bytes are aligned and sized for `T`, is
the caller's to keep. -/
def newUnchecked (bytes : Slice) : Ref B T := ⟨bytes⟩

/-- The invariant of `Ref`: its bytes are aligned for `T`, and as long as some value of `T`. -/
def Invariant (r : Ref B T) : Prop := alignedTo r.bytes T.align ∧ T.ValidSize r.bytes.len

/-- `Clone` (and `Copy`) for `Ref<&[u8], T>`, the one `CloneableByteSlice`: the same slice. -/
def clone (r : Ref .ref T) : Ref .ref T := ⟨r.bytes⟩

end Ref

/-! ### Constructors for sized types -/

/-- `Ref::sized_from`: the whole slice as a sized `T`, checking its size and then its alignment. -/
def Ref.sizedFrom (B : ByteSlice) (T : Layout) (bytes : Slice) :
    Except (CastError Slice) (Ref B (.forType T)) :=
  if bytes.len ≠ T.size then .error (.size bytes)
  else if ¬alignedTo bytes T.align then .error (.alignment bytes)
  else .ok (.newUnchecked bytes)

/-- `Ref::sized_from_prefix`: a sized `T` from the front of the slice, and the bytes after it. -/
def Ref.sizedFromPrefix (B : ByteSlice) (T : Layout) (bytes : Slice) :
    Except Fault (Except (CastError Slice) (Ref B (.forType T) × Slice)) := do
  if bytes.len < T.size then return .error (.size bytes)
  if ¬alignedTo bytes T.align then return .error (.alignment bytes)
  match ← trySplitAt B bytes T.size with
  | .error b => return .error (.size b)
  | .ok (bytes, suffix) => return .ok (.newUnchecked bytes, suffix)

/-- `Ref::sized_from_suffix`: the bytes before a sized `T`, and the `T` from the back of the slice.
The alignment error carries the back of the slice, which the split has already taken. -/
def Ref.sizedFromSuffix (B : ByteSlice) (T : Layout) (bytes : Slice) :
    Except Fault (Except (CastError Slice) (Slice × Ref B (.forType T))) := do
  let bytesLen := bytes.len
  let some splitAt := checkedSub bytesLen T.size | return .error (.size bytes)
  match ← trySplitAt B bytes splitAt with
  | .error b => return .error (.size b)
  | .ok (before, bytes) =>
    if ¬alignedTo bytes T.align then return .error (.alignment bytes)
    return .ok (before, .newUnchecked bytes)

/-! ### Constructors through the cast engine -/

/-- `Ref::from`: the whole slice as a `T`, by the exact cast. An error carries the slice back. -/
def Ref.from (usizeMax : Nat) (B : ByteSlice) (T : DstLayout) (bytes : Slice) :
    Except (CastError Slice) (Ref B T) :=
  match tryCastIntoNoLeftover usizeMax T bytes none with
  | .error e => .error (e.mapSrc fun _ => bytes)
  | .ok _ => .ok (.newUnchecked bytes)

/-- `Ref::from_prefix`: a `T` from the front of the slice, split off where the engine's
remainder starts. -/
def Ref.fromPrefix (usizeMax : Nat) (B : ByteSlice) (T : DstLayout) (bytes : Slice) :
    Except Fault (Except (CastError Slice) (Ref B T × Slice)) := do
  match tryCastInto usizeMax T bytes .Prefix none with
  | .error e => return .error (e.mapSrc fun _ => bytes)
  | .ok (_, remainder) =>
    let splitAt ← uncheckedSub bytes.len remainder.len
    match ← trySplitAt B bytes splitAt with
    | .error b => return .error (.size b)
    | .ok (bytes, suffix) => return .ok (.newUnchecked bytes, suffix)

/-- `Ref::from_suffix`: a `T` from the back of the slice, split off where the engine's remainder
ends. -/
def Ref.fromSuffix (usizeMax : Nat) (B : ByteSlice) (T : DstLayout) (bytes : Slice) :
    Except Fault (Except (CastError Slice) (Slice × Ref B T)) := do
  match tryCastInto usizeMax T bytes .Suffix none with
  | .error e => return .error (e.mapSrc fun _ => bytes)
  | .ok (_, remainder) =>
    let splitAt := remainder.len
    match ← trySplitAt B bytes splitAt with
    | .error b => return .error (.size b)
    | .ok (before, bytes) => return .ok (before, .newUnchecked bytes)

/-- `Ref::from_prefix_with_elems`: a slice DST with `count` trailing elements from the front of
the slice. It splits off the bytes such a `T` needs, then casts them with `Ref::from`. -/
def Ref.fromPrefixWithElems (usizeMax : Nat) (B : ByteSlice) (T : DstLayout) (bytes : Slice)
    (count : Nat) : Except Fault (Except (CastError Slice) (Ref B T × Slice)) := do
  let some expectedLen := (PointerMetadata.count count).sizeForMetadata usizeMax T
    | return .error (.size bytes)
  if bytes.len < expectedLen then return .error (.size bytes)
  let (before, bytes) ← B.splitAt bytes expectedLen
  return (Ref.from usizeMax B T before).map fun l => (l, bytes)

/-- `Ref::from_suffix_with_elems`: a slice DST with `count` trailing elements from the back of the
slice. -/
def Ref.fromSuffixWithElems (usizeMax : Nat) (B : ByteSlice) (T : DstLayout) (bytes : Slice)
    (count : Nat) : Except Fault (Except (CastError Slice) (Slice × Ref B T)) := do
  let some expectedLen := (PointerMetadata.count count).sizeForMetadata usizeMax T
    | return .error (.size bytes)
  let some splitAt := checkedSub bytes.len expectedLen | return .error (.size bytes)
  let (bytes, suffix) ← B.splitAt bytes splitAt
  return (Ref.from usizeMax B T suffix).map fun l => (bytes, l)

/-! ### Constructors for unaligned types -/

/-- The error map of the `unaligned_*` constructors and `read_from*`: a size error passes, an
alignment error is `unreachable!()`, and a validity error cannot be built. -/
def unalignedSizeError {Src α : Type} : Except (CastError Src) α → Except Fault (Except Src α)
  | .ok r => .ok (.ok r)
  | .error (.size e) => .ok (.error e)
  | .error (.alignment _) => .error (.panic "internal error: entered unreachable code")
  | .error (.validity impossible) => nomatch impossible

/-- `Ref::unaligned_from`. -/
def Ref.unalignedFrom (usizeMax : Nat) (B : ByteSlice) (T : DstLayout) (bytes : Slice) :
    Except Fault (Except Slice (Ref B T)) :=
  unalignedSizeError (Ref.from usizeMax B T bytes)

/-- `Ref::unaligned_from_prefix`. -/
def Ref.unalignedFromPrefix (usizeMax : Nat) (B : ByteSlice) (T : DstLayout) (bytes : Slice) :
    Except Fault (Except Slice (Ref B T × Slice)) := do
  unalignedSizeError (← Ref.fromPrefix usizeMax B T bytes)

/-- `Ref::unaligned_from_suffix`. -/
def Ref.unalignedFromSuffix (usizeMax : Nat) (B : ByteSlice) (T : DstLayout) (bytes : Slice) :
    Except Fault (Except Slice (Slice × Ref B T)) := do
  unalignedSizeError (← Ref.fromSuffix usizeMax B T bytes)

/-- `Ref::unaligned_from_prefix_with_elems`. -/
def Ref.unalignedFromPrefixWithElems (usizeMax : Nat) (B : ByteSlice) (T : DstLayout)
    (bytes : Slice) (count : Nat) : Except Fault (Except Slice (Ref B T × Slice)) := do
  unalignedSizeError (← Ref.fromPrefixWithElems usizeMax B T bytes count)

/-- `Ref::unaligned_from_suffix_with_elems`. -/
def Ref.unalignedFromSuffixWithElems (usizeMax : Nat) (B : ByteSlice) (T : DstLayout)
    (bytes : Slice) (count : Nat) : Except Fault (Except Slice (Slice × Ref B T)) := do
  unalignedSizeError (← Ref.fromSuffixWithElems usizeMax B T bytes count)

/-! ### From a `Ref` back to its `T` -/

namespace Ref

variable {B : ByteSlice} {T : DstLayout}

/-- The re-cast of a `Ref`'s bytes that `Deref::deref`, `DerefMut::deref_mut`, `Ref::into_ref`
and `Ref::into_mut` make, each `expect`ing it to succeed with its own message. -/
def recast (usizeMax : Nat) (message : String) (r : Ref B T) : Except Fault Ptr :=
  match tryCastIntoNoLeftover usizeMax T r.bytes none with
  | .ok ptr => .ok ptr
  | .error _ => .error (.panic message)

/-- `Deref::deref`. -/
def deref (usizeMax : Nat) (r : Ref B T) : Except Fault Ptr :=
  r.recast usizeMax "zerocopy internal error: Deref::deref should be infallible"

/-- `DerefMut::deref_mut`. -/
def derefMut (usizeMax : Nat) (r : Ref B T) : Except Fault Ptr :=
  r.recast usizeMax "zerocopy internal error: DerefMut::deref_mut should be infallible"

/-- `Ref::into_ref`. -/
def intoRef (usizeMax : Nat) (r : Ref B T) : Except Fault Ptr :=
  r.recast usizeMax "zerocopy internal error: into_ref should be infallible"

/-- `Ref::into_mut`, whose `expect` message is the one of `into_ref`. -/
def intoMut (usizeMax : Nat) (r : Ref B T) : Except Fault Ptr :=
  r.recast usizeMax "zerocopy internal error: into_ref should be infallible"

end Ref

/-- `ptr::read` of a `T` at the start of `bytes`: undefined behaviour unless they are aligned for
`T` and hold at least one. -/
def ptrRead (T : Layout) (bytes : Slice) : Except Fault T.Value :=
  if fits : alignedTo bytes T.align ∧ T.size ≤ bytes.len then
    .ok ⟨bytes.data.take T.size, by simp only [List.length_take]; exact Nat.min_eq_left fits.2⟩
  else .error (.undefined "ptr::read")

/-- `ptr::write` of `t` at the start of `bytes`, which keeps their bytes after the first `T`. -/
def ptrWrite (T : Layout) (bytes : Slice) (t : T.Value) : Except Fault Slice :=
  if alignedTo bytes T.align ∧ T.size ≤ bytes.len then
    .ok ⟨bytes.addr, t.val ++ bytes.data.drop T.size⟩
  else .error (.undefined "ptr::write")

/-- `Ref::read`: a copy of the `T` the bytes hold. -/
def Ref.read {B : ByteSlice} (T : Layout) (r : Ref B (.forType T)) : Except Fault T.Value :=
  ptrRead T r.bytes

/-- `Ref::write`: writes `t` over the bytes. -/
def Ref.write {B : ByteSlice} (T : Layout) (r : Ref B (.forType T)) (t : T.Value) :
    Except Fault (Ref B (.forType T)) :=
  (ptrWrite T r.bytes t).map Ref.mk

end Zerocopy
