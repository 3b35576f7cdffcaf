import Zerocopy.Ref

/-! `FromBytes` and `TryFromBytes`: references cast out of bytes, and copies read out of them. -/

namespace Zerocopy

/-! ### `FromBytes` -/

/-- `FromBytes::ref_from`: the whole slice as a `&T`, by the exact cast. `map_src` turns the
engine's pointer back into the same slice. -/
def refFrom (usizeMax : Nat) (T : DstLayout) (bytes : Slice) : Except (CastError Slice) Ptr :=
  tryCastIntoNoLeftover usizeMax T bytes none

/-- `FromBytes::mut_from`, the same cast through an exclusive pointer. -/
def mutFrom (usizeMax : Nat) (T : DstLayout) (bytes : Slice) : Except (CastError Slice) Ptr :=
  tryCastIntoNoLeftover usizeMax T bytes none

/-- `ref_from_prefix_suffix`: the engine's prefix or suffix cast, as a `&T` and the other bytes. -/
def refFromPrefixSuffix (usizeMax : Nat) (T : DstLayout) (bytes : Slice)
    (meta : Option PointerMetadata) (castType : CastType) :
    Except (CastError Slice) (Ptr × Slice) :=
  tryCastInto usizeMax T bytes castType meta

/-- `mut_from_prefix_suffix`, the same cast through an exclusive pointer. -/
def mutFromPrefixSuffix (usizeMax : Nat) (T : DstLayout) (bytes : Slice)
    (meta : Option PointerMetadata) (castType : CastType) :
    Except (CastError Slice) (Ptr × Slice) :=
  tryCastInto usizeMax T bytes castType meta

/-- `FromBytes::ref_from_prefix`. -/
def refFromPrefix (usizeMax : Nat) (T : DstLayout) (bytes : Slice) :
    Except (CastError Slice) (Ptr × Slice) :=
  refFromPrefixSuffix usizeMax T bytes none .Prefix

/-- `FromBytes::ref_from_suffix`, whose pair `swap` puts the bytes before the `&T`. -/
def refFromSuffix (usizeMax : Nat) (T : DstLayout) (bytes : Slice) :
    Except (CastError Slice) (Slice × Ptr) :=
  (refFromPrefixSuffix usizeMax T bytes none .Suffix).map Prod.swap

/-- `FromBytes::mut_from_prefix`. -/
def mutFromPrefix (usizeMax : Nat) (T : DstLayout) (bytes : Slice) :
    Except (CastError Slice) (Ptr × Slice) :=
  mutFromPrefixSuffix usizeMax T bytes none .Prefix

/-- `FromBytes::mut_from_suffix`. -/
def mutFromSuffix (usizeMax : Nat) (T : DstLayout) (bytes : Slice) :
    Except (CastError Slice) (Slice × Ptr) :=
  (mutFromPrefixSuffix usizeMax T bytes none .Suffix).map Prod.swap

/-- `FromBytes::ref_from_with_trailing_elements`: the whole slice as a `&T` with `count`
trailing elements. -/
def refFromWithTrailingElements (usizeMax : Nat) (T : DstLayout) (bytes : Slice) (count : Nat) :
    Except (CastError Slice) Ptr :=
  tryCastIntoNoLeftover usizeMax T bytes (some (.count count))

/-- `FromBytes::mut_from_with_trailing_elements`, the same cast through an exclusive pointer. -/
def mutFromWithTrailingElements (usizeMax : Nat) (T : DstLayout) (bytes : Slice) (count : Nat) :
    Except (CastError Slice) Ptr :=
  tryCastIntoNoLeftover usizeMax T bytes (some (.count count))

/-- `FromBytes::ref_from_prefix_with_trailing_elements`. -/
def refFromPrefixWithTrailingElements (usizeMax : Nat) (T : DstLayout) (bytes : Slice)
    (count : Nat) : Except (CastError Slice) (Ptr × Slice) :=
  refFromPrefixSuffix usizeMax T bytes (some (.count count)) .Prefix

/-- `FromBytes::ref_from_suffix_with_trailing_elements`. -/
def refFromSuffixWithTrailingElements (usizeMax : Nat) (T : DstLayout) (bytes : Slice)
    (count : Nat) : Except (CastError Slice) (Slice × Ptr) :=
  (refFromPrefixSuffix usizeMax T bytes (some (.count count)) .Suffix).map Prod.swap

/-- `FromBytes::mut_from_prefix_with_trailing_elements`. -/
def mutFromPrefixWithTrailingElements (usizeMax : Nat) (T : DstLayout) (bytes : Slice)
    (count : Nat) : Except (CastError Slice) (Ptr × Slice) :=
  mutFromPrefixSuffix usizeMax T bytes (some (.count count)) .Prefix

/-- `FromBytes::mut_from_suffix_with_trailing_elements`. -/
def mutFromSuffixWithTrailingElements (usizeMax : Nat) (T : DstLayout) (bytes : Slice)
    (count : Nat) : Except (CastError Slice) (Slice × Ptr) :=
  (mutFromPrefixSuffix usizeMax T bytes (some (.count count)) .Suffix).map Prod.swap

/-- `Unalign::into_inner`: the `T` an `Unalign<T>` holds, the same bytes. -/
def Layout.intoInner {T : Layout} (v : T.unalign.Value) : T.Value := v

/-- `FromBytes::read_from`: a copy of the `T` the whole slice holds, read through a
`Ref<&[u8], Unalign<T>>`. -/
def readFrom (T : Layout) (bytes : Slice) : Except Fault (Except Slice T.Value) := do
  match ← unalignedSizeError (Ref.sizedFrom .ref T.unalign bytes) with
  | .ok r => return .ok (Layout.intoInner (← r.read T.unalign))
  | .error e => return .error e

/-- `FromBytes::read_from_prefix`: a copy of the `T` at the front of the slice. -/
def readFromPrefix (T : Layout) (bytes : Slice) : Except Fault (Except Slice T.Value) := do
  match ← unalignedSizeError (← Ref.sizedFromPrefix .ref T.unalign bytes) with
  | .ok (r, _) => return .ok (Layout.intoInner (← r.read T.unalign))
  | .error e => return .error e

/-- `FromBytes::read_from_suffix`: a copy of the `T` at the back of the slice. Its error is a
`CastError`, always of the size kind. -/
def readFromSuffix (T : Layout) (bytes : Slice) :
    Except Fault (Except (CastError Slice) T.Value) := do
  match ← unalignedSizeError (← Ref.sizedFromSuffix .ref T.unalign bytes) with
  | .ok (_, r) => return .ok (Layout.intoInner (← r.read T.unalign))
  | .error e => return .error (.size e)

/-! ### `TryFromBytes` -/

/-- A `TryFromBytes` type: its `KnownLayout::LAYOUT`, and `is_bit_valid`, which sees a candidate's
metadata and bytes. -/
structure TryFromBytes where
  layout : DstLayout
  isBitValid : PointerMetadata → List UInt8 → Bool

/-- Modelled from the spec: `Ptr::try_into_valid`, whose `pointer` module is not in the source.
The candidate once `is_bit_valid` accepts it, else a validity error that carries it. -/
def tryIntoValid (T : TryFromBytes) (candidate : Ptr) : Except Ptr Ptr :=
  if T.isBitValid candidate.meta candidate.region.data then .ok candidate else .error candidate

/-- `TryFromBytes::try_ref_from`: the exact cast, then the validity check. A validity error
carries the candidate's bytes. -/
def tryRefFrom (usizeMax : Nat) (T : TryFromBytes) (candidate : Slice) :
    Except (TryCastError Slice) Ptr :=
  match tryCastIntoNoLeftover usizeMax T.layout candidate none with
  | .ok candidate =>
    match tryIntoValid T candidate with
    | .ok valid => .ok valid
    | .error e => .error (.validity e.region)
  | .error e => .error e.toTry

/-- `TryFromBytes::try_mut_from`, the same through an exclusive pointer. -/
def tryMutFrom (usizeMax : Nat) (T : TryFromBytes) (bytes : Slice) :
    Except (TryCastError Slice) Ptr :=
  tryRefFrom usizeMax T bytes

/-- `try_ref_from_prefix_suffix`: the prefix or suffix cast, then the validity check of the
candidate. A validity error carries the candidate's bytes. -/
def tryRefFromPrefixSuffix (usizeMax : Nat) (T : TryFromBytes) (candidate : Slice)
    (castType : CastType) (meta : Option PointerMetadata) :
    Except (TryCastError Slice) (Ptr × Slice) :=
  match tryCastInto usizeMax T.layout candidate castType meta with
  | .ok (candidate, prefixSuffix) =>
    match tryIntoValid T candidate with
    | .ok valid => .ok (valid, prefixSuffix)
    | .error e => .error (.validity e.region)
  | .error e => .error e.toTry

/-- `try_mut_from_prefix_suffix`, the same through an exclusive pointer. -/
def tryMutFromPrefixSuffix (usizeMax : Nat) (T : TryFromBytes) (candidate : Slice)
    (castType : CastType) (meta : Option PointerMetadata) :
    Except (TryCastError Slice) (Ptr × Slice) :=
  tryRefFromPrefixSuffix usizeMax T candidate castType meta

/-- `TryFromBytes::try_ref_from_prefix`. -/
def tryRefFromPrefix (usizeMax : Nat) (T : TryFromBytes) (candidate : Slice) :
    Except (TryCastError Slice) (Ptr × Slice) :=
  tryRefFromPrefixSuffix usizeMax T candidate .Prefix none

/-- `TryFromBytes::try_ref_from_suffix`. -/
def tryRefFromSuffix (usizeMax : Nat) (T : TryFromBytes) (candidate : Slice) :
    Except (TryCastError Slice) (Slice × Ptr) :=
  (tryRefFromPrefixSuffix usizeMax T candidate .Suffix none).map Prod.swap

/-- `TryFromBytes::try_mut_from_prefix`. -/
def tryMutFromPrefix (usizeMax : Nat) (T : TryFromBytes) (candidate : Slice) :
    Except (TryCastError Slice) (Ptr × Slice) :=
  tryMutFromPrefixSuffix usizeMax T candidate .Prefix none

/-- `TryFromBytes::try_mut_from_suffix`. -/
def tryMutFromSuffix (usizeMax : Nat) (T : TryFromBytes) (candidate : Slice) :
    Except (TryCastError Slice) (Slice × Ptr) :=
  (tryMutFromPrefixSuffix usizeMax T candidate .Suffix none).map Prod.swap

/-- `TryFromBytes::try_read_from`: a copy of the bytes, read as a `MaybeUninit<T>`, once
`is_bit_valid` accepts the copy. A validity error carries the original bytes. -/
def tryReadFrom (T : Layout) (isBitValid : PointerMetadata → List UInt8 → Bool) (bytes : Slice) :
    Except Fault (Except (ConvertError Empty Slice Slice) T.Value) := do
  match ← readFrom T bytes with
  | .error e => return .error (.size e)
  | .ok candidate =>
    if !isBitValid .unit candidate.val then return .error (.validity bytes)
    return .ok candidate

end Zerocopy
