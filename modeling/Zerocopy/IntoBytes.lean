import Zerocopy.FromBytesLaws

/-! `IntoBytes`: a value's bytes copied into a mutable buffer and read back out of it, and a `Ref`
used as a store of one value. -/

namespace Zerocopy

/-! ### Writing into a buffer

A value is given by its bytes, `as_bytes()`, and `size_of_val` is their number; this covers sized
values and slice DSTs alike. A mutable buffer is its contents: each write returns its result beside
the buffer as the call leaves it.
-/

/-- `<[u8]>::copy_from_slice`: `src` over all of `dst`, panicking unless the two are as long. -/
def copyFromSlice (dst src : List UInt8) : Except Fault (List UInt8) :=
  if src.length = dst.length then .ok src
  else .error (.panic ("copy_from_slice: source slice length (" ++ toString src.length ++
    ") does not match destination slice length (" ++ toString dst.length ++ ")"))

/-- `<[u8]>::get_mut(start..stop)`: the window `[start, stop)`, or `None` unless it lies inside
the buffer. -/
def getMut (bytes : List UInt8) (start stop : Nat) : Option (List UInt8) :=
  if start ≤ stop ∧ stop ≤ bytes.length then some ((bytes.drop start).take (stop - start))
  else none

/-- The buffer once the window that `get_mut` lent from `start` on holds `window`. -/
def putBack (bytes : List UInt8) (start : Nat) (window : List UInt8) : List UInt8 :=
  bytes.take start ++ window ++ bytes.drop (start + window.length)

/-- `IntoBytes::write_to`: `self` over the whole buffer, which must be exactly as long. A
`SizeError` carries `self`. -/
def writeTo (self bytes : List UInt8) : Except Fault (Except (List UInt8) Unit × List UInt8) := do
  if bytes.length ≠ self.length then return (.error self, bytes)
  let bytes ← copyFromSlice bytes self
  return (.ok (), bytes)

/-- `IntoBytes::write_to_prefix`: `self` over the first `size_of_val(self)` bytes. -/
def writeToPrefix (self bytes : List UInt8) :
    Except Fault (Except (List UInt8) Unit × List UInt8) := do
  let size := self.length
  match getMut bytes 0 size with
  | some window =>
    let window ← copyFromSlice window self
    return (.ok (), putBack bytes 0 window)
  | none => return (.error self, bytes)

/-- `IntoBytes::write_to_suffix`: `self` over the last `size_of_val(self)` bytes. The second
`None` arm is the defensive one that `get_mut(start..)` should never take. -/
def writeToSuffix (self bytes : List UInt8) :
    Except Fault (Except (List UInt8) Unit × List UInt8) := do
  let some start := checkedSub bytes.length self.length | return (.error self, bytes)
  let some window := getMut bytes start bytes.length | return (.error self, bytes)
  let window ← copyFromSlice window self
  return (.ok (), putBack bytes start window)

/-! ### What each write does -/

/-- `copy_from_slice` between slices of one length copies the source. -/
@[simp] theorem copyFromSlice_of_length_eq {dst src : List UInt8} (same : src.length = dst.length) :
    copyFromSlice dst src = .ok src := by
  simp [copyFromSlice, same]

/-- `get_mut(start..)` lends the rest of the buffer from any `start` inside it. -/
theorem getMut_from {bytes : List UInt8} {start : Nat} (inside : start ≤ bytes.length) :
    getMut bytes start bytes.length = some (bytes.drop start) := by
  simp [getMut, inside]

/-- `write_to` succeeds exactly on a buffer as long as `self`, which it then holds; otherwise the
buffer is left as it was. -/
theorem writeTo_eq (self bytes : List UInt8) :
    writeTo self bytes =
      .ok (if bytes.length = self.length then (.ok (), self) else (.error self, bytes)) := by
  by_cases same : bytes.length = self.length <;>
    simp [writeTo, same, bind, Except.bind, pure, Except.pure]

/-- `write_to_prefix` succeeds exactly on a buffer at least as long as `self`, whose front it
then holds before the buffer's own tail; otherwise the buffer is left as it was. -/
theorem writeToPrefix_eq (self bytes : List UInt8) :
    writeToPrefix self bytes =
      .ok (if self.length ≤ bytes.length then (.ok (), self ++ bytes.drop self.length)
        else (.error self, bytes)) := by
  -- The front window always has `self`'s length, so the copy never panics.
  by_cases fits : self.length ≤ bytes.length
  · simp [writeToPrefix, getMut, fits, putBack, Nat.min_eq_left fits, bind, Except.bind, pure,
      Except.pure]
  · simp [writeToPrefix, getMut, fits, pure, Except.pure]

/-- `write_to_suffix` succeeds exactly on a buffer at least as long as `self`, which then holds the
buffer's own head before `self`; otherwise the buffer is left as it was. -/
theorem writeToSuffix_eq (self bytes : List UInt8) :
    writeToSuffix self bytes =
      .ok (if self.length ≤ bytes.length then
          (.ok (), bytes.take (bytes.length - self.length) ++ self)
        else (.error self, bytes)) := by
  -- The back window always has `self`'s length, so the copy never panics.
  by_cases fits : self.length ≤ bytes.length
  · have window : (bytes.drop (bytes.length - self.length)).length = self.length := by
      simp only [List.length_drop]; omega
    simp [writeToSuffix, checkedSub, fits, getMut_from (Nat.sub_le _ _),
      copyFromSlice_of_length_eq window.symm, putBack, Nat.sub_add_cancel fits, bind, Except.bind,
      pure, Except.pure]
  · simp [writeToSuffix, checkedSub, fits, pure, Except.pure]

/-- The three writes never panic: each succeeds exactly when the value fits, writing only its
window, and a failed write leaves the buffer unchanged. -/
theorem write_window (self bytes : List UInt8) :
    writeTo self bytes =
      .ok (if bytes.length = self.length then (.ok (), self) else (.error self, bytes)) ∧
    writeToPrefix self bytes =
      .ok (if self.length ≤ bytes.length then (.ok (), self ++ bytes.drop self.length)
        else (.error self, bytes)) ∧
    writeToSuffix self bytes =
      .ok (if self.length ≤ bytes.length then
          (.ok (), bytes.take (bytes.length - self.length) ++ self)
        else (.error self, bytes)) ∧
    ∀ start, checkedSub bytes.length self.length = some start →
      (getMut bytes start bytes.length).isSome := by
  refine ⟨writeTo_eq self bytes, writeToPrefix_eq self bytes, writeToSuffix_eq self bytes, ?_⟩
  -- The subtraction succeeded, so `start` lies inside the buffer.
  intro start subtracted
  rw [checkedSub_eq_some] at subtracted
  simp [getMut_from (show start ≤ bytes.length by omega)]

/-! ### Reading back what was written -/

section RoundTrip

variable {T : Layout} (v : T.Value)

/-- On a buffer as long as the value, `write_to` succeeds and `read_from` returns the value. -/
theorem writeTo_readFrom {bytes : Slice} (size : bytes.len = T.size) :
    ∃ written, writeTo v.val bytes.data = .ok (.ok (), written) ∧
      readFrom T ⟨bytes.addr, written⟩ = .ok (.ok v) :=
  have exact : bytes.data.length = v.val.length := size.trans v.property.symm
  ⟨v.val, by simp [writeTo_eq, exact], by simp [readFrom_eq, Slice.len, v.property]⟩

/-- On a buffer no shorter than the value, `write_to_prefix` succeeds and `read_from_prefix`
returns the value. -/
theorem writeToPrefix_readFromPrefix {bytes : Slice} (fits : T.size ≤ bytes.len) :
    ∃ written, writeToPrefix v.val bytes.data = .ok (.ok (), written) ∧
      readFromPrefix T ⟨bytes.addr, written⟩ = .ok (.ok v) := by
  -- The value goes over the front, which is then exactly what is read.
  have room : v.val.length ≤ bytes.data.length := v.property.trans_le fits
  have front : (v.val ++ bytes.data.drop v.val.length).take T.size = v.val :=
    List.take_left' v.property
  refine ⟨_, by rw [writeToPrefix_eq, if_pos room], ?_⟩
  simp [readFromPrefix_eq, Slice.len, Slice.take, front, v.property, Subtype.ext_iff]

/-- On a buffer no shorter than the value, `write_to_suffix` succeeds and `read_from_suffix`
returns the value. -/
theorem writeToSuffix_readFromSuffix {bytes : Slice} (fits : T.size ≤ bytes.len) :
    ∃ written, writeToSuffix v.val bytes.data = .ok (.ok (), written) ∧
      readFromSuffix T ⟨bytes.addr, written⟩ = .ok (.ok v) := by
  -- The value goes over the back, which is then exactly what is read.
  have room : v.val.length ≤ bytes.data.length := v.property.trans_le fits
  have head : (bytes.data.take (bytes.data.length - v.val.length)).length =
      bytes.data.length - v.val.length := by
    simp only [List.length_take]; omega
  have back : (bytes.data.take (bytes.data.length - v.val.length) ++ v.val).drop
      (bytes.data.length - v.val.length) = v.val :=
    List.drop_left' head
  refine ⟨_, by rw [writeToSuffix_eq, if_pos room], ?_⟩
  simp [readFromSuffix_eq, Slice.len, Slice.drop, head, back, v.property, Subtype.ext_iff]

/-- `Ref::write` on a `Ref` that keeps the invariant leaves one that keeps it, over the value. -/
theorem Ref.write_invariant {B : ByteSlice} {r : Ref B (.forType T)} (inv : r.Invariant) :
    r.write T v = .ok ⟨⟨r.bytes.addr, v.val⟩⟩ ∧
      (⟨⟨r.bytes.addr, v.val⟩⟩ : Ref B (.forType T)).Invariant :=
  ⟨Ref.write_of_invariant inv v, inv.1, v.property⟩

end RoundTrip

/-- Every value written by `write_to`, `write_to_prefix`, `write_to_suffix` or `Ref::write`, on
a buffer of a length it fits, is written and then read back unchanged. -/
theorem write_then_read (T : Layout) (v : T.Value) :
    (∀ bytes : Slice, bytes.len = T.size → ∃ written,
      writeTo v.val bytes.data = .ok (.ok (), written) ∧
        readFrom T ⟨bytes.addr, written⟩ = .ok (.ok v)) ∧
    (∀ bytes : Slice, T.size ≤ bytes.len → ∃ written,
      writeToPrefix v.val bytes.data = .ok (.ok (), written) ∧
        readFromPrefix T ⟨bytes.addr, written⟩ = .ok (.ok v)) ∧
    (∀ bytes : Slice, T.size ≤ bytes.len → ∃ written,
      writeToSuffix v.val bytes.data = .ok (.ok (), written) ∧
        readFromSuffix T ⟨bytes.addr, written⟩ = .ok (.ok v)) ∧
    (∀ usizeMax B (r : Ref B (.forType T)), r.Invariant →
      ∃ r', r.write T v = .ok r' ∧ r'.read T = .ok v ∧
        (∃ p, r'.deref usizeMax = .ok p ∧ p.region.data = v.val) ∧ r'.bytes.data = v.val) := by
  refine ⟨fun _ => writeTo_readFrom v, fun _ => writeToPrefix_readFromPrefix v,
    fun _ => writeToSuffix_readFromSuffix v, fun usizeMax B r inv => ?_⟩
  -- The written `Ref` keeps the invariant, so reading it and re-casting it both see `v`.
  obtain ⟨wrote, kept⟩ := Ref.write_invariant v inv
  obtain ⟨w, read, same⟩ := Ref.read_of_invariant kept
  obtain ⟨meta, recast⟩ := Ref.recast_of_invariant usizeMax kept
    "zerocopy internal error: Deref::deref should be infallible"
  exact ⟨_, wrote, read.trans (congrArg Except.ok (Subtype.ext same)), ⟨_, recast, rfl⟩, rfl⟩

/-- `[1, 2]` written by `write_to_suffix` over the last two of three bytes at an odd address reads
back by `read_from_suffix`. -/
theorem write_then_read_suffix_u16 :
    ∃ written, writeToSuffix [1, 2] [7, 0, 0] = .ok (.ok (), written) ∧
      readFromSuffix ⟨2, 2, ⟨1, rfl⟩⟩ ⟨1, written⟩ = .ok (.ok ⟨[1, 2], rfl⟩) :=
  (write_then_read ⟨2, 2, ⟨1, rfl⟩⟩ ⟨[1, 2], rfl⟩).2.2.1 ⟨1, [7, 0, 0]⟩ (by decide)

/-! ### A `Ref` as a store

`Ref::read` and `Ref::write` called in any order behave as one cell that holds a value.
-/

/-- A call on a `Ref` to a sized `T`: `Ref::read`, or `Ref::write` of a value. -/
inductive Ref.Op (T : Layout)
  | read
  | write (v : T.Value)

/-- The calls `ops` made in order on `r`: the `Ref` after them, and what each `read` returned. -/
def Ref.run {B : ByteSlice} {T : Layout} :
    Ref B (.forType T) → List (Ref.Op T) → Except Fault (Ref B (.forType T) × List T.Value)
  | r, [] => .ok (r, [])
  | r, .read :: ops => do
    let v ← r.read T
    let (last, reads) ← Ref.run r ops
    return (last, v :: reads)
  | r, .write v :: ops => do
    let written ← r.write T v
    Ref.run written ops

/-- What one cell holding a value does under the same calls: a read returns the value held, and a
write replaces it. The values read, and the value held at the end. -/
def cellRun {T : Layout} (held : T.Value) : List (Ref.Op T) → List T.Value × T.Value
  | [] => ([], held)
  | .read :: ops => (held :: (cellRun held ops).1, (cellRun held ops).2)
  | .write v :: ops => cellRun v ops

namespace Ref

variable {B : ByteSlice} {T : Layout}

/-- A `Ref` that keeps the invariant is the `Ref` over the value its bytes hold. -/
theorem eq_of_holds {r : Ref B (.forType T)} {held : T.Value} (holds : r.bytes.data = held.val) :
    r = ⟨⟨r.bytes.addr, held.val⟩⟩ := by
  rw [← holds]

/-- `Ref::read` on a `Ref` that keeps the invariant returns the value its bytes hold. -/
theorem read_of_holds {r : Ref B (.forType T)} (inv : r.Invariant) {held : T.Value}
    (holds : r.bytes.data = held.val) : r.read T = .ok held := by
  obtain ⟨v, read, same⟩ := read_of_invariant inv
  rw [read, Subtype.ext (same.trans holds)]

/-- From a `Ref` that keeps the invariant and holds `held`, any calls run without a fault and
refine one cell: the same reads, and the value the cell ends with, at the same address. -/
theorem run_eq (ops : List (Op T)) :
    ∀ {r : Ref B (.forType T)} {held : T.Value}, r.Invariant → r.bytes.data = held.val →
      r.run ops = .ok (⟨⟨r.bytes.addr, (cellRun held ops).2.val⟩⟩, (cellRun held ops).1) := by
  induction ops with
  | nil =>
    -- No call: the `Ref` is the one over the value held.
    intro r held _ holds
    exact congrArg (fun r => Except.ok (r, [])) (eq_of_holds holds)
  | cons op ops ih =>
    intro r held inv holds
    cases op with
    | read =>
      -- A read returns the value held and changes nothing.
      simp only [run, read_of_holds inv holds, ih inv holds, cellRun, bind, Except.bind, pure,
        Except.pure]
    | write v =>
      -- A write puts the value over the same bytes, and the `Ref` keeps the invariant.
      obtain ⟨written, kept⟩ := write_invariant v inv
      simp only [run, written, cellRun, bind, Except.bind]
      exact ih kept rfl

end Ref

/-- A `Ref` used as a store: any reads and writes run without a fault, every read returns the
value last written, and the `Ref` ends at its address over that value. -/
theorem ref_store {B : ByteSlice} {T : Layout} (ops : List (Ref.Op T)) {r : Ref B (.forType T)}
    (inv : r.Invariant) {held : T.Value} (holds : r.bytes.data = held.val) :
    ∃ last, r.run ops = .ok (last, (cellRun held ops).1) ∧ last.Invariant ∧
      last.bytes.addr = r.bytes.addr ∧ last.bytes.data = (cellRun held ops).2.val :=
  -- The run is the cell's, and the final `Ref` is over a value at the address it started at.
  ⟨_, Ref.run_eq ops inv holds, ⟨inv.1, (cellRun held ops).2.property⟩, rfl, rfl⟩

/-- Two bytes of a `u16`, read, overwritten, and read again: the reads see `[1, 2]` and then
`[3, 4]`, which the bytes hold at the end. -/
theorem ref_store_u16 :
    (⟨⟨0, [1, 2]⟩⟩ : Ref .refMut (.forType ⟨2, 2, ⟨1, rfl⟩⟩)).Invariant ∧
      (⟨0, [1, 2]⟩ : Slice).data = [1, 2] ∧
      ∃ last, (⟨⟨0, [1, 2]⟩⟩ : Ref .refMut (.forType ⟨2, 2, ⟨1, rfl⟩⟩)).run
          [.read, .write ⟨[3, 4], rfl⟩, .read] = .ok (last, [⟨[1, 2], rfl⟩, ⟨[3, 4], rfl⟩]) ∧
        last.Invariant ∧ last.bytes.addr = 0 ∧ last.bytes.data = [3, 4] :=
  ⟨⟨rfl, rfl⟩, rfl, ref_store (T := ⟨2, 2, ⟨1, rfl⟩⟩) (r := ⟨⟨0, [1, 2]⟩⟩)
    [.read, .write ⟨[3, 4], rfl⟩, .read] ⟨rfl, rfl⟩
    (show [1, 2] = (⟨[1, 2], rfl⟩ : (⟨2, 2, ⟨1, rfl⟩⟩ : Layout).Value).val from rfl)⟩

end Zerocopy
