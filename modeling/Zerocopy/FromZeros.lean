import Zerocopy.Ref

/-! `FromZeros`: boxed slices allocated zeroed, and the checks made before allocating them. -/

namespace Zerocopy

/-- The all-zeros value of `T`, which `FromZeros` says is a valid one. -/
def Layout.zeroed (T : Layout) : T.Value :=
  ⟨List.replicate T.size 0, List.length_replicate _ _⟩

/-- `core::alloc::Layout::from_size_align`, as documented: a layout unless the size rounded up
to the alignment passes `isize::MAX` (the alignment is already a power of two). -/
def layoutFromSizeAlign (isizeMax size align : Nat) : Option (Nat × Nat) :=
  if roundUp size align ≤ isizeMax then some (size, align) else none

/-- `FromZeros::new_box_slice_zeroed(len)`: `len` zeroed values, after its overflow and size
checks. Allocation is taken to succeed: `handle_alloc_error` is not modelled. -/
def newBoxSliceZeroed (usizeMax isizeMax : Nat) (T : Layout) (len : Nat) :
    Except Fault (List T.Value) := do
  let some size := checkedMul usizeMax T.size len
    | throw (.panic "mem::size_of::<Self>() * len overflows `usize`")
  -- `(isize::MAX as usize).saturating_sub(align)`
  let maxAlloc := isizeMax - T.align
  if ¬size ≤ maxAlloc then throw (.panic "assertion failed: size <= max_alloc")
  let some _ := layoutFromSizeAlign isizeMax size T.align
    | throw (.panic "total allocation size overflows `isize`")
  return List.replicate len T.zeroed

/-- `FromZeros::new_vec_zeroed(len)`: `new_box_slice_zeroed(len).into()`. -/
def newVecZeroed (usizeMax isizeMax : Nat) (T : Layout) (len : Nat) :
    Except Fault (List T.Value) :=
  newBoxSliceZeroed usizeMax isizeMax T len

/-- A size that leaves room for one alignment below `isize::MAX` still fits there once rounded up
to that alignment. -/
theorem roundUp_le_of_le_sub {size align isizeMax : Nat} (positive : 0 < align)
    (within : size ≤ isizeMax - align) : roundUp size align ≤ isizeMax := by
  -- An empty size rounds to zero; any other leaves a whole alignment of room.
  rcases Nat.eq_zero_or_pos size with empty | nonempty
  · rw [empty, roundUp_of_mod positive (Nat.zero_mod _)]
    exact Nat.zero_le _
  · have := roundUp_lt (n := size) positive
    omega

/-- `new_box_slice_zeroed` and `new_vec_zeroed` panic exactly on their two overflow checks and
otherwise return `len` zeroed values; the `expect` on `Layout` never fires. -/
theorem newBoxSliceZeroed_eq (usizeMax isizeMax : Nat) (T : Layout) (len : Nat) :
    newBoxSliceZeroed usizeMax isizeMax T len =
      (if usizeMax < T.size * len then
        .error (.panic "mem::size_of::<Self>() * len overflows `usize`")
      else if isizeMax - T.align < T.size * len then
        .error (.panic "assertion failed: size <= max_alloc")
      else .ok (List.replicate len T.zeroed)) ∧
    newVecZeroed usizeMax isizeMax T len = newBoxSliceZeroed usizeMax isizeMax T len := by
  refine ⟨?_, rfl⟩
  unfold newBoxSliceZeroed
  by_cases over : usizeMax < T.size * len
  · simp [checkedMul, Nat.not_le.mpr over, over, throw, throwThe, MonadExceptOf.throw]
  · by_cases large : isizeMax - T.align < T.size * len
    · simp [checkedMul, Nat.le_of_not_lt over, over, large, Nat.not_le.mpr large, throw,
        throwThe, MonadExceptOf.throw, bind, Except.bind]
    · -- Past the assertion, `Layout` accepts the size.
      have accepted := roundUp_le_of_le_sub T.align_pos (Nat.le_of_not_lt large)
      simp [checkedMul, Nat.le_of_not_lt over, over, large, Nat.le_of_not_lt large,
        layoutFromSizeAlign, accepted, bind, Except.bind, pure, Except.pure]

/-! ### Growing a `Vec` with zeroes -/

/-- A `Vec<T>` as the unsafe code of `insert_vec_zeroed` sees it: the slots of its allocation, one
per element of capacity and `none` where a slot is uninitialized, and its length. -/
structure Vec (T : Layout) where
  buf : List (Option T.Value)
  len : Nat
deriving DecidableEq

/-- `buf` with the slots from `start` on overwritten by `xs`. -/
def overwrite {α : Type} (buf : List α) (start : Nat) (xs : List α) : List α :=
  buf.take start ++ xs ++ buf.drop (start + xs.length)

/-- Overwriting a run of slots with as many others replaces exactly that run. -/
theorem overwrite_append {α : Type} {pre old post xs : List α} (sized : old.length = xs.length) :
    overwrite (pre ++ old ++ post) pre.length xs = pre ++ xs ++ post := by
  simp [overwrite, ← sized]

namespace Vec

variable {T : Layout}

/-- A vector holds `xs`: its length is theirs, and its first slots hold them. -/
def Holds (v : Vec T) (xs : List T.Value) : Prop :=
  v.len = xs.length ∧ ∃ spare, v.buf = xs.map some ++ spare

/-- What `Vec::reserve(additional)` promises when it returns, whatever its growth policy: the
elements stay, and the allocation has room for `additional` more. -/
def Reserves (reserve : Nat → EStateM Fault (Vec T) Unit) : Prop :=
  ∀ additional v w xs, reserve additional v = .ok () w → Holds v xs →
    Holds w xs ∧ xs.length + additional ≤ w.buf.length

/-- `Vec::reserve_exact`, as its documentation states it, with allocation taken to succeed: an
allocation of fewer than `len + additional` slots grows to exactly that many, uninitialized. -/
def reserveExact (additional : Nat) : EStateM Fault (Vec T) Unit := fun v =>
  .ok () { v with buf := v.buf ++ List.replicate (v.len + additional - v.buf.length) none }

/-- `reserve_exact` keeps its promise. -/
theorem reserveExact_reserves : Reserves (T := T) reserveExact := by
  rintro additional v w xs ⟨⟩ ⟨length, spare, buf⟩
  exact ⟨⟨length, _, by rw [buf, List.append_assoc]⟩, by simp [buf, length]; omega⟩

/-- `ptr.add(src).copy_to(ptr.add(dst), count)`: `ptr::copy` inside the allocation, as if through
a temporary, so the ranges may overlap; both must lie in the allocation. -/
def copyTo (src dst count : Nat) : EStateM Fault (Vec T) Unit := fun v =>
  if src + count ≤ v.buf.length ∧ dst + count ≤ v.buf.length then
    .ok () { v with buf := overwrite v.buf dst ((v.buf.drop src).take count) }
  else .error (.undefined "ptr::copy") v

/-- `ptr.add(start).write_bytes(byte, count)`: every byte of `count` slots set to `byte`. The
range must lie in the allocation. -/
def writeBytes (start : Nat) (byte : UInt8) (count : Nat) : EStateM Fault (Vec T) Unit := fun v =>
  let filled : T.Value := ⟨List.replicate T.size byte, List.length_replicate _ _⟩
  if start + count ≤ v.buf.length then
    .ok () { v with buf := overwrite v.buf start (List.replicate count (some filled)) }
  else .error (.undefined "ptr::write_bytes") v

/-- `Vec::set_len(new_len)`, whose safety contract asks that `new_len` is within the capacity and
that every slot below it is initialized. -/
def setLen (newLen : Nat) : EStateM Fault (Vec T) Unit := fun v =>
  if newLen ≤ v.buf.length ∧ (v.buf.take newLen).all Option.isSome then
    .ok () { v with len := newLen }
  else .error (.undefined "Vec::set_len") v

/-- The copy of `count` slots read at `src`, into a run of `count` slots at `dst`. -/
theorem copyTo_eq {v : Vec T} {src dst count : Nat} {pre old post seg : List (Option T.Value)}
    (whole : v.buf = pre ++ old ++ post) (start : pre.length = dst) (sized : old.length = count)
    (read : (v.buf.drop src).take count = seg) (inside : src + count ≤ v.buf.length) :
    copyTo src dst count v = .ok () { v with buf := pre ++ seg ++ post } := by
  have fits : dst + count ≤ v.buf.length := by simp [whole]; omega
  have copied : seg.length = old.length := by rw [← read, sized]; simp; omega
  simp only [copyTo, inside, fits, and_self, if_true]
  rw [read, whole, ← start, overwrite_append copied.symm]

/-- `ptr::copy` of a run `k` slots further on, over spare room, lands the run intact even where
the two ranges overlap. -/
theorem copyTo_shift {v : Vec T} {front tail spare : List (Option T.Value)} {src count k : Nat}
    (whole : v.buf = front ++ tail ++ spare) (first : front.length = src)
    (sized : tail.length = count) (room : k ≤ spare.length) :
    copyTo src (src + k) count v =
      .ok () { v with buf := front ++ (tail ++ spare).take k ++ tail ++ spare.drop k } := by
  have split : v.buf = front ++ (tail ++ spare).take k ++ ((tail ++ spare).drop k).take count ++
      ((tail ++ spare).drop k).drop count := by
    rw [whole]
    simp only [List.append_assoc, List.take_append_drop]
  have read : (v.buf.drop src).take count = tail := by
    rw [whole, List.append_assoc, List.drop_left' first, List.take_left' sized]
  have moved : ((tail ++ spare).drop k).drop tail.length = spare.drop k := by
    rw [List.drop_drop, Nat.add_comm, ← List.drop_drop, List.drop_left]
  rw [copyTo_eq split (by simp; omega) (by simp; omega) read (by simp [whole]; omega), ← sized,
    moved]

/-- Writing bytes over a run of `count` slots. -/
theorem writeBytes_eq {v : Vec T} {start count : Nat} {byte : UInt8}
    {pre old post : List (Option T.Value)} (whole : v.buf = pre ++ old ++ post)
    (first : pre.length = start) (sized : old.length = count) :
    writeBytes start byte count v = .ok () { v with
      buf := pre ++ List.replicate count (some ⟨_, List.length_replicate T.size byte⟩) ++
        post } := by
  have fits : start + count ≤ v.buf.length := by simp [whole]; omega
  simp only [writeBytes, fits, if_true]
  rw [whole, ← first, overwrite_append (sized.trans (List.length_replicate _ _).symm)]

/-- Setting the length over slots that hold `ys`. -/
theorem setLen_eq {v : Vec T} {ys : List T.Value} {rest : List (Option T.Value)}
    (whole : v.buf = ys.map some ++ rest) :
    setLen ys.length v = .ok () { v with len := ys.length } := by
  have fits : ys.length ≤ v.buf.length := by simp [whole]
  simp [setLen, fits, whole]

end Vec

/-- `insert_vec_zeroed(v, position, additional)`, for any `reserve` that keeps the promise of
`Vec.Reserves`. A panic leaves the vector as it was at that point. -/
def insertVecZeroed {T : Layout} (reserve : Nat → EStateM Fault (Vec T) Unit)
    (position additional : Nat) : EStateM Fault (Vec T) Unit := do
  if ¬position ≤ (← get).len then throw (.panic "assertion failed: position <= v.len()")
  reserve additional
  Vec.copyTo position (position + additional) ((← get).len - position)
  Vec.writeBytes position 0 additional
  Vec.setLen ((← get).len + additional)

/-- `extend_vec_zeroed(v, additional)`: `insert_vec_zeroed(v, v.len(), additional)`. -/
def extendVecZeroed {T : Layout} (reserve : Nat → EStateM Fault (Vec T) Unit)
    (additional : Nat) : EStateM Fault (Vec T) Unit := do
  insertVecZeroed reserve (← get).len additional

section InsertVecZeroed

variable {T : Layout} (reserve : Nat → EStateM Fault (Vec T) Unit) {v w : Vec T}
  {xs : List T.Value} {p k : Nat}

/-- Past a position beyond the end, `insert_vec_zeroed` panics on its assertion before it changes
anything. -/
theorem insertVecZeroed_of_lt (outside : v.len < p) :
    insertVecZeroed reserve p k v = .error (.panic "assertion failed: position <= v.len()") v := by
  simp [insertVecZeroed, Nat.not_le.mpr outside, bind, EStateM.bind, get, getThe,
    MonadStateOf.get, EStateM.get, throw, throwThe, MonadExceptOf.throw, EStateM.throw]

/-- Once `reserve` has made room for `k` more, `insert_vec_zeroed` at a position within the vector
leaves the elements before it, then `k` zeroed ones, then the rest. -/
theorem insertVecZeroed_of_le (holds : v.Holds xs) (inside : p ≤ xs.length)
    (reserved : reserve k v = .ok () w) (kept : w.Holds xs) (room : xs.length + k ≤ w.buf.length) :
    ∃ u, insertVecZeroed reserve p k v = .ok () u ∧
      u.Holds (xs.take p ++ List.replicate k T.zeroed ++ xs.drop p) := by
  obtain ⟨wlen, spare, wbuf⟩ := kept
  -- `front` stays where it is; `tail` is what the copy moves `k` slots on, over the spare room.
  set front := (xs.take p).map some
  set tail := (xs.drop p).map some
  have elems : w.buf = front ++ tail ++ spare := by
    rw [wbuf, ← List.map_append, List.take_append_drop]
  have lenFront : front.length = p := by simp [front]; omega
  have spareRoom : k ≤ spare.length := by simp [wbuf] at room; omega
  simp only [insertVecZeroed, bind, EStateM.bind, get, getThe, MonadStateOf.get, EStateM.get, pure,
    EStateM.pure, holds.1 ▸ inside, not_true, if_false, reserved, wlen]
  rw [Vec.copyTo_shift elems lenFront (by simp [tail]) spareRoom]
  dsimp only
  -- The slots the tail left are zeroed, and the first `xs.length + k` slots hold the result.
  rw [Vec.writeBytes_eq (v := ⟨_, w.len⟩) (List.append_assoc _ tail (spare.drop k)) lenFront
    (by simp; omega)]
  have after : front ++ List.replicate k (some T.zeroed) ++ (tail ++ spare.drop k) =
      (xs.take p ++ List.replicate k T.zeroed ++ xs.drop p).map some ++ spare.drop k := by
    simp [front, tail]
  have newLen : w.len + k = (xs.take p ++ List.replicate k T.zeroed ++ xs.drop p).length := by
    simp; omega
  simp only [newLen]
  exact ⟨_, Vec.setLen_eq (v := ⟨_, w.len⟩) after, rfl, _, after⟩

/-- `extend_vec_zeroed` is `insert_vec_zeroed` at the vector's length. -/
theorem extendVecZeroed_eq : extendVecZeroed reserve k v = insertVecZeroed reserve v.len k v := by
  simp [extendVecZeroed, bind, EStateM.bind, get, getThe, MonadStateOf.get, EStateM.get]

end InsertVecZeroed

/-- `insert_vec_zeroed(v, p, k)` puts `k` zeroed values at `p ≤ len`, keeping the rest in order,
and panics with `v` unchanged past the end; `extend_vec_zeroed` appends them. -/
theorem vec_zeroed {T : Layout} (reserve : Nat → EStateM Fault (Vec T) Unit)
    (reserves : Vec.Reserves reserve) (v : Vec T) (xs : List T.Value) (holds : v.Holds xs)
    (p k : Nat) (reserved : ∃ w, reserve k v = .ok () w) :
    (p ≤ xs.length → ∃ u, insertVecZeroed reserve p k v = .ok () u ∧ u.len = xs.length + k ∧
      u.Holds (xs.take p ++ List.replicate k T.zeroed ++ xs.drop p)) ∧
    (xs.length < p →
      insertVecZeroed reserve p k v = .error (.panic "assertion failed: position <= v.len()") v) ∧
    ∃ u, extendVecZeroed reserve k v = .ok () u ∧ u.Holds (xs ++ List.replicate k T.zeroed) := by
  obtain ⟨w, run⟩ := reserved
  obtain ⟨kept, room⟩ := reserves k v w xs run holds
  refine ⟨fun inside => ?_, fun outside => insertVecZeroed_of_lt reserve (holds.1 ▸ outside), ?_⟩
  · obtain ⟨u, ran, result⟩ := insertVecZeroed_of_le reserve holds inside run kept room
    exact ⟨u, ran, by rw [result.1]; simp; omega, result⟩
  · -- Extending is inserting at the end, where the tail is empty.
    obtain ⟨u, ran, result⟩ := insertVecZeroed_of_le reserve holds (Nat.le_refl _) run kept room
    exact ⟨u, by rw [extendVecZeroed_eq, holds.1, ran], by simpa using result⟩

/-- Three one-byte elements, one zeroed value inserted at the front: the whole tail moves one slot
on, over itself. -/
theorem vec_zeroed_front :
    ∃ u, insertVecZeroed (T := ⟨1, 1, ⟨0, rfl⟩⟩) Vec.reserveExact 0 1
        ⟨[some ⟨[1], rfl⟩, some ⟨[2], rfl⟩, some ⟨[3], rfl⟩], 3⟩ = .ok () u ∧ u.len = 3 + 1 ∧
      u.Holds (List.replicate 1 (Layout.zeroed _) ++ [⟨[1], rfl⟩, ⟨[2], rfl⟩, ⟨[3], rfl⟩]) :=
  (vec_zeroed (T := ⟨1, 1, ⟨0, rfl⟩⟩) Vec.reserveExact Vec.reserveExact_reserves
    ⟨[some ⟨[1], rfl⟩, some ⟨[2], rfl⟩, some ⟨[3], rfl⟩], 3⟩ [⟨[1], rfl⟩, ⟨[2], rfl⟩, ⟨[3], rfl⟩]
    ⟨rfl, [], rfl⟩ 0 1 ⟨_, rfl⟩).1 (Nat.zero_le _)

/-! ### Runs of calls

A client's calls to the two helpers, in sequence (no such driver is in the source), against the
same calls on the list of elements: every run ends with the vector holding what the list model
gives, and a run that panics leaves the vector holding the elements it had before that call.
-/

/-- A call through one of the two helpers. -/
inductive VecOp
  | insert (position additional : Nat)
  | extend (additional : Nat)
deriving DecidableEq, Repr

namespace VecOp

/-- The call, made with the helper it names. -/
def run {T : Layout} (reserve : Nat → EStateM Fault (Vec T) Unit) :
    VecOp → EStateM Fault (Vec T) Unit
  | insert position additional => insertVecZeroed reserve position additional
  | extend additional => extendVecZeroed reserve additional

/-- What the call does to the elements: `additional` copies of `zero` go in at the position, or
at the end; `none` when the position is past the end. -/
def apply {α : Type} (zero : α) (xs : List α) : VecOp → Option (List α)
  | insert position additional =>
    if position ≤ xs.length then
      some (xs.take position ++ List.replicate additional zero ++ xs.drop position)
    else none
  | extend additional => some (xs ++ List.replicate additional zero)

/-- The calls in order on a list: the final list, or the list at the first call that fails. -/
def applyAll {α : Type} (zero : α) : List α → List VecOp → Except (List α) (List α)
  | xs, [] => .ok xs
  | xs, op :: ops =>
    match op.apply zero xs with
    | some ys => applyAll zero ys ops
    | none => .error xs

end VecOp

/-- A run of the vector code agrees with the run on lists: both finish with the same elements,
or both stop on the assertion, the vector holding the list at that point. -/
def Vec.Agrees {T : Layout} :
    EStateM.Result Fault (Vec T) Unit → Except (List T.Value) (List T.Value) → Prop
  | .ok _ u, .ok ys => u.Holds ys
  | .error e u, .error zs => e = .panic "assertion failed: position <= v.len()" ∧ u.Holds zs
  | _, _ => False

section Runs

variable {T : Layout} {reserve : Nat → EStateM Fault (Vec T) Unit}
  (reserves : Vec.Reserves reserve) (total : ∀ n v, ∃ w, reserve n v = .ok () w)
include reserves total

/-- One call does to the vector what it does to the list, and a failing call changes nothing. -/
theorem VecOp.run_of_holds (op : VecOp) {v : Vec T} {xs : List T.Value} (holds : v.Holds xs) :
    (∀ ys, op.apply T.zeroed xs = some ys → ∃ u, op.run reserve v = .ok () u ∧ u.Holds ys) ∧
    (op.apply T.zeroed xs = none →
      op.run reserve v = .error (.panic "assertion failed: position <= v.len()") v) := by
  -- Each call inserts at a position, the end for `extend`; only a position past the end fails.
  have insert : ∀ p k, p ≤ xs.length → ∃ u, insertVecZeroed reserve p k v = .ok () u ∧
      u.Holds (xs.take p ++ List.replicate k T.zeroed ++ xs.drop p) := fun p k inside =>
    let ⟨w, ran⟩ := total k v
    let ⟨kept, room⟩ := reserves k v w xs ran holds
    insertVecZeroed_of_le reserve holds inside ran kept room
  cases op with
  | insert p k =>
    by_cases inside : p ≤ xs.length
    · simpa [apply, run, inside] using insert p k inside
    · simpa [apply, run, inside] using
        insertVecZeroed_of_lt reserve (holds.1 ▸ Nat.lt_of_not_le inside)
  | extend k =>
    obtain ⟨u, ran, result⟩ := insert xs.length k (Nat.le_refl _)
    refine ⟨fun ys applied => ⟨u, by rw [run, extendVecZeroed_eq, holds.1, ran], ?_⟩,
      by simp [apply]⟩
    simp only [apply, Option.some.injEq] at applied
    simpa [← applied] using result

/-- Any sequence of `insert_vec_zeroed` and `extend_vec_zeroed` calls on a vector agrees with
the same calls on its list of elements. -/
theorem vec_run (ops : List VecOp) (v : Vec T) (xs : List T.Value) (holds : v.Holds xs) :
    Vec.Agrees (ops.forM (VecOp.run reserve) v) (VecOp.applyAll T.zeroed xs ops) := by
  induction ops generalizing v xs with
  | nil => exact holds
  | cons op ops ih =>
    obtain ⟨done, failed⟩ := op.run_of_holds reserves total holds
    cases applied : op.apply T.zeroed xs with
    | some ys =>
      obtain ⟨u, ran, result⟩ := done ys applied
      simpa [VecOp.applyAll, applied, bind, EStateM.bind, ran] using ih u ys result
    | none =>
      simp [VecOp.applyAll, applied, bind, EStateM.bind, failed applied, Vec.Agrees, holds]

end Runs

/-- Inserting two zeroed bytes into the middle of `[1, 2, 3]`, then one at position 9: the second
call panics, and the vector keeps the five bytes it had. -/
theorem vec_run_bytes :
    Vec.Agrees ([.insert 1 2, .insert 9 1].forM (VecOp.run Vec.reserveExact)
        (⟨[some ⟨[1], rfl⟩, some ⟨[2], rfl⟩, some ⟨[3], rfl⟩], 3⟩ : Vec ⟨1, 1, ⟨0, rfl⟩⟩))
      (.error [⟨[1], rfl⟩, ⟨[0], rfl⟩, ⟨[0], rfl⟩, ⟨[2], rfl⟩, ⟨[3], rfl⟩]) :=
  vec_run Vec.reserveExact_reserves (fun _ _ => ⟨_, rfl⟩) [.insert 1 2, .insert 9 1]
    ⟨[some ⟨[1], rfl⟩, some ⟨[2], rfl⟩, some ⟨[3], rfl⟩], 3⟩
    [⟨[1], rfl⟩, ⟨[2], rfl⟩, ⟨[3], rfl⟩] ⟨rfl, [], rfl⟩

end Zerocopy
