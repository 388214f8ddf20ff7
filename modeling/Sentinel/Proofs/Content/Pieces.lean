import Mathlib.Algebra.Ring.Nat
import Sentinel.Content.Buffer
/-!
# Reading in pieces

A row of reads takes some bytes apart, in whatever sizes, and no byte is lost, repeated or moved: what the
reads return, one piece behind the other, is the start of the bytes, and what can still be read is the rest.
No read has to be refused, because none of them goes behind the end.

1. `flatten_readEach`, `remaining_readEach`: the pieces are the start, and what is left is the rest.
2. `getElem?_readEach`: a piece of the row is read by the reader that stands behind the reads before it.
3. `readsInto?_eq`: reads into buffers give the same pieces, and none is refused.
4. `readToEnd?_eq`: reading to the end gives what is left, whatever the buffers are.
5. `spread_readsInto?`: all of this for a reader at the start.
-/

namespace Sentinel

/-- The number of bytes for which some buffers have room. -/
def totalRoom (buffers : List Bytes) : Nat := (buffers.map List.length).sum

theorem map_piece_zipWith_copied {pieces buffers : List Bytes} (h : pieces.length = buffers.length) :
    (List.zipWith Fill.copied pieces buffers).map Fill.piece = pieces := by
  induction pieces generalizing buffers with
  | nil => rfl
  | cons piece pieces ih =>
    obtain ⟨buffer, buffers, rfl⟩ := List.exists_cons_of_length_eq_add_one h.symm
    rw [List.zipWith_cons_cons, List.map_cons, Fill.piece_copied, ih (Nat.succ.inj h)]

namespace ByteReader

variable {r : ByteReader}

theorem data_readEach (r : ByteReader) (sizes : List Nat) : (r.readEach sizes).2.data = r.data := by
  induction sizes generalizing r with
  | nil => rfl
  | cons size sizes ih => exact ih (r.read size).2

theorem InRange.readEach (h : r.InRange) (sizes : List Nat) : (r.readEach sizes).2.InRange := by
  induction sizes generalizing r with
  | nil => exact h
  | cons size sizes ih => exact ih (h.read size)

theorem length_readEach (r : ByteReader) (sizes : List Nat) :
    (r.readEach sizes).1.length = sizes.length := by
  induction sizes generalizing r with
  | nil => rfl
  | cons size sizes ih => exact congrArg (· + 1) (ih (r.read size).2)

theorem read_fst_eq_take (r : ByteReader) (size : Nat) : (r.read size).1 = r.remaining.take size :=
  List.take_eq_take_min.symm

theorem remaining_read_eq_drop (r : ByteReader) (size : Nat) :
    (r.read size).2.remaining = r.remaining.drop size := by
  rw [remaining_read, length_read]
  exact List.drop_eq_drop_min.symm

theorem remaining_readEach (r : ByteReader) (sizes : List Nat) :
    (r.readEach sizes).2.remaining = r.remaining.drop sizes.sum := by
  induction sizes generalizing r with
  | nil => rfl
  | cons size sizes ih =>
    show ((r.read size).2.readEach sizes).2.remaining = _
    rw [ih, remaining_read_eq_drop, List.drop_drop, List.sum_cons]

theorem flatten_readEach (r : ByteReader) (sizes : List Nat) :
    (r.readEach sizes).1.flatten = r.remaining.take sizes.sum := by
  induction sizes generalizing r with
  | nil => rfl
  | cons size sizes ih =>
    show (r.read size).1 ++ ((r.read size).2.readEach sizes).1.flatten = _
    rw [ih, remaining_read_eq_drop, read_fst_eq_take, List.sum_cons, List.take_add]

theorem getElem?_readEach (r : ByteReader) (sizes : List Nat) (i : Nat) :
    (r.readEach sizes).1[i]? =
      sizes[i]?.map fun size => ((r.readEach (sizes.take i)).2.read size).1 := by
  induction sizes generalizing r i with
  | nil => rfl
  | cons size sizes ih =>
    cases i with
    | zero => rfl
    | succ i => exact ih (r.read size).2 i

theorem InRange.position_readEach (h : r.InRange) (sizes : List Nat) :
    (r.readEach sizes).2.position = min (r.position + sizes.sum) r.data.length := by
  have hrange : (r.readEach sizes).2.position ≤ (r.readEach sizes).2.data.length := h.readEach sizes
  have hleft := congrArg List.length (r.remaining_readEach sizes)
  rw [List.length_drop, length_remaining, length_remaining] at hleft
  rw [data_readEach] at hrange hleft
  rw [InRange] at h
  omega

/-- No read in range is refused: the pieces and the reader are those of the reads that ask for as many
bytes as there are places. -/
theorem readsInto?_eq (h : r.InRange) (buffers : List Bytes) :
    readsInto? readInto? r buffers =
      some (List.zipWith Fill.copied (r.readEach (buffers.map List.length)).1 buffers,
        (r.readEach (buffers.map List.length)).2) := by
  induction buffers generalizing r with
  | nil => rfl
  | cons buffer buffers ih =>
    rw [readsInto?, readInto?_eq h]
    show (readsInto? readInto? (r.read buffer.length).2 buffers).bind _ = _
    rw [ih (h.read buffer.length)]
    rfl

theorem remaining_eq_nil_of_count_eq_zero (room : Room)
    (h : (Fill.copied (r.read room.val.length).1 room.val).count = 0) : r.remaining = [] := by
  have hroom : 0 < room.val.length := List.length_pos_iff.mpr room.property
  have hcount : (r.read room.val.length).1.length = 0 := h
  rw [length_read] at hcount
  exact List.eq_nil_of_length_eq_zero (by omega)

/-- Reading to the end gives what is left, whatever the buffers are, and ends at the end. -/
theorem readToEnd?_eq (h : r.InRange) (rooms : Nat → Room) :
    r.readToEnd? rooms = some (r.remaining, ⟨r.data, r.data.length⟩) := by
  -- By induction on what is left; a read that copies something leaves less.
  fun_induction readToEnd? rooms r with
  | case1 rooms r hnone => exact absurd h (readInto?_eq_none_iff.mp hnone)
  | case2 rooms r fill r' hread hcount =>
    rw [readInto?_eq h] at hread
    obtain ⟨rfl, rfl⟩ := Prod.mk.inj (Option.some.inj hread)
    have hnil := remaining_eq_nil_of_count_eq_zero (rooms 0) hcount
    have hlength := r.length_remaining
    rw [hnil, List.length_nil] at hlength
    rw [InRange] at h
    have hposition : r.position + min (rooms 0).val.length r.remaining.length = r.data.length := by
      rw [hnil, List.length_nil]
      omega
    rw [hnil, ← hposition]
    rfl
  | case3 rooms r fill r' hread hcount ih =>
    rw [readInto?_eq h] at hread
    obtain ⟨rfl, rfl⟩ := Prod.mk.inj (Option.some.inj hread)
    have hwhole := r.read_append_remaining (rooms 0).val.length
    rw [ih (h.read _), Fill.piece_copied]
    exact congrArg (fun data => some (data, _)) hwhole

end ByteReader

/-- What reads into some buffers make of some bytes, from the first byte on. Each of them copies as many
bytes as are left and there are places for, and does not touch the other places. -/
structure Spread (data : Bytes) (buffers : List Bytes) (fills : List Fill) (r : ByteReader) : Prop where
  data_eq : r.data = data
  position_le : r.position ≤ data.length
  position_eq : r.position = min (totalRoom buffers) data.length
  length : fills.length = buffers.length
  each : ∀ i buffer, buffers[i]? = some buffer → ∃ fill, fills[i]? = some fill ∧
    fill.count = min buffer.length (data.length - totalRoom (buffers.take i)) ∧
    fill.piece.length = fill.count ∧ fill.buffer = fill.piece ++ buffer.drop fill.count
  joined : (fills.map Fill.piece).flatten = data.take (min (totalRoom buffers) data.length)
  rest : r.readAll.1 = data.drop (min (totalRoom buffers) data.length)
  restInto : ∀ rooms, r.readToEnd? rooms = some (r.readAll.1, ⟨data, data.length⟩)

namespace ByteReader

theorem getElem?_fills (data : Bytes) {buffers : List Bytes} {i : Nat} {buffer : Bytes}
    (h : buffers[i]? = some buffer) :
    ∃ piece, (List.zipWith Fill.copied ((start data).readEach (buffers.map List.length)).1 buffers)[i]? =
        some (.copied piece buffer) ∧
      piece.length = min buffer.length (data.length - totalRoom (buffers.take i)) := by
  let before := ((start data).readEach ((buffers.take i).map List.length)).2
  have hpiece : ((start data).readEach (buffers.map List.length)).1[i]? =
      some (before.read buffer.length).1 := by
    rw [getElem?_readEach, List.getElem?_map, h, ← List.map_take]
    rfl
  have hleft : before.remaining.length = data.length - totalRoom (buffers.take i) := by
    rw [remaining_readEach, List.length_drop]
    rfl
  refine ⟨(before.read buffer.length).1, ?_, ?_⟩
  · rw [List.getElem?_zipWith, hpiece, h]
  · rw [length_read, hleft]

/-- No read from the start is refused, and the reads spread the bytes over the buffers. -/
theorem spread_readsInto? (data : Bytes) (buffers : List Bytes) :
    ∃ fills r, readsInto? readInto? (start data) buffers = some (fills, r) ∧
      (start data).readEach (buffers.map List.length) = (fills.map Fill.piece, r) ∧
      Spread data buffers fills r := by
  let sizes := buffers.map List.length
  have hrange : (start data).InRange := inRange_start data
  have hdata : ((start data).readEach sizes).2.data = data := data_readEach _ sizes
  have hposition : ((start data).readEach sizes).2.position = min (totalRoom buffers) data.length := by
    rw [hrange.position_readEach]
    exact congrArg (min · data.length) (Nat.zero_add _)
  have hlength : ((start data).readEach sizes).1.length = buffers.length := by
    rw [length_readEach, List.length_map]
  have hpieces := map_piece_zipWith_copied hlength
  refine ⟨_, _, readsInto?_eq hrange buffers, by rw [hpieces], hdata, ?_, hposition, ?_, ?_, ?_, ?_, ?_⟩
  · rw [hposition]
    exact Nat.min_le_right ..
  · rw [List.length_zipWith, hlength, Nat.min_self]
  · intro i buffer hbuffer
    obtain ⟨piece, hfill, hcount⟩ := getElem?_fills data hbuffer
    refine ⟨.copied piece buffer, hfill, hcount, ?_⟩
    rw [Fill.piece_copied]
    exact ⟨rfl, rfl⟩
  · rw [hpieces, flatten_readEach]
    exact List.take_eq_take_min
  · rw [readAll_fst, remaining_readEach]
    exact List.drop_eq_drop_min
  · intro rooms
    rw [readToEnd?_eq (hrange.readEach sizes), hdata, readAll_fst]

end ByteReader

namespace ValueStream

theorem readsInto?_eq (s : ValueStream) (buffers : List Bytes) :
    readsInto? readInto? s buffers =
      (readsInto? ByteReader.readInto? s.reader buffers).map fun (fills, r) =>
        (fills, { s with reader := r }) := by
  induction buffers generalizing s with
  | nil => rfl
  | cons buffer buffers ih =>
    rw [readsInto?, readsInto?, readInto?]
    cases hread : s.reader.readInto? buffer with
    | none => rfl
    | some read =>
      show (readsInto? readInto? { s with reader := read.2 } buffers).bind _ =
        Option.map _ ((readsInto? ByteReader.readInto? read.2 buffers).bind _)
      rw [ih]
      cases readsInto? ByteReader.readInto? read.2 buffers <;> rfl

end ValueStream

end Sentinel
