import Sentinel.Content.Stream
/-!
# Reading into buffers

A reader copies what it reads into a buffer of its caller. It cuts out what is left of its own bytes,
what of that it copies, and the part of the buffer that it copies to, and each of these slices has to
be in range. A caller that wants all bytes hands over one buffer after the other, until a read copies
nothing.

1. `readInto?_eq`: a read in range is that of `ByteReader.read`.
2. `readInto?_eq_none_iff`: a slice is out of range exactly if the position is behind the end.
3. `remaining_lt_of_readInto?`: a read that copies something leaves less, so that reading to the end ends.

Correspondence (operation of the component ↔ definition):
  `BytesReader.poll_read`, slice by slice ↔ `ByteReader.readInto?`
  `ValueStream.poll_read`                 ↔ `ValueStream.readInto?`
  `read_to_end` on a stream               ↔ `ValueStream.readToEnd?`
-/

namespace Sentinel

/-- The bytes from one place up to another, absent where the places are out of order or the second one
is behind the end. -/
def slice? (data : Bytes) (start stop : Nat) : Option Bytes :=
  if start ≤ stop ∧ stop ≤ data.length then some ((data.take stop).drop start) else none

theorem slice?_length {data : Bytes} {start : Nat} (h : start ≤ data.length) :
    slice? data start data.length = some (data.drop start) := by
  simp [slice?, h]

theorem slice?_zero {data : Bytes} {stop : Nat} (h : stop ≤ data.length) :
    slice? data 0 stop = some (data.take stop) := by
  simp [slice?, h]

/-- What a read leaves: the number of bytes that it has copied, and the buffer. -/
structure Fill where
  count : Nat
  buffer : Bytes
deriving DecidableEq, Repr

namespace Fill

def piece (f : Fill) : Bytes := f.buffer.take f.count

/-- A buffer with some bytes copied to its start; what is behind them stays. -/
def copied (piece buffer : Bytes) : Fill := ⟨piece.length, piece ++ buffer.drop piece.length⟩

theorem piece_copied (piece buffer : Bytes) : (copied piece buffer).piece = piece := List.take_left

end Fill

/-- A buffer with room for one byte at least. -/
abbrev Room := { buffer : Bytes // buffer ≠ [] }

/-- One read after the other, each into a buffer of its own, until a slice is out of range. -/
def readsInto? {σ : Type} (readInto? : σ → Bytes → Option (Fill × σ)) (s : σ) :
    List Bytes → Option (List Fill × σ)
  | [] => some ([], s)
  | buffer :: buffers => do
    let (fill, s) ← readInto? s buffer
    let (fills, s) ← readsInto? readInto? s buffers
    return (fill :: fills, s)

namespace ByteReader

variable {r r' : ByteReader} {buffer : Bytes}

/-- The position is not behind the end. -/
def InRange (r : ByteReader) : Prop := r.position ≤ r.data.length

theorem inRange_start (data : Bytes) : (start data).InRange := Nat.zero_le _

theorem length_remaining (r : ByteReader) : r.remaining.length = r.data.length - r.position :=
  List.length_drop

theorem length_read (r : ByteReader) (size : Nat) :
    (r.read size).1.length = min size r.remaining.length := by
  rw [read, List.length_take]
  omega

theorem InRange.read (h : r.InRange) (size : Nat) : (r.read size).2.InRange := by
  have hlength := r.length_remaining
  rw [InRange] at h
  show r.position + min size r.remaining.length ≤ r.data.length
  omega

/-- Reads into a buffer. There is no outcome where one of the slices is out of range, or where there are
not as many bytes to copy as places for them. -/
def readInto? (r : ByteReader) (buffer : Bytes) : Option (Fill × ByteReader) := do
  let remaining ← slice? r.data r.position r.data.length
  let count := min buffer.length remaining.length
  let target ← slice? buffer 0 count
  let source ← slice? remaining 0 count
  if target.length = source.length then
    return (⟨count, source ++ buffer.drop count⟩, { r with position := r.position + count })
  else none

theorem readInto?_eq (h : r.InRange) (buffer : Bytes) :
    r.readInto? buffer =
      some (.copied (r.read buffer.length).1 buffer, (r.read buffer.length).2) := by
  have hremaining : slice? r.data r.position r.data.length = some r.remaining := slice?_length h
  have htarget := slice?_zero (Nat.min_le_left buffer.length r.remaining.length)
  have hsource := slice?_zero (Nat.min_le_right buffer.length r.remaining.length)
  have hfit : (buffer.take (min buffer.length r.remaining.length)).length =
      (r.remaining.take (min buffer.length r.remaining.length)).length := by
    rw [List.length_take, List.length_take]
    omega
  have hcount := r.length_read buffer.length
  simp only [readInto?, hremaining, htarget, hsource, Option.bind_eq_bind, Option.bind_some, hfit, if_true]
  rw [Fill.copied, hcount]
  rfl

theorem readInto?_eq_none_iff : r.readInto? buffer = none ↔ ¬r.InRange := by
  by_cases h : r.InRange
  · rw [readInto?_eq h]
    simp [h]
  · have hremaining : slice? r.data r.position r.data.length = none :=
      if_neg fun hslice => h hslice.1
    rw [readInto?, hremaining]
    simp [h]

theorem remaining_lt_of_readInto? {fill : Fill} (h : r.readInto? buffer = some (fill, r'))
    (hcount : fill.count ≠ 0) : r'.remaining.length < r.remaining.length := by
  by_cases hrange : r.InRange
  · rw [readInto?_eq hrange] at h
    obtain ⟨rfl, rfl⟩ := Prod.mk.inj (Option.some.inj h)
    have hsome : (r.read buffer.length).1.length ≠ 0 := hcount
    have hlength := r.length_read buffer.length
    rw [remaining_read, List.length_drop]
    omega
  · rw [readInto?_eq_none_iff.mpr hrange] at h
    cases h

/-- Reads to the end, into one buffer after the other, until a read copies nothing. -/
def readToEnd? (rooms : Nat → Room) (r : ByteReader) : Option (Bytes × ByteReader) :=
  match h : r.readInto? (rooms 0).val with
  | none => none
  | some (fill, r') =>
    if hcount : fill.count = 0 then some ([], r')
    else (r'.readToEnd? fun n => rooms (n + 1)).map fun (data, r'') => (fill.piece ++ data, r'')
termination_by r.remaining.length
decreasing_by exact remaining_lt_of_readInto? h hcount

end ByteReader

namespace ValueStream

/-- Reads from the reader of the stream; what is announced plays no part. -/
def readInto? (s : ValueStream) (buffer : Bytes) : Option (Fill × ValueStream) :=
  (s.reader.readInto? buffer).map fun (fill, r) => (fill, { s with reader := r })

def readToEnd? (rooms : Nat → Room) (s : ValueStream) : Option (Bytes × ValueStream) :=
  (s.reader.readToEnd? rooms).map fun (data, r) => (data, { s with reader := r })

end ValueStream

end Sentinel
