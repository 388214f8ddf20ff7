/-!
# Streams of bytes

The bytes of a value, read in pieces from a running position.

1. `position_read`, `read_append_remaining`: a read returns the next bytes, no more than are left,
   and goes on behind them.

Correspondence (operation of the component ↔ definition):
  `BytesReader.new`, `poll_read`                       ↔ `ByteReader.start`, `ByteReader.read`
  `ValueStream.from_bytes`, `from_text`, `from_reader` ↔ `ValueStream.ofBytes`, `ofText`, `ofReader`
  `with_size_hint`, `size_hint`                        ↔ `ValueStream.withSizeHint`, the field `sizeHint`
-/

namespace Sentinel

abbrev Bytes := List UInt8

def utf8 (s : String) : Bytes := s.toUTF8.data.toList

/-- A reader of bytes, with the number of bytes that have been read. -/
structure ByteReader where
  data : Bytes
  position : Nat
deriving DecidableEq, Repr

namespace ByteReader

/-- A reader at the start of some bytes. -/
def start (data : Bytes) : ByteReader := ⟨data, 0⟩

def remaining (r : ByteReader) : Bytes := r.data.drop r.position

/-- Reads into a buffer of some size: as many bytes as fit, or as are left. -/
def read (r : ByteReader) (size : Nat) : Bytes × ByteReader :=
  let count := min size r.remaining.length
  (r.remaining.take count, { r with position := r.position + count })

def readEach (r : ByteReader) : List Nat → List Bytes × ByteReader
  | [] => ([], r)
  | size :: sizes =>
    let (piece, r) := r.read size
    let (pieces, r) := r.readEach sizes
    (piece :: pieces, r)

def readAll (r : ByteReader) : Bytes × ByteReader := r.read r.remaining.length

theorem remaining_read (r : ByteReader) (size : Nat) :
    (r.read size).2.remaining = r.remaining.drop (r.read size).1.length := by
  simp only [read, remaining, List.drop_drop, List.length_take, List.length_drop]
  congr 1
  omega

theorem read_append_remaining (r : ByteReader) (size : Nat) :
    (r.read size).1 ++ (r.read size).2.remaining = r.remaining := by
  rw [remaining_read]
  simp only [read, List.length_take]
  rw [Nat.min_eq_left (Nat.min_le_right size r.remaining.length)]
  exact List.take_append_drop _ _

theorem readAll_fst (r : ByteReader) : r.readAll.1 = r.remaining := by
  simp [readAll, read]

end ByteReader

/-- The bytes of a value as an engine gets them, with the number of bytes that is announced. -/
structure ValueStream where
  reader : ByteReader
  sizeHint : Option Nat
deriving DecidableEq, Repr

namespace ValueStream

/-- A stream over bytes, which announces their number. -/
def ofBytes (data : Bytes) : ValueStream := ⟨.start data, some data.length⟩

def ofText (s : String) : ValueStream := ofBytes (utf8 s)

/-- A stream over a reader, which announces nothing. -/
def ofReader (r : ByteReader) : ValueStream := ⟨r, none⟩

/-- The stream with another announced number of bytes. -/
def withSizeHint (s : ValueStream) (size : Nat) : ValueStream := { s with sizeHint := some size }

/-- The bytes that have not been read. -/
def contents (s : ValueStream) : Bytes := s.reader.readAll.1

end ValueStream

end Sentinel
