/-!
# Places in a source text

A place is a zero-based line and a zero-based *byte* column, and a span is a half-open range of
bytes together with the places of its two ends. Every coordinate fits 32 bits, and the places that
people read are counted from one without ever passing that bound:

* `StreamLint.Position` – a place, ordered line first;
* `StreamLint.Span` – a range of bytes with the places of its ends;
* `StreamLint.positions` – the places of all the byte offsets of a text;
* `StreamLint.slice` – the text between two byte offsets.
-/

namespace StreamLint

/-- The largest line, column or byte offset. -/
def maxCoordinate : Nat := 4294967295

/-- The coordinate after `n`; the largest coordinate stays where it is. -/
def nextCoordinate (n : Nat) : Nat :=
  min (n + 1) maxCoordinate

/-- Zero-based line and byte column. -/
structure Position where
  /-- Zero-based line. -/
  line : Nat
  /-- Bytes since the start of the line. -/
  column : Nat
  deriving DecidableEq, Repr, Inhabited

namespace Position

/-- Places are ordered by line, and by column within a line. -/
instance : Ord Position :=
  ⟨fun a b => (compare a.line b.line).then (compare a.column b.column)⟩

/-- The place as people count it: line and column from one. -/
def fromOne (place : Position) : Nat × Nat :=
  (nextCoordinate place.line, nextCoordinate place.column)

/-- The place written `line:column`, counted from one. -/
def display (place : Position) : String :=
  let (line, column) := place.fromOne
  s!"{line}:{column}"

/-- The place that follows a byte: a line feed opens the next line, any other byte takes one
column. -/
def advance (place : Position) (byte : UInt8) : Position :=
  if byte = 10 then ⟨place.line + 1, 0⟩ else ⟨place.line, place.column + 1⟩

end Position

/-- The places of the byte offsets `0, 1, …` of `text`, that of its end included. -/
def positions (text : String) : Array Position :=
  (text.toByteArray.data.foldl
    (fun (acc : Array Position × Position) byte =>
      let place := acc.2.advance byte
      (acc.1.push place, place))
    (#[⟨0, 0⟩], ⟨0, 0⟩)).1

/-- Half-open range of bytes, with the places of both ends. -/
structure Span where
  /-- First byte covered. -/
  startByte : Nat
  /-- First byte past the end. -/
  endByte : Nat
  /-- Place of `startByte`. -/
  start : Position
  /-- Place of `endByte`. -/
  stop : Position
  deriving DecidableEq, Repr, Inhabited

namespace Span

/-- Bytes covered. -/
def length (span : Span) : Nat :=
  span.endByte - span.startByte

/-- Whether nothing is covered, as for a token the reader of a program supplied itself. -/
def isEmpty (span : Span) : Bool :=
  span.length == 0

/-- Whether `other` lies within `span`, ends included. -/
def contains (span other : Span) : Bool :=
  span.startByte ≤ other.startByte && other.endByte ≤ span.endByte

end Span

/-- The text between the byte offsets `lo` and `hi`; empty when either of them is not the edge of
a character, or when they are out of order. -/
def slice (text : String) (lo hi : Nat) : String :=
  if lo ≤ hi && String.Pos.Raw.isValid text ⟨lo⟩ && String.Pos.Raw.isValid text ⟨hi⟩ then
    String.Pos.Raw.extract text ⟨lo⟩ ⟨hi⟩
  else
    ""

end StreamLint
