import CodeConventions.Text.Utf8

/-!
# Source text

Places and ranges in a text, and the text of a source file as bytes.
-/

namespace CodeConventions

/-!
## Spans

A span is a range of byte offsets together with the lines and columns of its two ends.  Lines and
columns count from one, and a column counts bytes.  Spans also come from outside, so they are
integers that nothing is assumed about.
-/

/-- A place in a text: its line and its column, both counted from one. -/
structure Position where
  line : Nat
  column : Int
  deriving DecidableEq, Repr, Inhabited

/-- How many of some bytes lie before an offset; an offset below zero counts back from the end. -/
def bytesBefore (size : Nat) (offset : Int) : Nat :=
  if 0 ≤ offset then min offset.toNat size else size - offset.natAbs

/-- The place at an offset in some bytes: the line follows the line feeds before it, and the column
counts on from the last of them to the offset.  An offset beyond the end lies on the last line. -/
def Position.ofOffset (bytes : List UInt8) (offset : Int) : Position :=
  let before := bytes.take (bytesBefore bytes.length offset)
  let lineStart := before.length - (before.reverse.takeWhile (· != 10)).length
  ⟨before.count 10 + 1, offset - lineStart + 1⟩

/-- A range of bytes and where it begins and ends. -/
structure Span where
  start : Int
  stop : Int
  line : Int
  column : Int
  stopLine : Int
  stopColumn : Int
  deriving DecidableEq, Repr, Inhabited

/-- The empty span at the beginning of a text. -/
def Span.fileStart : Span := ⟨0, 0, 1, 1, 1, 1⟩

/-- The empty span at a position. -/
def Span.atPosition (offset : Nat) (p : Position) : Span :=
  ⟨offset, offset, p.line, p.column, p.line, p.column⟩

/-- A span as a message shows it. -/
def Span.toText (s : Span) : String := s!"{s.line}:{s.column}"

/-- The span touches the line. -/
def Span.containsLine (s : Span) (line : Int) : Bool := s.line ≤ line && line ≤ s.stopLine

/-!
## Source text

The text of a source file as bytes.  Parts of it are named by byte offsets; a part is read as
UTF-8, and what is not text in it shows as the replacement character.
-/

/-- The bytes of a source file. -/
structure SourceText where
  bytes : Array UInt8
  deriving DecidableEq, Inhabited

namespace SourceText

/-- The source that a text is stored as. -/
def ofString (s : String) : SourceText := ⟨s.toUTF8.data⟩

/-- The number of bytes. -/
def size (t : SourceText) : Nat := t.bytes.size

/-- The bytes of a range. -/
def range (t : SourceText) (start stop : Nat) : List UInt8 :=
  (t.bytes.extract start stop).toList

theorem range_eq (t : SourceText) (start stop : Nat) :
    t.range start stop = (t.bytes.toList.drop start).take (stop - start) := by
  simp [range, List.extract_eq_take_drop]

/-- The text of a range. -/
def textIn (t : SourceText) (start stop : Nat) : String :=
  String.ofList (Text.Utf8.decode (t.range start stop))

/-- Where an offset lies. -/
def positionOf (t : SourceText) (offset : Int) : Position :=
  Position.ofOffset (t.range 0 t.size) offset

/-- The span of a range. -/
def spanOf (t : SourceText) (start stop : Int) : Span :=
  let a := t.positionOf start
  let b := t.positionOf stop
  ⟨start, stop, a.line, a.column, b.line, b.column⟩

end SourceText

end CodeConventions
