/-!
# Positions and spans in a source

A source is text; a place in it is given by a byte offset or by a line and a column, both
counted from one.  `Position.ofOffset` passes from the first to the second by reading the
characters that begin before the offset, and `Span.ofBytes` does so for both ends of a range.

`Source.slice?` is the text of a byte range: it exists only when the range runs forwards, stays
inside the source and does not cut a character in two.
-/

namespace DiffContents

/-- **A line and a column**, both counted from one. -/
structure Position where
  /-- The line, one more than the line feeds before the place. -/
  line : UInt32
  /-- The column, one more than the characters before the place on its line. -/
  column : UInt32
deriving DecidableEq, Repr, Inhabited

namespace Position

/-- The first place of every source. -/
def first : Position := ⟨1, 1⟩

/-- The place after one more character: a line feed opens a line, any other character takes a
column. -/
def next (p : Position) (c : Char) : Position :=
  if c = '\n' then ⟨p.line + 1, 1⟩ else ⟨p.line, p.column + 1⟩

/-- The place reached from `p` by the characters that begin before the given number of bytes. -/
def advance (p : Position) : Nat → List Char → Position
  | _, [] => p
  | 0, _ => p
  | n + 1, c :: cs => advance (p.next c) (n + 1 - c.utf8Size) cs

/-- The line and column of a byte offset.  An offset past the end gives the end, one inside a
character the place after that character. -/
def ofOffset (source : String) (offset : Nat) : Position :=
  first.advance offset source.toList

@[simp] theorem advance_nil (p : Position) (n : Nat) : p.advance n [] = p := by
  cases n <;> rfl

@[simp] theorem advance_zero (p : Position) (cs : List Char) : p.advance 0 cs = p := by
  cases cs <;> rfl

theorem advance_succ (p : Position) (n : Nat) (c : Char) (cs : List Char) :
    p.advance (n + 1) (c :: cs) = (p.next c).advance (n + 1 - c.utf8Size) cs := rfl

end Position

/-- **The place of a node**: its byte range and the lines and columns of both ends. -/
structure Span where
  /-- The offset of the first byte. -/
  startByte : UInt64
  /-- The offset after the last byte. -/
  endByte : UInt64
  /-- The line and column of the first byte. -/
  start : Position
  /-- The line and column after the last byte. -/
  stop : Position
deriving DecidableEq, Repr, Inhabited

namespace Span

/-- The span of a byte range of a source. -/
def ofBytes (source : String) (startByte endByte : UInt64) : Span where
  startByte := startByte
  endByte := endByte
  start := Position.ofOffset source startByte.toNat
  stop := Position.ofOffset source endByte.toNat

/-- The lines of a span, as `L1-L3`. -/
def lines (s : Span) : String :=
  "L" ++ toString s.start.line.toNat ++ "-L" ++ toString s.stop.line.toNat

end Span

namespace Source

/-- What is left of a text after its first `n` bytes, if they end with a character. -/
def dropBytes? : Nat → List Char → Option (List Char)
  | 0, cs => some cs
  | _ + 1, [] => none
  | n + 1, c :: cs =>
    if c.utf8Size ≤ n + 1 then dropBytes? (n + 1 - c.utf8Size) cs else none

/-- The first `n` bytes of a text, if they end with a character. -/
def takeBytes? : Nat → List Char → Option (List Char)
  | 0, _ => some []
  | _ + 1, [] => none
  | n + 1, c :: cs =>
    if c.utf8Size ≤ n + 1 then (takeBytes? (n + 1 - c.utf8Size) cs).map (c :: ·) else none

/-- The text between two byte offsets, if they are in order, inside the source and between
characters. -/
def slice? (source : String) (startByte endByte : Nat) : Option String :=
  if startByte ≤ endByte then
    (dropBytes? startByte source.toList).bind fun rest =>
      (takeBytes? (endByte - startByte) rest).map String.ofList
  else none

/-- The text a span covers; a span that does not fit the source covers nothing. -/
def text (source : String) (span : Span) : String :=
  (slice? source span.startByte.toNat span.endByte.toNat).getD ""

end Source

end DiffContents
