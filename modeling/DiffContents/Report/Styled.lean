/-!
# Styled text

A report is made of pieces of text, some of which have a style: a weight or a colour that a
terminal shows.  With colours on, a styled piece stands between the sequence that opens its style
and the sequence that resets it; with colours off, it is its text alone.

A piece whose text resets the style by itself would lose it there, so its opening sequence is
written again after every reset inside the text.
-/

namespace DiffContents

/-- The colours of a report. -/
inductive Colour where
  | red | green | yellow | cyan
deriving DecidableEq, Repr, Inhabited

/-- The number a terminal knows a colour by. -/
def Colour.code : Colour → String
  | red => "31"
  | green => "32"
  | yellow => "33"
  | cyan => "36"

/-- **How a piece of text is shown.** -/
structure Style where
  bold : Bool
  dimmed : Bool
  colour : Option Colour
deriving DecidableEq, Repr, Inhabited

namespace Style

/-- Text in bold. -/
def strong : Style := ⟨true, false, none⟩

/-- Text that stands back. -/
def faint : Style := ⟨false, true, none⟩

/-- Text in a colour. -/
def coloured (c : Colour) : Style := ⟨false, false, some c⟩

/-- Text in bold and in a colour. -/
def strongly (c : Colour) : Style := ⟨true, false, some c⟩

/-- The codes of a style: its weight before its colour. -/
def codes (s : Style) : List String :=
  (if s.bold then ["1"] else []) ++ (if s.dimmed then ["2"] else []) ++
    (s.colour.map Colour.code).toList

/-- The sequence that opens a style. -/
def opening (s : Style) : List Char :=
  '\x1b' :: '[' :: (String.intercalate ";" s.codes).toList ++ ['m']

/-- The sequence that resets every style. -/
def reset : List Char := ['\x1b', '[', '0', 'm']

/-- A text with a sequence written again after every reset in it. -/
def reopen (sequence : List Char) : List Char → List Char
  | '\x1b' :: '[' :: '0' :: 'm' :: cs => reset ++ sequence ++ reopen sequence cs
  | c :: cs => c :: reopen sequence cs
  | [] => []

/-- A text in a style. -/
def wrap (s : Style) (text : List Char) : List Char :=
  s.opening ++ reopen s.opening text ++ reset

end Style

/-- **A piece of a report**: a text, and its style if it has one. -/
structure Piece where
  style : Option Style
  text : String
deriving DecidableEq, Repr, Inhabited

namespace Piece

/-- A text without a style. -/
def plain (text : String) : Piece := ⟨none, text⟩

/-- A text with a style. -/
def styled (style : Style) (text : String) : Piece := ⟨some style, text⟩

/-- The characters of a piece, with colours on or off. -/
def chars (colours : Bool) (p : Piece) : List Char :=
  match colours, p.style with
  | true, some style => style.wrap p.text.toList
  | _, _ => p.text.toList

@[simp] theorem chars_false (p : Piece) : p.chars false = p.text.toList := rfl

@[simp] theorem chars_plain (colours : Bool) (text : String) :
    (plain text).chars colours = text.toList := by
  cases colours <;> rfl

end Piece

/-- A line of a report. -/
abbrev Line := List Piece

/-- The characters of a line, without its end. -/
def Line.chars (colours : Bool) (line : Line) : List Char := line.flatMap (Piece.chars colours)

/-- **A report over several lines**: lines that end with a line feed, and a last one that does
not. -/
structure Table where
  lines : List Line
  last : Line
deriving DecidableEq, Repr, Inhabited

namespace Table

/-- The characters of a table. -/
def chars (colours : Bool) (t : Table) : List Char :=
  t.lines.flatMap (fun line => line.chars colours ++ ['\n']) ++ t.last.chars colours

/-- The text of a table, with colours on or off. -/
def text (colours : Bool) (t : Table) : String := String.ofList (t.chars colours)

end Table

end DiffContents
