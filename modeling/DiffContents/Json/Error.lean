import DiffContents.Decimal.FloatText
import DiffContents.Text.Quoted

/-!
# What is wrong with a JSON text

A `Problem` is a cause and the place it is noticed at.  Causes are of three kinds: the text is no
JSON, it ends too early, or it is JSON but not of the form asked for.
-/

namespace DiffContents

namespace Json

/-- **A place in a text**: the line, counted from one, and the bytes before it on that line. -/
structure Mark where
  line : Nat
  column : Nat
deriving DecidableEq, Repr, Inhabited

namespace Mark

/-- The beginning of a text. -/
def first : Mark := ⟨1, 0⟩

/-- The place after a character. -/
def after (m : Mark) (c : Char) : Mark :=
  if c = '\n' then ⟨m.line + 1, 0⟩ else ⟨m.line, m.column + c.utf8Size⟩

/-- The place after the first byte of a character: where a character that should not be there is
noticed. -/
def past (m : Mark) (c : Char) : Mark :=
  if c = '\n' then ⟨m.line + 1, 0⟩ else ⟨m.line, m.column + 1⟩

/-- The place a number of bytes further on. -/
def afterBytes (m : Mark) : Nat → List Char → Mark
  | _, [] => m
  | 0, _ => m
  | n + 1, c :: cs =>
    if c.utf8Size ≤ n + 1 then (m.after c).afterBytes (n + 1 - c.utf8Size) cs
    else ⟨m.line, m.column + (n + 1)⟩

/-- The place after all of a text. -/
def afterAll (m : Mark) (cs : List Char) : Mark := cs.foldl Mark.after m

end Mark

/-- What was found where something else was wanted. -/
inductive Found where
  | null
  | boolean (value : Bool)
  | integer (value : Int)
  | float (value : Float)
  | string (value : String)
  | sequence
  | map
  | unitVariant
deriving DecidableEq, Repr, Inhabited

/-- The words for what was found. -/
def Found.text : Found → String
  | null => "null"
  | boolean b => "boolean `" ++ (if b then "true" else "false") ++ "`"
  | integer n => "integer `" ++ toString n ++ "`"
  | float f => "floating point `" ++ FloatText.render f ++ "`"
  | string s => "string " ++ Text.quoted s
  | sequence => "sequence"
  | map => "map"
  | unitVariant => "unit variant"

/-- The three kinds of causes. -/
inductive ErrorKind where
  /-- The text is no JSON. -/
  | malformed
  /-- The text ends too early. -/
  | cutShort
  /-- The text is JSON, but not of the form asked for. -/
  | unsuitable
deriving DecidableEq, Repr, Inhabited

/-- **What can be wrong with a text.** -/
inductive Cause where
  | endOfValue | endOfList | endOfObject | endOfString
  | expectedColon | expectedListEnd | expectedObjectEnd | expectedWord | expectedValue
  | keyNotString | trailingComma | trailingText | tooDeep
  | badNumber | numberTooLarge
  | badEscape | loneSurrogate | halfSurrogatePair | controlCharacter
  | wrongType (found : Found) (wanted : String)
  | wrongValue (found : Found) (wanted : String)
  | wrongLength (length : Nat) (wanted : String)
  | missingField (name : String)
  | repeatedField (name : String)
  | unknownVariant (name : String) (known : List String)
deriving DecidableEq, Repr, Inhabited

namespace Cause

/-- The kind of a cause. -/
def kind : Cause → ErrorKind
  | endOfValue | endOfList | endOfObject | endOfString => .cutShort
  | expectedColon | expectedListEnd | expectedObjectEnd | expectedWord | expectedValue
  | keyNotString | trailingComma | trailingText | tooDeep
  | badNumber | numberTooLarge
  | badEscape | loneSurrogate | halfSurrogatePair | controlCharacter => .malformed
  | wrongType _ _ | wrongValue _ _ | wrongLength _ _ | missingField _ | repeatedField _
  | unknownVariant _ _ => .unsuitable

/-- A name between backticks. -/
def ticked (name : String) : String := "`" ++ name ++ "`"

/-- The choice between several names. -/
def choice : List String → String
  | [] => "there are no variants"
  | [a] => "expected " ++ ticked a
  | [a, b] => "expected " ++ ticked a ++ " or " ++ ticked b
  | names => "expected one of " ++ String.intercalate ", " (names.map ticked)

/-- The words for a cause. -/
def text : Cause → String
  | endOfValue => "EOF while parsing a value"
  | endOfList => "EOF while parsing a list"
  | endOfObject => "EOF while parsing an object"
  | endOfString => "EOF while parsing a string"
  | expectedColon => "expected `:`"
  | expectedListEnd => "expected `,` or `]`"
  | expectedObjectEnd => "expected `,` or `\x7d`"
  | expectedWord => "expected ident"
  | expectedValue => "expected value"
  | keyNotString => "key must be a string"
  | trailingComma => "trailing comma"
  | trailingText => "trailing characters"
  | tooDeep => "recursion limit exceeded"
  | badNumber => "invalid number"
  | numberTooLarge => "number out of range"
  | badEscape => "invalid escape"
  | loneSurrogate => "lone leading surrogate in hex escape"
  | halfSurrogatePair => "unexpected end of hex escape"
  | controlCharacter => "control character (\\u0000-\\u001F) found while parsing a string"
  | wrongType found wanted => "invalid type: " ++ found.text ++ ", expected " ++ wanted
  | wrongValue found wanted => "invalid value: " ++ found.text ++ ", expected " ++ wanted
  | wrongLength n wanted => "invalid length " ++ toString n ++ ", expected " ++ wanted
  | missingField name => "missing field " ++ ticked name
  | repeatedField name => "duplicate field " ++ ticked name
  | unknownVariant name known => "unknown variant " ++ ticked name ++ ", " ++ choice known

end Cause

/-- **A cause and the place it is noticed at.** -/
structure Problem where
  cause : Cause
  mark : Mark
deriving DecidableEq, Repr, Inhabited

/-- **A failure to read a value**: a cause with its place, if it has one. -/
structure ReadError where
  cause : Cause
  mark : Option Mark
deriving DecidableEq, Repr, Inhabited

namespace ReadError

/-- The message for a failure. -/
def message (e : ReadError) : String :=
  match e.mark with
  | none => e.cause.text
  | some m =>
    e.cause.text ++ " at line " ++ toString m.line ++ " column " ++ toString m.column

end ReadError

end Json

end DiffContents
