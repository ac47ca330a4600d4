import DiffContents.Log.Event
import DiffContents.Log.Pattern
import DiffContents.Position
import DiffContents.Text.Blank
import DiffContents.Text.Digits

/-!
# Directives of a log filter

A directive sets how far the log goes.  It is about all events, or about those whose source begins
with a given text, or that have a field with a given name, or both.  As a text it is a level; or
the beginning of a source, then the name of a field in square and curly brackets, then a level
behind an equals sign, where any of the three may be left out.

Between the brackets a span may be named, and a field may be given a value, which is a number or a
pattern.  Such a directive speaks of what happens inside a span; there are no spans here, so it
is about no event.

* `Directive.applies` says which events a directive is about;
* `Directive.givesWay` says which of two directives about an event is the more particular one;
* `Directive.ofText?` reads a directive.
-/

namespace DiffContents

/-- **A directive of a filter.** -/
structure Directive where
  /-- What the source of an event begins with. -/
  source : Option String
  /-- The name of a field of an event. -/
  field : Option String
  /-- It is about what happens inside a span. -/
  inSpan : Bool
  /-- The greatest rank that is shown. -/
  limit : Nat
deriving DecidableEq, Repr, Inhabited

namespace Directive

/-- A directive for all events. -/
def upTo (level : Level) : Directive := ⟨none, none, false, level.rank⟩

/-- The directive is about an event. -/
def applies (d : Directive) (e : Event) : Bool :=
  !d.inSpan && d.source.all (e.source.startsWith ·) && d.field.all (e.fieldNames.contains ·)

/-- How much a directive says about sources. -/
def weight (d : Directive) : Nat := (d.source.map (·.utf8ByteSize + 1)).getD 0

/-- A directive gives way to another one that says more about sources, or as much about sources
and more about fields; of two names of fields the greater one counts for more.  Between equals the
later one counts, so that a directive gives way to its equal. -/
def givesWay (d e : Directive) : Bool :=
  d.weight < e.weight || d.weight = e.weight &&
    match d.field, e.field with
    | none, _ => true
    | some _, none => false
    | some a, some b => !decide (b < a)

/-- Of two equal directives the later one counts. -/
@[simp] theorem givesWay_self (d : Directive) : d.givesWay d = true := by
  cases h : d.field <;> simp [givesWay, h]

/-! ## Levels and fields -/

/-- The limit with a name or a number. -/
def limit? (s : String) : Option Nat :=
  match Text.natural? s with
  | some n => if n ≤ 5 then some n else none
  | none => ["off", "error", "warn", "info", "debug", "trace"].findIdx?
      (· = s.map Char.toLower)

/-- A number with a plus sign in front, which is no pattern. -/
def isPositive : List Char → Bool
  | '+' :: cs =>
    let whole := cs.takeWhile Char.isDigit
    let rest := cs.drop whole.length
    let places := match rest with
      | '.' :: cs => cs.takeWhile Char.isDigit
      | _ => []
    let rest := if rest.head? = some '.' then rest.tail.drop places.length else rest
    let exponent : Bool := match rest with
      | [] => true
      | c :: cs =>
        let digits := if cs.head? = some '+' || cs.head? = some '-' then cs.tail else cs
        (c = 'e' || c = 'E') && !digits.isEmpty && digits.all Char.isDigit
    !(whole ++ places).isEmpty && exponent ||
      ["inf", "infinity", "nan"].contains (String.ofList (cs.map Char.toLower))
  | _ => false

/-- A directive with what stands between its curly brackets. -/
def withField? (d : Directive) (s : String) : Option Directive :=
  if s = "" then none
  else
    match s.splitOn "=" with
    | name :: value :: _ =>
      if Pattern.wellFormed value || isPositive value.toList then
        some { d with field := some name, inSpan := true }
      else none
    | _ => some { d with field := some s }

/-! ## Reading -/

/-- The part of a directive that is being read, and where it began. -/
inductive Part where
  | start
  | source
  | span (start : Nat)
  | field (start : Nat)
  | behindField
  | behindSpan
  | level (start : Nat)
deriving DecidableEq, Repr, Inhabited

/-- A character a directive may begin with. -/
def begins (c : Char) : Bool := Text.isWordChar c || c = '-' || c = ':' || c = '_'

/-- Reads the character at offset `i` of a directive.  The parts it completes are cut out of the
text `s` by their offsets. -/
def step (s : String) (i : Nat) (c : Char) (d : Directive) : Part → Option (Part × Directive)
  | .start =>
    if c = '[' then some (.span (i + 1), d) else if begins c then some (.source, d) else none
  | .source => do
    if c = '=' then return (.level (i + 1), { d with source := some (← Source.slice? s 0 i) })
    else if c = '[' then return (.span (i + 1), { d with source := some (← Source.slice? s 0 i) })
    else return (.source, d)
  | .span start =>
    if c = ']' then some (.behindSpan, { d with inSpan := true })
    else if c = '\x7b' then some (.field (i + 1), { d with inSpan := start ≠ i })
    else some (.span start, d)
  | .field start => do
    if c = '\x7d' then return (.behindField, ← d.withField? (← Source.slice? s start i))
    else return (.field start, d)
  | .behindField => if c = ']' then some (.behindSpan, d) else none
  | .behindSpan => if c = '=' then some (.level (i + 1), d) else none
  | .level start => some (.level start, d)

/-- Reads characters from offset `i` on. -/
def readFrom (s : String) : Nat → List Char → Part × Directive → Option (Part × Directive)
  | _, [], p => some p
  | i, c :: cs, (part, d) => do readFrom s (i + c.utf8Size) cs (← step s i c d part)

/-- The directive that has been read when the text `s` is at its end. -/
def finish (s : String) (d : Directive) : Part → Option Directive
  | .source =>
    match limit? s with
    | some limit => some { d with limit := limit }
    | none => some { d with source := some s }
  | .level start => do
    let level ← Source.slice? s start s.utf8ByteSize
    if level = "" then return d else return { d with limit := ← limit? level }
  | .behindSpan => some d
  | _ => none

/-- **The directive in a text.**  Its parts are found without the blanks around the text, but cut
out of the text with them; so blanks before a directive push its parts to the left. -/
def ofText? (s : String) : Option Directive := do
  let (part, d) ← readFrom s 0 (Text.trimmed s.toList) (.start, ⟨none, none, false, 5⟩)
  finish s d part

end Directive

end DiffContents
