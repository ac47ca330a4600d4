/-!
# Patterns

A pattern describes the values a field may have.  It is made of characters that stand for
themselves, escapes after a backslash, classes of characters between square brackets, groups
between round ones, alternatives and repetitions.

`Pattern.wellFormed` says whether a text is a pattern.  A count between braces is refused, since a
closing brace would have ended the value, and so are escapes that stand for properties of
characters and for the boundaries of words.
-/

namespace DiffContents

namespace Pattern

/-! ## Escapes -/

/-- The character with a number of that many hexadecimal digits, and what stands after them. -/
def hex? (count : Nat) (cs : List Char) : Option (Char × List Char) :=
  let digits := cs.take count
  let value? (c : Char) : Option Nat :=
    if c.isDigit then some (c.toNat - '0'.toNat)
    else if 'a' ≤ c && c ≤ 'f' then some (c.toNat - 'a'.toNat + 10)
    else if 'A' ≤ c && c ≤ 'F' then some (c.toNat - 'A'.toNat + 10)
    else none
  do
    let values ← digits.mapM value?
    let n := values.foldl (fun n d => n * 16 + d) 0
    if values.length = count && n.isValidChar then return (Char.ofNat n, cs.drop count)
    else none

/-- The character an escape stands for, given what follows the backslash, and the rest. -/
def escape? : List Char → Option (Char × List Char)
  | [] => none
  | 'x' :: cs => hex? 2 cs
  | 'u' :: cs => hex? 4 cs
  | 'U' :: cs => hex? 8 cs
  | 'a' :: cs => some ('\x07', cs)
  | 'f' :: cs => some ('\x0c', cs)
  | 't' :: cs => some ('\t', cs)
  | 'n' :: cs => some ('\n', cs)
  | 'r' :: cs => some ('\r', cs)
  | 'v' :: cs => some ('\x0b', cs)
  | c :: cs =>
    if c.toNat < 0x80 && !c.isAlphanum && c ≠ '<' && c ≠ '>' then some (c, cs) else none

/-! ## Classes -/

/-- The names of classes that may stand between colons. -/
def classNames : List String :=
  ["alnum", "alpha", "ascii", "blank", "cntrl", "digit", "graph", "lower", "print", "punct",
   "space", "upper", "word", "xdigit"]

/-- What stands after a class name between colons, of which the opening bracket has been read. -/
def named? : List Char → Option (List Char)
  | ':' :: cs =>
    let cs := if cs.head? = some '^' then cs.tail else cs
    let name := String.ofList (cs.takeWhile (· ≠ ':'))
    match cs.dropWhile (· ≠ ':') with
    | ':' :: ']' :: rest => if classNames.contains name then some rest else none
    | _ => none
  | _ => none

/-- What stands after the beginning of a class: a sign that turns it around, dashes that stand for
themselves, or a closing bracket that does. -/
def afterOpening (cs : List Char) : List Char :=
  let cs := if cs.head? = some '^' then cs.tail else cs
  match cs with
  | ']' :: cs => cs
  | _ => cs.dropWhile (· = '-')

/-- A character of a class and the rest. -/
def member? : List Char → Option (Char × List Char)
  | [] => none
  | '\\' :: cs => escape? cs
  | c :: cs => some (c, cs)

/-- What stands after a class inside of which `depth` others are open. -/
def afterClass? : Nat → Nat → List Char → Option (List Char)
  | 0, _, _ => none
  | _, _, [] => none
  | fuel + 1, depth, ']' :: cs => if depth = 0 then some cs else afterClass? fuel (depth - 1) cs
  | fuel + 1, depth, '[' :: cs =>
    match named? cs with
    | some rest => afterClass? fuel depth rest
    | none => afterClass? fuel (depth + 1) (afterOpening cs)
  | fuel + 1, depth, '&' :: '&' :: cs | fuel + 1, depth, '-' :: '-' :: cs
  | fuel + 1, depth, '~' :: '~' :: cs => afterClass? fuel depth cs
  | fuel + 1, depth, cs => do
    let (first, rest) ← member? cs
    match rest with
    | '-' :: ']' :: _ | '-' :: '-' :: _ => afterClass? fuel depth rest
    | '-' :: rest =>
      let (last, rest) ← member? rest
      if first ≤ last then afterClass? fuel depth rest else none
    | _ => afterClass? fuel depth rest

/-! ## Groups -/

/-- The name of a group up to its closing bracket, and the rest. -/
def name? (cs : List Char) : Option (String × List Char) :=
  let name := cs.takeWhile (· ≠ '>')
  let allowed (c : Char) : Bool := c.isAlphanum || c = '_'
  if name.head?.any (fun c => allowed c && !c.isDigit) &&
      name.all (fun c => allowed c || c = '.' || c = '[' || c = ']') then
    (cs.dropWhile (· ≠ '>')).tail?.map (String.ofList name, ·)
  else none

/-- The letters of settings are in order: each once, and something behind a dash.  No letters may
make the case of characters count for nothing. -/
def settingsAllowed (letters : List Char) : Bool :=
  letters.all ("imsUuRx-".toList.contains ·) && letters.Nodup && letters.getLast? ≠ some '-' &&
    !(letters.takeWhile (· ≠ '-')).contains 'i'

/-- What has been read of a pattern. -/
structure Progress where
  /-- How many groups are open. -/
  depth : Nat
  /-- Something stands before that may be repeated. -/
  repeatable : Bool
  /-- The names of groups. -/
  names : List String

/-- Reads the beginning of a group behind its bracket and question mark. -/
def group? (p : Progress) (cs : List Char) : Option (Progress × List Char) :=
  let named (cs : List Char) : Option (Progress × List Char) := do
    let (name, rest) ← name? cs
    if p.names.contains name then none
    else return (⟨p.depth + 1, false, name :: p.names⟩, rest)
  match cs with
  | 'P' :: '<' :: cs | '<' :: cs => named cs
  | cs =>
    let letters := cs.takeWhile fun c => c ≠ ':' && c ≠ ')'
    if settingsAllowed letters then
      match cs.drop letters.length with
      | ':' :: rest => some (⟨p.depth + 1, false, p.names⟩, rest)
      | ')' :: rest =>
        if letters.isEmpty then none else some ({ p with repeatable := false }, rest)
      | _ => none
    else none

/-- Reads a pattern to its end, in at most `fuel` steps. -/
def readsWithin : Nat → Progress → List Char → Bool
  | 0, _, _ => false
  | _, p, [] => p.depth = 0
  | fuel + 1, p, '(' :: '?' :: cs =>
    match group? p cs with
    | some (p, rest) => readsWithin fuel p rest
    | none => false
  | fuel + 1, p, '(' :: cs =>
    readsWithin fuel { p with depth := p.depth + 1, repeatable := false } cs
  | fuel + 1, p, ')' :: cs =>
    p.depth ≠ 0 && readsWithin fuel { p with depth := p.depth - 1, repeatable := true } cs
  | fuel + 1, p, '|' :: cs => readsWithin fuel { p with repeatable := false } cs
  | fuel + 1, p, '[' :: cs =>
    match afterClass? fuel 0 (afterOpening cs) with
    | some rest => readsWithin fuel { p with repeatable := true } rest
    | none => false
  | fuel + 1, p, '*' :: cs | fuel + 1, p, '+' :: cs | fuel + 1, p, '?' :: cs =>
    p.repeatable && readsWithin fuel p (if cs.head? = some '?' then cs.tail else cs)
  | _ + 1, _, '\x7b' :: _ => false
  | fuel + 1, p, '\\' :: 'A' :: cs | fuel + 1, p, '\\' :: 'z' :: cs =>
    readsWithin fuel { p with repeatable := true } cs
  | fuel + 1, p, '\\' :: cs =>
    match escape? cs with
    | some (_, rest) => readsWithin fuel { p with repeatable := true } rest
    | none => false
  | fuel + 1, p, _ :: cs => readsWithin fuel { p with repeatable := true } cs

/-- **A text is a pattern.** -/
def wellFormed (s : String) : Bool :=
  readsWithin (s.toList.length + 1) ⟨0, false, []⟩ s.toList

end Pattern

end DiffContents
