import DiffContents.Json.Error
import DiffContents.Json.Numeral

/-!
# Tokens of a JSON text

A text is cut into tokens, each with the place it begins at and the place after it.  Reading
stops at the first character that can be part of no token: there stands a token with a flaw, and
nothing but the end of the text follows it.

A value may be read or only passed over.  Passing over is less strict, so a flaw has a problem
for either case, and a string or number that can be passed over but not read carries the problem
of reading it.

`tokens` cuts a text up; every token takes at least one character (`length_rest_scan`).
-/

namespace DiffContents

namespace Json

/-- **Why a text cannot go on as JSON**, as noticed by a reader who wants the value and by one who
passes over it. -/
structure Flaw where
  reading : Problem
  skipping : Problem
deriving DecidableEq, Repr, Inhabited

/-- A flaw that every reader notices in the same way. -/
def Flaw.plain (cause : Cause) (mark : Mark) : Flaw := ⟨⟨cause, mark⟩, ⟨cause, mark⟩⟩

/-- What a token is. -/
inductive TokenKind where
  | openArray | closeArray | openObject | closeObject | comma | colon
  | null
  | bool (value : Bool)
  | number (value : Except Problem Number)
  | string (value : Except Problem String)
  /-- A string that does not end well. -/
  | brokenString (flaw : Flaw)
  /-- Anything else that does not end well, or cannot begin a value. -/
  | broken (flaw : Flaw)
  /-- The end of the text. -/
  | finish
deriving Repr, Inhabited

/-- **A token and its place.** -/
structure Token where
  start : Mark
  stop : Mark
  kind : TokenKind
  /-- Where the token is noticed when it should not be there. -/
  noticed : Mark
deriving Repr, Inhabited

/-- The place a number of one-byte characters further on. -/
def Mark.plus (m : Mark) (n : Nat) : Mark := ⟨m.line, m.column + n⟩

/-- White space between tokens. -/
def isBlank (c : Char) : Bool := c = ' ' || c = '\n' || c = '\t' || c = '\r'

/-- The value of a hexadecimal digit. -/
def hexValue? (c : Char) : Option Nat :=
  if '0' ≤ c && c ≤ '9' then some (c.toNat - '0'.toNat)
  else if 'a' ≤ c && c ≤ 'f' then some (c.toNat - 'a'.toNat + 10)
  else if 'A' ≤ c && c ≤ 'F' then some (c.toNat - 'A'.toNat + 10)
  else none

/-- The value of four hexadecimal digits. -/
def hex4? (a b c d : Char) : Option Nat := do
  let a ← hexValue? a
  let b ← hexValue? b
  let c ← hexValue? c
  let d ← hexValue? d
  return ((a * 16 + b) * 16 + c) * 16 + d

/-- The character that a one-letter escape stands for. -/
def simpleEscape? (c : Char) : Option Char :=
  if c = '"' then some '"'
  else if c = '\\' then some '\\'
  else if c = '/' then some '/'
  else if c = 'b' then some '\x08'
  else if c = 'f' then some '\x0c'
  else if c = 'n' then some '\n'
  else if c = 'r' then some '\r'
  else if c = 't' then some '\t'
  else none

/-- The number is a leading surrogate. -/
def isLeading (n : Nat) : Bool := 0xd800 ≤ n && n ≤ 0xdbff

/-- The number is a trailing surrogate. -/
def isTrailing (n : Nat) : Bool := 0xdc00 ≤ n && n ≤ 0xdfff

/-- The character of a surrogate pair. -/
def ofSurrogates (leading trailing : Nat) : Char :=
  Char.ofNat ((leading - 0xd800) * 0x400 + (trailing - 0xdc00) + 0x10000)

/-- What scanning a string comes to. -/
inductive StringScan where
  | closed (value : Except Problem String) (stop : Mark) (rest : List Char)
  | broken (flaw : Flaw)

/-- The text after a string. -/
def StringScan.rest : StringScan → List Char
  | closed _ _ rest => rest
  | broken _ => []

/-- A string cannot go on: a problem of reading noticed earlier is noticed first. -/
def StringScan.fail (earlier : Option Problem) (reading skipping : Problem) : StringScan :=
  .broken ⟨earlier.getD reading, skipping⟩

/-- The problem of a numeric escape whose digits begin at a place: four bytes that are no
hexadecimal digits, or fewer than four bytes. -/
def badHex (m : Mark) (cs : List Char) : Problem :=
  if 4 ≤ (String.ofList cs).utf8ByteSize then ⟨.badEscape, m.afterBytes 4 cs⟩
  else ⟨.endOfString, m.afterAll cs⟩

/-- The trailing surrogate that a text begins with, as a numeric escape. -/
def trailing? : List Char → Option Nat
  | '\\' :: 'u' :: a :: b :: c :: d :: _ => (hex4? a b c d).filter isTrailing
  | _ => none

/-- The problem of a leading surrogate before a text that does not begin with a trailing one;
none if the text has a flaw there anyway. -/
def unpaired (m : Mark) : List Char → Option Problem
  | '\\' :: 'u' :: a :: b :: c :: d :: _ =>
    (hex4? a b c d).map fun _ => ⟨.loneSurrogate, m.plus 6⟩
  | [] | ['\\'] | '\\' :: 'u' :: _ => none
  | '\\' :: c :: _ => some ⟨.halfSurrogatePair, (m.plus 1).past c⟩
  | c :: _ => some ⟨.halfSurrogatePair, m.past c⟩

/-- **The rest of a string**, from the character after its opening quote on.  `done` holds the
characters so far, the last one first, and `problem` the first problem of reading it. -/
def scanString (m : Mark) (done : List Char) (problem : Option Problem) :
    List Char → StringScan
  | [] => .fail problem ⟨.endOfString, m⟩ ⟨.endOfString, m⟩
  | '"' :: cs =>
    .closed (match problem with
      | some p => .error p
      | none => .ok (String.ofList done.reverse)) (m.plus 1) cs
  | ['\\'] =>
    .fail problem ⟨.endOfString, m.plus 1⟩ ⟨.endOfString, m.plus 1⟩
  | '\\' :: 'u' :: a :: b :: c :: d :: cs =>
    match hex4? a b c d with
    | none =>
      let p := badHex (m.plus 2) (a :: b :: c :: d :: cs)
      .fail problem p p
    | some n =>
      let m := m.plus 6
      if isTrailing n then scanString m done (problem.or (some ⟨.loneSurrogate, m⟩)) cs
      else if isLeading n then
        match trailing? cs with
        | some n' => scanString (m.plus 6) (ofSurrogates n n' :: done) problem (cs.drop 6)
        | none => scanString m done (problem.or (unpaired m cs)) cs
      else scanString m (Char.ofNat n :: done) problem cs
  | '\\' :: 'u' :: cs =>
    let p := badHex (m.plus 2) cs
    .fail problem p p
  | '\\' :: e :: cs =>
    match simpleEscape? e with
    | some c => scanString (m.plus 2) (c :: done) problem cs
    | none =>
      let p := ⟨.badEscape, (m.plus 1).past e⟩
      .fail problem p p
  | c :: cs =>
    if c.toNat < 0x20 then
      .fail problem ⟨.controlCharacter, m.past c⟩ ⟨.controlCharacter, m⟩
    else scanString (m.after c) (c :: done) problem cs
termination_by cs => cs.length

/-- The value of a decimal digit. -/
def digitValue (c : Char) : Nat := c.toNat - '0'.toNat

/-- The digits at the beginning of a text, and what follows them. -/
def spanDigits (cs : List Char) : List Nat × List Char :=
  ((cs.takeWhile Char.isDigit).map digitValue, cs.dropWhile Char.isDigit)

/-- What scanning a number comes to. -/
inductive NumberScan where
  | closed (value : Except Problem Number) (stop : Mark) (rest : List Char)
  | broken (flaw : Flaw)

/-- The text after a number. -/
def NumberScan.rest : NumberScan → List Char
  | closed _ _ rest => rest
  | broken _ => []

/-- Digits are missing: a reader waits for more text where a passer-by finds fault with the
number. -/
def noDigits (m : Mark) : List Char → Flaw
  | [] => ⟨⟨.endOfValue, m⟩, ⟨.badNumber, m⟩⟩
  | c :: _ => .plain .badNumber (m.past c)

/-- The end of a number: its value, given the place where the digits of its exponent begin and
the place after it. -/
def closeNumber (l : Numeral) (exponentStart stop : Mark) (rest : List Char) : NumberScan :=
  .closed (match l.value with
    | .number n => .ok n
    | .tooLarge => .error ⟨.numberTooLarge, stop⟩
    | .tooLargeAfter seen => .error ⟨.numberTooLarge, exponentStart.plus seen⟩) stop rest

/-- The mark of an exponent: the characters it takes, whether the exponent is negative, and what
follows. -/
def exponentMark? : List Char → Option (Nat × Bool × List Char)
  | [] => none
  | c :: cs =>
    if c = 'e' || c = 'E' then
      match cs with
      | '+' :: cs => some (2, false, cs)
      | '-' :: cs => some (2, true, cs)
      | cs => some (1, false, cs)
    else none

/-- A number from its exponent on, if it has one. -/
def scanExponent (m : Mark) (negative : Bool) (whole : List Nat) (fraction : Option (List Nat))
    (cs : List Char) : NumberScan :=
  match exponentMark? cs with
  | none => closeNumber ⟨negative, whole, fraction, none⟩ m m cs
  | some (taken, negativeExponent, cs) =>
    let m := m.plus taken
    match spanDigits cs with
    | ([], _) => .broken (noDigits m cs)
    | (digits, rest) =>
      closeNumber ⟨negative, whole, fraction, some (negativeExponent, digits)⟩ m
        (m.plus digits.length) rest

/-- **A number**, from its first digit on. -/
def scanNumber (m : Mark) (negative : Bool) (cs : List Char) : NumberScan :=
  match spanDigits cs with
  | ([], _) => .broken (noDigits m cs)
  | (0 :: _ :: _, _) => .broken (.plain .badNumber (m.plus 2))
  | (whole, rest) =>
    let m := m.plus whole.length
    match rest with
    | '.' :: rest =>
      let m := m.plus 1
      match spanDigits rest with
      | ([], _) => .broken (noDigits m rest)
      | (fraction, rest) =>
        scanExponent (m.plus fraction.length) negative whole (some fraction) rest
    | rest => scanExponent m negative whole none rest

/-- The rest of a word such as `null`, after its first letter: the place after it and what
follows, or what is wrong. -/
def scanWord (m : Mark) : List Char → List Char → Except Flaw (Mark × List Char)
  | [], cs => .ok (m, cs)
  | _ :: _, [] => .error (.plain .endOfValue m)
  | w :: ws, c :: cs =>
    if w = c then scanWord (m.plus 1) ws cs else .error (.plain .expectedWord (m.past c))

/-- A token and the text after it. -/
structure Scan where
  token : Token
  rest : List Char

namespace Scan

/-- A token with a flaw; nothing after it is looked at. -/
def flawed (m noticed : Mark) (kind : TokenKind) : Scan := ⟨⟨m, m, kind, noticed⟩, []⟩

/-- The token of a string that begins at a place. -/
def ofString (m : Mark) : StringScan → Scan
  | .closed value stop rest => ⟨⟨m, stop, .string value, m.plus 1⟩, rest⟩
  | .broken flaw => flawed m (m.plus 1) (.brokenString flaw)

/-- The token of a number that begins at a place. -/
def ofNumber (m : Mark) : NumberScan → Scan
  | .closed value stop rest => ⟨⟨m, stop, .number value, m.plus 1⟩, rest⟩
  | .broken flaw => flawed m (m.plus 1) (.broken flaw)

/-- The token of a word that begins at a place. -/
def ofWord (m : Mark) (kind : TokenKind) : Except Flaw (Mark × List Char) → Scan
  | .ok (stop, rest) => ⟨⟨m, stop, kind, m.plus 1⟩, rest⟩
  | .error flaw => flawed m (m.plus 1) (.broken flaw)

end Scan

/-- The tokens of one character. -/
def punctuation? (c : Char) : Option TokenKind :=
  if c = '[' then some .openArray
  else if c = ']' then some .closeArray
  else if c = Char.ofNat 0x7b then some .openObject
  else if c = Char.ofNat 0x7d then some .closeObject
  else if c = ',' then some .comma
  else if c = ':' then some .colon
  else none

/-- **The token that begins with a character.** -/
def scan (m : Mark) (c : Char) (cs : List Char) : Scan :=
  match punctuation? c with
  | some kind => ⟨⟨m, m.plus 1, kind, m.plus 1⟩, cs⟩
  | none =>
    if c = '"' then .ofString m (scanString (m.plus 1) [] none cs)
    else if c = 'n' then .ofWord m .null (scanWord (m.plus 1) ['u', 'l', 'l'] cs)
    else if c = 't' then .ofWord m (.bool true) (scanWord (m.plus 1) ['r', 'u', 'e'] cs)
    else if c = 'f' then .ofWord m (.bool false) (scanWord (m.plus 1) ['a', 'l', 's', 'e'] cs)
    else if c = '-' then .ofNumber m (scanNumber (m.plus 1) true cs)
    else if c.isDigit then .ofNumber m (scanNumber m false (c :: cs))
    else .flawed m (m.past c) (.broken (.plain .expectedValue (m.past c)))

theorem length_rest_scanString (m : Mark) (done : List Char) (problem : Option Problem)
    (cs : List Char) : (scanString m done problem cs).rest.length ≤ cs.length := by
  fun_induction scanString m done problem cs <;>
    simp_all [StringScan.rest, StringScan.fail] <;> omega

theorem length_spanDigits (cs : List Char) :
    (spanDigits cs).1.length + (spanDigits cs).2.length = cs.length := by
  simp only [spanDigits, List.length_map]
  rw [← List.length_append, List.takeWhile_append_dropWhile]

theorem length_rest_closeNumber (l : Numeral) (m m' : Mark) (rest : List Char) :
    (closeNumber l m m' rest).rest = rest := rfl

theorem length_of_exponentMark {cs rest : List Char} {n : Nat} {b : Bool}
    (h : exponentMark? cs = some (n, b, rest)) : rest.length ≤ cs.length := by
  unfold exponentMark? at h
  split at h
  · simp at h
  · split at h
    · split at h <;> simp_all <;> omega
    · simp at h

theorem length_rest_scanExponent (m : Mark) (negative : Bool) (whole : List Nat)
    (fraction : Option (List Nat)) (cs : List Char) :
    (scanExponent m negative whole fraction cs).rest.length ≤ cs.length := by
  unfold scanExponent
  split
  · exact Nat.le_refl _
  · next cs' h =>
    have := length_of_exponentMark h
    have := length_spanDigits cs'
    dsimp only
    split
    · simp [NumberScan.rest]
    · next h' => rw [length_rest_closeNumber]; simp_all; omega

/-- A number takes at least one digit. -/
theorem length_rest_scanNumber (m : Mark) (negative : Bool) (cs : List Char) :
    (scanNumber m negative cs).rest.length ≤ cs.length - 1 := by
  have h := length_spanDigits cs
  unfold scanNumber
  split
  · simp [NumberScan.rest]
  · simp [NumberScan.rest]
  · next whole rest hne _ hs =>
    rw [hs] at h
    have hw : 0 < whole.length := by
      cases whole with
      | nil => exact (hne rfl).elim
      | cons => simp
    dsimp only at h ⊢
    split
    · next rest' =>
      have h' := length_spanDigits rest'
      split
      · simp [NumberScan.rest]
      · next fraction rest'' _ hs' =>
        rw [hs'] at h'
        have := length_rest_scanExponent ((m.plus whole.length).plus 1 |>.plus fraction.length)
          negative whole (some fraction) rest''
        simp only [List.length_cons] at h
        simp only at h'
        omega
    · have := length_rest_scanExponent (m.plus whole.length) negative whole none rest
      omega

theorem length_rest_ofWord (m m' : Mark) (kind : TokenKind) (ws cs : List Char) :
    (Scan.ofWord m kind (scanWord m' ws cs)).rest.length ≤ cs.length := by
  induction ws generalizing m' cs with
  | nil => simp [scanWord, Scan.ofWord]
  | cons w ws ih =>
    cases cs with
    | nil => simp [scanWord, Scan.ofWord, Scan.flawed]
    | cons c cs =>
      rw [scanWord]
      split
      · exact Nat.le_trans (ih (m'.plus 1) cs) (by simp)
      · simp [Scan.ofWord, Scan.flawed]

theorem rest_ofString (m : Mark) (r : StringScan) : (Scan.ofString m r).rest = r.rest := by
  cases r <;> rfl

theorem rest_ofNumber (m : Mark) (r : NumberScan) : (Scan.ofNumber m r).rest = r.rest := by
  cases r <;> rfl

/-- **Every token takes at least one character.** -/
theorem length_rest_scan (m : Mark) (c : Char) (cs : List Char) :
    (scan m c cs).rest.length ≤ cs.length := by
  have hs := length_rest_scanString (m.plus 1) [] none cs
  have hn := length_rest_scanNumber (m.plus 1) true cs
  have hd := length_rest_scanNumber m false (c :: cs)
  rw [List.length_cons, Nat.add_sub_cancel] at hd
  unfold scan
  split
  · exact Nat.le_refl _
  · repeat' split
    · rw [rest_ofString]; exact hs
    · exact length_rest_ofWord ..
    · exact length_rest_ofWord ..
    · exact length_rest_ofWord ..
    · rw [rest_ofNumber]; omega
    · rw [rest_ofNumber]; exact hd
    · exact Nat.zero_le _

/-- **The tokens of a text**, up to its end or its first flaw. -/
def tokensFrom (m : Mark) : List Char → List Token
  | [] => [⟨m, m, .finish, m⟩]
  | c :: cs =>
    if isBlank c then tokensFrom (m.after c) cs
    else (scan m c cs).token :: tokensFrom (scan m c cs).token.stop (scan m c cs).rest
termination_by cs => cs.length
decreasing_by
  · simp
  · have := length_rest_scan m c cs
    simp only [List.length_cons]
    omega

/-- The tokens of a text. -/
def tokens (s : String) : List Token := tokensFrom .first s.toList

end Json

end DiffContents
