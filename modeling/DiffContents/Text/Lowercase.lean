import DiffContents.Text.CaseTable
import DiffContents.Text.CodePoints

/-!
# Lower-casing

`lowercase` gives the lower-case form of a text, character by character.  One character takes
its form from its surroundings: a capital sigma becomes a final sigma where it ends a word, that
is, where something with case stands before it and nothing with case behind it.  Characters that
belong to no word of their own, such as apostrophes and combining marks, are passed over on both
sides.
-/

namespace DiffContents

namespace Text

/-- Whether the first character that counts, in reading order, has case. -/
def startsCased (cs : List Char) : Bool :=
  match cs.dropWhile fun c => CodePoints.contains CaseTable.caseIgnorable c.toNat with
  | [] => false
  | c :: _ => CodePoints.contains CaseTable.cased c.toNat

/-- The lower-case form of a character that does not look at its surroundings. -/
def lowerChar (c : Char) : List Char :=
  if c.toNat < 0x80 then [c.toLower]
  else if c.toNat = 0x130 then ['i', '\u0307']
  else
    match CaseTable.lowerRuns.find? (·.covers c.toNat) with
    | some run => [Char.ofNat (run.lower c.toNat)]
    | none => [c]

/-- The lower-case form of a text that stands after `before`, which is given backwards. -/
def lowerAfter (before : List Char) : List Char → List Char
  | [] => []
  | c :: cs =>
    (if c = 'Σ' then
      if startsCased before && !startsCased cs then ['ς'] else ['σ']
    else lowerChar c) ++ lowerAfter (c :: before) cs

/-- **The lower-case form of a text.** -/
def lowercase (s : String) : String := String.ofList (lowerAfter [] s.toList)

@[simp] theorem lowercase_empty : lowercase "" = "" := rfl

/-- An ASCII character is lowered on its own. -/
theorem lowerChar_of_ascii {c : Char} (h : c.toNat < 0x80) : lowerChar c = [c.toLower] := by
  simp [lowerChar, h]

end Text

end DiffContents
