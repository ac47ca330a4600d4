import DiffContents.Text.CodePoints
import DiffContents.Text.WordTable

/-!
# Blanks and words

Which characters are blank and which belong to words, in all of Unicode.
-/

namespace DiffContents

namespace Text

/-- A blank character. -/
def isBlank (c : Char) : Bool :=
  CodePoints.contains
    [0x9, 0xe, 0x20, 0x21, 0x85, 0x86, 0xa0, 0xa1, 0x1680, 0x1681, 0x2000, 0x200b, 0x2028, 0x202a,
     0x202f, 0x2030, 0x205f, 0x2060, 0x3000, 0x3001] c.toNat

/-- A letter or number. -/
def isWordChar (c : Char) : Bool :=
  if c.toNat < 0x80 then c.isAlphanum
  else CodePoints.contains WordTable.wordCharacters c.toNat

/-- A text without the blanks around it. -/
def trimmed (cs : List Char) : List Char :=
  ((cs.dropWhile isBlank).reverse.dropWhile isBlank).reverse

@[simp] theorem trimmed_nil : trimmed [] = [] := rfl

/-- The blanks of ASCII are blank. -/
theorem isBlank_of_isWhitespace {c : Char} (h : c.isWhitespace = true) : isBlank c = true := by
  simp only [Char.isWhitespace, Bool.or_eq_true, decide_eq_true_eq] at h
  rcases h with ((h | h) | h) | h <;> subst h <;> decide

end Text

end DiffContents
