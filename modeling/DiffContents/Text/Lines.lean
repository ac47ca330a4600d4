/-!
# Lines of a text

A line ends with a line feed, which a carriage return may precede; the ending is not part of the
line.
-/

namespace DiffContents

namespace Text

/-- The characters before the first line ending. -/
def lineChars : List Char → List Char
  | [] => []
  | '\r' :: '\n' :: _ => []
  | c :: cs => if c = '\n' then [] else c :: lineChars cs

/-- The first line of a text, without its ending. -/
def firstLine (s : String) : String := String.ofList (lineChars s.toList)

theorem not_mem_lineChars (cs : List Char) : '\n' ∉ lineChars cs := by
  fun_induction lineChars cs <;> simp_all
  grind

theorem lineChars_subset (cs : List Char) : lineChars cs ⊆ cs := by
  fun_induction lineChars cs with
  | case1 => exact List.Subset.refl []
  | case2 | case3 => exact List.nil_subset _
  | case4 c cs _ _ ih => exact List.cons_subset_cons c ih

end Text

end DiffContents
