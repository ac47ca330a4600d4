import DiffContents.Proofs.LineByLine

/-! # Colours only add sequences

A table with colours is the table without them and, around each styled piece, the sequence that
opens the style and the one that resets it.  A reader who deletes every sequence
(`Text.withoutSequences`) therefore sees the table without colours, if the texts in it hold no
escape character: one of theirs could begin a sequence of its own.

Deleting goes through a text from its start, so what it leaves of a piece could depend on the pieces
behind it.  `Text.ReducesTo` says that it does not: the characters left are the same whatever
follows, and so pieces, lines and tables can be taken apart.
-/
namespace DiffContents

universe u

/-! ## Deleting sequences -/

namespace Text

/-- The text holds no escape character. -/
def EscapeFree (s : String) : Prop := '\x1b' ∉ s.toList

instance (s : String) : Decidable (EscapeFree s) := inferInstanceAs (Decidable (_ ∉ _))

/-- What stands behind the first `m`, if there is one. -/
def behindEnd? : List Char → Option (List Char)
  | [] => none
  | c :: cs => if c = 'm' then some cs else behindEnd? cs

theorem length_of_behindEnd? {cs rest : List Char} (h : behindEnd? cs = some rest) :
    rest.length < cs.length := by
  induction cs with
  | nil => cases h
  | cons c cs ih =>
    rw [behindEnd?] at h
    split at h
    · obtain rfl := Option.some.inj h
      exact Nat.lt_succ_self _
    · exact Nat.lt_succ_of_lt (ih h)

/-- **The characters without sequences.**  A sequence begins with an escape and a bracket and ends
with the first `m` behind them; if there is none, it is not a sequence. -/
def dropSequences : List Char → List Char
  | [] => []
  | '\x1b' :: '[' :: cs =>
    match _h : behindEnd? cs with
    | some rest => dropSequences rest
    | none => '\x1b' :: '[' :: dropSequences cs
  | c :: cs => c :: dropSequences cs
termination_by cs => cs.length
decreasing_by
  · have hlt := length_of_behindEnd? ‹behindEnd? _ = some _›
    simp only [List.length_cons]
    omega
  · simp only [List.length_cons]
    omega
  · exact Nat.lt_succ_self _

/-- **The text without sequences.** -/
def withoutSequences (s : String) : String := String.ofList (dropSequences s.toList)

/-- Whatever follows the text, deleting sequences leaves the same characters of it. -/
def ReducesTo (shown plain : List Char) : Prop :=
  ∀ rest, dropSequences (shown ++ rest) = plain ++ dropSequences rest

theorem dropSequences_cons {c : Char} (h : c ≠ '\x1b') (cs : List Char) :
    dropSequences (c :: cs) = c :: dropSequences cs := by
  rw [dropSequences]
  exact fun _ hc => absurd hc h

theorem behindEnd?_append {parameters : List Char} (h : 'm' ∉ parameters) (rest : List Char) :
    behindEnd? (parameters ++ 'm' :: rest) = some rest := by
  induction parameters with
  | nil => rfl
  | cons c cs ih =>
    rw [List.mem_cons, not_or] at h
    rw [List.cons_append, behindEnd?, if_neg (Ne.symm h.1), ih h.2]

namespace ReducesTo

theorem nil : ReducesTo [] [] := fun _ => rfl

theorem append {xs ys xs' ys' : List Char} (h : ReducesTo xs ys) (h' : ReducesTo xs' ys') :
    ReducesTo (xs ++ xs') (ys ++ ys') := by
  intro rest
  rw [List.append_assoc, h, h', List.append_assoc]

theorem flatMap {α : Type u} {f g : α → List Char} {as : List α}
    (h : ∀ a ∈ as, ReducesTo (f a) (g a)) : ReducesTo (as.flatMap f) (as.flatMap g) := by
  induction as with
  | nil => exact nil
  | cons a as ih =>
    obtain ⟨ha, has⟩ := List.forall_mem_cons.mp h
    rw [List.flatMap_cons, List.flatMap_cons]
    exact ha.append (ih has)

/-- Without an escape nothing is deleted. -/
theorem of_not_mem {cs : List Char} (h : '\x1b' ∉ cs) : ReducesTo cs cs := by
  intro rest
  induction cs with
  | nil => rfl
  | cons c cs ih =>
    rw [List.mem_cons, not_or] at h
    rw [List.cons_append, dropSequences_cons (Ne.symm h.1), ih h.2, List.cons_append]

/-- A sequence is deleted. -/
theorem sequence {parameters : List Char} (h : 'm' ∉ parameters) :
    ReducesTo ('\x1b' :: '[' :: parameters ++ ['m']) [] := by
  intro rest
  have hend := behindEnd?_append h rest
  simp only [List.cons_append, List.append_assoc, List.nil_append]
  rw [dropSequences]
  split
  · next heq =>
    rw [hend] at heq
    rw [Option.some.inj heq]
  · next heq =>
    rw [hend] at heq
    cases heq

theorem dropSequences_eq {xs ys : List Char} (h : ReducesTo xs ys) : dropSequences xs = ys := by
  have hrest := h []
  rwa [List.append_nil, dropSequences, List.append_nil] at hrest

end ReducesTo

end Text

open Text (EscapeFree ReducesTo)

/-! ## Tables -/

namespace Style

/-- No code ends a sequence. -/
theorem not_mem_codes (s : Style) : 'm' ∉ (String.intercalate ";" s.codes).toList := by
  obtain ⟨bold, dimmed, colour⟩ := s
  cases bold <;> cases dimmed <;> rcases colour with _ | (_ | _ | _ | _) <;> decide

/-- A text without an escape resets no style. -/
theorem reopen_of_not_mem {sequence text : List Char} (h : '\x1b' ∉ text) :
    reopen sequence text = text := by
  induction text with
  | nil => rfl
  | cons c cs ih =>
    rw [List.mem_cons, not_or] at h
    rw [reopen, ih h.2]
    exact fun _ hc => absurd hc (Ne.symm h.1)

/-- **A styled text is the text**, once the sequences around it are deleted. -/
theorem reducesTo_wrap (s : Style) {text : List Char} (h : '\x1b' ∉ text) :
    ReducesTo (s.wrap text) text := by
  have hopening : ReducesTo s.opening [] := .sequence s.not_mem_codes
  have hreset : ReducesTo reset [] := ReducesTo.sequence (show 'm' ∉ ['0'] by decide)
  rw [wrap, reopen_of_not_mem h]
  simpa using (hopening.append (.of_not_mem h)).append hreset

end Style

theorem Piece.reducesTo_chars {p : Piece} (h : EscapeFree p.text) :
    ReducesTo (p.chars true) (p.chars false) := by
  obtain ⟨style, text⟩ := p
  cases style with
  | none => exact .of_not_mem h
  | some style => exact style.reducesTo_wrap h

namespace Table

variable {t : Table}

theorem not_mem_text_iff {c : Char} (hc : c ≠ '\n') : c ∉ (t.text false).toList ↔
    ∀ l ∈ t.lines ++ [t.last], c ∉ l.text.toList := by
  simp only [text, chars, Line.text, String.toList_ofList, List.mem_append, List.mem_flatMap,
    List.mem_singleton, hc, or_false, not_or, not_exists, not_and, or_imp, forall_and, forall_eq]

/-- **A table with colours is the table without them**, once its sequences are deleted, if the table
holds no escape character. -/
theorem withoutSequences_text (h : EscapeFree (t.text false)) :
    Text.withoutSequences (t.text true) = t.text false := by
  have hlines := (not_mem_text_iff (by decide)).mp h
  have hline : ∀ l ∈ t.lines ++ [t.last], ReducesTo (l.chars true) (l.chars false) := by
    intro l hl
    refine .flatMap fun p hp => Piece.reducesTo_chars fun hmem => hlines l hl ?_
    rw [Line.text, String.toList_ofList]
    exact List.mem_flatMap.mpr ⟨p, hp, hmem⟩
  have hended : ∀ l ∈ t.lines,
      ReducesTo (l.chars true ++ ['\n']) (l.chars false ++ ['\n']) :=
    fun l hl => (hline l (List.mem_append_left _ hl)).append (.of_not_mem (by decide))
  have hlast := hline t.last (List.mem_append_right _ List.mem_cons_self)
  unfold Text.withoutSequences text
  rw [String.toList_ofList]
  exact congrArg String.ofList ((ReducesTo.flatMap hended).append hlast).dropSequences_eq

end Table

/-! ## Reports -/

namespace Text

theorem mem_of_mem_firstLine {c : Char} {s : String} (h : c ∈ (firstLine s).toList) :
    c ∈ s.toList := by
  rw [firstLine, String.toList_ofList] at h
  exact lineChars_subset s.toList h

end Text

/-- The label of a category is its name, or a text that holds no escape character. -/
theorem Category.escapeFree_label {c : Category} (h : EscapeFree c.name) : EscapeFree c.label := by
  cases c with
  | singletonMethod => decide
  | _ => exact h

/-- **A summary without escape characters** in its keys, names, categories and messages. -/
structure Summary.EscapeFree (s : Summary) : Prop where
  keys : ∀ k ∈ s.contents.keys, Text.EscapeFree k
  entries : ∀ e ∈ s.contents.entries.items,
    Text.EscapeFree e.name ∧ Text.EscapeFree e.category.name
  faults : ∀ f ∈ s.contents.faults.items, Text.EscapeFree f.message

/-- **A report on edits without escape characters** in its key, and in the names and categories it
shows. -/
structure Edits.EscapeFree (e : Edits) : Prop where
  key : Text.EscapeFree e.key
  infos : ∀ r ∈ e.records,
    Text.EscapeFree r.info.name ∧ ∀ c ∈ r.info.category, Text.EscapeFree c.name
  contexts : ∀ r ∈ e.records, ∀ x ∈ r.context,
    Text.EscapeFree x.declaration.name ∧ Text.EscapeFree x.declaration.category.name

theorem Summary.escapeFree_table {s : Summary} (h : s.EscapeFree) :
    Text.EscapeFree (s.table.text false) := by
  refine (Table.not_mem_text_iff (by decide)).mpr ?_
  cases hempty : s.contents.isEmpty with
  | true =>
    have htable : s.table =
        ⟨[s.heading, [], [.styled .faint "No declarations changed."]], []⟩ := if_pos hempty
    have hheading : Text.EscapeFree (Line.text s.heading) :=
      Text.not_mem_of_controlFree (by decide) _ s.controlFree_heading
    rw [htable]
    intro l hl
    simp only [List.cons_append, List.nil_append, List.mem_cons, List.not_mem_nil, or_false] at hl
    rcases hl with rfl | rfl | rfl | rfl
    · exact hheading
    all_goals decide
  | false =>
    rw [← List.forall_mem_map (f := Line.text) (P := fun x => '\x1b' ∉ x.toList),
      map_text_table hempty]
    refine not_mem_listing (by decide) h.keys (fun e he => ?_) fun f hf hmem => ?_
    · exact ⟨(h.entries e he).1, Category.escapeFree_label (h.entries e he).2⟩
    · exact h.faults f hf (Text.mem_of_mem_firstLine hmem)

theorem Edits.escapeFree_table {e : Edits} (h : e.EscapeFree) :
    Text.EscapeFree (e.table.text false) := by
  refine (Table.not_mem_text_iff (by decide)).mpr ?_
  rw [← List.forall_mem_map (f := Line.text) (P := fun x => '\x1b' ∉ x.toList), map_text_table]
  refine not_mem_listing (by decide) h.key (fun r hr => ⟨fun hmem => ?_, ?_⟩) fun r hr x hx => ?_
  · exact (h.infos r hr).1 (Text.mem_of_mem_firstLine hmem)
  · unfold categoryName
    cases hc : r.info.category with
    | none => decide
    | some c => exact (h.infos r hr).2 c hc
  · exact (h.contexts r hr x hx).symm

/-- **Colours only add sequences.**  Whatever a report is on, if no key, name, category or message in
it holds an escape character, its table without colours holds none either, and is what is left of
its table with colours when the sequences in that are deleted. -/
theorem colours_only_add_sequences :
    (∀ s : Summary, s.EscapeFree → ∀ compact,
      Text.withoutSequences (s.render ⟨.table, true, compact⟩) =
          s.render ⟨.table, false, compact⟩ ∧
        Text.EscapeFree (s.render ⟨.table, false, compact⟩)) ∧
    ∀ e : Edits, e.EscapeFree → ∀ compact,
      Text.withoutSequences (e.render ⟨.table, true, compact⟩) =
          e.render ⟨.table, false, compact⟩ ∧
        Text.EscapeFree (e.render ⟨.table, false, compact⟩) := by
  constructor
  · intro s h compact
    have hplain := Summary.escapeFree_table h
    exact ⟨Table.withoutSequences_text hplain, hplain⟩
  · intro e h compact
    have hplain := Edits.escapeFree_table h
    exact ⟨Table.withoutSequences_text hplain, hplain⟩

section Nameless

/-- The place of a first character. -/
private def firstPlace : Span := ⟨0, 1, ⟨1, 1⟩, ⟨1, 2⟩⟩

/-- An entry without a name and a fault without a text. -/
private def namelessSummary : Summary where
  contents := (Contents.empty.push "a" (.entry ⟨.added, .other "", "", firstPlace⟩)).push "a"
    (.fault ⟨"", firstPlace⟩)
  files := 1
  milliseconds := 0

/-- A deletion without a name, in a function without one, of a document without a key. -/
private def namelessEdits : Edits :=
  ⟨"", true, [⟨.delete ⟨none, "", firstPlace⟩, some (.enclosing ⟨.function, "", firstPlace⟩)⟩]⟩

/-- Around an empty text the two sequences stand next to each other, and both are deleted. -/
theorem colours_only_add_sequences_nameless :
    namelessSummary.EscapeFree ∧ namelessEdits.EscapeFree ∧
    namelessSummary.render ⟨.table, true, false⟩ =
      "\x1b[1;36mTOC:\x1b[0m 1 files (0ms)\n\n\x1b[1ma\x1b[0m\n" ++
      "  + \x1b[32m\x1b[0m [] \x1b[2mL1-L1\x1b[0m\n" ++
      "  \x1b[1;31m!\x1b[0m \x1b[2mL1-L1\x1b[0m \x1b[31m\x1b[0m\n\n1 added, 1 parse errors" ∧
    Text.withoutSequences (namelessSummary.render ⟨.table, true, false⟩) =
      "TOC: 1 files (0ms)\n\na\n  +  [] L1-L1\n  ! L1-L1 \n\n1 added, 1 parse errors" ∧
    namelessEdits.render ⟨.table, true, false⟩ =
      "\x1b[1;36mRECORDS:\x1b[0m \x1b[1m\x1b[0m (1 raw records)\n\n" ++
      "  \x1b[31m-\x1b[0m  [ParseError] \x1b[2mL1-L1\x1b[0m\n" ++
      "      in Function \x1b[36m\x1b[0m (modified)\n" ∧
    Text.withoutSequences (namelessEdits.render ⟨.table, true, false⟩) =
      "RECORDS:  (1 raw records)\n\n  -  [ParseError] L1-L1\n      in Function  (modified)\n" := by
  have hs : namelessSummary.EscapeFree := ⟨by decide, by decide, by decide⟩
  have he : namelessEdits.EscapeFree := ⟨by decide, by decide, by decide⟩
  obtain ⟨hsummary, hedits⟩ := colours_only_add_sequences
  refine ⟨hs, he, by decide +kernel, ?_, by decide +kernel, ?_⟩
  · exact (hsummary _ hs false).1.trans (by decide +kernel)
  · exact (hedits _ he false).1.trans (by decide +kernel)

end Nameless

end DiffContents
