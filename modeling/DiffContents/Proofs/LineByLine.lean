import DiffContents.Proofs.Collation
import DiffContents.Proofs.Completeness
import DiffContents.Proofs.Json.Values
import DiffContents.Proofs.RoundTrip
import DiffContents.Report.Edits

/-! # Line by line

Without colours a table is meant to be read line by line, one line for each item it reports:
`Summary.listing` and `Edits.listing` are these lines.  The text of a table splits into its lines
exactly if none of them holds a line feed (`Table.printed_eq_iff`).  What the tables take from
documents whose paths and categories hold none can hold one in a single place, the name of a
declaration: a region that could not be parsed and an edit are shown by their first line, but the
entry of the one table and the context of the other by the whole name.  So a name of several lines,
as an anonymous function has, takes more lines than its item.
-/
namespace DiffContents

open Json (ControlFree)

universe u

/-! ## Texts of one line -/

namespace Text

/-- The text holds no line feed. -/
def OneLine (s : String) : Prop := '\n' ∉ s.toList

instance (s : String) : Decidable (OneLine s) := inferInstanceAs (Decidable (_ ∉ _))

theorem oneLine_append {s t : String} : OneLine (s ++ t) ↔ OneLine s ∧ OneLine t := by
  simp [OneLine, not_or]

theorem oneLine_firstLine (s : String) : OneLine (firstLine s) := by
  unfold OneLine firstLine
  rw [String.toList_ofList]
  exact not_mem_lineChars s.toList

/-- What a joined text holds is in a part of it, or in what stands between the parts. -/
theorem mem_of_mem_intercalate {c : Char} {s : String} {parts : List String}
    (h : c ∈ (String.intercalate s parts).toList) : c ∈ s.toList ∨ ∃ p ∈ parts, c ∈ p.toList := by
  rw [String.toList_intercalate] at h
  induction parts with
  | nil => simp at h
  | cons p ps ih =>
    cases ps with
    | nil => exact .inr ⟨p, List.mem_cons_self, by simpa using h⟩
    | cons p' ps =>
      rw [List.map_cons, List.map_cons, List.intercalate_cons_cons] at h
      simp only [List.mem_append] at h
      rcases h with (h | h) | h
      · exact .inr ⟨p, List.mem_cons_self, h⟩
      · exact .inl h
      · rcases ih h with h | ⟨q, hq, h⟩
        · exact .inl h
        · exact .inr ⟨q, List.mem_cons_of_mem p hq, h⟩

theorem not_mem_of_controlFree {c : Char} (hc : c.toNat < 0x20) (s : String)
    (h : ControlFree s.toList) : c ∉ s.toList :=
  fun hmem => absurd (h c hmem) (Nat.not_le_of_lt hc)

theorem controlFree_toString (n : Nat) : ControlFree (toString n).toList := by
  have hchars : (toString n).toList = Nat.toDigits 10 n := Nat.toList_repr
  rw [hchars]
  exact Json.controlFree_toDigits n

end Text

open Text (OneLine)

theorem oneLine_pathKey {before after : String} (hb : OneLine before) (ha : OneLine after) :
    OneLine (pathKey before after) := by
  unfold pathKey
  split
  · exact ha
  · split
    · exact hb
    · split
      · exact ha
      · simp only [Text.oneLine_append]
        exact ⟨⟨hb, by decide⟩, ha⟩

/-- The name of a declaration's category is fixed, and of one line. -/
theorem Category.oneLine_of_isDeclaration {c : Category} (h : c.isDeclaration = true) :
    OneLine c.name ∧ OneLine c.label := by
  cases c with
  | parseError | other name => cases h
  | _ => decide

/-! ## Texts of the reports' own

What a report does not take from a document holds no control character at all. -/

theorem Span.controlFree_lines (s : Span) : ControlFree s.lines.toList := by
  simp only [lines, String.toList_append, Json.controlFree_append]
  exact ⟨⟨⟨by decide, Text.controlFree_toString _⟩, by decide⟩, Text.controlFree_toString _⟩

theorem Counts.controlFree_text (n : Counts) : ControlFree n.text.toList := by
  have hpart {k : UInt32} {noun : String} (hnoun : ControlFree noun.toList) :
      ∀ p ∈ part k noun, ControlFree p.toList := by
    intro p hp
    unfold part at hp
    split at hp
    · cases hp
    · rw [List.mem_singleton] at hp
      subst hp
      simp only [String.toList_append, Json.controlFree_append]
      exact ⟨⟨Text.controlFree_toString _, by decide⟩, hnoun⟩
  unfold text
  split
  · decide
  · intro c hc
    rcases Text.mem_of_mem_intercalate hc with hc | ⟨p, hp, hc⟩
    · exact (by decide : ControlFree ", ".toList) c hc
    · simp only [List.mem_append] at hp
      rcases hp with ((hp | hp) | hp) | hp
      all_goals exact hpart (by decide) p hp c hc

/-! ## The lines of a table -/

/-- What a line says without colours. -/
def Line.text (l : Line) : String := String.ofList (l.chars false)

@[simp] theorem Line.text_nil : Line.text [] = "" := rfl

@[simp] theorem Line.text_cons (p : Piece) (l : Line) :
    Line.text (p :: l) = p.text ++ Line.text l := by
  simp [Line.text, Line.chars]

/-- No part of a split text holds what it is split at. -/
theorem Text.not_mem_of_mem_splitOn {α : Type u} [DecidableEq α] {a : α} {xs part : List α}
    (h : part ∈ xs.splitOn a) : a ∉ part := by
  induction xs generalizing part with
  | nil =>
    rw [List.splitOn_nil, List.mem_singleton] at h
    subst h
    exact List.not_mem_nil
  | cons x xs ih =>
    rw [List.splitOn_cons_eq_if_modifyHead] at h
    split at h
    · rcases List.mem_cons.mp h with rfl | h
      · exact List.not_mem_nil
      · exact ih h
    · next hne =>
      -- the first character joins the first part, and is not the one the text is split at
      obtain ⟨p, ps, hps⟩ := List.exists_cons_of_ne_nil (List.splitOn_ne_nil a xs)
      rw [hps, List.modifyHead_cons] at h
      rw [hps] at ih
      rcases List.mem_cons.mp h with rfl | h
      · intro hmem
        rcases List.mem_cons.mp hmem with rfl | hmem
        · exact hne (beq_self_eq_true a)
        · exact ih List.mem_cons_self hmem
      · exact ih (List.mem_cons_of_mem p h)

namespace Table

/-- The lines a reader finds in the text of a table without colours. -/
def printed (t : Table) : List String :=
  ((t.text false).toList.splitOn '\n').map String.ofList

theorem chars_eq_intercalate (t : Table) : t.chars false =
    ['\n'].intercalate ((t.lines ++ [t.last]).map (Line.chars false)) := by
  unfold chars
  induction t.lines with
  | nil => simp
  | cons l ls ih =>
    rw [List.flatMap_cons, List.append_assoc, ih, List.cons_append, List.map_cons]
    cases hrest : (ls ++ [t.last]).map (Line.chars false) with
    | nil => simp at hrest
    | cons l' ls' => rw [List.intercalate_cons_cons]

/-- **A reader finds the lines that were written** exactly if none of them holds a line feed. -/
theorem printed_eq_iff (t : Table) : t.printed = (t.lines ++ [t.last]).map Line.text ↔
    ∀ l ∈ t.lines ++ [t.last], OneLine l.text := by
  have hmap : (t.lines ++ [t.last]).map Line.text =
      ((t.lines ++ [t.last]).map (Line.chars false)).map String.ofList := by
    rw [List.map_map]
    rfl
  have hsplit : t.printed = ((t.chars false).splitOn '\n').map String.ofList := by
    unfold printed text
    rw [String.toList_ofList]
  rw [hmap, hsplit]
  constructor
  · intro h l hl
    have hparts := List.map_injective_iff.mpr (fun _ _ => String.ofList_injective) h
    have hmem := List.mem_map_of_mem (f := Line.chars false) hl
    rw [← hparts] at hmem
    unfold Text.OneLine Line.text
    rw [String.toList_ofList]
    exact Text.not_mem_of_mem_splitOn hmem
  · intro h
    rw [chars_eq_intercalate, List.splitOn_intercalate]
    · intro chars hchars
      obtain ⟨l, hl, rfl⟩ := List.mem_map.mp hchars
      have honeLine := h l hl
      unfold Text.OneLine Line.text at honeLine
      rwa [String.toList_ofList] at honeLine
    · simp

end Table

/-! ## The lines of the summary -/

namespace Contents

theorem mem_insertKey {key k : String} {ks : List String} :
    k ∈ insertKey key ks ↔ k = key ∨ k ∈ ks := by
  induction ks with
  | nil => simp [insertKey]
  | cons k' ks ih =>
    rw [insertKey]
    split
    · exact List.mem_cons
    · split
      · next heq =>
        subst heq
        simp
      · rw [List.mem_cons, ih, List.mem_cons, or_left_comm]

/-- **The keys of a table** are those of its entries and those of its faults. -/
theorem mem_keys_iff {c : Contents} {k : String} :
    k ∈ c.keys ↔ k ∈ c.entries.keys ∨ k ∈ c.faults.keys := by
  unfold keys
  induction c.faults.keys with
  | nil => simp
  | cons k' ks ih =>
    rw [List.foldr_cons, mem_insertKey, ih, List.mem_cons]
    exact or_left_comm

theorem pairwise_insertKey {key : String} {ks : List String} (h : ks.Pairwise (· < ·)) :
    (insertKey key ks).Pairwise (· < ·) := by
  induction ks with
  | nil => exact List.pairwise_singleton _ _
  | cons k ks ih =>
    obtain ⟨hk, hks⟩ := List.pairwise_cons.mp h
    rw [insertKey]
    split
    · next hlt =>
      refine List.pairwise_cons.mpr ⟨fun k' hk' => ?_, h⟩
      rcases List.mem_cons.mp hk' with rfl | hk'
      · exact hlt
      · exact String.lt_trans hlt (hk k' hk')
    · split
      · exact h
      · next hnot hne =>
        refine List.pairwise_cons.mpr ⟨fun k' hk' => ?_, ih hks⟩
        rcases mem_insertKey.mp hk' with rfl | hk'
        · exact lt_of_le_of_ne (String.not_lt.mp hnot) (Ne.symm hne)
        · exact hk k' hk'

/-- **Each key stands once**, in increasing order. -/
theorem pairwise_keys (c : Contents) : c.keys.Pairwise (· < ·) := by
  unfold keys
  induction c.faults.keys with
  | nil => exact c.entries.pairwise_keys
  | cons k ks ih => exact pairwise_insertKey ih

/-- The entries under the keys of a table are its entries. -/
theorem exists_key_iff {c : Contents} (h : c.entries.Filled) {e : Entry} :
    (∃ k ∈ c.keys, e ∈ c.entries.get k) ↔ e ∈ c.entries.items := by
  rw [Buckets.items_eq_flatMap_keys, List.mem_flatMap]
  constructor
  · rintro ⟨k, -, he⟩
    exact ⟨k, h.mem_keys_iff.mpr (List.ne_nil_of_mem he), he⟩
  · rintro ⟨k, hk, he⟩
    exact ⟨k, mem_keys_iff.mpr (.inl hk), he⟩

end Contents

namespace Summary

/-- What the line of an entry says. -/
def entryText (e : Entry) : String :=
  "  " ++ sign e.change ++ " " ++ e.name ++ " [" ++ e.category.label ++ "] " ++ e.span.lines

/-- What the line of a fault says. -/
def faultText (f : Fault) : String :=
  "  ! " ++ f.span.lines ++ " " ++ Text.firstLine f.message

/-- **The lines a summary is meant to have**: a heading and a blank line, for each key the key, a
line for every entry, a line for every fault and a blank line, and the counts. -/
def listing (s : Summary) : List String :=
  ("TOC: " ++ toString s.files ++ " files (" ++ toString s.milliseconds ++ "ms)") :: "" ::
    s.contents.keys.flatMap (fun key =>
      key :: (s.contents.entries.get key).map entryText ++
        (s.contents.faults.get key).map faultText ++ [""]) ++
    [s.contents.counts.text]

theorem text_entryLine (e : Entry) : Line.text (entryLine e) = entryText e := by
  simp [entryLine, entryText, Piece.plain, Piece.styled, place, String.append_assoc]

theorem text_faultLine (f : Fault) : Line.text (faultLine f) = faultText f := by
  have hmark : "  " ++ ("!" ++ " ") = "  ! " := rfl
  simp only [faultLine, faultText, Piece.plain, Piece.styled, place, Line.text_cons, Line.text_nil,
    String.append_empty, ← hmark, String.append_assoc]

variable {s : Summary}

theorem text_heading (s : Summary) : Line.text s.heading =
    "TOC: " ++ toString s.files ++ " files (" ++ toString s.milliseconds ++ "ms)" := by
  have hmark : "TOC:" ++ " " = "TOC: " := rfl
  simp only [heading, Piece.plain, Piece.styled, Line.text_cons, Line.text_nil,
    String.append_empty, ← hmark, String.append_assoc]

/-- What was written are the lines meant, if there is something to report. -/
theorem map_text_table (h : s.contents.isEmpty = false) :
    (s.table.lines ++ [s.table.last]).map Line.text = s.listing := by
  have hkey (key : String) : (keyLines s.contents key).map Line.text =
      key :: (s.contents.entries.get key).map entryText ++
        (s.contents.faults.get key).map faultText ++ [""] := by
    have hentries : Line.text ∘ entryLine = entryText := funext text_entryLine
    have hfaults : Line.text ∘ faultLine = faultText := funext text_faultLine
    unfold keyLines
    rw [List.map_append, List.map_append, List.map_cons, List.map_map, List.map_map, hentries,
      hfaults]
    simp [Piece.styled]
  have htable : s.table = ⟨s.heading :: [] :: s.contents.keys.flatMap (keyLines s.contents),
      [.plain s.contents.counts.text]⟩ := by
    unfold table
    rw [if_neg (by simp [h])]
  rw [htable]
  unfold listing
  rw [List.map_append, List.map_cons, List.map_cons, List.map_flatMap, text_heading]
  simp only [hkey, Line.text_nil, List.map_singleton, Line.text_cons, Piece.plain,
    String.append_empty]

theorem controlFree_sign (c : Change) : ControlFree (sign c).toList := by
  cases c <;> decide

theorem controlFree_heading (s : Summary) : ControlFree (Line.text s.heading).toList := by
  simp only [text_heading, String.toList_append, Json.controlFree_append]
  exact ⟨⟨⟨⟨by decide, Text.controlFree_toString _⟩, by decide⟩, Text.controlFree_toString _⟩,
    by decide⟩

section Control

variable {c : Char} (hc : c.toNat < 0x20)
include hc

theorem mem_entryText_iff {e : Entry} :
    c ∈ (entryText e).toList ↔ c ∈ e.name.toList ∨ c ∈ e.category.label.toList := by
  have own := Text.not_mem_of_controlFree hc
  simp only [entryText, String.toList_append, List.mem_append, own "  " (by decide),
    own " " (by decide), own " [" (by decide), own "] " (by decide), own _ (controlFree_sign _),
    own _ (Span.controlFree_lines _), false_or, or_false]

theorem mem_faultText_iff {f : Fault} :
    c ∈ (faultText f).toList ↔ c ∈ (Text.firstLine f.message).toList := by
  have own := Text.not_mem_of_controlFree hc
  simp only [faultText, String.toList_append, List.mem_append, own "  ! " (by decide),
    own " " (by decide), own _ (Span.controlFree_lines _), false_or]

/-- **A control character of a summary** is one of a key, of the name or the category of an entry,
or of the first line of a fault. -/
theorem not_mem_listing (hkeys : ∀ k ∈ s.contents.keys, c ∉ k.toList)
    (hentries : ∀ e ∈ s.contents.entries.items, c ∉ e.name.toList ∧ c ∉ e.category.label.toList)
    (hfaults : ∀ f ∈ s.contents.faults.items, c ∉ (Text.firstLine f.message).toList) :
    ∀ line ∈ s.listing, c ∉ line.toList := by
  intro line hline
  unfold listing at hline
  simp only [← text_heading, List.mem_append, List.mem_cons, List.mem_flatMap, List.mem_map,
    List.not_mem_nil, or_false] at hline
  rcases hline with (rfl | rfl | ⟨k, hk, ((rfl | ⟨e, he, rfl⟩) | ⟨f, hf, rfl⟩) | rfl⟩) | rfl
  · exact Text.not_mem_of_controlFree hc _ s.controlFree_heading
  · exact List.not_mem_nil
  · exact hkeys line hk
  · rw [mem_entryText_iff hc, not_or]
    exact hentries e (Buckets.mem_items_of_mem_get he)
  · rw [mem_faultText_iff hc]
    exact hfaults f (Buckets.mem_items_of_mem_get hf)
  · exact List.not_mem_nil
  · exact Text.not_mem_of_controlFree hc _ s.contents.counts.controlFree_text

end Control

/-- **The lines of a summary hold line feeds where the names of its entries do**, if its keys hold
none and its entries are declarations. -/
theorem oneLine_listing_iff (hfilled : s.contents.entries.Filled)
    (hkeys : ∀ k ∈ s.contents.keys, OneLine k)
    (hentries : ∀ e ∈ s.contents.entries.items, e.category.isDeclaration = true) :
    (∀ line ∈ s.listing, OneLine line) ↔ ∀ e ∈ s.contents.entries.items, OneLine e.name := by
  have hlabel : ∀ e ∈ s.contents.entries.items, OneLine e.category.label :=
    fun e he => (Category.oneLine_of_isDeclaration (hentries e he)).2
  constructor
  · intro h e he
    obtain ⟨k, hk, hget⟩ := (Contents.exists_key_iff hfilled).mpr he
    have hline : entryText e ∈ (s.contents.entries.get k).map entryText := List.mem_map_of_mem hget
    have hmem : entryText e ∈ s.listing := by
      unfold listing
      simp only [List.mem_append, List.mem_cons, List.mem_flatMap]
      exact .inl (.inr (.inr ⟨k, hk, .inl (.inl (.inr hline))⟩))
    exact fun hname => h _ hmem ((mem_entryText_iff (by decide)).mpr (.inl hname))
  · intro h
    exact not_mem_listing (by decide) hkeys (fun e he => ⟨h e he, hlabel e he⟩)
      fun f _ => Text.oneLine_firstLine f.message

end Summary

/-! ## The lines of the report on single edits -/

namespace Edits

/-- What the line of an edit says. -/
def editText (r : Record) : String :=
  "  " ++ Summary.sign r.change ++ " " ++ Text.firstLine r.info.name ++ " [" ++
    categoryName r.info ++ "] " ++ r.info.span.lines

/-- What the line of a context says. -/
def contextText : Option Context → String
  | some c => "      in " ++ c.declaration.category.name ++ " " ++ c.declaration.name ++ " (" ++
      c.change.word ++ ")"
  | none => "      no context"

/-- **The lines the report is meant to have**: a heading and a blank line, and two lines for each
record. -/
def listing (e : Edits) : List String :=
  ("RECORDS: " ++ e.key ++ " (" ++ toString e.records.length ++ " " ++
      (if e.raw then "raw" else "deduplicated") ++ " records)") :: "" ::
    e.records.flatMap fun r => [editText r, contextText r.context]

theorem text_heading (e : Edits) : Line.text e.heading = "RECORDS: " ++ e.key ++ " (" ++
    toString e.records.length ++ " " ++ (if e.raw then "raw" else "deduplicated") ++
    " records)" := by
  have hmark : "RECORDS:" ++ " " = "RECORDS: " := rfl
  simp only [heading, Piece.plain, Piece.styled, Line.text_cons, Line.text_nil,
    String.append_empty, ← hmark, String.append_assoc]

/-- What was written are the lines meant, and nothing behind the last of them. -/
theorem map_text_table (e : Edits) :
    (e.table.lines ++ [e.table.last]).map Line.text = e.listing ++ [""] := by
  have hrecord (r : Record) : (recordLines r).map Line.text =
      [editText r, contextText r.context] := by
    have hmark : "      " ++ "no context" = "      no context" := rfl
    unfold recordLines editLine contextLine editText contextText
    cases r.context <;>
      simp [Piece.plain, Piece.styled, Summary.place, ← hmark, String.append_assoc]
  unfold table listing
  rw [List.map_append, List.map_cons, List.map_cons, List.map_flatMap, text_heading]
  simp only [hrecord, Line.text_nil, List.map_singleton]

section Control

variable {c : Char} (hc : c.toNat < 0x20)
include hc

theorem mem_heading_iff {e : Edits} : c ∈ (Line.text e.heading).toList ↔ c ∈ e.key.toList := by
  have own := Text.not_mem_of_controlFree hc
  have hmanner : c ∉ (if e.raw then "raw" else "deduplicated").toList :=
    own _ (by cases e.raw <;> decide)
  simp only [text_heading, String.toList_append, List.mem_append, own "RECORDS: " (by decide),
    own " (" (by decide), own " " (by decide), own " records)" (by decide), hmanner,
    own _ (Text.controlFree_toString _), false_or, or_false]

theorem mem_editText_iff {r : Record} : c ∈ (editText r).toList ↔
    c ∈ (Text.firstLine r.info.name).toList ∨ c ∈ (categoryName r.info).toList := by
  have own := Text.not_mem_of_controlFree hc
  simp only [editText, String.toList_append, List.mem_append, own "  " (by decide),
    own " " (by decide), own " [" (by decide), own "] " (by decide),
    own _ (Summary.controlFree_sign _), own _ (Span.controlFree_lines _), false_or, or_false]

theorem mem_contextText_iff {x : Context} : c ∈ (contextText (some x)).toList ↔
    c ∈ x.declaration.category.name.toList ∨ c ∈ x.declaration.name.toList := by
  have own := Text.not_mem_of_controlFree hc
  have hword : c ∉ x.change.word.toList := own _ (by cases x.change <;> decide)
  simp only [contextText, String.toList_append, List.mem_append, own "      in " (by decide),
    own " " (by decide), own " (" (by decide), own ")" (by decide), hword, false_or, or_false]

/-- **A control character of the report** is one of the key, of the first line or the category of an
edit, or of the category or the name of a context. -/
theorem not_mem_listing {e : Edits} (hkey : c ∉ e.key.toList)
    (hinfos : ∀ r ∈ e.records,
      c ∉ (Text.firstLine r.info.name).toList ∧ c ∉ (categoryName r.info).toList)
    (hcontexts : ∀ r ∈ e.records, ∀ x ∈ r.context,
      c ∉ x.declaration.category.name.toList ∧ c ∉ x.declaration.name.toList) :
    ∀ line ∈ e.listing ++ [""], c ∉ line.toList := by
  intro line hline
  unfold listing at hline
  simp only [← text_heading, List.mem_append, List.mem_cons, List.mem_flatMap, List.not_mem_nil,
    or_false] at hline
  rcases hline with (rfl | rfl | ⟨r, hr, rfl | rfl⟩) | rfl
  · rwa [mem_heading_iff hc]
  · exact List.not_mem_nil
  · rw [mem_editText_iff hc, not_or]
    exact hinfos r hr
  · cases hx : r.context with
    | none => exact Text.not_mem_of_controlFree hc _ (by decide)
    | some x =>
      rw [mem_contextText_iff hc, not_or]
      exact hcontexts r hr x hx
  · exact List.not_mem_nil

end Control

/-- **The lines of the report hold line feeds where the names of contexts do**, if its key and the
categories of its records hold none and its contexts are declarations. -/
theorem oneLine_listing_iff {e : Edits} (hkey : OneLine e.key)
    (hcategories : ∀ r ∈ e.records, OneLine (categoryName r.info))
    (hcontexts : ∀ r ∈ e.records, ∀ c ∈ r.context, c.declaration.category.isDeclaration = true) :
    (∀ line ∈ e.listing ++ [""], OneLine line) ↔
      ∀ r ∈ e.records, ∀ c ∈ r.context, OneLine c.declaration.name := by
  constructor
  · intro h r hr c hc
    have hmem : contextText (some c) ∈ e.listing ++ [""] := by
      have hc : r.context = some c := hc
      unfold listing
      simp only [List.mem_append, List.mem_cons, List.mem_flatMap]
      exact .inl (.inr (.inr ⟨r, hr, .inr (.inl (by rw [hc]))⟩))
    exact fun hname => h _ hmem ((mem_contextText_iff (by decide)).mpr (.inr hname))
  · intro h
    refine not_mem_listing (by decide) hkey
      (fun r hr => ⟨Text.oneLine_firstLine r.info.name, hcategories r hr⟩) fun r hr c hc => ?_
    exact ⟨(Category.oneLine_of_isDeclaration (hcontexts r hr c hc)).1, h r hr c hc⟩

end Edits

/-! ## What documents put into the lines -/

/-- What an edit shows is among the categories of its diff. -/
theorem Diff.category_mem_categories {d : Diff} {p : Patch Term} (h : p ∈ d.patches) :
    p.shown.category ∈ d.categories := by
  induction d using Diff.induction with
  | leaf q =>
    rw [patches_leaf, List.mem_singleton] at h
    subst h
    have hside : ∃ side ∈ p.sides, side.2 = p.shown := by
      cases p <;> simp [Patch.sides, Patch.shown]
    obtain ⟨side, hside, hshown⟩ := hside
    refine List.mem_flatMap.mpr ⟨side, hside, ?_⟩
    rw [hshown]
    cases p.shown with
    | mk c s shape =>
      rw [Term.categories_mk]
      exact List.mem_cons_self
  | node c s shape ih =>
    rw [patches_node, List.mem_flatMap] at h
    obtain ⟨d, hd, hp⟩ := h
    rw [categories_node]
    exact List.mem_cons_of_mem c (List.mem_flatMap.mpr ⟨d, hd, ih d hd hp⟩)

namespace Document

/-- The paths and the categories of the document hold no line feed. -/
def Unbroken (d : Document) : Prop :=
  OneLine d.beforePath ∧ OneLine d.afterPath ∧ ∀ c ∈ d.diff.categories, OneLine c.name

instance (d : Document) : Decidable d.Unbroken :=
  inferInstanceAs (Decidable (_ ∧ _ ∧ ∀ c ∈ d.diff.categories, OneLine c.name))

variable {doc : Document}

/-- The report on the edits of a document, with or without repetitions. -/
def edits (doc : Document) (raw : Bool) : Edits :=
  ⟨doc.key, raw, if raw then doc.rawRecords else doc.records⟩

/-- What is reported of an edit is what a raw record shows, under the same declaration. -/
theorem exists_raw_of_mem_edits {raw : Bool} {r : Record} (h : r ∈ (doc.edits raw).records) :
    ∃ q ∈ doc.rawRecords, r.patch = q.patch ∧
      r.context.map Context.declaration = q.context.map Context.declaration := by
  cases raw with
  | true => exact ⟨r, h, rfl, rfl⟩
  | false =>
    have hkept : r ∈ Record.dedup doc.rawRecords := h
    rw [Record.dedup_eq_survivors] at hkept
    obtain ⟨earlier, q, later, hraw, -, rfl⟩ := Record.mem_survivors_iff.mp hkept
    refine ⟨q, by simp [hraw], ?_⟩
    rcases Record.outcome_eq_or earlier q later with ho | ho
    · rw [ho]
      exact ⟨rfl, rfl⟩
    · rw [ho]
      refine ⟨rfl, ?_⟩
      cases hq : q.context <;> simp [Record.asModified, hq]

/-- What an edit is reported under is a declaration. -/
theorem isDeclaration_of_context {raw : Bool} {r : Record} {c : Context}
    (h : r ∈ (doc.edits raw).records) (hc : r.context = some c) :
    c.declaration.category.isDeclaration = true := by
  obtain ⟨q, hq, -, hsame⟩ := exists_raw_of_mem_edits h
  obtain ⟨l, hl, rfl⟩ := exists_leaf_of_mem_rawRecords hq
  rw [hc, Option.map_some] at hsame
  obtain ⟨c', hc', hdecl⟩ := Option.map_eq_some_iff.mp hsame.symm
  rw [← hdecl]
  cases c' with
  | edited d change =>
    obtain ⟨hshown, rfl, -⟩ := doc.sources.contextAt_eq_edited_iff.mp hc'
    exact hshown
  | enclosing d => exact (justified_of_enclosing hl hc').1

/-- The category of a record is one of the document, or the name for unparseable regions. -/
theorem oneLine_categoryName (hd : doc.Unbroken) {raw : Bool} {r : Record}
    (h : r ∈ (doc.edits raw).records) : OneLine (Edits.categoryName r.info) := by
  obtain ⟨q, hq, hpatch, -⟩ := exists_raw_of_mem_edits h
  obtain ⟨l, hl, rfl⟩ := exists_leaf_of_mem_rawRecords hq
  have hshown := hd.2.2 _ (Diff.category_mem_categories (Diff.patch_mem_patches hl))
  have hcategory : r.info.category =
      if l.patch.shown.category = .parseError then none else some l.patch.shown.category := by
    unfold Record.info
    rw [hpatch, Sources.patch_recordAt]
    cases l.patch <;> rfl
  unfold Edits.categoryName
  rw [hcategory]
  split
  · decide
  · exact hshown

end Document

section Documents

variable {ds : List Document}

/-- The keys of the table of documents are keys of documents. -/
theorem exists_document_of_mem_keys {k : String} (h : k ∈ (contentsOfAll ds).keys) :
    ∃ d ∈ ds, d.key = k := by
  obtain ⟨hentries, hfaults⟩ := filled_contentsOfAll ds
  obtain ⟨hget, hget'⟩ := get_contentsOfAll ds k
  have hsome {β : Type} {f : Document → List β} (hne : (ds.filter (·.key = k)).flatMap f ≠ []) :
      ∃ d ∈ ds, d.key = k := by
    obtain ⟨b, hb⟩ := List.exists_mem_of_ne_nil _ hne
    obtain ⟨d, hd, -⟩ := List.mem_flatMap.mp hb
    obtain ⟨hmem, hkey⟩ := List.mem_filter.mp hd
    exact ⟨d, hmem, of_decide_eq_true hkey⟩
  rcases Contents.mem_keys_iff.mp h with h | h
  · rw [hentries.mem_keys_iff, hget] at h
    exact hsome h
  · rw [hfaults.mem_keys_iff, hget'] at h
    exact hsome h

/-- The entries of the table of documents are declarations. -/
theorem isDeclaration_of_mem_items {e : Entry} (h : e ∈ (contentsOfAll ds).entries.items) :
    e.category.isDeclaration = true := by
  rw [Buckets.items_eq_flatMap_keys] at h
  obtain ⟨k, -, he⟩ := List.mem_flatMap.mp h
  rw [(get_contentsOfAll ds k).1] at he
  obtain ⟨d, -, he⟩ := List.mem_flatMap.mp he
  obtain ⟨r, hr, -, c, hc, rfl⟩ := Record.mem_entries_iff.mp he
  have hr : r ∈ (d.edits false).records := hr
  exact Document.isDeclaration_of_context hr hc

/-- **One line for each item, unless a name has more.**  Of documents whose paths and categories
hold no line feed, a summary that has something to report prints the lines it is meant to have
exactly if the names of its entries hold no line feed, under every key of its entries and faults
once; and the report on the edits of one of the documents prints two lines for each record exactly
if the names of their contexts hold none.  Nothing else can break a line: not a path, a category, a
span or a count, nor the text of a region that could not be parsed or of an edit. -/
theorem tables_line_by_line_iff (h : ∀ d ∈ ds, d.Unbroken) :
    ((contentsOfAll ds).isEmpty = false →
      (contentsOfAll ds).keys.Pairwise (· < ·) ∧
      (∀ k, k ∈ (contentsOfAll ds).keys ↔
        k ∈ (contentsOfAll ds).entries.keys ∨ k ∈ (contentsOfAll ds).faults.keys) ∧
      ∀ files milliseconds,
        (Summary.table ⟨contentsOfAll ds, files, milliseconds⟩).printed =
            Summary.listing ⟨contentsOfAll ds, files, milliseconds⟩ ↔
          ∀ e ∈ (contentsOfAll ds).entries.items, OneLine e.name) ∧
    ∀ d ∈ ds, ∀ raw, (d.edits raw).table.printed = (d.edits raw).listing ++ [""] ↔
      ∀ r ∈ (d.edits raw).records, ∀ c ∈ r.context, OneLine c.declaration.name := by
  have hkey {d : Document} (hd : d ∈ ds) : OneLine d.key :=
    oneLine_pathKey (h d hd).1 (h d hd).2.1
  constructor
  · intro hne
    refine ⟨Contents.pairwise_keys _, fun k => Contents.mem_keys_iff, fun files ms => ?_⟩
    have hkeys : ∀ k ∈ (contentsOfAll ds).keys, OneLine k := by
      intro k hk
      obtain ⟨d, hd, rfl⟩ := exists_document_of_mem_keys hk
      exact hkey hd
    have hlines := Summary.oneLine_listing_iff (s := ⟨contentsOfAll ds, files, ms⟩)
      (filled_contentsOfAll ds).1 hkeys fun e he => isDeclaration_of_mem_items he
    rw [← hlines, ← Summary.map_text_table hne, Table.printed_eq_iff, List.forall_mem_map]
  · intro d hd raw
    have hlines := Edits.oneLine_listing_iff (e := d.edits raw) (hkey hd)
      (fun r hr => d.oneLine_categoryName (h d hd) hr)
      fun r hr c hc => Document.isDeclaration_of_context hr hc
    rw [← hlines, ← Edits.map_text_table, Table.printed_eq_iff, List.forall_mem_map]

end Documents

section Names

/-- A new file of two lines that could not be parsed: a declaration on the first, named by its
text. -/
private def newDeclaration (category : Category) (name : String) (size : UInt64) : Document where
  beforePath := ""
  afterPath := "a.js"
  beforeSource := ""
  afterSource := name ++ "\n(("
  diff := .node (.other "Program") (.ofBytes (name ++ "\n((") 0 (size + 3)) (.branch [
    .leaf (.insert (.mk category (.ofBytes (name ++ "\n((") 0 size) .leaf)),
    .leaf (.insert (.mk .parseError (.ofBytes (name ++ "\n((") 0 (size + 3)) .leaf))])

/-- The text of the region takes two lines, of which the tables show one; the name of the
declaration takes one. -/
theorem single_line_function_printed :
    (∀ d ∈ [newDeclaration .function "f" 1], d.Unbroken) ∧
    (contentsOfAll [newDeclaration .function "f" 1]).isEmpty = false ∧
    (Summary.table ⟨contentsOfAll [newDeclaration .function "f" 1], 1, 0⟩).printed =
      ["TOC: 1 files (0ms)", "", "a.js", "  + f [Function] L1-L1", "  ! L1-L2 f", "",
        "1 added, 1 parse errors"] ∧
    ((newDeclaration .function "f" 1).edits true).table.printed =
      ["RECORDS: a.js (2 raw records)", "", "  + f [Function] L1-L1", "      in Function f (added)",
        "  + f [ParseError] L1-L2", "      no context", ""] := by
  have hunbroken : ∀ d ∈ [newDeclaration .function "f" 1], d.Unbroken := by decide
  have hne : (contentsOfAll [newDeclaration .function "f" 1]).isEmpty = false := by decide
  have hnames : ∀ e ∈ (contentsOfAll [newDeclaration .function "f" 1]).entries.items,
      OneLine e.name := by decide
  have hcontexts : ∀ r ∈ ((newDeclaration .function "f" 1).edits true).records,
      ∀ c ∈ r.context, OneLine c.declaration.name := by decide
  obtain ⟨hsummary, hedits⟩ := tables_line_by_line_iff hunbroken
  obtain ⟨-, -, hprinted⟩ := hsummary hne
  refine ⟨hunbroken, hne, ((hprinted 1 0).mpr hnames).trans (by decide), ?_⟩
  exact ((hedits _ List.mem_cons_self true).mpr hcontexts).trans (by decide)

/-- **A function without a name has its text for one**, and takes as many lines in either table. -/
theorem anonymous_function_breaks_lines :
    (¬ ∀ ds : List Document, (∀ d ∈ ds, d.Unbroken) → (contentsOfAll ds).isEmpty = false →
      ∀ files milliseconds,
        (Summary.table ⟨contentsOfAll ds, files, milliseconds⟩).printed.length =
          (Summary.listing ⟨contentsOfAll ds, files, milliseconds⟩).length) ∧
    ¬ ∀ d : Document, d.Unbroken → ∀ raw,
      (d.edits raw).table.printed.length = ((d.edits raw).listing ++ [""]).length := by
  constructor
  · intro h
    have hlength := h [newDeclaration .anonymousFunction "() =>\n0" 7] (by decide) (by decide)
      1 0
    revert hlength
    decide
  · intro h
    have hlength := h (newDeclaration .anonymousFunction "() =>\n0" 7) (by decide) true
    revert hlength
    decide +kernel

end Names

end DiffContents
