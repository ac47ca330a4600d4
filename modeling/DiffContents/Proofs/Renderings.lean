import DiffContents.Proofs.ByteOrder
import DiffContents.Proofs.Json.Values
import DiffContents.Proofs.LineByLine
import DiffContents.Proofs.RoundTrip
import DiffContents.Report.Edits

/-! # The two JSON renderings

A report is rendered as JSON in two layouts, and both are texts of one value, the compact one on a
single line (`Json.RenderedAs`).  What is in the value is told by looking members up in it: the
entries and faults of a table of contents are there key by key, in the order of the bytes of the
keys (`Buckets.HeldBy`), and the records of a document can be read from it again.

The strings of a report are taken raw from sources and paths.  Nothing is asked of them, since a
value holds a string as it is and only its texts escape it.  The one side condition is on records
that are read back: two categories may have one name, and then the name is read as the same one.
-/
namespace DiffContents

open Json (Reader)
open Json.Reader

/-! ## Looking a report up -/

namespace Json

/-- The names of an object's members, as they stand. -/
def names : Json → List String
  | object members => members.map Prod.fst
  | _ => []

/-- **Two texts of one value**, the first of them on a single line. -/
structure RenderedAs (v : Json) (compact pretty : String) : Prop where
  parse_compact : parse? compact = some v
  parse_pretty : parse? pretty = some v
  controlFree : ControlFree compact.toList
  oneLine : Text.OneLine compact

theorem renderedAs_of_plain {v : Json} (h : v.Plain) : v.RenderedAs v.compact v.pretty where
  parse_compact := parse?_compact h
  parse_pretty := parse?_pretty h
  controlFree := controlFree_compact h
  oneLine hmem := absurd (controlFree_compact h _ hmem) (by decide)

end Json

/-- **What is listed under keys, as a member of a value.**  The member is left out if there are no
keys, and otherwise has each key once, in the order of the bytes, and under it the items in their
order. -/
def Buckets.HeldBy {α : Type} (Written : α → Json → Prop) (b : Buckets α) : Option Json → Prop
  | none => b.keys = []
  | some j => b.keys ≠ [] ∧ j.names = b.keys ∧ j.names.Pairwise (Text.utf8 · < Text.utf8 ·) ∧
      ∀ key ∈ b.keys, ∃ js, j.member? key = some (.array js) ∧
        List.Forall₂ Written (b.get key) js

/-- An entry can be looked up: its text as it is, its category by the label. -/
def Entry.WrittenAs (e : Entry) (j : Json) : Prop :=
  j.member? "changeType" = some (.string e.change.word) ∧
    j.member? "category" = some (.string e.category.label) ∧
    j.member? "term" = some (.string e.name) ∧
    j.member? "span" = some (.string e.span.lines)

/-- A fault can be looked up: its text as it is. -/
def Fault.WrittenAs (f : Fault) (j : Json) : Prop :=
  j.member? "error" = some (.string f.message) ∧ j.member? "span" = some (.string f.span.lines)

theorem Entry.writtenAs_toJson (e : Entry) : e.WrittenAs e.toJson := ⟨rfl, rfl, rfl, rfl⟩

theorem Fault.writtenAs_toJson (f : Fault) : f.WrittenAs f.toJson := ⟨rfl, rfl⟩

namespace Buckets

variable {α : Type} {f : α → Json}

theorem lookup_map_snd {γ δ : Type} (g : γ → δ) (key : String)
    (ps : List (String × γ)) :
    (ps.map fun p => (p.1, g p.2)).lookup key = (ps.lookup key).map g := by
  induction ps with
  | nil => rfl
  | cons p ps ih =>
    obtain ⟨k, x⟩ := p
    simp only [List.map_cons, List.lookup_cons, ih]
    cases key == k <;> rfl

theorem lookup_of_mem_keys {b : Buckets α} {key : String} (h : key ∈ b.keys) :
    b.toList.lookup key = some (b.get key) := by
  cases hl : b.toList.lookup key with
  | none =>
    obtain ⟨p, hp, rfl⟩ := List.mem_map.mp h
    exact absurd rfl (bne_iff_ne.mp (List.lookup_eq_none_iff.mp hl p hp))
  | some xs => rw [get, hl, Option.getD_some]

theorem member?_toJson {b : Buckets α} {key : String} (h : key ∈ b.keys) :
    (b.toJson f).member? key = some (.ofList f (b.get key)) := by
  show (b.toList.map fun p => (p.1, Json.ofList f p.2)).lookup key = _
  rw [lookup_map_snd, lookup_of_mem_keys h, Option.map_some]

theorem names_toJson (b : Buckets α) : (b.toJson f).names = b.keys := by
  show (b.toList.map _).map Prod.fst = _
  rw [List.map_map]
  rfl

theorem isEmpty_iff_keys {b : Buckets α} : b.isEmpty = true ↔ b.keys = [] := by
  rw [isEmpty, List.isEmpty_iff, keys, List.map_eq_nil_iff]

/-- The member for what is listed under keys holds it. -/
theorem heldBy_toJson {Written : α → Json → Prop} (h : ∀ a, Written a (f a)) (b : Buckets α) :
    b.HeldBy Written (if b.isEmpty then none else some (b.toJson f)) := by
  by_cases hb : b.isEmpty
  · rw [if_pos hb]
    exact isEmpty_iff_keys.mp hb
  · rw [if_neg hb]
    refine ⟨fun hkeys => hb (isEmpty_iff_keys.mpr hkeys), b.names_toJson, ?_, fun key hkey => ?_⟩
    · rw [names_toJson]
      exact b.pairwise_utf8_keys
    · refine ⟨_, member?_toJson hkey, ?_⟩
      rw [List.forall₂_map_right_iff, List.forall₂_same]
      exact fun a _ => h a

theorem plain_toJson {b : Buckets α} (h : ∀ a, (f a).Plain) : (b.toJson f).Plain := by
  show Json.PlainMembers _
  rw [Json.Reader.plainMembers_iff]
  intro m hm
  obtain ⟨p, -, rfl⟩ := List.mem_map.mp hm
  show Json.PlainElements (p.2.map f)
  exact plainElements_map fun a _ => h a

theorem plain_of_mem_member {b : Buckets α} {name : String} (h : ∀ a, (f a).Plain)
    {m : String × Json} (hm : m ∈ b.member name f) : m.2.Plain := by
  unfold member at hm
  split at hm
  · cases hm
  · obtain rfl := List.mem_singleton.mp hm
    exact plain_toJson h

end Buckets

theorem Entry.plain_toJson (e : Entry) : e.toJson.Plain :=
  ⟨trivial, trivial, trivial, trivial, trivial⟩

theorem Fault.plain_toJson (f : Fault) : f.toJson.Plain := ⟨trivial, trivial, trivial⟩

namespace Contents

theorem plain_toJson (c : Contents) : c.toJson.Plain := by
  show Json.PlainMembers _
  rw [Json.Reader.plainMembers_iff]
  intro m hm
  rcases List.mem_append.mp hm with hm | hm
  · exact Buckets.plain_of_mem_member Entry.plain_toJson hm
  · exact Buckets.plain_of_mem_member Fault.plain_toJson hm

theorem member?_toJson_changes (c : Contents) : c.toJson.member? "changes" =
    if c.entries.isEmpty then none else some (c.entries.toJson Entry.toJson) := by
  show List.lookup "changes" (_ ++ _) = _
  unfold Buckets.member
  cases c.entries.isEmpty <;> cases c.faults.isEmpty <;> rfl

theorem member?_toJson_errors (c : Contents) : c.toJson.member? "errors" =
    if c.faults.isEmpty then none else some (c.faults.toJson Fault.toJson) := by
  show List.lookup "errors" (_ ++ _) = _
  unfold Buckets.member
  cases c.entries.isEmpty <;> cases c.faults.isEmpty <;> rfl

end Contents

/-! ## Reading records back -/

/-- The categories named as they are read are those that are read from a name. -/
theorem Category.mem_range_ofName_iff {c : Category} : c ∈ Set.range ofName ↔ c.Canonical := by
  constructor
  · rintro ⟨name, rfl⟩
    exact canonical_ofName name
  · exact fun h => ⟨c.name, h⟩

/-! A record is plain and nests a few levels, whatever its categories are. -/

theorem Info.plain_toJson (i : Info) : i.toJson.Plain := by
  have hcategory : (Json.ofOption Category.toJson i.category).Plain := by
    cases i.category <;> trivial
  exact ⟨hcategory, trivial, i.span.reads.plain, trivial⟩

theorem Context.plain_toJson (c : Context) : c.toJson.Plain := by
  have hspan := c.declaration.span.reads.plain
  cases c with
  | edited => exact ⟨trivial, trivial, trivial, hspan, trivial, trivial⟩
  | enclosing => exact ⟨trivial, trivial, trivial, hspan, trivial⟩

theorem Record.plain_toJson (r : Record) : r.toJson.Plain := by
  have hpatch : (r.patch.toJson Info.toJson).Plain := by
    cases r.patch with
    | insert after => exact ⟨⟨after.plain_toJson, trivial⟩, trivial⟩
    | delete before => exact ⟨⟨before.plain_toJson, trivial⟩, trivial⟩
    | replace before after =>
      exact ⟨⟨before.plain_toJson, after.plain_toJson, trivial⟩, trivial⟩
  have hcontext : (Json.ofOption Context.toJson r.context).Plain := by
    cases r.context with
    | none => trivial
    | some c => exact c.plain_toJson
  exact ⟨hpatch, hcontext, trivial⟩

theorem Info.depth_toJson (i : Info) : i.toJson.depth = 3 := by
  obtain ⟨category, name, span⟩ := i
  cases category <;> rfl

theorem Patch.depth_toJson (p : Patch Info) : (p.toJson Info.toJson).depth = 5 := by
  cases p <;> simp [Patch.toJson, Json.depth, Json.membersDepth, Info.depth_toJson]

theorem Context.depth_toJson (c : Context) : c.toJson.depth = 3 := by
  cases c <;> rfl

theorem Record.depth_toJson (r : Record) : r.toJson.depth = 6 := by
  obtain ⟨patch, context⟩ := r
  cases context <;>
    simp [Record.toJson, Json.ofOption, Json.depth, Json.membersDepth, Patch.depth_toJson,
      Context.depth_toJson]

namespace Edits

/-- The records among the members of a report on single edits. -/
def recordsForm : Reader.Form (Option (List Record)) (List Record) where
  title := "struct RecordsResult"
  fields := [.of "records" false id (fun records _ => some records) (Reader.list Record.reader)]
  blank := none
  build records := Reader.need "records" records

/-- Reads the records of a report on single edits, and passes over its other members. -/
def recordsReader : Reader (List Record) := Reader.struct recordsForm

theorem plain_toJson (e : Edits) : e.toJson.Plain :=
  ⟨trivial, trivial, plainElements_map fun r _ => r.plain_toJson, trivial⟩

theorem depth_records_le (rs : List Record) : (Json.ofList Record.toJson rs).depth ≤ 7 := by
  have hrecords : Json.elementsDepth (rs.map Record.toJson) ≤ 6 := by
    induction rs with
    | nil => exact Nat.zero_le 6
    | cons r rs ih =>
      rw [List.map_cons, Json.elementsDepth, r.depth_toJson]
      exact Nat.max_le.mpr ⟨Nat.le_refl 6, ih⟩
  exact Nat.succ_le_succ hrecords

theorem depth_toJson_le (e : Edits) : e.toJson.depth ≤ 8 := by
  have hrecords := depth_records_le e.records
  simp only [toJson, Json.depth, Json.membersDepth]
  omega

theorem reads_records {e : Edits} (h : ∀ r ∈ e.records, ∀ c ∈ r.categories, c.Canonical) :
    Reads (Reader.list Record.reader) (.ofList Record.toJson e.records) e.records :=
  reads_list fun r hr => Record.reads (h r hr)

theorem reads_recordsReader {e : Edits}
    (h : ∀ r ∈ e.records, ∀ c ∈ r.categories, c.Canonical) :
    Reads recordsReader e.toJson e.records :=
  reads_structureOr _
    (.other rfl trivial <|
      .other rfl trivial <|
      .field rfl rfl (reads_records h) <| .nil _) rfl

end Edits

/-- **What is rendered as JSON can be read again.**  Both layouts of a report are texts of one
value, the compact one on a single line.  In the value of a table of contents every entry and every
fault can be looked up under its key.  From that of a list of records the records are read, by
themselves or as they stand in the report, if each of their categories is what some name is read
as. -/
theorem renderings_parse :
    (∀ (s : Summary) (colours : Bool), ∃ v : Json,
      v.RenderedAs (s.render ⟨.json, colours, true⟩) (s.render ⟨.json, colours, false⟩) ∧
      s.contents.entries.HeldBy Entry.WrittenAs (v.member? "changes") ∧
      s.contents.faults.HeldBy Fault.WrittenAs (v.member? "errors")) ∧
    ∀ (e : Edits) (colours : Bool), ∃ v records : Json,
      v.RenderedAs (e.render ⟨.json, colours, true⟩) (e.render ⟨.json, colours, false⟩) ∧
      v.member? "records" = some records ∧
      ((∀ r ∈ e.records, ∀ c ∈ r.categories, c ∈ Set.range Category.ofName) →
        Json.read (Reader.list Record.reader) records.compact = .ok e.records ∧
        Json.read (Reader.list Record.reader) records.pretty = .ok e.records ∧
        ∀ compact, Json.read Edits.recordsReader (e.render ⟨.json, colours, compact⟩) =
          .ok e.records) := by
  refine ⟨fun s colours => ⟨s.contents.toJson, ?_, ?_, ?_⟩, fun e colours => ?_⟩
  · exact Json.renderedAs_of_plain s.contents.plain_toJson
  · rw [Contents.member?_toJson_changes]
    exact Buckets.heldBy_toJson Entry.writtenAs_toJson _
  · rw [Contents.member?_toJson_errors]
    exact Buckets.heldBy_toJson Fault.writtenAs_toJson _
  · refine ⟨e.toJson, .ofList Record.toJson e.records, Json.renderedAs_of_plain e.plain_toJson, rfl,
      fun hcategories => ?_⟩
    have hcanonical : ∀ r ∈ e.records, ∀ c ∈ r.categories, c.Canonical :=
      fun r hr c hc => Category.mem_range_ofName_iff.mp (hcategories r hr c hc)
    have hlist := Edits.reads_records hcanonical
    have hall := Edits.reads_recordsReader hcanonical
    obtain ⟨hcompact, hpretty⟩ := hlist.read_texts
      (Nat.le_trans (Edits.depth_records_le e.records) (by decide))
    obtain ⟨hcompact', hpretty'⟩ := hall.read_texts (Nat.le_trans e.depth_toJson_le (by decide))
    refine ⟨hcompact, hpretty, fun compact => ?_⟩
    cases compact with
    | false => exact hpretty'
    | true => exact hcompact'

/-- The report on a deletion inside a method, its key, names and category full of characters that
need an escape. -/
private def escapedEdits : Edits where
  key := "a\"\\\n.rb -> b\t\x01.rb"
  raw := true
  records := [
    ⟨.delete ⟨some (.other "Call\x0c\"ä"), "😀\n\x1f\\u0041", ⟨0, 9, ⟨1, 1⟩, ⟨2, 3⟩⟩⟩,
      some (.edited ⟨.singletonMethod, "self.\r\"x\"", ⟨0, 99, ⟨1, 1⟩, ⟨9, 1⟩⟩⟩ .modified)⟩,
    ⟨.insert ⟨none, "\x08", ⟨7, 8, ⟨1, 8⟩, ⟨1, 9⟩⟩⟩, none⟩]

/-- Records full of characters that need an escape are read from both renderings. -/
theorem renderings_parse_escaped :
    (∀ r ∈ escapedEdits.records, ∀ c ∈ r.categories, c ∈ Set.range Category.ofName) ∧
    Json.read Edits.recordsReader (escapedEdits.render ⟨.json, false, true⟩) =
      .ok escapedEdits.records ∧
    Json.read Edits.recordsReader (escapedEdits.render ⟨.json, false, false⟩) =
      .ok escapedEdits.records := by
  have hcanonical : ∀ r ∈ escapedEdits.records, ∀ c ∈ r.categories, c.Canonical := by decide
  have hcategories : ∀ r ∈ escapedEdits.records, ∀ c ∈ r.categories,
      c ∈ Set.range Category.ofName :=
    fun r hr c hc => Category.mem_range_ofName_iff.mpr (hcanonical r hr c hc)
  obtain ⟨v, records, -, -, hread⟩ := renderings_parse.2 escapedEdits false
  obtain ⟨-, -, hrendered⟩ := hread hcategories
  exact ⟨hcategories, hrendered true, hrendered false⟩

end DiffContents
