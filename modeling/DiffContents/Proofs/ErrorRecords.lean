import DiffContents.Proofs.Completeness
import DiffContents.Proofs.Merging

/-! # Regions that could not be parsed

Deduplication looks at contexts alone, so a record of a region that could not be parsed and the
record of an ordinary edit can stand in each other's way.  This module says when they do.

A fault comes from an error record that survives (`Document.isEmpty_faults_iff`).  In the other
direction, an error record changes the entries only where it is the first record of its context: it
may then mark an edited declaration before it as modified, or take the place of an ordinary record
behind it (`Record.interferes`).  All other error records may be taken out before deduplication
(`Record.essential`).  One of them is taken out at a time, the last one first: with the repetitions
behind it gone, an error record without an ordinary record of its context behind it has no record of
its context behind it at all (`Record.entries_dedup_remove`).
-/
namespace DiffContents

universe u

theorem places_append {α : Type u} (xs ys : List α) : Record.places (xs ++ ys) =
    (Record.places xs).map (fun p => (p.1, p.2.1, p.2.2 ++ ys)) ++
      (Record.places ys).map fun p => (xs ++ p.1, p.2) := by
  induction xs with
  | nil => simp [Record.places]
  | cons x xs ih => simp [Record.places, ih, Function.comp_def]

namespace Record

/-- **An error record interferes** with the entries when no earlier record has its context, and
either an earlier record is of an edited declaration of that family, or a later record that shows no
error has the same context. -/
def interferes (earlier : List Record) (r : Record) (later : List Record) : Bool :=
  match r.context with
  | none => false
  | some c =>
    decide (∀ e ∈ earlier, e.context ≠ some c) &&
      (earlier.any (·.edits c.declaration.family) ||
        later.any fun k => !k.isError && decide (k.context = some c))

/-- **The records that matter for the entries**: all but the error records that do not interfere.
The first argument holds the records that come before. -/
def essential (earlier : List Record) : List Record → List Record
  | [] => []
  | r :: later =>
    if r.isError && !interferes earlier r later then essential (earlier ++ [r]) later
    else r :: essential (earlier ++ [r]) later

/-- The entry at a place of a list of records, if what remains there gives one. -/
def entryAt? (p : List Record × Record × List Record) : Option Entry :=
  (survivor? p).bind fun k => (Item.ofRecord? k).bind Item.entry?

theorem entries_dedup (rs : List Record) :
    entries (dedup rs) = (places rs).filterMap entryAt? := by
  rw [dedup_eq_survivors, survivors, entries, List.filterMap_filterMap, List.filterMap_filterMap]
  rfl

@[simp] theorem isError_outcome (earlier later : List Record) (r : Record) :
    (outcome earlier r later).isError = r.isError := by
  rcases outcome_eq_or earlier r later with h | h <;> rw [h]
  rfl

theorem entryAt?_of_isError {earlier later : List Record} {r : Record} (h : r.isError = true) :
    entryAt? (earlier, r, later) = none := by
  unfold entryAt? survivor? Item.ofRecord?
  dsimp only
  split <;> simp [h, Item.entry?]

theorem entryAt?_of_context_eq_none {earlier later : List Record} {r : Record}
    (h : r.context = none) : entryAt? (earlier, r, later) = none := by
  have hr : ¬ ∃ d change, r.context = some (.edited d change) := by simp [h]
  unfold entryAt? survivor? Item.ofRecord?
  dsimp only
  rw [outcome_of_not_edited hr]
  cases survives earlier r with
  | false => simp
  | true => cases hr : r.isError <;> simp [h, hr, Item.entry?]

/-- Two places of one record give one entry when the record survives at both or at neither, and if
it is of an edited declaration is marked at both or at neither. -/
theorem entryAt?_congr {earlier earlier' later later' : List Record} {r : Record}
    (hs : survives earlier r = survives earlier' r)
    (hm : ∀ d change, r.context = some (.edited d change) → survives earlier r = true →
      ((∃ k ∈ later, marks earlier d change k = true) ↔
        ∃ k ∈ later', marks earlier' d change k = true)) :
    entryAt? (earlier, r, later) = entryAt? (earlier', r, later') := by
  unfold entryAt? survivor?
  dsimp only
  rw [← hs]
  by_cases hr : survives earlier r = true
  · suffices ho : outcome earlier r later = outcome earlier' r later' by rw [ho]
    by_cases he : ∃ d change, r.context = some (.edited d change)
    · obtain ⟨d, change, he⟩ := he
      rw [outcome_of_edited he, outcome_of_edited he]
      simp only [hm d change he hr]
    · rw [outcome_of_not_edited he, outcome_of_not_edited he]
  · simp [hr]

/-- A record marks another only in virtue of its context. -/
theorem marks_congr {earlier : List Record} {d : Declaration} {change : Change} {k k' : Record}
    (h : k.context = k'.context) : marks earlier d change k = marks earlier d change k' := by
  unfold marks
  rw [h]

section Remove

variable {pre post : List Record} {r : Record}

/-- Before the record that is taken out: whoever it marks is marked by an earlier record of its
context as well. -/
theorem entryAt?_remove_after {earlier x later} (hplace : pre = earlier ++ x :: later)
    (hne : r.context.map Context.isEdited ≠ some true)
    (hfresh : ∀ c, r.context = some c → (∀ e ∈ pre, e.context ≠ some c) →
      ∀ e ∈ pre, e.edits c.declaration.family = false) :
    entryAt? (earlier, x, later ++ r :: post) = entryAt? (earlier, x, later ++ post) := by
  refine entryAt?_congr rfl fun d change hx _ => ⟨?_, ?_⟩
  · rintro ⟨k, hk, hm⟩
    have hk' : k ∈ later ∨ k = r ∨ k ∈ post := by simpa using hk
    rcases hk' with hk' | rfl | hk'
    · exact ⟨k, List.mem_append_left _ hk', hm⟩
    · obtain ⟨c, hc, hfamily⟩ := exists_of_marks hm
      have hedits : x.edits c.declaration.family = true :=
        edits_iff.mpr ⟨d, change, hx, hfamily.symm⟩
      obtain ⟨e, he, hec⟩ : ∃ e ∈ pre, e.context = some c := by
        by_contra hnone
        have := hfresh c hc (fun e he h => hnone ⟨e, he, h⟩) x (by simp [hplace])
        exact Bool.false_ne_true (this.symm.trans hedits)
      -- an edited declaration would make this an edited context, and one before `x` would keep the
      -- record from marking it
      cases c with
      | edited d' change' => simp [hc, Context.isEdited] at hne
      | enclosing d' =>
        have hlater : e ∈ later := by
          rw [hplace, List.mem_append, List.mem_cons] at he
          rcases he with he | rfl | he
          · have hbefore : ∀ e ∈ earlier, e.context ≠ some (.enclosing d') := by
              have := hm
              unfold marks at this
              rw [hc] at this
              exact (of_decide_eq_true this).2
            exact absurd hec (hbefore e he)
          · rw [hx] at hec
            cases hec
          · exact he
        exact ⟨e, List.mem_append_left _ hlater, (marks_congr (hec.trans hc.symm)).trans hm⟩
    · exact ⟨k, List.mem_append_right _ hk', hm⟩
  · rintro ⟨k, hk, hm⟩
    have hk' : k ∈ later ∨ k ∈ post := by simpa using hk
    refine ⟨k, ?_, hm⟩
    rcases hk' with hk' | hk' <;> simp [hk']

/-- Behind the record that is taken out: whatever has its context finds an earlier record of that
context anyway. -/
theorem entryAt?_remove_before {earlier x later} (hplace : post = earlier ++ x :: later)
    (hne : r.context.map Context.isEdited ≠ some true)
    (hfresh : ∀ c, r.context = some c → (∀ e ∈ pre, e.context ≠ some c) →
      ∀ k ∈ post, k.context ≠ some c) :
    entryAt? (pre ++ r :: earlier, x, later) = entryAt? (pre ++ earlier, x, later) := by
  have hcontext (k : Record) (hk : k ∈ post) (c : Context) (hc : k.context = some c) :
      (∀ e ∈ pre ++ r :: earlier, e.context ≠ some c) ↔
        ∀ e ∈ pre ++ earlier, e.context ≠ some c := by
    constructor
    · intro h e he
      refine h e ?_
      rcases List.mem_append.mp he with he | he <;> simp [he]
    · intro h e he
      have he' : e ∈ pre ∨ e = r ∨ e ∈ earlier := by simpa using he
      rcases he' with he' | rfl | he'
      · exact h e (List.mem_append_left _ he')
      · intro hec
        exact hfresh c hec (fun e he => h e (List.mem_append_left _ he)) k hk hc
      · exact h e (List.mem_append_right _ he')
  have hedits (family : Category × String) :
      (∀ e ∈ pre ++ r :: earlier, e.edits family = false) ↔
        ∀ e ∈ pre ++ earlier, e.edits family = false := by
    have hr : r.edits family = false := by
      rw [← Bool.not_eq_true, edits_iff]
      rintro ⟨d, change, hd, -⟩
      simp [hd, Context.isEdited] at hne
    simp only [List.mem_append, List.mem_cons]
    constructor
    · exact fun h e he => h e (he.imp_right .inr)
    · rintro h e (he | rfl | he)
      · exact h e (.inl he)
      · exact hr
      · exact h e (.inr he)
  cases hx : x.context with
  | none => rw [entryAt?_of_context_eq_none hx, entryAt?_of_context_eq_none hx]
  | some c =>
    refine entryAt?_congr ?_ fun d change hd _ => ?_
    · unfold survives
      rw [hx]
      cases c with
      | edited d change => simp only [hedits]
      | enclosing d =>
        have hmem : x ∈ post := by simp [hplace]
        have hsame := hcontext x hmem _ hx
        have hnone := hedits d.family
        simp only [forall_and] at *
        simp only [hsame, hnone]
    · refine exists_congr fun k => and_congr_right fun hk => ?_
      unfold marks
      cases hkc : k.context with
      | none => rfl
      | some c' =>
        cases c' with
        | edited d' change' => rfl
        | enclosing d' =>
          have hmem : k ∈ post := by simp [hplace, hk]
          simp only [hcontext k hmem _ hkc]

/-- **Taking out one error record.**  It leaves the entries as they are when an earlier record has
its context, or else no earlier record is of an edited declaration of that family and no later one
has that context. -/
theorem entries_dedup_remove (herror : r.isError = true)
    (hne : r.context.map Context.isEdited ≠ some true)
    (hfresh : ∀ c, r.context = some c → (∀ e ∈ pre, e.context ≠ some c) →
      (∀ e ∈ pre, e.edits c.declaration.family = false) ∧ ∀ k ∈ post, k.context ≠ some c) :
    entries (dedup (pre ++ r :: post)) = entries (dedup (pre ++ post)) := by
  rw [entries_dedup, entries_dedup, places_append, places_append, places, List.map_cons,
    List.filterMap_append, List.filterMap_append, List.filterMap_cons]
  simp only [List.append_nil, entryAt?_of_isError herror, List.map_map, List.filterMap_map]
  congr 1
  · refine List.filterMap_congr ?_
    rintro ⟨earlier, x, later⟩ hp
    exact entryAt?_remove_after (mem_places_iff.mp hp) hne fun c hc h => (hfresh c hc h).1
  · refine List.filterMap_congr ?_
    rintro ⟨earlier, x, later⟩ hp
    exact entryAt?_remove_before (mem_places_iff.mp hp) hne fun c hc h => (hfresh c hc h).2

end Remove

/-- What is essential behind a record has its context only if it is a record of the input that shows
no error. -/
theorem exists_of_mem_essential {earlier rs : List Record} {k : Record} {c : Context}
    (hk : k ∈ essential earlier rs) (hc : k.context = some c)
    (hrepeat : ∃ e ∈ earlier, e.context = some c) : k ∈ rs ∧ k.isError = false := by
  induction rs generalizing earlier with
  | nil => cases hk
  | cons r rs ih =>
    have hrepeat' : ∃ e ∈ earlier ++ [r], e.context = some c := by
      obtain ⟨e, he, hec⟩ := hrepeat
      exact ⟨e, List.mem_append_left _ he, hec⟩
    unfold essential at hk
    split at hk
    · obtain ⟨hmem, herror⟩ := ih hk hrepeat'
      exact ⟨List.mem_cons_of_mem _ hmem, herror⟩
    · rename_i hkeep
      rcases List.mem_cons.mp hk with rfl | hk
      · refine ⟨List.mem_cons_self, ?_⟩
        obtain ⟨e, he, hec⟩ := hrepeat
        have hidle : interferes earlier k rs = false := by
          have : ¬ ∀ e ∈ earlier, e.context ≠ some c := fun h => h e he hec
          unfold interferes
          simp [hc, this]
        simpa [hidle] using hkeep
      · obtain ⟨hmem, herror⟩ := ih hk hrepeat'
        exact ⟨List.mem_cons_of_mem _ hmem, herror⟩

/-- **Error records that do not interfere may be taken out** before deduplication. -/
theorem entries_dedup_essential (earlier : List Record) {rs : List Record}
    (hne : ∀ r ∈ rs, r.isError = true → r.context.map Context.isEdited ≠ some true) :
    entries (dedup (earlier ++ essential earlier rs)) = entries (dedup (earlier ++ rs)) := by
  induction rs generalizing earlier with
  | nil => rfl
  | cons r rs ih =>
    have ih := ih (earlier ++ [r]) fun q hq => hne q (List.mem_cons_of_mem _ hq)
    rw [List.append_assoc, List.append_assoc, List.singleton_append, List.singleton_append] at ih
    rw [← ih, essential]
    split
    · rename_i hidle
      rw [Bool.and_eq_true, Bool.not_eq_true'] at hidle
      obtain ⟨herror, hidle⟩ := hidle
      refine (entries_dedup_remove herror (hne r List.mem_cons_self herror)
        fun c hc hfresh => ?_).symm
      unfold interferes at hidle
      rw [hc] at hidle
      simp only [Bool.and_eq_false_iff, decide_eq_false_iff_not, Bool.or_eq_false_iff] at hidle
      obtain ⟨hedits, hlater⟩ := hidle.resolve_left (not_not_intro hfresh)
      refine ⟨fun e he => ?_, fun k hk hkc => ?_⟩
      · rw [List.any_eq_false] at hedits
        simpa using hedits e he
      · -- an essential record with the context of `r` shows no error, and then `r` interferes
        obtain ⟨hmem, hplain⟩ := exists_of_mem_essential hk hkc ⟨r, by simp, hc⟩
        rw [List.any_eq_false] at hlater
        simpa [hplain, hkc] using hlater k hmem
    · rfl

end Record

namespace Document

/-- **A document has a fault** exactly when a record of a region that could not be parsed survives:
no earlier record has its context, or its lack of one, and no earlier record is of an edited
declaration of its family. -/
theorem isEmpty_faults_iff {doc : Document} : doc.contents.faults.isEmpty = false ↔
    ∃ earlier r later, doc.rawRecords = earlier ++ r :: later ∧ r.isError = true ∧
      Record.survives earlier r = true := by
  have hempty : doc.contents.faults.isEmpty = false ↔ ∃ f, f ∈ Record.faults doc.records := by
    unfold Buckets.isEmpty contents
    rw [(Contents.toList_ofRecords doc.key doc.records).2]
    cases Record.faults doc.records with
    | nil => simp [Buckets.only]
    | cons f fs => simp [Buckets.only]
  rw [hempty]
  simp only [Record.mem_faults_iff, records, Record.dedup_eq_survivors, Record.mem_survivors_iff]
  constructor
  · rintro ⟨f, -, ⟨earlier, r, later, hrs, hs, rfl⟩, herror, -⟩
    exact ⟨earlier, r, later, hrs, by simpa using herror, hs⟩
  · rintro ⟨earlier, r, later, hrs, herror, hs⟩
    exact ⟨_, _, ⟨earlier, r, later, hrs, hs, rfl⟩, by simpa using herror, rfl⟩

/-- **What error records and ordinary edits do to each other.**  There is a fault exactly when some
error record survives the records before it, and the entries are what they would be without the
error records that do not interfere. -/
theorem contents_with_errors (doc : Document) :
    (doc.contents.faults.isEmpty = false ↔
      ∃ earlier r later, doc.rawRecords = earlier ++ r :: later ∧ r.isError = true ∧
        Record.survives earlier r = true) ∧
    doc.contents.entries =
      (Contents.ofRecords doc.key (Record.dedup (Record.essential [] doc.rawRecords))).entries := by
  refine ⟨isEmpty_faults_iff, ?_⟩
  have hne : ∀ r ∈ doc.rawRecords, r.isError = true →
      r.context.map Context.isEdited ≠ some true := fun r hr herror he =>
    Bool.false_ne_true ((isError_of_edited hr he).symm.trans herror)
  have hentries := Record.entries_dedup_essential [] hne
  refine Buckets.ext_toList ?_
  unfold contents
  rw [(Contents.toList_ofRecords doc.key _).1, (Contents.toList_ofRecords doc.key _).1, records]
  exact congrArg (Buckets.only doc.key) hentries.symm

section Hidden

/-- The first character of a source. -/
private def firstCharacter : Span := ⟨0, 1, ⟨1, 1⟩, ⟨1, 2⟩⟩

/-- A function with the name it has in its source, around a body. -/
private def functionAround (body : List Diff) : Diff :=
  .node .function firstCharacter
    (.function (.node (.other "Identifier") firstCharacter .leaf) [] body)

/-- A new function, and behind it one of the same name that holds a new region which could not be
parsed. -/
def regionBehindEdit : Document where
  beforePath := ""
  afterPath := "a.go"
  beforeSource := ""
  afterSource := "f"
  diff := .node (.other "Program") firstCharacter (.branch [
    .leaf (.insert (.mk .function firstCharacter
      (.function (.mk (.other "Identifier") firstCharacter .leaf) [] []))),
    functionAround [.leaf (.insert (.mk .parseError firstCharacter .leaf))]])

/-- A function that holds a new region which could not be parsed, and behind it a new call. -/
def editBehindRegion : Document where
  beforePath := ""
  afterPath := "a.go"
  beforeSource := ""
  afterSource := "f"
  diff := functionAround [
    .leaf (.insert (.mk .parseError firstCharacter .leaf)),
    .leaf (.insert (.mk (.other "Call") firstCharacter .leaf))]

/-- **Regions that could not be parsed and ordinary edits do hide one another.**  A new function
takes up the error record of a function of its name, and there is no fault; an error record stands
for the function around it, and there is no entry for the edit behind it. -/
theorem regions_and_edits_hide_each_other :
    (¬ ∀ doc : Document, (∃ r ∈ doc.rawRecords, r.isError = true) →
      doc.contents.faults.isEmpty = false) ∧
    ¬ ∀ doc : Document, doc.contents.entries =
      (Contents.ofRecords doc.key
        (Record.dedup (doc.rawRecords.filter fun r => !r.isError))).entries := by
  constructor
  · intro h
    have := h regionBehindEdit (by decide)
    revert this
    decide
  · intro h
    have := congrArg Buckets.toList (h editBehindRegion)
    revert this
    decide

end Hidden

end Document

end DiffContents
