import DiffContents.Proofs.Justification

/-! # Every edited declaration is listed

A record may be missing from a table of contents because deduplication drops it in favour of
another, or because what is kept shows a region that could not be parsed.  Neither loses an edited
declaration.  Deduplication keeps a record that blocks the dropped one
(`Record.exists_kept_blocks`), which is of the same family, and of an edited declaration too if the
dropped one was (`Record.exists_of_blocks`); and what shows an edited declaration shows no error
(`Document.isError_of_edited`).

That a family is listed once among the edited declarations is irredundance read off as a count
(`Record.countP_edits_dedup`).
-/
namespace DiffContents

namespace Record

/-- What blocks a record speaks of the same family, and of an edited declaration if the record
does. -/
theorem exists_of_blocks {k r : Record} {c : Context} (h : k.blocks r = true)
    (hr : r.context = some c) : ∃ c', k.context = some c' ∧
      c'.declaration.family = c.declaration.family ∧ (c.isEdited = true → c'.isEdited = true) := by
  rcases blocks_iff.mp h with h | h
  · exact ⟨c, h.trans hr, rfl, id⟩
  · obtain ⟨d, change, c₀, hk, hr₀, halike⟩ := absorbs_iff.mp h
    obtain rfl : c = c₀ := Option.some.inj (hr.symm.trans hr₀)
    exact ⟨.edited d change, hk, Declaration.alike_iff_family.mp halike, fun _ => rfl⟩

/-- Deduplication keeps a record that blocks any given one, be it that record itself. -/
theorem exists_kept_blocks {rs : List Record} {r : Record} (h : r ∈ rs) :
    ∃ k ∈ dedup rs, k.blocks r = true := by
  rw [dedup_eq_survivors]
  exact exists_survivor_blocks.mpr ⟨r, h, blocks_iff.mpr (.inl rfl)⟩

theorem edits_iff {r : Record} {family : Category × String} : r.edits family = true ↔
    ∃ d change, r.context = some (.edited d change) ∧ d.family = family := by
  unfold edits
  split
  · rename_i d change hr
    simp [hr]
  · rename_i hr
    simp only [Bool.false_eq_true, false_iff, not_exists, not_and]
    exact fun d change h => absurd h (hr d change)

/-- Two records of edited declarations of one family: the first blocks the second. -/
theorem blocks_of_edits {k r : Record} {family : Category × String} (hk : k.edits family = true)
    (hr : r.edits family = true) : k.blocks r = true := by
  obtain ⟨d, change, hd, rfl⟩ := edits_iff.mp hk
  obtain ⟨d', change', hd', hfamily⟩ := edits_iff.mp hr
  refine blocks_iff.mpr (.inr ?_)
  exact absorbs_iff.mpr ⟨d, change, _, hd, hd', Declaration.alike_iff_family.mpr hfamily.symm⟩

/-- Among irredundant records at most one is of an edited declaration of a family. -/
theorem Irredundant.countP_edits_le {rs : List Record} (h : Irredundant rs)
    (family : Category × String) : rs.countP (·.edits family) ≤ 1 := by
  induction rs with
  | nil => simp
  | cons r rs ih =>
    obtain ⟨hr, hrs⟩ := List.pairwise_cons.mp (irredundant_iff_pairwise.mp h)
    have ih := ih (irredundant_iff_pairwise.mpr hrs)
    by_cases he : r.edits family = true
    · have hnone : rs.countP (·.edits family) = 0 := by
        rw [List.countP_eq_zero]
        intro q hq hqe
        exact Bool.false_ne_true ((hr q hq).symm.trans (blocks_of_edits he hqe))
      simp [hnone, he]
    · simpa [List.countP_cons, he] using ih

/-- **Exactly one kept record** is of an edited declaration of a family that some record is of. -/
theorem countP_edits_dedup {rs : List Record} {r : Record} {family : Category × String}
    (hmem : r ∈ rs) (h : r.edits family = true) : (dedup rs).countP (·.edits family) = 1 := by
  refine Nat.le_antisymm ((irredundant_dedup rs).countP_edits_le family) ?_
  obtain ⟨d, change, hr, rfl⟩ := edits_iff.mp h
  obtain ⟨k, hk, hblocks⟩ := exists_kept_blocks hmem
  obtain ⟨c, hc, hfamily, hedited⟩ := exists_of_blocks hblocks hr
  refine List.countP_pos_iff.mpr ⟨k, hk, edits_iff.mpr ?_⟩
  cases c with
  | enclosing d' => cases hedited rfl
  | edited d' change' => exact ⟨d', change', hc, hfamily⟩

/-- A kept record shows what a record of the input shows, under the same declaration. -/
theorem exists_origin {rs : List Record} {k : Record} (h : k ∈ dedup rs) : ∃ r ∈ rs,
    k.patch = r.patch ∧ k.context.map Context.isEdited = r.context.map Context.isEdited := by
  rw [dedup_eq_survivors] at h
  obtain ⟨earlier, r, later, rfl, -, rfl⟩ := mem_survivors_iff.mp h
  refine ⟨r, by simp, ?_⟩
  rcases outcome_eq_or earlier r later with ho | ho
  · simp [ho]
  · rw [ho]
    refine ⟨rfl, ?_⟩
    cases hr : r.context <;> simp [asModified, hr]

end Record

namespace Sources

variable (s : Sources)

/-- A record shows an error exactly if its edit shows a region that could not be parsed. -/
theorem isError_recordAt (l : Diff.Leaf) :
    (s.recordAt l).isError = decide (l.patch.shown.category = .parseError) := by
  obtain ⟨around, p⟩ := l
  cases p <;>
    simp only [Record.isError, Record.info, recordAt, Patch.shown, infoIn, Info.isError] <;>
    split <;> simp_all

end Sources

namespace Document

variable {doc : Document}

theorem exists_leaf_of_mem_rawRecords {r : Record} (h : r ∈ doc.rawRecords) :
    ∃ l ∈ doc.diff.leaves, doc.sources.recordAt l = r := by
  unfold rawRecords at h
  rw [Sources.records_eq_map_recordAt] at h
  exact List.mem_map.mp h

/-- What is reported as edited itself shows no error. -/
theorem isError_of_edited {r : Record} (h : r ∈ doc.rawRecords)
    (he : r.context.map Context.isEdited = some true) : r.isError = false := by
  obtain ⟨l, -, rfl⟩ := exists_leaf_of_mem_rawRecords h
  obtain ⟨c, hc, hedited⟩ := Option.map_eq_some_iff.mp he
  cases c with
  | enclosing d => cases hedited
  | edited d change =>
    obtain ⟨hdecl, -, -⟩ := doc.sources.contextAt_eq_edited_iff.mp hc
    rw [Sources.isError_recordAt, decide_eq_false_iff_not]
    intro herr
    rw [herr] at hdecl
    cases hdecl

/-- **The family of a raw record is listed**, unless the record kept for it shows an error. -/
theorem exists_entry_of_context {r : Record} {c : Context} (hr : r ∈ doc.rawRecords)
    (hc : r.context = some c) (hshown : ∀ k ∈ doc.records, k.blocks r = true → k.isError = false) :
    ∃ e ∈ doc.contents.entries.get doc.key, e.category = c.declaration.category ∧
      Text.lowercase e.name = Text.lowercase c.declaration.name := by
  obtain ⟨k, hk, hblocks⟩ := Record.exists_kept_blocks hr
  obtain ⟨c', hc', hfamily, -⟩ := Record.exists_of_blocks hblocks hc
  rw [Declaration.family, Declaration.family, Prod.mk.injEq] at hfamily
  rw [get_key_contents.1]
  exact ⟨Item.ofContext c', Record.mem_entries_iff.mpr ⟨k, hk, hshown k hk hblocks, c', hc', rfl⟩,
    hfamily⟩

/-- **The table of contents of a document is complete.**  Every edit that shows a declaration has
an entry with its category and, up to case, its name under the key of the document, and exactly one
kept record is of an edited declaration of that family.  Where no edit shows a region that could not
be parsed, whatever an edit is reported under has such an entry. -/
theorem contents_complete (doc : Document) :
    (∀ p ∈ doc.diff.patches, p.shown.category.isDeclaration = true →
      (∃ e ∈ doc.contents.entries.get doc.key, e.category = p.shown.category ∧
        Text.lowercase e.name = Text.lowercase (doc.sources.shownName p)) ∧
      doc.records.countP (·.edits (doc.sources.shownDeclaration p).family) = 1) ∧
    ((∀ p ∈ doc.diff.patches, p.shown.category ≠ .parseError) →
      ∀ r ∈ doc.rawRecords, ∀ c, r.context = some c →
        ∃ e ∈ doc.contents.entries.get doc.key, e.category = c.declaration.category ∧
          Text.lowercase e.name = Text.lowercase c.declaration.name) := by
  constructor
  · intro p hp hdecl
    obtain ⟨r, hr, hctx⟩ := exists_record_of_mem_patches hp hdecl
    refine ⟨exists_entry_of_context hr hctx fun k hk hblocks => ?_,
      Record.countP_edits_dedup hr (Record.edits_iff.mpr ⟨_, _, hctx, rfl⟩)⟩
    -- what is kept for an edited declaration is of one itself
    obtain ⟨c, hc, -, hedited⟩ := Record.exists_of_blocks hblocks hctx
    obtain ⟨q, hq, hpatch, hcontext⟩ := Record.exists_origin hk
    rw [hc, Option.map_some, hedited rfl] at hcontext
    have herror := isError_of_edited hq hcontext.symm
    unfold Record.isError Record.info at herror ⊢
    rwa [hpatch]
  · intro hparsed r hr c hc
    refine exists_entry_of_context hr hc fun k hk _ => ?_
    obtain ⟨q, hq, hpatch, -⟩ := Record.exists_origin hk
    obtain ⟨l, hl, rfl⟩ := exists_leaf_of_mem_rawRecords hq
    have herror := doc.sources.isError_recordAt l
    rw [decide_eq_false (hparsed _ (Diff.patch_mem_patches hl))] at herror
    unfold Record.isError Record.info at herror ⊢
    rwa [hpatch]

end Document

end DiffContents
