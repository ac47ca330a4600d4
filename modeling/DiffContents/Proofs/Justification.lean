import DiffContents.Proofs.Attribution
import DiffContents.Proofs.Filing
import DiffContents.Proofs.Survival

/-! # Every entry is justified

An entry of a table of contents has passed through the walk of the diff, the naming of its sides,
deduplication and filing.  `Document.Justified` says what it owes to the diff itself: there is an
edit, or an unchanged function or method around one, that the entry describes, and it says added or
removed only if all edits of that declaration do.

The entry comes from a record that survives deduplication.  If that record shows no declaration, it
is reported under a node around it as it was (`justified_of_enclosing`).  If it shows one, it is
reported as it came only when no later record marks it, and then the records of that declaration
all agree with it (`justified_of_edited`).
-/
namespace DiffContents

namespace Document

variable (doc : Document)

/-- **An edit agrees with all others** of what it shows: wherever the diff edits a declaration of
its category and, up to case, its name, it makes the same change to the very same declaration. -/
def Unopposed (p : Patch Term) : Prop :=
  ∀ q ∈ doc.diff.patches,
    (doc.sources.shownDeclaration q).alike (doc.sources.shownDeclaration p) = true →
      q.change = p.change ∧ doc.sources.shownDeclaration q = doc.sources.shownDeclaration p

/-- **What an entry owes to the diff.** -/
inductive Justified : Entry → Prop
  /-- Something was inserted, and no other edit of the diff opposes it. -/
  | inserted (t : Term) (leaf : .insert t ∈ doc.diff.patches) (alone : doc.Unopposed (.insert t)) :
    Justified ⟨.added, t.category, t.displayName doc.afterSource, t.span⟩
  /-- Something was deleted, and no other edit of the diff opposes it. -/
  | deleted (t : Term) (leaf : .delete t ∈ doc.diff.patches) (alone : doc.Unopposed (.delete t)) :
    Justified ⟨.removed, t.category, t.displayName doc.beforeSource, t.span⟩
  /-- Something was replaced. -/
  | replaced (before after : Term) (leaf : .replace before after ∈ doc.diff.patches) :
    Justified ⟨.modified, after.category, after.displayName doc.afterSource, after.span⟩
  /-- An unchanged function or method has an edit inside it, and nothing inside it was deleted. -/
  | enclosing (c : Category) (sp : Span) (shape : Shape Diff)
    (inside : (Diff.node c sp shape).Within doc.diff) (context : c.establishesContext = true)
    (edits : (Diff.node c sp shape).patches ≠ []) (intact : (Diff.node c sp shape).Intact) :
    Justified ⟨.modified, c, (Diff.node c sp shape).rebuilt.displayName doc.afterSource, sp⟩
  /-- Something was inserted or deleted, and another record is about the same declaration. -/
  | merged (i j : Nat) (other : i ≠ j) (p : Patch Term) (leaf : doc.diff.patches[i]? = some p)
    (change : p.change ≠ .modified) (r : Record) (context : Context)
    (raw : doc.rawRecords[j]? = some r) (about : r.context = some context)
    (same : context.declaration.alike (doc.sources.shownDeclaration p) = true) :
    Justified ⟨.modified, p.shown.category, doc.sources.shownName p, p.shown.span⟩

variable {doc}

/-- A raw record is the record of the edit in the same place. -/
theorem exists_leaf_of_rawRecords_eq {earlier later : List Record} {x : Record}
    (h : doc.rawRecords = earlier ++ x :: later) : ∃ l ∈ doc.diff.leaves,
      doc.diff.patches[earlier.length]? = some l.patch ∧ doc.sources.recordAt l = x := by
  have hx : (doc.diff.leaves.map doc.sources.recordAt)[earlier.length]? = some x := by
    rw [← Sources.records_eq_map_recordAt]
    change doc.rawRecords[earlier.length]? = _
    simp [h]
  rw [List.getElem?_map, Option.map_eq_some_iff] at hx
  obtain ⟨l, hl, rfl⟩ := hx
  refine ⟨l, List.mem_of_getElem? hl, ?_, rfl⟩
  rw [← Diff.map_patch_leaves, List.getElem?_map, hl, Option.map_some]

/-- An edit of a declaration stands behind a raw record with itself as its context. -/
theorem exists_record_of_mem_patches {p : Patch Term} (hp : p ∈ doc.diff.patches)
    (hdecl : p.shown.category.isDeclaration = true) : ∃ r ∈ doc.rawRecords,
      r.context = some (.edited (doc.sources.shownDeclaration p) p.change) := by
  rw [← Diff.map_patch_leaves] at hp
  obtain ⟨l, hl, rfl⟩ := List.mem_map.mp hp
  refine ⟨doc.sources.recordAt l, ?_, ?_⟩
  · unfold rawRecords
    rw [Sources.records_eq_map_recordAt]
    exact List.mem_map_of_mem hl
  · exact doc.sources.contextAt_eq_edited_iff.mpr ⟨hdecl, rfl, rfl⟩

/-- An edit reported under a declaration around it. -/
theorem justified_of_enclosing {l : Diff.Leaf} {d : Declaration} (hl : l ∈ doc.diff.leaves)
    (h : doc.sources.contextAt l = some (.enclosing d)) :
    d.category.isDeclaration = true ∧ doc.Justified (Item.ofContext (.enclosing d)) := by
  obtain ⟨c, sp, shape, hn, hintact, rfl⟩ := doc.sources.exists_of_contextAt_eq_enclosing h
  have hc : (Diff.node c sp shape).isEnclosing = true := List.find?_some hn
  obtain ⟨hin, hp⟩ := Diff.of_mem_around hl (List.mem_of_find?_eq_some hn)
  exact ⟨Category.isDeclaration_of_establishesContext hc,
    .enclosing c sp shape hin hc (List.ne_nil_of_mem hp) hintact⟩

/-- Where no record marks the record of an edited declaration, no edit opposes its edit. -/
theorem unopposed_of_unmarked {earlier later : List Record} {x : Record} {p : Patch Term}
    (hrs : doc.rawRecords = earlier ++ x :: later) (hs : Record.survives earlier x = true)
    (hx : x.context = some (.edited (doc.sources.shownDeclaration p) p.change))
    (hdecl : p.shown.category.isDeclaration = true)
    (hm : ∀ k ∈ later, Record.marks earlier (doc.sources.shownDeclaration p) p.change k = false) :
    doc.Unopposed p := by
  intro q hq halike
  have hcategory : q.shown.category = p.shown.category := (Declaration.alike_iff.mp halike).1
  obtain ⟨r, hr, hctx⟩ := exists_record_of_mem_patches hq (hcategory ▸ hdecl)
  rw [hrs] at hr
  have hfamily := Declaration.alike_iff_family.mp halike
  have heq := Record.context_eq_of_unmarked hs hx hm hr hctx hfamily
  rw [hctx, hx, Option.some.injEq, Context.edited.injEq] at heq
  exact heq.symm

/-- An edit reported as it came, which nothing opposes. -/
theorem justified_of_unopposed {p : Patch Term} (hp : p ∈ doc.diff.patches)
    (halone : doc.Unopposed p) : doc.Justified
      (Item.ofContext (.edited (doc.sources.shownDeclaration p) p.change)) := by
  cases p with
  | insert t => exact .inserted t hp halone
  | delete t => exact .deleted t hp halone
  | replace before after => exact .replaced before after hp

/-- An edit reported as modified, because another record is about what it shows. -/
theorem justified_of_other {i j : Nat} {p : Patch Term} {r : Record} {c : Context}
    (hp : doc.diff.patches[i]? = some p) (hij : i ≠ j) (hr : doc.rawRecords[j]? = some r)
    (hc : r.context = some c)
    (hsame : c.declaration.alike (doc.sources.shownDeclaration p) = true) : doc.Justified
      (Item.ofContext (.edited (doc.sources.shownDeclaration p) .modified)) := by
  cases p with
  | insert t => exact .merged i j hij (.insert t) hp Change.noConfusion r c hr hc hsame
  | delete t => exact .merged i j hij (.delete t) hp Change.noConfusion r c hr hc hsame
  | replace before after => exact .replaced before after (List.mem_of_getElem? hp)

/-- An edit reported as edited itself. -/
theorem justified_of_edited {earlier later : List Record} {l : Diff.Leaf} {c : Context}
    (hl : l ∈ doc.diff.leaves) (hleaf : doc.diff.patches[earlier.length]? = some l.patch)
    (hrs : doc.rawRecords = earlier ++ doc.sources.recordAt l :: later)
    (hs : Record.survives earlier (doc.sources.recordAt l) = true)
    (hdecl : l.patch.shown.category.isDeclaration = true)
    (hc : (Record.outcome earlier (doc.sources.recordAt l) later).context = some c) :
    c.declaration.category.isDeclaration = true ∧ doc.Justified (Item.ofContext c) := by
  have hx : (doc.sources.recordAt l).context =
      some (.edited (doc.sources.shownDeclaration l.patch) l.patch.change) :=
    doc.sources.contextAt_eq_edited_iff.mpr ⟨hdecl, rfl, rfl⟩
  rw [Record.outcome_of_edited hx] at hc
  split at hc
  · -- the record that marks this one stands behind it, so it is another one
    rename_i hmarked
    obtain ⟨k, hk, hm⟩ := hmarked
    obtain ⟨ctx, hctx, hfamily⟩ := Record.exists_of_marks hm
    obtain ⟨n, hn⟩ := List.getElem?_of_mem hk
    have hraw : doc.rawRecords[earlier.length + (n + 1)]? = some k := by
      rw [hrs, List.getElem?_append_right (Nat.le_add_right _ _), Nat.add_sub_cancel_left,
        List.getElem?_cons_succ, hn]
    rw [Record.context_asModified hx] at hc
    obtain rfl := Option.some.inj hc
    refine ⟨hdecl, justified_of_other hleaf (by omega) hraw hctx ?_⟩
    exact Declaration.alike_iff_family.mpr hfamily
  · rename_i hunmarked
    rw [hx] at hc
    obtain rfl := Option.some.inj hc
    refine ⟨hdecl, justified_of_unopposed (Diff.patch_mem_patches hl) ?_⟩
    exact unopposed_of_unmarked hrs hs hx hdecl fun k hk =>
      Bool.eq_false_iff.mpr fun hm => hunmarked ⟨k, hk, hm⟩

/-- **The table of contents of a document is sound.**  Everything in it stands under the key of the
document, and every entry is of a declaration and justified by the diff. -/
theorem contents_justified (doc : Document) :
    (∀ k ∈ doc.contents.entries.keys, k = doc.key) ∧
      (∀ k ∈ doc.contents.faults.keys, k = doc.key) ∧
      ∀ e ∈ doc.contents.entries.items,
        e.category.isDeclaration = true ∧ doc.Justified e := by
  refine ⟨fun k hk => eq_key_of_mem_keys (.inl hk),
    fun k hk => eq_key_of_mem_keys (.inr hk), fun e he => ?_⟩
  obtain ⟨k, hk, -, c, hc, rfl⟩ := mem_items_entries_iff.mp he
  unfold records at hk
  rw [Record.dedup_eq_survivors, Record.mem_survivors_iff] at hk
  obtain ⟨earlier, x, later, hrs, hs, rfl⟩ := hk
  obtain ⟨l, hl, hleaf, rfl⟩ := exists_leaf_of_rawRecords_eq hrs
  by_cases hedited : ∃ d change, (doc.sources.recordAt l).context = some (.edited d change)
  · obtain ⟨d, change, hx⟩ := hedited
    obtain ⟨hdecl, -, -⟩ := doc.sources.contextAt_eq_edited_iff.mp hx
    exact justified_of_edited hl hleaf hrs hs hdecl hc
  · -- deduplication rewrites nothing here
    rw [Record.outcome_of_not_edited hedited] at hc
    cases c with
    | edited d change => exact absurd ⟨d, change, hc⟩ hedited
    | enclosing d => exact justified_of_enclosing hl hc

end Document

end DiffContents
