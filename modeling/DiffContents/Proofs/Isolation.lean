import DiffContents.Proofs.Attribution
import Mathlib.Data.List.Forall2

/-! # Which text names what

A diff is walked with two texts, and each side of an edit is named from the text of that side.  This
module compares two walks of one diff.  With another text before, records keep everything but the
names of before-sides and of the deleted declarations they are reported under
(`Record.AgreesAfter`); with another text after, deletions stay as they are and all other records
keep everything but the names of their after-sides and of their contexts (`Record.AgreesBefore`).

A declaration around an edit is named from the text after.  It never names a deletion: whatever
stands around a deletion has lost something and offers no context (`Sources.contextAt_of_delete`).
-/
namespace DiffContents

namespace Context

/-- The context under another name. -/
def named (name : String) : Context → Context
  | edited d change => edited { d with name := name } change
  | enclosing d => enclosing { d with name := name }

end Context

namespace Record

/-- **Records of one edit that agree on what the text after names.**  The name of a before-side may
differ, and so may the name of a deleted declaration. -/
inductive AgreesAfter : Record → Record → Prop where
  | insertion (after : Info) (context : Option Context) :
      AgreesAfter ⟨.insert after, context⟩ ⟨.insert after, context⟩
  | replacement (before after : Info) (name : String) (context : Option Context) :
      AgreesAfter ⟨.replace before after, context⟩
        ⟨.replace { before with name := name } after, context⟩
  | deletion (before : Info) (name : String) :
      AgreesAfter ⟨.delete before, none⟩ ⟨.delete { before with name := name }, none⟩
  | deletedDeclaration (before : Info) (name : String) (d : Declaration) (declared : String)
      (change : Change) :
      AgreesAfter ⟨.delete before, some (.edited d change)⟩
        ⟨.delete { before with name := name }, some (.edited { d with name := declared } change)⟩

/-- **Records of one edit that agree on what the text before names.**  The names of an after-side
and of the context beside it may differ. -/
inductive AgreesBefore : Record → Record → Prop where
  | deletion (before : Info) (context : Option Context) :
      AgreesBefore ⟨.delete before, context⟩ ⟨.delete before, context⟩
  | insertion (after : Info) (name : String) (context : Option Context) (declared : String) :
      AgreesBefore ⟨.insert after, context⟩
        ⟨.insert { after with name := name }, context.map (Context.named declared)⟩
  | replacement (before after : Info) (name : String) (context : Option Context)
      (declared : String) :
      AgreesBefore ⟨.replace before after, context⟩
        ⟨.replace before { after with name := name }, context.map (Context.named declared)⟩

/-- Records that agree on what the text after names share every insertion, every after-side, every
context around an edit and every absence of a context. -/
theorem AgreesAfter.shared {r r' : Record} (h : r.AgreesAfter r') :
    (r.change = .added → r = r') ∧ r.patch.after? = r'.patch.after? ∧
      (∀ d, r.context = some (.enclosing d) ↔ r'.context = some (.enclosing d)) ∧
      (r.context = none ↔ r'.context = none) := by
  cases h with
  | insertion after context => simp
  | replacement before after name context => simp [change, Patch.change, Patch.after?]
  | deletion before name => simp [change, Patch.change, Patch.after?]
  | deletedDeclaration before name d declared c => simp [change, Patch.change, Patch.after?]

end Record

namespace Sources

/-- What an unchanged node offers is named from the text after alone. -/
theorem offered_congr {s s' : Sources} (h : s.after = s'.after) : s.offered = s'.offered := by
  funext d
  cases d with
  | leaf p => rfl
  | node c sp shape => simp only [offered, enclosing, h]

/-- Two texts after give what an unchanged node offers at most different names. -/
theorem exists_offered_eq_named (s s' : Sources) (d : Diff) :
    ∃ name, s'.offered d = (s.offered d).map (Context.named name) := by
  cases d with
  | leaf p => exact ⟨"", rfl⟩
  | node c sp shape =>
    refine ⟨(Diff.node c sp shape).rebuilt.displayName s'.after, ?_⟩
    by_cases hi : (Diff.node c sp shape).Intact <;> simp [offered, hi, enclosing, Context.named]

/-- **A deletion is reported under itself or nowhere.** -/
theorem contextAt_of_delete (s : Sources) {d : Diff} {l : Diff.Leaf} (hl : l ∈ d.leaves)
    {before : Term} (hp : l.patch = .delete before) : s.contextAt l =
      if before.category.isDeclaration then
        some (.edited ⟨before.category, before.displayName s.before, before.span⟩ .removed)
      else none := by
  -- The node that would be asked for a context still has the deletion in it.
  have hnone : l.enclosing?.bind s.offered = none := by
    cases hn : l.enclosing? with
    | none => rfl
    | some n =>
      obtain ⟨-, hmem⟩ := Diff.of_mem_around hl (List.mem_of_find?_eq_some hn)
      have hdel : ¬ n.Intact := fun hi => hi _ hmem (by rw [hp]; rfl)
      cases n <;> simp [offered, hdel]
  rw [contextAt, hnone, hp]
  rfl

/-- An edit that is no deletion has its context from the text after alone. -/
theorem contextAt_congr {s s' : Sources} (h : s.after = s'.after) {l : Diff.Leaf}
    (hp : l.patch.change ≠ .removed) : s.contextAt l = s'.contextAt l := by
  have hname : s.shownName l.patch = s'.shownName l.patch := by
    cases hpatch : l.patch with
    | delete before => rw [hpatch] at hp; exact absurd rfl hp
    | insert after => simp only [shownName, h]
    | replace before after => simp only [shownName, h]
  simp only [contextAt, shownDeclaration, hname, offered_congr h]

/-- Two texts after give the context of an edit at most different names. -/
theorem exists_contextAt_eq_named (s s' : Sources) (l : Diff.Leaf) :
    ∃ name, s'.contextAt l = (s.contextAt l).map (Context.named name) := by
  unfold contextAt
  by_cases hown : l.patch.shown.category.isDeclaration
  · refine ⟨s'.shownName l.patch, ?_⟩
    simp [hown, shownDeclaration, Context.named]
  · cases hn : l.enclosing? with
    | none => exact ⟨"", by simp [hown]⟩
    | some n =>
      obtain ⟨name, hname⟩ := exists_offered_eq_named s s' n
      exact ⟨name, by simp [hown, hname]⟩

theorem agreesAfter_recordAt (s s' : Sources) (h : s.after = s'.after) {d : Diff} {l : Diff.Leaf}
    (hl : l ∈ d.leaves) : (s.recordAt l).AgreesAfter (s'.recordAt l) := by
  cases hp : l.patch with
  | insert after =>
    have hcontext : s.contextAt l = s'.contextAt l := contextAt_congr h (by rw [hp]; nofun)
    simp only [recordAt, hp, hcontext, h]
    exact .insertion _ _
  | replace before after =>
    have hcontext : s.contextAt l = s'.contextAt l := contextAt_congr h (by rw [hp]; nofun)
    simp only [recordAt, hp, hcontext, h]
    exact .replacement (infoIn s.before before) _ (before.displayName s'.before) _
  | delete before =>
    simp only [recordAt, hp, contextAt_of_delete _ hl hp]
    split
    · exact .deletedDeclaration (infoIn s.before before) (before.displayName s'.before) _
        (before.displayName s'.before) _
    · exact .deletion (infoIn s.before before) (before.displayName s'.before)

theorem agreesBefore_recordAt (s s' : Sources) (h : s.before = s'.before) {d : Diff}
    {l : Diff.Leaf} (hl : l ∈ d.leaves) : (s.recordAt l).AgreesBefore (s'.recordAt l) := by
  obtain ⟨name, hname⟩ := exists_contextAt_eq_named s s' l
  cases hp : l.patch with
  | insert after =>
    simp only [recordAt, hp, hname]
    exact .insertion (infoIn s.after after) (after.displayName s'.after) _ _
  | replace before after =>
    simp only [recordAt, hp, hname, h]
    exact .replacement _ (infoIn s.after after) (after.displayName s'.after) _ _
  | delete before =>
    simp only [recordAt, hp, contextAt_of_delete _ hl hp, h]
    exact .deletion _ _

/-- Two walks of a diff are compared edit by edit. -/
theorem forall₂_records {R : Record → Record → Prop} {s s' : Sources} {d : Diff}
    (h : ∀ l ∈ d.leaves, R (s.recordAt l) (s'.recordAt l)) :
    List.Forall₂ R (s.records d) (s'.records d) := by
  rw [records_eq_map_recordAt, records_eq_map_recordAt, List.forall₂_map_left_iff,
    List.forall₂_map_right_iff, List.forall₂_same]
  exact h

/-- **Each text names its own side.**  Walking a diff with another text before gives the same
records in the same places, up to the names of before-sides and of deleted declarations: insertions,
after-sides, contexts around an edit and absent contexts stay as they are.  Walking it with another
text after gives the same deletions in the same places, and all other records up to the names of
their after-sides and of their contexts. -/
theorem records_isolated (d : Diff) :
    (∀ before before' after, List.Forall₂
      (fun r r' => r.AgreesAfter r' ∧ (r.change = .added → r = r') ∧
        r.patch.after? = r'.patch.after? ∧
        (∀ d, r.context = some (.enclosing d) ↔ r'.context = some (.enclosing d)) ∧
        (r.context = none ↔ r'.context = none))
      (records ⟨before, after⟩ d) (records ⟨before', after⟩ d)) ∧
    ∀ before after after', List.Forall₂ Record.AgreesBefore
      (records ⟨before, after⟩ d) (records ⟨before, after'⟩ d) := by
  constructor
  · intro before before' after
    refine forall₂_records fun l hl => ?_
    have hagrees := agreesAfter_recordAt ⟨before, after⟩ ⟨before', after⟩ rfl hl
    exact ⟨hagrees, hagrees.shared⟩
  · intro before after after'
    exact forall₂_records fun l hl =>
      agreesBefore_recordAt ⟨before, after⟩ ⟨before, after'⟩ rfl hl

end Sources

end DiffContents
