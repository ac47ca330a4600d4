import DiffContents.Proofs.AfterSide
import DiffContents.Walk
import Mathlib.Data.List.Basic

/-! # What every edit is reported under

`Sources.survey` walks a diff from the leaves up and offers a context to every record below each
function or method it passes.  This module reads the same records from the top: `Diff.leaves` lists
the edits of a diff, each with the nodes around it, and `Sources.recordAt` gives the record of one
edit, whose context is its own if it shows a declaration, and otherwise comes from the innermost
function or method around it, or from nowhere.

The two readings agree because an intact node is intact throughout.  Where the innermost function
or method has lost something to a deletion, so have all those around it, and none of them fills in
for it.
-/
namespace DiffContents

namespace Diff

/-- **An edit in its place**: the patch, and the nodes it stands in, the innermost first. -/
structure Leaf where
  around : List Diff
  patch : Patch Term

theorem sizeOf_lt_of_mem_children {d : Diff} {c : Category} {s : Span} {shape : Shape Diff}
    (h : d ∈ shape.children) : sizeOf d < sizeOf (Diff.node c s shape) := by
  have hshape : sizeOf d < 1 + sizeOf shape := by
    cases shape with
    | leaf => simp [Shape.children] at h
    | method receiver identifier params body =>
      cases receiver <;> simp [Shape.children] at h <;> grind [→ List.sizeOf_lt_of_mem]
    | parameter identifier type =>
      cases type <;> simp [Shape.children] at h <;> grind [→ List.sizeOf_lt_of_mem]
    | _ =>
      simp [Shape.children] at h
      grind [→ List.sizeOf_lt_of_mem]
  simp only [Diff.node.sizeOf_spec]
  omega

/-- The edits of a diff that itself stands in the given nodes, in source order. -/
def leavesUnder (around : List Diff) : Diff → List Leaf
  | .leaf patch => [⟨around, patch⟩]
  | .node category span shape =>
    shape.children.attach.flatMap fun ⟨d, _⟩ =>
      leavesUnder (.node category span shape :: around) d
termination_by d => sizeOf d
decreasing_by exact sizeOf_lt_of_mem_children ‹_›

@[simp] theorem leavesUnder_leaf (around : List Diff) (p : Patch Term) :
    leavesUnder around (.leaf p) = [⟨around, p⟩] := by
  rw [leavesUnder]

@[simp] theorem leavesUnder_node (around : List Diff) (c : Category) (s : Span)
    (shape : Shape Diff) : leavesUnder around (.node c s shape) =
      shape.children.flatMap (leavesUnder (.node c s shape :: around)) := by
  rw [leavesUnder]
  simp

/-- The edits of a diff in source order, each with the nodes around it. -/
def leaves (d : Diff) : List Leaf := d.leavesUnder []

/-- The diff is an unchanged function or method. -/
def isEnclosing : Diff → Bool
  | .node category _ _ => category.establishesContext
  | .leaf _ => false

namespace Leaf

/-- The innermost unchanged function or method around an edit. -/
def enclosing? (l : Leaf) : Option Diff := l.around.find? isEnclosing

/-- The same edit in a diff that stands in further nodes. -/
def under (around : List Diff) (l : Leaf) : Leaf := ⟨l.around ++ around, l.patch⟩

@[simp] theorem patch_under (around : List Diff) (l : Leaf) :
    (l.under around).patch = l.patch := rfl

/-- A node further out encloses an edit only where nothing further in does. -/
theorem enclosing?_under (l : Leaf) (d : Diff) :
    (l.under [d]).enclosing? = l.enclosing?.or (if d.isEnclosing then some d else none) := by
  unfold enclosing? under
  rw [List.find?_append, List.find?_singleton]

end Leaf

theorem leavesUnder_eq_map (around : List Diff) (d : Diff) :
    d.leavesUnder around = d.leaves.map (Leaf.under around) := by
  unfold leaves
  induction d using Diff.induction generalizing around with
  | leaf p => simp [Leaf.under]
  | node c s shape ih =>
    simp only [leavesUnder_node, List.map_flatMap]
    refine List.flatMap_congr fun d hd => ?_
    rw [ih d hd (.node c s shape :: around), ih d hd [.node c s shape], List.map_map]
    refine List.map_congr_left fun l _ => ?_
    simp [Leaf.under]

@[simp] theorem leaves_leaf (p : Patch Term) : (Diff.leaf p).leaves = [⟨[], p⟩] := by
  simp [leaves]

@[simp] theorem leaves_node (c : Category) (s : Span) (shape : Shape Diff) :
    (Diff.node c s shape).leaves =
      shape.children.flatMap fun d => d.leaves.map (Leaf.under [.node c s shape]) := by
  simp only [leaves, leavesUnder_node]
  exact List.flatMap_congr fun d _ => leavesUnder_eq_map _ d

/-- The leaves are the edits, in the order of the source. -/
theorem map_patch_leaves (d : Diff) : d.leaves.map Leaf.patch = d.patches := by
  induction d using Diff.induction with
  | leaf p => simp
  | node c s shape ih =>
    rw [leaves_node, patches_node, List.map_flatMap]
    refine List.flatMap_congr fun d hd => ?_
    rw [List.map_map, ← ih d hd]
    rfl

theorem patch_mem_patches {d : Diff} {l : Leaf} (hl : l ∈ d.leaves) : l.patch ∈ d.patches := by
  rw [← map_patch_leaves]
  exact List.mem_map_of_mem hl

/-- The nodes around an edit of a diff stand in the diff and hold the edit. -/
theorem of_mem_around {d n : Diff} {l : Leaf} (hl : l ∈ d.leaves) (hn : n ∈ l.around) :
    Within n d ∧ l.patch ∈ n.patches := by
  induction d using Diff.induction generalizing l with
  | leaf p =>
    rw [leaves_leaf, List.mem_singleton] at hl
    subst hl
    cases hn
  | node c s shape ih =>
    rw [leaves_node, List.mem_flatMap] at hl
    obtain ⟨d, hd, hmem⟩ := hl
    obtain ⟨l, hl, rfl⟩ := List.mem_map.mp hmem
    rcases List.mem_append.mp hn with hn | hn
    · obtain ⟨hin, hp⟩ := ih d hd hl hn
      exact ⟨.child hd hin, hp⟩
    · rw [List.mem_singleton] at hn
      subst hn
      refine ⟨.self _, ?_⟩
      have hp := patch_mem_patches hl
      rw [patches_node, List.mem_flatMap]
      exact ⟨d, hd, hp⟩

end Diff

namespace Record

/-- The record with the context on offer, if there is one and it has none already. -/
def offer (context : Option Context) (r : Record) : Record :=
  { r with context := r.context.or context }

@[simp] theorem offer_none (r : Record) : r.offer none = r := by
  simp [offer]

@[simp] theorem map_offer_none (rs : List Record) : rs.map (offer none) = rs := by
  rw [show (offer none) = id from funext offer_none, List.map_id]

theorem offer_some (c : Context) : offer (some c) = fill c := rfl

end Record

/-- **What a side of an edit has to show** of the term on that side, in the source of that side. -/
structure Info.Shows (i : Info) (source : String) (t : Term) : Prop where
  /-- A category is missing exactly from a region the parser could not make sense of. -/
  missing : i.category = none ↔ t.category = .parseError
  category : ∀ c, i.category = some c → c = t.category
  name : i.name = t.displayName source
  span : i.span = t.span

namespace Sources

variable (s : Sources)

/-- **What both sides of an edit have to show**: the edit stays of its kind, its before-side shows
the term in the source before, and its after-side the one in the source after. -/
inductive ShowsSides : Patch Term → Patch Info → Prop where
  | insert {after : Term} {i : Info} (shown : i.Shows s.after after) :
      ShowsSides (.insert after) (.insert i)
  | delete {before : Term} {i : Info} (shown : i.Shows s.before before) :
      ShowsSides (.delete before) (.delete i)
  | replace {before after : Term} {i j : Info} (shownBefore : i.Shows s.before before)
      (shownAfter : j.Shows s.after after) : ShowsSides (.replace before after) (.replace i j)

theorem shows_infoIn (source : String) (t : Term) : (infoIn source t).Shows source t where
  missing := by
    unfold infoIn
    split <;> simp [*]
  category c hc := by
    unfold infoIn at hc
    split at hc
    · cases hc
    · exact (Option.some.inj hc).symm
  name := rfl
  span := rfl

theorem showsSides_infos (p : Patch Term) : s.ShowsSides p (s.infos p) := by
  cases p with
  | insert after => exact .insert (shows_infoIn s.after after)
  | delete before => exact .delete (shows_infoIn s.before before)
  | replace before after =>
    exact .replace (shows_infoIn s.before before) (shows_infoIn s.after after)

/-- The name of the side of an edit that reports show, in the source of that side. -/
def shownName : Patch Term → String
  | .insert after | .replace _ after => after.displayName s.after
  | .delete before => before.displayName s.before

/-- What an edit shows, read as a declaration. -/
def shownDeclaration (p : Patch Term) : Declaration :=
  ⟨p.shown.category, s.shownName p, p.shown.span⟩

/-- What an unchanged node offers to the edits inside it: the declaration it is, named as it
stands after all edits, as long as nothing inside it was deleted. -/
def offered : Diff → Option Context
  | .node category span shape =>
    if (Diff.node category span shape).Intact then
      some (s.enclosing category span (Diff.node category span shape).rebuilt)
    else none
  | .leaf _ => none

/-- **What an edit is reported under**: itself, if it shows a declaration, and otherwise what the
innermost function or method around it offers. -/
def contextAt (l : Diff.Leaf) : Option Context :=
  if l.patch.shown.category.isDeclaration then
    some (.edited (s.shownDeclaration l.patch) l.patch.change)
  else l.enclosing?.bind s.offered

/-- **The record of an edit in its place.**  Each side is named from its own source. -/
def recordAt (l : Diff.Leaf) : Record where
  patch := match l.patch with
    | .insert after => .insert (infoIn s.after after)
    | .delete before => .delete (infoIn s.before before)
    | .replace before after => .replace (infoIn s.before before) (infoIn s.after after)
  context := s.contextAt l

theorem patch_recordAt (l : Diff.Leaf) : (s.recordAt l).patch = s.infos l.patch := by
  unfold recordAt infos
  cases l.patch <;> rfl

theorem ownContext_infos (p : Patch Term) : ownContext (s.infos p) =
    if p.shown.category.isDeclaration then some (.edited (s.shownDeclaration p) p.change)
    else none := by
  have hshown : (s.infos p).shown.category =
      if p.shown.category = .parseError then none else some p.shown.category := by
    cases p <;> rfl
  unfold ownContext
  rw [hshown]
  by_cases h : p.shown.category = .parseError
  · simp [h]
  · simp only [h, if_false]
    cases p <;> rfl

/-- An edit is reported as edited itself exactly if it shows a declaration. -/
theorem contextAt_eq_edited_iff {l : Diff.Leaf} {d : Declaration} {change : Change} :
    s.contextAt l = some (.edited d change) ↔ l.patch.shown.category.isDeclaration = true ∧
      d = s.shownDeclaration l.patch ∧ change = l.patch.change := by
  have hoffered : l.enclosing?.bind s.offered ≠ some (.edited d change) := by
    cases l.enclosing? with
    | none => simp
    | some n =>
      cases n with
      | leaf p => simp [offered]
      | node c sp shape =>
        by_cases hi : (Diff.node c sp shape).Intact <;> simp [offered, hi, enclosing]
  unfold contextAt
  by_cases hown : l.patch.shown.category.isDeclaration
  · simp [hown, eq_comm]
  · simp [hown, hoffered]

/-- An edit is reported under a declaration around it only if that is the innermost function or
method around it and nothing inside was deleted. -/
theorem exists_of_contextAt_eq_enclosing {l : Diff.Leaf} {d : Declaration}
    (h : s.contextAt l = some (.enclosing d)) : ∃ c sp shape,
      l.enclosing? = some (.node c sp shape) ∧ (Diff.node c sp shape).Intact ∧
        d = ⟨c, (Diff.node c sp shape).rebuilt.displayName s.after, sp⟩ := by
  unfold contextAt at h
  split at h
  · cases h
  · obtain ⟨n, hn, ho⟩ := Option.bind_eq_some_iff.mp h
    cases n with
    | leaf p => cases ho
    | node c sp shape =>
      by_cases hi : (Diff.node c sp shape).Intact
      · simp only [offered, hi, if_true, Option.some.injEq] at ho
        cases ho
        exact ⟨c, sp, shape, hn, hi, rfl⟩
      · simp [offered, hi] at ho

/-- An edit that stands in no node is reported on its own. -/
theorem record_eq_recordAt (p : Patch Term) : s.record p = s.recordAt ⟨[], p⟩ := by
  have hcontext : ownContext (s.infos p) = s.contextAt ⟨[], p⟩ := by
    rw [ownContext_infos]
    rfl
  unfold record
  rw [hcontext, ← s.patch_recordAt ⟨[], p⟩]
  rfl

/-- Walking a node finds what is found in its children, with the context the node offers. -/
theorem records_node (c : Category) (sp : Span) (shape : Shape Diff) :
    s.records (.node c sp shape) = (shape.children.flatMap s.records).map
      (Record.offer (if c.establishesContext then s.offered (.node c sp shape) else none)) := by
  have hafter : ((shape.map s.survey).map Survey.after?).transpose.map (Term.mk c sp) =
      (Diff.node c sp shape).after? := by
    rw [← after?_join, ← survey_node, after?_survey]
  have hrecords : (shape.map s.survey).children.flatMap Survey.records =
      shape.children.flatMap s.records := by
    rw [Shape.children_map, List.flatMap_map]
    rfl
  change (s.survey (.node c sp shape)).records = _
  rw [survey_node]
  unfold join
  dsimp only
  rw [hafter, hrecords, Diff.after?_eq_ite]
  by_cases hc : c.establishesContext
  · by_cases hi : (Diff.node c sp shape).Intact
    · simp [hc, hi, offered, Record.offer_some]
    · simp [hc, hi, offered]
  · simp [hc]

/-- Where the innermost function or method offers nothing, neither does a node around it. -/
theorem offered_eq_none_of_within {m n : Diff} (hm : m.isEnclosing) (hin : m.Within n)
    (h : s.offered m = none) : s.offered n = none := by
  have hdel : ¬ m.Intact := by
    cases m with
    | leaf p => cases hm
    | node c sp shape =>
      intro hi
      simp [offered, hi] at h
  cases n with
  | leaf p => rfl
  | node c sp shape =>
    have hdel' : ¬ (Diff.node c sp shape).Intact := fun hi => hdel (hi.of_within hin)
    simp [offered, hdel']

/-- **One node further out.**  To the record of an edit below it, a node adds the context it
offers, and only where the edit has none. -/
theorem recordAt_under {d : Diff} {c : Category} {sp : Span} {shape : Shape Diff}
    (hd : d ∈ shape.children) {l : Diff.Leaf} (hl : l ∈ d.leaves) :
    s.recordAt (l.under [.node c sp shape]) = (s.recordAt l).offer
      (if c.establishesContext then s.offered (.node c sp shape) else none) := by
  have hcontext : s.contextAt (l.under [.node c sp shape]) = (s.contextAt l).or
      (if c.establishesContext then s.offered (.node c sp shape) else none) := by
    unfold contextAt
    rw [Diff.Leaf.patch_under, Diff.Leaf.enclosing?_under]
    by_cases hown : l.patch.shown.category.isDeclaration
    · simp [hown]
    · simp only [hown]
      cases hm : l.enclosing? with
      | none => by_cases hc : c.establishesContext <;> simp [Diff.isEnclosing, hc]
      | some m =>
        have hin : m.Within d := (Diff.of_mem_around hl (List.mem_of_find?_eq_some hm)).1
        simp only [Option.some_or, Option.bind_some]
        cases ho : s.offered m with
        | some ctx => rfl
        | none =>
          -- a deletion below `m` is a deletion below the node around it as well
          have hnone : s.offered (.node c sp shape) = none :=
            s.offered_eq_none_of_within (List.find?_some hm) (hin.child hd) ho
          simp [hnone]
  unfold Record.offer
  unfold recordAt
  rw [hcontext]
  rfl

theorem records_eq_map_recordAt (d : Diff) : s.records d = d.leaves.map s.recordAt := by
  induction d using Diff.induction with
  | leaf p =>
    rw [Diff.leaves_leaf, List.map_singleton, ← record_eq_recordAt]
    rfl
  | node c sp shape ih =>
    rw [records_node, Diff.leaves_node, List.map_flatMap, List.map_flatMap]
    refine List.flatMap_congr fun d hd => ?_
    rw [ih d hd, List.map_map, List.map_map]
    exact List.map_congr_left fun l hl => (s.recordAt_under hd hl).symm

/-- **What every edit is reported under.**  Walking a diff gives one record for every edit, in the
order of the source, and it is the record of the edit in its place.  Each side of the edit shows its
category, unless the parser could make no sense of it, its name in its own source, and its span.
The innermost function or method around an edit stands in the diff and holds the edit.  If it is
intact, an edit that shows no declaration is reported under it, as it stands after all edits; if
something in it was deleted, such an edit goes without a context: no declaration further out
supplies one. -/
theorem records_attributed (d : Diff) :
    d.leaves.map Diff.Leaf.patch = d.patches ∧ s.records d = d.leaves.map s.recordAt ∧
      ∀ l ∈ d.leaves, s.ShowsSides l.patch (s.recordAt l).patch ∧
        ∀ n, l.enclosing? = some n →
          n.isEnclosing ∧ n.Within d ∧ l.patch ∈ n.patches ∧
            (n.Intact → l.patch.shown.category.isDeclaration = false →
              ∃ c sp shape after, n = .node c sp shape ∧ n.after? = some after ∧
                (s.recordAt l).context = some (.enclosing ⟨c, after.displayName s.after, sp⟩)) ∧
            (¬ n.Intact → l.patch.shown.category.isDeclaration = false →
              (s.recordAt l).context = none) := by
  refine ⟨d.map_patch_leaves, s.records_eq_map_recordAt d, fun l hl => ⟨?_, fun n hn => ?_⟩⟩
  · rw [patch_recordAt]
    exact s.showsSides_infos l.patch
  obtain ⟨hin, hp⟩ := Diff.of_mem_around hl (List.mem_of_find?_eq_some hn)
  have hcontext (hown : l.patch.shown.category.isDeclaration = false) :
      (s.recordAt l).context = s.offered n := by
    change s.contextAt l = _
    simp [contextAt, hown, hn]
  refine ⟨List.find?_some hn, hin, hp, fun hi hown => ?_, fun hdel hown => ?_⟩
  · rw [hcontext hown]
    cases n with
    | leaf p => cases List.find?_some hn
    | node c sp shape =>
      refine ⟨c, sp, shape, _, rfl, Diff.after?_of_intact hi, ?_⟩
      simp [offered, hi, enclosing]
  · rw [hcontext hown]
    cases n <;> simp [offered, hdel]

end Sources

end DiffContents
