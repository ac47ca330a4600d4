import DiffContents.Diff

/-! # The tree after all edits

`Diff.after?` rebuilds a diff from the leaves up and gives up wherever a child is missing.  This
module says what it finds without speaking of any of its steps: `Diff.rebuilt` is the diff with
every edit replaced by the side a report shows, `Diff.Intact` says that no edit in the diff is a
deletion, and `after?_eq_ite` puts the two together.

A diff stands inside another (`Diff.Within`) when it is that diff or stands inside one of its
children.  What is intact is intact everywhere inside (`Intact.of_within`), so a deletion takes the
tree after all edits away from every node around it.
-/
namespace DiffContents

universe u

namespace Shape

variable {α : Type u}

theorem mapM_id_eq_some_iff {os : List (Option α)} {as : List α} :
    os.mapM id = some as ↔ os = as.map some := by
  constructor
  · intro h
    induction os generalizing as with
    | nil =>
      obtain rfl : [] = as := by simpa using h
      rfl
    | cons o os ih =>
      simp only [List.mapM_cons, id_eq, Option.bind_eq_bind, Option.bind_eq_some_iff,
        Option.pure_def, Option.some.injEq] at h
      obtain ⟨a, rfl, bs, hbs, rfl⟩ := h
      rw [ih hbs, List.map_cons]
  · rintro rfl
    induction as with
    | nil => rfl
    | cons a as ih => simp [List.mapM_cons, ih]

/-- A shape with every child wrapped transposes to the shape itself. -/
theorem transpose_map_some (t : Shape α) : (t.map some).transpose = some t := by
  have all (as : List α) : (as.map some).mapM id = some as := mapM_id_eq_some_iff.mpr rfl
  cases t with
  | leaf => rfl
  | method receiver => cases receiver <;> simp [transpose, map, mapM, all]
  | parameter _ type => cases type <;> simp [transpose, map, mapM]
  | _ => simp [transpose, map, mapM, all]

/-- Only a shape with every child there transposes. -/
theorem eq_map_some_of_transpose {s : Shape (Option α)} {t : Shape α}
    (h : s.transpose = some t) : s = t.map some := by
  unfold transpose at h
  cases s with
  | leaf =>
    obtain rfl : leaf = t := Option.some.inj h
    rfl
  | method receiver identifier params body =>
    cases receiver <;>
      simp only [mapM, Option.bind_eq_bind, Option.bind_eq_some_iff, mapM_id_eq_some_iff, id_eq,
        Option.pure_def, Option.some.injEq] at h
    · obtain ⟨i, rfl, ps, rfl, bs, rfl, rfl⟩ := h
      rfl
    · obtain ⟨r, rfl, i, rfl, ps, rfl, bs, rfl, rfl⟩ := h
      rfl
  | parameter identifier type =>
    cases type <;>
      simp only [mapM, Option.bind_eq_bind, Option.bind_eq_some_iff, id_eq, Option.pure_def,
        Option.some.injEq] at h
    · obtain ⟨i, rfl, rfl⟩ := h
      rfl
    · obtain ⟨i, rfl, y, rfl, rfl⟩ := h
      rfl
  | function identifier params body =>
    simp only [mapM, Option.bind_eq_bind, Option.bind_eq_some_iff, mapM_id_eq_some_iff, id_eq,
      Option.pure_def, Option.some.injEq] at h
    obtain ⟨i, rfl, ps, rfl, bs, rfl, rfl⟩ := h
    rfl
  | indexed items | branch nodes =>
    simp only [mapM, Option.bind_eq_bind, Option.bind_eq_some_iff, mapM_id_eq_some_iff,
      Option.pure_def, Option.some.injEq] at h
    obtain ⟨as, rfl, rfl⟩ := h
    rfl

/-- One missing child is enough for a shape not to transpose. -/
theorem transpose_eq_none_of_mem {s : Shape (Option α)} (h : none ∈ s.children) :
    s.transpose = none := by
  rw [Option.eq_none_iff_forall_ne_some]
  intro t ht
  rw [eq_map_some_of_transpose ht, children_map] at h
  simp at h

end Shape

namespace Diff

/-- Nothing inside the diff was deleted. -/
def Intact (d : Diff) : Prop := ∀ p ∈ d.patches, p.change ≠ .removed

instance (d : Diff) : Decidable d.Intact := inferInstanceAs (Decidable (∀ p ∈ _, _))

/-- The diff with every edit replaced by the side a report shows: the after-side, unless the edit
is a deletion. -/
def rebuilt : Diff → Term := fold Patch.shown Term.mk

/-- `Within d e`: the diff `d` is `e` itself or stands somewhere inside it. -/
inductive Within : Diff → Diff → Prop where
  | self (d : Diff) : Within d d
  | child {d c : Diff} {category : Category} {span : Span} {shape : Shape Diff}
      (hc : c ∈ shape.children) (h : Within d c) : Within d (.node category span shape)

@[simp] theorem rebuilt_leaf (p : Patch Term) : (Diff.leaf p).rebuilt = p.shown := rfl

@[simp] theorem rebuilt_node (c : Category) (s : Span) (shape : Shape Diff) :
    (Diff.node c s shape).rebuilt = .mk c s (shape.map rebuilt) := by
  simp [rebuilt]

@[simp] theorem intact_leaf (p : Patch Term) : (Diff.leaf p).Intact ↔ p.change ≠ .removed := by
  simp [Intact]

/-- A node is intact when all its children are. -/
@[simp] theorem intact_node (c : Category) (s : Span) (shape : Shape Diff) :
    (Diff.node c s shape).Intact ↔ ∀ d ∈ shape.children, d.Intact := by
  simp only [Intact, patches_node, List.mem_flatMap]
  constructor
  · exact fun h d hd p hp => h p ⟨d, hd, hp⟩
  · rintro h p ⟨d, hd, hp⟩
    exact h d hd p hp

/-- An edit inside a part of a diff is an edit of the diff. -/
theorem Within.patches_subset {d e : Diff} (h : Within d e) {p : Patch Term}
    (hp : p ∈ d.patches) : p ∈ e.patches := by
  induction h with
  | self => exact hp
  | child hc _ ih =>
    rw [patches_node, List.mem_flatMap]
    exact ⟨_, hc, ih⟩

/-- What stands inside an intact diff is intact. -/
theorem Intact.of_within {d e : Diff} (he : e.Intact) (h : Within d e) : d.Intact :=
  fun p hp => he p (h.patches_subset hp)

theorem after?_of_intact {d : Diff} (h : d.Intact) : d.after? = some d.rebuilt := by
  induction d using Diff.induction with
  | leaf p =>
    rw [intact_leaf] at h
    cases p <;> simp_all [Patch.after?, Patch.shown, Patch.change]
  | node c s shape ih =>
    rw [intact_node] at h
    have hmap : shape.map after? = (shape.map rebuilt).map some := by
      rw [Shape.map_map]
      exact Shape.map_congr fun d hd => ih d hd (h d hd)
    rw [after?_node, hmap, Shape.transpose_map_some, Option.map_some, rebuilt_node]

theorem after?_of_not_intact {d : Diff} (h : ¬ d.Intact) : d.after? = none := by
  induction d using Diff.induction with
  | leaf p =>
    rw [intact_leaf] at h
    cases p <;> simp_all [Patch.after?, Patch.change]
  | node c s shape ih =>
    rw [intact_node] at h
    obtain ⟨d, hd, hdel⟩ : ∃ d ∈ shape.children, ¬ d.Intact := by simpa using h
    have hmem : none ∈ (shape.map after?).children := by
      rw [Shape.children_map]
      exact List.mem_map.mpr ⟨d, hd, ih d hd hdel⟩
    rw [after?_node, Shape.transpose_eq_none_of_mem hmem, Option.map_none]

/-- **The tree after all edits** exists as long as nothing was deleted, and then it is the diff
with every edit replaced by its after-side. -/
theorem after?_eq_ite (d : Diff) : d.after? = if d.Intact then some d.rebuilt else none := by
  split
  · exact after?_of_intact ‹_›
  · exact after?_of_not_intact ‹_›

end Diff

end DiffContents
