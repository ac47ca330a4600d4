import DiffContents.Document
import DiffContents.Proofs.Attribution
import Mathlib.Data.List.Forall2

/-! # The tree a walk resolves to

Walking a diff rebuilds the tree after all edits along with the records.  What that tree is can be
told without rebuilding anything: `Diff.ResolvesTo` relates a diff to a term node by node, each node
to one of the same category, span and kind of shape with its children related place by place
(`Shape.Matches`), and each edit to its after-side.  A deletion is related to no term.

The walk finds the term a diff resolves to, and finds one exactly where nothing was deleted.  A term
seen as a diff without edits resolves to itself and has nothing to report.
-/
namespace DiffContents

universe u v

namespace Shape

variable {α : Type u} {β : Type v}

/-- **Shapes of one kind with related children**, place by place. -/
inductive Matches (R : α → β → Prop) : Shape α → Shape β → Prop where
  | leaf : Matches R .leaf .leaf
  | function {i : α} {j : β} {ps bs : List α} {qs cs : List β} (identifier : R i j)
      (params : List.Forall₂ R ps qs) (body : List.Forall₂ R bs cs) :
      Matches R (.function i ps bs) (.function j qs cs)
  | method {r : Option α} {q : Option β} {i : α} {j : β} {ps bs : List α} {qs cs : List β}
      (receiver : Option.Rel R r q) (identifier : R i j) (params : List.Forall₂ R ps qs)
      (body : List.Forall₂ R bs cs) : Matches R (.method r i ps bs) (.method q j qs cs)
  | parameter {i : α} {j : β} {t : Option α} {u : Option β} (identifier : R i j)
      (type : Option.Rel R t u) : Matches R (.parameter i t) (.parameter j u)
  | indexed {xs : List α} {ys : List β} (items : List.Forall₂ R xs ys) :
      Matches R (.indexed xs) (.indexed ys)
  | branch {xs : List α} {ys : List β} (nodes : List.Forall₂ R xs ys) :
      Matches R (.branch xs) (.branch ys)

variable {R : α → β → Prop} {f : α → Option β}

theorem forall₂_iff_map_eq {as : List α} {bs : List β}
    (h : ∀ a ∈ as, ∀ b, R a b ↔ f a = some b) :
    List.Forall₂ R as bs ↔ as.map f = bs.map some := by
  induction as generalizing bs with
  | nil => cases bs <;> simp
  | cons a as ih =>
    obtain ⟨ha, has⟩ := List.forall_mem_cons.mp h
    cases bs with
    | nil => simp
    | cons b bs => rw [List.forall₂_cons, ha, ih has, List.map_cons, List.map_cons, List.cons.injEq]

theorem rel_iff_map_eq {o : Option α} {p : Option β} (h : ∀ a ∈ o, ∀ b, R a b ↔ f a = some b) :
    Option.Rel R o p ↔ o.map f = p.map some := by
  constructor
  · rintro (hab | -)
    · simpa using (h _ rfl _).mp hab
    · rfl
  · intro heq
    cases o with
    | none =>
      obtain rfl : p = none := by simpa using heq.symm
      exact .none
    | some a =>
      cases p with
      | none => simp at heq
      | some b => exact .some ((h a rfl b).mpr (by simpa using heq))

theorem matches_function_iff {i : α} {j : β} {ps bs : List α} {qs cs : List β} :
    (function i ps bs).Matches R (function j qs cs) ↔
      R i j ∧ List.Forall₂ R ps qs ∧ List.Forall₂ R bs cs :=
  ⟨fun | .function hi hps hbs => ⟨hi, hps, hbs⟩, fun ⟨hi, hps, hbs⟩ => .function hi hps hbs⟩

theorem matches_method_iff {r : Option α} {q : Option β} {i : α} {j : β} {ps bs : List α}
    {qs cs : List β} : (method r i ps bs).Matches R (method q j qs cs) ↔
      Option.Rel R r q ∧ R i j ∧ List.Forall₂ R ps qs ∧ List.Forall₂ R bs cs :=
  ⟨fun | .method hr hi hps hbs => ⟨hr, hi, hps, hbs⟩,
    fun ⟨hr, hi, hps, hbs⟩ => .method hr hi hps hbs⟩

theorem matches_parameter_iff {i : α} {j : β} {t : Option α} {u : Option β} :
    (parameter i t).Matches R (parameter j u) ↔ R i j ∧ Option.Rel R t u :=
  ⟨fun | .parameter hi ht => ⟨hi, ht⟩, fun ⟨hi, ht⟩ => .parameter hi ht⟩

theorem matches_indexed_iff {xs : List α} {ys : List β} :
    (indexed xs).Matches R (indexed ys) ↔ List.Forall₂ R xs ys :=
  ⟨fun | .indexed h => h, .indexed⟩

theorem matches_branch_iff {xs : List α} {ys : List β} :
    (branch xs).Matches R (branch ys) ↔ List.Forall₂ R xs ys :=
  ⟨fun | .branch h => h, .branch⟩

/-- Where a function computes what a relation says of the children, it does so for the shape. -/
theorem matches_iff_map_eq {s : Shape α} {t : Shape β}
    (h : ∀ a ∈ s.children, ∀ b, R a b ↔ f a = some b) :
    s.Matches R t ↔ s.map f = t.map some := by
  have list (as : List α) (bs : List β) (has : ∀ a ∈ as, a ∈ s.children) :
      List.Forall₂ R as bs ↔ as.map f = bs.map some :=
    forall₂_iff_map_eq fun a ha => h a (has a ha)
  have option (o : Option α) (p : Option β) (ho : ∀ a ∈ o, a ∈ s.children) :
      Option.Rel R o p ↔ o.map f = p.map some :=
    rel_iff_map_eq fun a ha => h a (ho a ha)
  cases s with
  | leaf =>
    cases t with
    | leaf => exact iff_of_true .leaf rfl
    -- Shapes of two kinds do not match, and neither do their images.
    | _ => exact iff_of_false (by rintro ⟨⟩) (by rintro ⟨⟩)
  | function i ps bs =>
    cases t with
    | function j qs cs =>
      have hi : R i j ↔ f i = some j := h i (by simp [children]) j
      have hps := list ps qs (by simp +contextual [children])
      have hbs := list bs cs (by simp +contextual [children])
      rw [matches_function_iff, hi, hps, hbs]
      simp only [map, function.injEq]
    | _ => exact iff_of_false (by rintro ⟨⟩) (by rintro ⟨⟩)
  | method r i ps bs =>
    cases t with
    | method q j qs cs =>
      have hr := option r q (by simp +contextual [children])
      have hi : R i j ↔ f i = some j := h i (by simp [children]) j
      have hps := list ps qs (by simp +contextual [children])
      have hbs := list bs cs (by simp +contextual [children])
      rw [matches_method_iff, hr, hi, hps, hbs]
      simp only [map, method.injEq]
    | _ => exact iff_of_false (by rintro ⟨⟩) (by rintro ⟨⟩)
  | parameter i type =>
    cases t with
    | parameter j type' =>
      have hi : R i j ↔ f i = some j := h i (by simp [children]) j
      have htype := option type type' (by simp +contextual [children])
      rw [matches_parameter_iff, hi, htype]
      simp only [map, parameter.injEq]
    | _ => exact iff_of_false (by rintro ⟨⟩) (by rintro ⟨⟩)
  | indexed xs =>
    cases t with
    | indexed ys =>
      rw [matches_indexed_iff, list xs ys fun a ha => ha]
      simp only [map, indexed.injEq]
    | _ => exact iff_of_false (by rintro ⟨⟩) (by rintro ⟨⟩)
  | branch xs =>
    cases t with
    | branch ys =>
      rw [matches_branch_iff, list xs ys fun a ha => ha]
      simp only [map, branch.injEq]
    | _ => exact iff_of_false (by rintro ⟨⟩) (by rintro ⟨⟩)

end Shape

namespace Diff

/-- **A diff resolves to a term** that has its unchanged nodes as they are and the after-side of
every edit in the place of the edit. -/
inductive ResolvesTo : Diff → Term → Prop where
  | insert (after : Term) : ResolvesTo (.leaf (.insert after)) after
  | replace (before after : Term) : ResolvesTo (.leaf (.replace before after)) after
  | node {category : Category} {span : Span} {shape : Shape Diff} {resolved : Shape Term}
      (h : shape.Matches ResolvesTo resolved) :
      ResolvesTo (.node category span shape) (.mk category span resolved)

/-- The tree after all edits is the term a diff resolves to. -/
theorem after?_eq_some_iff {d : Diff} {t : Term} : d.after? = some t ↔ d.ResolvesTo t := by
  induction d using Diff.induction generalizing t with
  | leaf p =>
    constructor
    · intro h
      cases p with
      | insert after =>
        obtain rfl : after = t := Option.some.inj h
        exact .insert after
      | delete before => cases h
      | replace before after =>
        obtain rfl : after = t := Option.some.inj h
        exact .replace before after
    · intro hr
      cases hr with
      | insert => rfl
      | replace => rfl
  | node c s shape ih =>
    have hshape {resolved : Shape Term} :
        shape.Matches ResolvesTo resolved ↔ shape.map after? = resolved.map some :=
      Shape.matches_iff_map_eq fun d hd t => (ih d hd).symm
    constructor
    · intro h
      rw [after?_node, Option.map_eq_some_iff] at h
      obtain ⟨resolved, hresolved, rfl⟩ := h
      exact .node (hshape.mpr (Shape.eq_map_some_of_transpose hresolved))
    · intro hr
      cases hr with
      | node h => rw [after?_node, hshape.mp h, Shape.transpose_map_some, Option.map_some]

theorem after?_isSome_iff (d : Diff) : d.after?.isSome ↔ d.Intact := by
  rw [after?_eq_ite]
  split <;> simp [*]

/-- A term seen as a diff without edits is still there after all of them. -/
@[simp] theorem after?_unchanged (t : Term) : (unchanged t).after? = some t := by
  induction t using Term.induction with
  | node c s shape ih =>
    have hmap : (shape.map unchanged).map after? = shape.map some := by
      rw [Shape.map_map]
      exact Shape.map_congr ih
    rw [unchanged_mk, after?_node, hmap, Shape.transpose_map_some, Option.map_some]

end Diff

namespace Sources

variable (s : Sources)

/-- A term seen as a diff without edits has nothing to report. -/
@[simp] theorem records_unchanged (t : Term) : s.records (.unchanged t) = [] := by
  induction t using Term.induction with
  | node c sp shape ih =>
    have hchildren : (shape.map Diff.unchanged).children.flatMap s.records = [] := by
      rw [Shape.children_map, List.flatMap_map, List.flatMap_eq_nil_iff]
      exact ih
    rw [Diff.unchanged_mk, records_node, hchildren, List.map_nil]

/-- **What a walk resolves to.**  A walk finds a term exactly where nothing in the diff was deleted,
and the term is the diff with the after-side of each edit in its place and all unchanged nodes as
they are.  Any term seen as a diff without edits comes back as it is, without a record and so
without an entry in a table of contents. -/
theorem survey_resolves (d : Diff) :
    ((s.survey d).after?.isSome ↔ d.Intact) ∧
      (∀ t, (s.survey d).after? = some t ↔ d.ResolvesTo t) ∧
      ∀ t, (s.survey (.unchanged t)).after? = some t ∧ s.records (.unchanged t) = [] ∧
        ∀ beforePath afterPath,
          (Document.mk beforePath afterPath s.before s.after (.unchanged t)).contents = .empty := by
  refine ⟨?_, fun t => ?_, fun t => ⟨?_, s.records_unchanged t, fun beforePath afterPath => ?_⟩⟩
  · rw [after?_survey, Diff.after?_isSome_iff]
  · rw [after?_survey, Diff.after?_eq_some_iff]
  · rw [after?_survey, Diff.after?_unchanged]
  · have hrecords : (Document.mk beforePath afterPath s.before s.after (.unchanged t)).rawRecords =
        [] := s.records_unchanged t
    rw [Document.contents, Document.records, hrecords, Record.dedup_nil, Contents.ofRecords_nil]

end Sources

end DiffContents
