import DiffContents.Patch
import DiffContents.Term

/-!
# Structural diffs

A structural diff is a syntax tree in which unchanged nodes wrap further diffs and edits sit at
the leaves.

* `Diff.fold`, with its two equations, is the recursion all other functions are written in;
* `Diff.unchanged` sees a term as a diff without edits;
* `Diff.after?` is the tree after all edits, which exists unless something was deleted.
-/

namespace DiffContents

universe u

/-- **A structural diff**: unchanged nodes above, patches at the leaves. -/
inductive Diff where
  /-- A node present on both sides, around diffs of its children. -/
  | node (category : Category) (span : Span) (shape : Shape Diff)
  /-- An edit. -/
  | leaf (patch : Patch Term)
deriving Repr

namespace Diff

instance : Inhabited Diff := ⟨node default default .leaf⟩

variable {β : Type u}

mutual

/-- The value of a diff, built from the values of its patches and of the children of its
nodes. -/
def fold (leaf : Patch Term → β) (node : Category → Span → Shape β → β) : Diff → β
  | .leaf patch => leaf patch
  | .node category span shape => node category span (foldShape leaf node shape)

/-- The shape of the values of its children. -/
def foldShape (leaf : Patch Term → β) (node : Category → Span → Shape β → β) :
    Shape Diff → Shape β
  | .leaf => .leaf
  | .function identifier params body =>
    .function (fold leaf node identifier) (foldList leaf node params) (foldList leaf node body)
  | .method receiver identifier params body =>
    .method (foldOption leaf node receiver) (fold leaf node identifier)
      (foldList leaf node params) (foldList leaf node body)
  | .parameter identifier type =>
    .parameter (fold leaf node identifier) (foldOption leaf node type)
  | .indexed items => .indexed (foldList leaf node items)
  | .branch nodes => .branch (foldList leaf node nodes)

/-- The values of a list of children. -/
def foldList (leaf : Patch Term → β) (node : Category → Span → Shape β → β) :
    List Diff → List β
  | [] => []
  | d :: ds => fold leaf node d :: foldList leaf node ds

/-- The value of an optional child. -/
def foldOption (leaf : Patch Term → β) (node : Category → Span → Shape β → β) :
    Option Diff → Option β
  | none => none
  | some d => some (fold leaf node d)

end

variable (leaf : Patch Term → β) (node : Category → Span → Shape β → β)

theorem foldList_eq_map (ds : List Diff) :
    foldList leaf node ds = ds.map (fold leaf node) := by
  induction ds with
  | nil => rfl
  | cons d ds ih => simp [foldList, ih]

theorem foldOption_eq_map (d : Option Diff) :
    foldOption leaf node d = d.map (fold leaf node) := by
  cases d <;> rfl

theorem foldShape_eq_map (s : Shape Diff) :
    foldShape leaf node s = s.map (fold leaf node) := by
  cases s <;> simp [foldShape, Shape.map, foldList_eq_map, foldOption_eq_map]

@[simp] theorem fold_leaf (p : Patch Term) : fold leaf node (.leaf p) = leaf p := rfl

/-- **The equation of `fold` at a node.** -/
@[simp] theorem fold_node (c : Category) (s : Span) (shape : Shape Diff) :
    fold leaf node (.node c s shape) = node c s (shape.map (fold leaf node)) := by
  simp [fold, foldShape_eq_map]

/-- **Induction on diffs**: what holds of every patch and passes from the children of a node to
the node holds of every diff. -/
theorem induction {P : Diff → Prop} (leaf : ∀ p, P (.leaf p))
    (node : ∀ c s shape, (∀ d ∈ shape.children, P d) → P (.node c s shape)) (d : Diff) : P d := by
  refine Diff.rec (motive_1 := P) (motive_2 := fun s => ∀ d ∈ s.children, P d)
    (motive_3 := fun ds => ∀ d ∈ ds, P d) (motive_4 := fun o => ∀ d ∈ o, P d)
    ?_ ?_ ?_ ?_ ?_ ?_ ?_ ?_ ?_ ?_ ?_ ?_ d
  · intro c s shape ih
    exact node c s shape ih
  · exact leaf
  all_goals simp_all [Shape.children]
  all_goals grind

/-- A term seen as a diff without edits. -/
def unchanged : Term → Diff := Term.fold .node

/-- The direct children of an unchanged node; an edit has none. -/
def children : Diff → List Diff
  | .node _ _ shape => shape.children
  | .leaf _ => []

/-- The tree after all edits.  It exists unless something in it was deleted, because a deleted
child leaves its place in the parent's shape empty. -/
def after? : Diff → Option Term :=
  fold Patch.after? fun category span shape => shape.transpose.map (.mk category span)

/-- The patches at the leaves, in source order. -/
def patches : Diff → List (Patch Term) :=
  fold (fun patch => [patch]) fun _ _ shape => shape.children.flatten

@[simp] theorem unchanged_mk (c : Category) (s : Span) (shape : Shape Term) :
    unchanged (.mk c s shape) = .node c s (shape.map unchanged) := by
  simp [unchanged]

@[simp] theorem after?_leaf (p : Patch Term) : (Diff.leaf p).after? = p.after? := rfl

@[simp] theorem after?_node (c : Category) (s : Span) (shape : Shape Diff) :
    (Diff.node c s shape).after? = (shape.map after?).transpose.map (.mk c s) := by
  simp [after?]

@[simp] theorem patches_leaf (p : Patch Term) : (Diff.leaf p).patches = [p] := rfl

@[simp] theorem patches_node (c : Category) (s : Span) (shape : Shape Diff) :
    (Diff.node c s shape).patches = shape.children.flatMap patches := by
  simp only [patches, fold_node, Shape.children_map, List.flatMap_def]

end Diff

end DiffContents
