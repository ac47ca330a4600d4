import DiffContents.Category
import DiffContents.Position
import DiffContents.Shape

/-!
# Terms

A term is a piece of source as its parser sees it: a category, a span, and a shape whose
children are terms again.

`Term.fold` gives a value to every term out of the values of its children; `fold_mk` is its only
equation, and `Term.induction` the matching way to prove a property of all terms.
-/

namespace DiffContents

universe u

/-- **A fully resolved node of a syntax tree.** -/
inductive Term where
  | mk (category : Category) (span : Span) (shape : Shape Term)
deriving Repr

namespace Term

/-- The grammatical role of the term. -/
def category : Term → Category
  | mk category _ _ => category

/-- The place of the term in its source. -/
def span : Term → Span
  | mk _ span _ => span

/-- The shape of the term, with its children. -/
def shape : Term → Shape Term
  | mk _ _ shape => shape

instance : Inhabited Term := ⟨mk default default .leaf⟩

variable {β : Type u}

mutual

/-- The value of a term, built from the values of its children. -/
def fold (node : Category → Span → Shape β → β) : Term → β
  | mk category span shape => node category span (foldShape node shape)

/-- The shape of the values of its children. -/
def foldShape (node : Category → Span → Shape β → β) : Shape Term → Shape β
  | .leaf => .leaf
  | .function identifier params body =>
    .function (fold node identifier) (foldList node params) (foldList node body)
  | .method receiver identifier params body =>
    .method (foldOption node receiver) (fold node identifier) (foldList node params)
      (foldList node body)
  | .parameter identifier type => .parameter (fold node identifier) (foldOption node type)
  | .indexed items => .indexed (foldList node items)
  | .branch nodes => .branch (foldList node nodes)

/-- The values of a list of children. -/
def foldList (node : Category → Span → Shape β → β) : List Term → List β
  | [] => []
  | t :: ts => fold node t :: foldList node ts

/-- The value of an optional child. -/
def foldOption (node : Category → Span → Shape β → β) : Option Term → Option β
  | none => none
  | some t => some (fold node t)

end

theorem foldList_eq_map (node : Category → Span → Shape β → β) (ts : List Term) :
    foldList node ts = ts.map (fold node) := by
  induction ts with
  | nil => rfl
  | cons t ts ih => simp [foldList, ih]

theorem foldOption_eq_map (node : Category → Span → Shape β → β) (t : Option Term) :
    foldOption node t = t.map (fold node) := by
  cases t <;> rfl

theorem foldShape_eq_map (node : Category → Span → Shape β → β) (s : Shape Term) :
    foldShape node s = s.map (fold node) := by
  cases s <;> simp [foldShape, Shape.map, foldList_eq_map, foldOption_eq_map]

/-- **The equation of `fold`**: a term is worth what its node makes of its children. -/
@[simp] theorem fold_mk (node : Category → Span → Shape β → β) (c : Category) (s : Span)
    (shape : Shape Term) : fold node (mk c s shape) = node c s (shape.map (fold node)) := by
  simp [fold, foldShape_eq_map]

/-- **Induction on terms**: what passes from the children of a node to the node holds of every
term. -/
theorem induction {P : Term → Prop}
    (node : ∀ c s shape, (∀ t ∈ shape.children, P t) → P (mk c s shape)) (t : Term) : P t := by
  refine Term.rec (motive_1 := P) (motive_2 := fun s => ∀ t ∈ s.children, P t)
    (motive_3 := fun ts => ∀ t ∈ ts, P t) (motive_4 := fun o => ∀ t ∈ o, P t)
    ?_ ?_ ?_ ?_ ?_ ?_ ?_ ?_ ?_ ?_ ?_ t
  · intro c s shape ih
    exact node c s shape ih
  all_goals simp_all [Shape.children]
  all_goals grind

end Term

end DiffContents
