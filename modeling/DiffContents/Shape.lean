/-!
# Node shapes

A node of a syntax tree has one of six shapes, whatever its children are: the same shapes are
used for trees of terms and for trees of edits.

* `Shape.children` lists the direct children in source order;
* `Shape.map` and `Shape.mapM` replace every child, visiting them in that order;
* `Shape.transpose` takes a shape of optional children to an optional shape.

Looking at the children of a shape where they stand is the identity on shapes: the children are
values, whoever holds them.  It has no function of its own here, and a walk maps over the shape
itself.

The main statements say that the three agree: `children_map`, `map_map`, `map_congr`.
-/

namespace DiffContents

universe u v w

/-- **The shape of a node**, over the type of its children.  Children are declared, and visited,
in source order. -/
inductive Shape (α : Type u) where
  /-- Identifiers, literals and other tokens without children. -/
  | leaf
  /-- A function. -/
  | function (identifier : α) (params body : List α)
  /-- A method, with the receiver it is declared on, if any. -/
  | method (receiver : Option α) (identifier : α) (params body : List α)
  /-- A declared parameter, with its type, if any. -/
  | parameter (identifier : α) (type : Option α)
  /-- A bracketed list, such as a list of parameters or of receivers. -/
  | indexed (items : List α)
  /-- Any other node. -/
  | branch (nodes : List α)
deriving DecidableEq, Repr, Inhabited

namespace Shape

variable {α : Type u} {β : Type v} {γ : Type w}

/-- The direct children, in source order. -/
def children : Shape α → List α
  | leaf => []
  | function identifier params body => identifier :: (params ++ body)
  | method receiver identifier params body => receiver.toList ++ identifier :: (params ++ body)
  | parameter identifier type => identifier :: type.toList
  | indexed items => items
  | branch nodes => nodes

/-- The same shape with every child replaced. -/
def map (f : α → β) : Shape α → Shape β
  | leaf => leaf
  | function identifier params body => function (f identifier) (params.map f) (body.map f)
  | method receiver identifier params body =>
    method (receiver.map f) (f identifier) (params.map f) (body.map f)
  | parameter identifier type => parameter (f identifier) (type.map f)
  | indexed items => indexed (items.map f)
  | branch nodes => branch (nodes.map f)

/-- The same shape with every child replaced by an action, the actions run in source order. -/
def mapM {m : Type v → Type w} [Monad m] {β : Type v} (f : α → m β) : Shape α → m (Shape β)
  | leaf => pure leaf
  | function identifier params body => do
    let identifier ← f identifier
    let params ← params.mapM f
    let body ← body.mapM f
    return function identifier params body
  | method none identifier params body => do
    let identifier ← f identifier
    let params ← params.mapM f
    let body ← body.mapM f
    return method none identifier params body
  | method (some receiver) identifier params body => do
    let receiver ← f receiver
    let identifier ← f identifier
    let params ← params.mapM f
    let body ← body.mapM f
    return method (some receiver) identifier params body
  | parameter identifier none => do
    let identifier ← f identifier
    return parameter identifier none
  | parameter identifier (some type) => do
    let identifier ← f identifier
    let type ← f type
    return parameter identifier (some type)
  | indexed items => do
    let items ← items.mapM f
    return indexed items
  | branch nodes => do
    let nodes ← nodes.mapM f
    return branch nodes

/-- A shape of optional children as an optional shape: it exists only when every child does. -/
def transpose (s : Shape (Option α)) : Option (Shape α) := s.mapM id

@[simp] theorem children_map (f : α → β) (s : Shape α) :
    (s.map f).children = s.children.map f := by
  cases s with
  | method receiver => cases receiver <;> simp [map, children]
  | parameter _ type => cases type <;> simp [map, children]
  | _ => simp [map, children]

@[simp] theorem map_map (g : β → γ) (f : α → β) (s : Shape α) :
    (s.map f).map g = s.map (g ∘ f) := by
  cases s with
  | method receiver => cases receiver <;> simp [map]
  | parameter _ type => cases type <;> simp [map]
  | _ => simp [map]

@[simp] theorem map_id (s : Shape α) : s.map id = s := by
  cases s with
  | method receiver => cases receiver <;> simp [map]
  | parameter _ type => cases type <;> simp [map]
  | _ => simp [map]

theorem map_congr {f g : α → β} {s : Shape α} (h : ∀ a ∈ s.children, f a = g a) :
    s.map f = s.map g := by
  cases s with
  | method receiver =>
    cases receiver <;> simp_all [map, children]
  | parameter _ type => cases type <;> simp_all [map, children]
  | _ => simp_all [map, children]

end Shape

end DiffContents
