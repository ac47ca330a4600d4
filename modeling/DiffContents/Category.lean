/-!
# Grammatical categories

A parser labels every piece of source with its grammatical role.  Five roles matter to a
table of contents; all others are carried along under the name the grammar gave them.

* `Category.ofName` and `Category.name` pass between a role and its name;
* `establishesContext` and `isDeclaration` are the two questions the rest of the library asks;
* `label` is the name a role is reported under.
-/

namespace DiffContents

/-- **The grammatical role of a piece of source.** -/
inductive Category where
  /-- A named function. -/
  | function
  /-- A method of a type or class. -/
  | method
  /-- A method of a single object. -/
  | singletonMethod
  /-- A function without a name. -/
  | anonymousFunction
  /-- A region the parser could not make sense of. -/
  | parseError
  /-- Any other role, under the grammar's own name for it. -/
  | other (name : String)
deriving DecidableEq, Repr, Inhabited

namespace Category

/-- The name a grammar gives the role. -/
def name : Category → String
  | function => "Function"
  | method => "Method"
  | singletonMethod => "SingletonMethod"
  | anonymousFunction => "AnonymousFunction"
  | parseError => "ParseError"
  | other name => name

/-- The role with a given name; names are compared exactly. -/
def ofName (name : String) : Category :=
  if name = "Function" then function
  else if name = "Method" then method
  else if name = "SingletonMethod" then singletonMethod
  else if name = "AnonymousFunction" then anonymousFunction
  else if name = "ParseError" then parseError
  else other name

/-- A category that naming gives back: none of the five known names is held by `other`. -/
def Canonical (c : Category) : Prop := ofName c.name = c

instance (c : Category) : Decidable c.Canonical := inferInstanceAs (Decidable (_ = _))

/-- An unchanged node of this category names the edits nested in it. -/
def establishesContext : Category → Bool
  | function | method => true
  | _ => false

/-- An edited node of this category is an entry of its own. -/
def isDeclaration : Category → Bool
  | function | method | singletonMethod | anonymousFunction => true
  | _ => false

/-- The name a category is reported under: a singleton method is a method to a reader. -/
def label : Category → String
  | singletonMethod => "Method"
  | c => c.name

/-- Where a category stands among the five known ones; every other one comes after them. -/
def rank : Category → Nat
  | function => 0
  | method => 1
  | singletonMethod => 2
  | anonymousFunction => 3
  | parseError => 4
  | other _ => 5

/-- The order of categories: the known ones in the order they are declared in, then the others
by the code points of their names. -/
def precedes (a b : Category) : Bool :=
  if a.rank = b.rank then decide (a.name ≤ b.name) else decide (a.rank ≤ b.rank)

@[simp] theorem name_ofName (s : String) : (ofName s).name = s := by
  unfold ofName
  repeat' split
  all_goals simp_all [name]

theorem canonical_ofName (s : String) : (ofName s).Canonical := by
  simp [Canonical]

/-- Every category that establishes a context is a declaration. -/
theorem isDeclaration_of_establishesContext {c : Category} (h : c.establishesContext = true) :
    c.isDeclaration = true := by
  cases c <;> simp_all [establishesContext, isDeclaration]

@[simp] theorem isDeclaration_parseError : parseError.isDeclaration = false := rfl

end Category

end DiffContents
