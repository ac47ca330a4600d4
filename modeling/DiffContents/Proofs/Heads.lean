import DiffContents.Proofs.Attribution

/-! # What a declaration's name is read from

A function or a method is named by its head, the identifier and the receiver; the parameters and the
statements are not looked at.  `Term.ReadsNameAt` lists the places of the source that a name is read
at, and `displayName_congr` says that no other part of the source matters.

So the context that an unchanged function or method gives is framed by its head: other parameters,
other statements and any source that has the same text at those places leave it as it is
(`records_framed`).  Nothing inside may have been deleted, for otherwise there is no context to
compare.
-/
namespace DiffContents

namespace Shape

universe u v

variable {α : Type u} {β : Type v}

/-- The shape of a function or a method. -/
def isHeaded : Shape α → Bool
  | function _ _ _ | method _ _ _ _ => true
  | _ => false

/-- The same head over other parameters and statements. -/
def withLists (params body : List α) : Shape α → Shape α
  | function identifier _ _ => function identifier params body
  | method receiver identifier _ _ => method receiver identifier params body
  | shape => shape

/-- The parts of the head: the receiver, if any, and the identifier. -/
def head : Shape α → List α
  | function identifier _ _ => [identifier]
  | method receiver identifier _ _ => receiver.toList ++ [identifier]
  | _ => []

theorem map_withLists (f : α → β) (params body : List α) (s : Shape α) :
    (s.withLists params body).map f = (s.map f).withLists (params.map f) (body.map f) := by
  cases s <;> rfl

theorem children_withLists {s : Shape α} (h : s.isHeaded) (params body : List α) :
    (s.withLists params body).children = s.head ++ (params ++ body) := by
  cases s with
  | function => rfl
  | method => simp [withLists, children, head]
  | _ => cases h

theorem head_subset_children (s : Shape α) : s.head ⊆ s.children := by
  cases s with
  | method => simp [head, children]
  | _ => simp [head, children]

end Shape

namespace Term

/-- **The places the name of a term is read at**: those of its identifier, and of the type of its
receiver, or of the receiver itself if that declares no type.  A term of any other shape is read as
a whole. -/
inductive ReadsNameAt : Term → Span → Prop where
  | function {category : Category} {span place : Span} {identifier : Term} {params body : List Term}
      (h : ReadsNameAt identifier place) :
      ReadsNameAt (mk category span (.function identifier params body)) place
  | method {category : Category} {span place : Span} {receiver : Option Term} {identifier : Term}
      {params body : List Term} (h : ReadsNameAt identifier place) :
      ReadsNameAt (mk category span (.method receiver identifier params body)) place
  | receiverType {category : Category} {span place : Span} {receiver identifier type : Term}
      {params body : List Term} (htype : receiver.declaredType? = some type)
      (h : ReadsNameAt type place) :
      ReadsNameAt (mk category span (.method (some receiver) identifier params body)) place
  | receiver {category : Category} {span : Span} {receiver identifier : Term}
      {params body : List Term} (htype : receiver.declaredType? = none) :
      ReadsNameAt (mk category span (.method (some receiver) identifier params body)) receiver.span
  | whole {category : Category} {span : Span} {shape : Shape Term} (h : shape.isHeaded = false) :
      ReadsNameAt (mk category span shape) span

@[simp] theorem displayName_function (source : String) (c : Category) (sp : Span)
    (identifier : Term) (params body : List Term) :
    displayName source (mk c sp (.function identifier params body)) =
      displayName source identifier := by
  rw [displayName]

@[simp] theorem displayName_method_none (source : String) (c : Category) (sp : Span)
    (identifier : Term) (params body : List Term) :
    displayName source (mk c sp (.method none identifier params body)) =
      displayName source identifier := by
  rw [displayName]

/-- A method is qualified by the declared type of its receiver, or else by the receiver. -/
theorem displayName_method_some (source : String) (c : Category) (sp : Span)
    (receiver identifier : Term) (params body : List Term) :
    displayName source (mk c sp (.method (some receiver) identifier params body)) =
      match receiver.declaredType? with
      | some type => "(" ++ displayName source type ++ ") " ++ displayName source identifier
      | none => receiver.text source ++ "." ++ displayName source identifier := by
  fun_cases declaredType? receiver with
  | case1 _ _ _ _ _ type | case2 _ _ _ type =>
    cases type with
    -- a parameter without a type qualifies as any other receiver does
    | none => rw [displayName] <;> simp
    | some type => rw [displayName]
  | case3 _ hitems hparam =>
    rw [displayName]
    · exact fun _ _ _ _ _ _ => hitems _ _ _ _ _ _
    · exact fun _ _ _ _ => hparam _ _ _ _

theorem sizeOf_declaredType?_lt {receiver type : Term} (h : receiver.declaredType? = some type) :
    sizeOf type < sizeOf receiver := by
  fun_cases declaredType? receiver with
  | case1 _ _ _ _ _ declared | case2 _ _ _ declared =>
    rw [declaredType?] at h
    subst h
    simp only [mk.sizeOf_spec, Shape.indexed.sizeOf_spec, Shape.parameter.sizeOf_spec,
      List.cons.sizeOf_spec, Option.some.sizeOf_spec]
    omega
  | case3 _ hitems hparam =>
    rw [declaredType?] at h
    · cases h
    · exact hitems
    · exact hparam

/-- Parameters and statements are not looked at. -/
@[simp] theorem displayName_withLists (source : String) (c : Category) (sp : Span)
    (shape : Shape Term) (params body : List Term) :
    displayName source (mk c sp (shape.withLists params body)) =
      displayName source (mk c sp shape) := by
  cases shape with
  | function => rw [Shape.withLists, displayName_function, displayName_function]
  | method receiver =>
    cases receiver with
    | none => rw [Shape.withLists, displayName_method_none, displayName_method_none]
    | some receiver => rw [Shape.withLists, displayName_method_some, displayName_method_some]
  | _ => rfl

/-- **A name depends on the source only at the places it is read at.** -/
theorem displayName_congr {source source' : String} : ∀ {t : Term},
    (∀ place, t.ReadsNameAt place → Source.text source' place = Source.text source place) →
      t.displayName source' = t.displayName source
  | mk _ _ (.function identifier _ _), h => by
    rw [displayName_function, displayName_function]
    exact displayName_congr fun place hplace => h place (.function hplace)
  | mk _ _ (.method none identifier _ _), h => by
    rw [displayName_method_none, displayName_method_none]
    exact displayName_congr fun place hplace => h place (.method hplace)
  | mk _ _ (.method (some receiver) identifier _ _), h => by
    have hname : identifier.displayName source' = identifier.displayName source :=
      displayName_congr fun place hplace => h place (.method hplace)
    rw [displayName_method_some, displayName_method_some, hname]
    cases htype : receiver.declaredType? with
    | some type =>
      -- the type stands one or two levels below the receiver, so the sizes are compared by hand
      have hsize := sizeOf_declaredType?_lt htype
      have hqualifier : type.displayName source' = type.displayName source :=
        displayName_congr fun place hplace => h place (.receiverType htype hplace)
      simp only [hqualifier]
    | none =>
      have hqualifier : receiver.text source' = receiver.text source :=
        h receiver.span (.receiver htype)
      simp only [hqualifier]
  | mk _ span .leaf, h | mk _ span (.parameter _ _), h | mk _ span (.indexed _), h
  | mk _ span (.branch _), h => h span (.whole rfl)
termination_by t => sizeOf t

end Term

namespace Diff

/-- A node stays intact when intact parameters and statements take the place of its own. -/
theorem intact_withLists {c : Category} {sp : Span} {shape : Shape Diff}
    (hshape : shape.isHeaded) (h : (Diff.node c sp shape).Intact) {params body : List Diff}
    (hlists : ∀ d ∈ params ++ body, d.Intact) :
    (Diff.node c sp (shape.withLists params body)).Intact := by
  rw [intact_node] at h ⊢
  intro d hd
  rw [Shape.children_withLists hshape, List.mem_append] at hd
  rcases hd with hd | hd
  · exact h d (shape.head_subset_children hd)
  · exact hlists d hd

end Diff

namespace Sources

/-- **The head frames the context.**  An unchanged function or method in which nothing was deleted
gives the same context to every edit inside it that has none, whatever intact parameters and
statements stand in it, and whatever the two sources are, as long as the text after all edits is the
same at the places the name is read at. -/
theorem records_framed (s : Sources) {c : Category} {sp : Span} {shape : Shape Diff}
    (hcategory : c.establishesContext) (hshape : shape.isHeaded)
    (hintact : (Diff.node c sp shape).Intact) :
    ∃ after, (Diff.node c sp shape).after? = some after ∧
      ∀ params body : List Diff, (∀ d ∈ params ++ body, d.Intact) →
        ∀ s' : Sources, (∀ place, after.ReadsNameAt place →
            Source.text s'.after place = Source.text s.after place) →
          s'.records (.node c sp (shape.withLists params body)) =
            ((shape.withLists params body).children.flatMap s'.records).map
              (Record.fill (.enclosing ⟨c, after.displayName s.after, sp⟩)) := by
  refine ⟨_, Diff.after?_of_intact hintact, fun params body hlists s' hplaces => ?_⟩
  have hintact' := Diff.intact_withLists hshape hintact hlists
  have hname : (Diff.node c sp (shape.withLists params body)).rebuilt.displayName s'.after =
      (Diff.node c sp shape).rebuilt.displayName s.after := by
    rw [← Term.displayName_congr hplaces, Diff.rebuilt_node, Diff.rebuilt_node, Shape.map_withLists,
      Term.displayName_withLists]
  have hoffered : s'.offered (.node c sp (shape.withLists params body)) =
      some (.enclosing ⟨c, (Diff.node c sp shape).rebuilt.displayName s.after, sp⟩) := by
    simp only [offered, hintact', if_true, enclosing, hname]
  rw [records_node, hcategory, if_pos rfl, hoffered, Record.offer_some]

/-- The head of the method `func (s T) F()`, unchanged. -/
private def typedMethod (params body : List Diff) : Shape Diff :=
  .method
    (some (.node (.other "Params") (.ofBytes "func (s T) F()" 5 10) (.indexed
      [.node (.other "Parameter") (.ofBytes "func (s T) F()" 6 9) (.parameter
        (.node (.other "Identifier") (.ofBytes "func (s T) F()" 6 7) .leaf)
        (some (.node (.other "Identifier") (.ofBytes "func (s T) F()" 8 9) .leaf)))])))
    (.node (.other "Identifier") (.ofBytes "func (s T) F()" 11 12) .leaf) params body

/-- A call inserted into the method stands under `(T) F`.  So does a parameter inserted into it, in
sources that name the receiver otherwise and have nothing behind the parameters. -/
theorem records_framed_typedMethod :
    let s : Sources := ⟨"func (s T) F() { }", "func (s T) F() { f() }"⟩
    let s' : Sources := ⟨"", "func (t T) F(x)"⟩
    let span := Span.ofBytes s.after 0 22
    let call := Diff.leaf (.insert (.mk (.other "Call") (.ofBytes s.after 17 20) .leaf))
    let param := Diff.leaf (.insert (.mk (.other "Identifier") (.ofBytes s'.after 13 14) .leaf))
    Category.method.establishesContext ∧ (typedMethod [] [call]).isHeaded ∧
    (Diff.node .method span (typedMethod [] [call])).Intact ∧
    (s.records (.node .method span (typedMethod [] [call]))).map Record.context =
      [some (.enclosing ⟨.method, "(T) F", span⟩)] ∧
    (s'.records (.node .method span (typedMethod [param] []))).map Record.context =
      [some (.enclosing ⟨.method, "(T) F", span⟩)] := by
  intro s s' span call param
  have hcall : (Diff.node .method span (typedMethod [] [call])).Intact := by decide
  obtain ⟨after, hafter, hframe⟩ :=
    @records_framed s .method span (typedMethod [] [call]) rfl rfl hcall
  rw [Diff.after?_of_intact hcall, Option.some.injEq] at hafter
  subst hafter
  have hplaces (place : Span)
      (h : (Diff.node .method span (typedMethod [] [call])).rebuilt.ReadsNameAt place) :
      Source.text s'.after place = Source.text s.after place := by
    cases h with
    | method h =>
      cases h
      decide
    | receiverType htype h =>
      cases htype
      cases h
      decide
    | receiver htype => cases htype
    | whole h => cases h
  refine ⟨rfl, rfl, hcall, ?_, ?_⟩
  · have hself := hframe [] [call] (by decide) s fun _ _ => rfl
    exact (congrArg (List.map Record.context) hself).trans (by decide)
  · have hother := hframe [param] [] (by decide) s' hplaces
    exact (congrArg (List.map Record.context) hother).trans (by decide)

end Sources

end DiffContents
