import DiffContents.Proofs.Resolution

/-! # Visiting the children of a shape

The children of a shape are listed, replaced by a function with a state, replaced by one without,
and required to be there, every one of them.  Each of these goes by cases on the kind of shape, and
a walk relies on them to meet the same children in the same order.

A function with a state shows when it is called: once for each child, in the order of the list,
and what it returns are the children of the result (`calls_children`), while nothing else about the
shape changes (`sameOutline_mapM`).  A shape of optional children transposes exactly if all of them
are there (`transpose_isSome_iff`), and then to the shape of the children themselves.

A walk that keeps what it finds in its state therefore finds it in the order of the children:
`Sources.survey_node_eq_pass` reads the walk of a node as one pass of calls, which is where the
order of the records comes from.
-/
namespace DiffContents

universe u v

namespace Shape

variable {α : Type u} {β σ : Type v}

/-! ## A function with a state -/

/-- **A run of calls**, one for each argument in turn: the first starts in the given state, and each
of the others in the state the one before it left. -/
inductive Calls (f : α → StateM σ β) : List α → σ → List β → σ → Prop where
  | done (state : σ) : Calls f [] state [] state
  | call {a : α} {b : β} {as : List α} {bs : List β} {start next final : σ}
      (first : (f a).run start = (b, next)) (rest : Calls f as next bs final) :
      Calls f (a :: as) start (b :: bs) final

/-- **Two shapes of one outline**: of one kind, with as many children in each of its places. -/
def SameOutline (s : Shape α) (t : Shape β) : Prop := s.Matches (fun _ _ => True) t

variable {f : α → StateM σ β}

theorem Calls.append {as as' : List α} {bs bs' : List β} {start middle final : σ}
    (h : Calls f as start bs middle) (h' : Calls f as' middle bs' final) :
    Calls f (as ++ as') start (bs ++ bs') final := by
  induction h with
  | done => exact h'
  | call first _ ih => exact .call first (ih h')

/-- There are as many values as arguments. -/
theorem Calls.forall₂ {as : List α} {bs : List β} {start final : σ}
    (h : Calls f as start bs final) : List.Forall₂ (fun _ _ => True) as bs := by
  induction h with
  | done => exact .nil
  | call _ _ ih => exact .cons trivial ih

theorem calls_mapM (f : α → StateM σ β) (as : List α) (start : σ) :
    Calls f as start ((as.mapM f).run start).1 ((as.mapM f).run start).2 := by
  induction as generalizing start with
  | nil => exact .done start
  | cons a as ih =>
    rw [List.mapM_cons]
    exact .call rfl (ih ((f a).run start).2)

/-- **Every child is visited once, in source order.** -/
theorem calls_children (f : α → StateM σ β) (s : Shape α) (start : σ) :
    Calls f s.children start ((s.mapM f).run start).1.children ((s.mapM f).run start).2 := by
  cases s with
  | leaf => exact .done start
  | function identifier params body =>
    exact .call rfl ((calls_mapM f params _).append (calls_mapM f body _))
  | method receiver identifier params body =>
    cases receiver with
    | none => exact .call rfl ((calls_mapM f params _).append (calls_mapM f body _))
    | some receiver =>
      exact .call rfl (.call rfl ((calls_mapM f params _).append (calls_mapM f body _)))
  | parameter identifier type =>
    cases type with
    | none => exact .call rfl (.done _)
    | some type => exact .call rfl (.call rfl (.done _))
  | indexed items => exact calls_mapM f items start
  | branch nodes => exact calls_mapM f nodes start

/-- **Only the children are replaced.** -/
theorem sameOutline_mapM (f : α → StateM σ β) (s : Shape α) (start : σ) :
    s.SameOutline ((s.mapM f).run start).1 := by
  have list (as : List α) (state : σ) :
      List.Forall₂ (fun _ _ => True) as ((as.mapM f).run state).1 :=
    (calls_mapM f as state).forall₂
  cases s with
  | leaf => exact .leaf
  | function _ params body => exact .function trivial (list params _) (list body _)
  | method receiver _ params body =>
    cases receiver with
    | none => exact .method .none trivial (list params _) (list body _)
    | some => exact .method (.some trivial) trivial (list params _) (list body _)
  | parameter _ type =>
    cases type with
    | none => exact .parameter trivial .none
    | some => exact .parameter trivial (.some trivial)
  | indexed items => exact .indexed (list items start)
  | branch nodes => exact .branch (list nodes start)

/-- A function that leaves the state alone replaces the children one by one. -/
theorem mapM_pure {m : Type v → Type v} [Monad m] [LawfulMonad m] (g : α → β) (s : Shape α) :
    (s.mapM fun a => (pure (g a) : m β)) = pure (s.map g) := by
  cases s with
  | method receiver => cases receiver <;> simp [mapM, map]
  | parameter _ type => cases type <;> simp [mapM, map]
  | _ => simp [mapM, map]

/-- A shape is told by its outline and its children. -/
theorem eq_of_sameOutline {s : Shape α} {t u : Shape β} (ht : s.SameOutline t)
    (hu : s.SameOutline u) (h : t.children = u.children) : t = u := by
  -- The children are listed without a mark between parameters and body, so their number decides.
  have lists {as : List α} {ps bs qs cs : List β} (hps : List.Forall₂ (fun _ _ => True) as ps)
      (hqs : List.Forall₂ (fun _ _ => True) as qs) (h : ps ++ bs = qs ++ cs) : ps = qs ∧ bs = cs :=
    List.append_inj h (hps.length_eq.symm.trans hqs.length_eq)
  cases ht with
  | leaf =>
    cases hu
    rfl
  | function _ hparams _ =>
    cases hu with
    | function _ hparams' _ =>
      obtain ⟨rfl, hrest⟩ := List.cons.inj h
      obtain ⟨rfl, rfl⟩ := lists hparams hparams' hrest
      rfl
  | method hreceiver _ hparams _ =>
    cases hu with
    | method hreceiver' _ hparams' _ =>
      cases hreceiver with
      | none =>
        cases hreceiver'
        obtain ⟨rfl, hrest⟩ := List.cons.inj h
        obtain ⟨rfl, rfl⟩ := lists hparams hparams' hrest
        rfl
      | some =>
        cases hreceiver'
        obtain ⟨rfl, hothers⟩ := List.cons.inj h
        obtain ⟨rfl, hrest⟩ := List.cons.inj hothers
        obtain ⟨rfl, rfl⟩ := lists hparams hparams' hrest
        rfl
  | parameter _ htype =>
    cases hu with
    | parameter _ htype' =>
      obtain ⟨rfl, hrest⟩ := List.cons.inj h
      cases htype with
      | none =>
        cases htype'
        rfl
      | some =>
        cases htype'
        obtain ⟨rfl, -⟩ := List.cons.inj hrest
        rfl
  | indexed =>
    cases hu with
    | indexed => exact congrArg indexed h
  | branch =>
    cases hu with
    | branch => exact congrArg branch h

theorem sameOutline_map (g : α → β) (s : Shape α) : s.SameOutline (s.map g) := by
  have hrun : (s.mapM fun a => (pure (g a) : StateM PUnit β)).run ⟨⟩ = (s.map g, ⟨⟩) := by
    rw [mapM_pure]
    rfl
  have h := sameOutline_mapM (fun a => (pure (g a) : StateM PUnit β)) s ⟨⟩
  rwa [hrun] at h

/-- Calls that change the state by their argument, and return what is told by the argument alone,
fold the state over the arguments. -/
theorem Calls.eq_foldl {g : α → β} {step : σ → α → σ} {as : List α} {bs : List β} {start final : σ}
    (h : Calls (fun a => modifyGet fun state => (g a, step state a)) as start bs final) :
    bs = as.map g ∧ final = as.foldl step start := by
  induction h with
  | done => exact ⟨rfl, rfl⟩
  | call first _ ih =>
    obtain ⟨rfl, rfl⟩ := Prod.mk.inj first
    obtain ⟨rfl, rfl⟩ := ih
    exact ⟨rfl, rfl⟩

/-- **Visiting the children in turn folds the state over them**, in the order of the list. -/
theorem run_mapM_modifyGet (g : α → β) (step : σ → α → σ) (s : Shape α) (start : σ) :
    (s.mapM fun a => (modifyGet fun state => (g a, step state a) : StateM σ β)).run start =
      (s.map g, s.children.foldl step start) := by
  have hcalls := calls_children
    (fun a => (modifyGet fun state => (g a, step state a) : StateM σ β)) s start
  obtain ⟨hvalues, hfinal⟩ := hcalls.eq_foldl
  rw [← children_map] at hvalues
  have hshape := eq_of_sameOutline (sameOutline_mapM _ s start) (sameOutline_map g s) hvalues
  exact Prod.ext hshape hfinal

/-! ## Children that may be missing -/

/-- A shape whose children are all there is one of children seen as optional ones. -/
theorem exists_map_some {s : Shape (Option α)} (h : ∀ o ∈ s.children, o.isSome) :
    ∃ t : Shape α, t.map some = s := by
  have one (o : Option α) (ho : o.isSome) : ∃ a, some a = o := ⟨o.get ho, Option.some_get ho⟩
  have list (os : List (Option α)) (hos : ∀ o ∈ os, o.isSome) : ∃ as : List α, as.map some = os :=
    ⟨os.attach.map fun o => o.1.get (hos o.1 o.2), by simp⟩
  cases s with
  | leaf => exact ⟨leaf, rfl⟩
  | function identifier params body =>
    simp only [children, List.forall_mem_cons, List.forall_mem_append] at h
    obtain ⟨i, rfl⟩ := one identifier h.1
    obtain ⟨ps, rfl⟩ := list params h.2.1
    obtain ⟨bs, rfl⟩ := list body h.2.2
    exact ⟨function i ps bs, rfl⟩
  | method receiver identifier params body =>
    simp only [children, List.forall_mem_cons, List.forall_mem_append] at h
    obtain ⟨i, rfl⟩ := one identifier h.2.1
    obtain ⟨ps, rfl⟩ := list params h.2.2.1
    obtain ⟨bs, rfl⟩ := list body h.2.2.2
    cases receiver with
    | none => exact ⟨method none i ps bs, rfl⟩
    | some receiver =>
      obtain ⟨r, rfl⟩ := one receiver (h.1 receiver List.mem_cons_self)
      exact ⟨method (some r) i ps bs, rfl⟩
  | parameter identifier type =>
    simp only [children, List.forall_mem_cons] at h
    obtain ⟨i, rfl⟩ := one identifier h.1
    cases type with
    | none => exact ⟨parameter i none, rfl⟩
    | some type =>
      obtain ⟨y, rfl⟩ := one type (h.2 type List.mem_cons_self)
      exact ⟨parameter i (some y), rfl⟩
  | indexed items =>
    obtain ⟨as, rfl⟩ := list items h
    exact ⟨indexed as, rfl⟩
  | branch nodes =>
    obtain ⟨as, rfl⟩ := list nodes h
    exact ⟨branch as, rfl⟩

/-- **All children have to be there**, and that is enough. -/
theorem transpose_isSome_iff {s : Shape (Option α)} :
    s.transpose.isSome ↔ ∀ o ∈ s.children, o.isSome := by
  constructor
  · intro h
    obtain ⟨t, ht⟩ := Option.isSome_iff_exists.mp h
    rw [eq_map_some_of_transpose ht, children_map, List.forall_mem_map]
    exact fun _ _ => rfl
  · intro h
    obtain ⟨t, rfl⟩ := exists_map_some h
    rw [transpose_map_some]
    rfl

/-- **The children of a shape, however they are visited.**  A function with a state is called once
for each child, in the order of the list of children; what it returns are the children of the
result, and the outline of the shape stays.  If it leaves the state alone, that is what replacing the
children without a state does.  A shape of optional children transposes exactly if each child is
there, and then to the one shape that gives it back when its children are seen as optional; and
every shape is what it transposes to when they are. -/
theorem traversals_agree :
    (∀ (f : α → StateM σ β) (s : Shape α) (start : σ), ∃ t final,
      (s.mapM f).run start = (t, final) ∧ Calls f s.children start t.children final ∧
        s.SameOutline t) ∧
    (∀ (g : α → β) (s : Shape α) (state : σ),
      (s.mapM fun a => (pure (g a) : StateM σ β)).run state = (s.map g, state)) ∧
    (∀ s : Shape (Option α), (s.transpose.isSome ↔ ∀ o ∈ s.children, o.isSome) ∧
      ∀ t : Shape α, s.transpose = some t ↔ s.children = t.children.map some ∧ t.map some = s) ∧
    ∀ t : Shape α, (t.map some).transpose = some t := by
  refine ⟨fun f s start => ?_, fun g s state => ?_, fun s => ⟨transpose_isSome_iff, fun t => ?_⟩,
    transpose_map_some⟩
  · exact ⟨_, _, rfl, calls_children f s start, sameOutline_mapM f s start⟩
  · rw [mapM_pure]
    rfl
  · constructor
    · intro h
      obtain rfl := eq_map_some_of_transpose h
      exact ⟨children_map some t, rfl⟩
    · rintro ⟨-, rfl⟩
      exact transpose_map_some t

/-- Numbers are given out from the receiver of a method on. -/
example : ((method (some 'r') 'i' ['p'] ['b', 'c']).mapM (m := StateM Nat)
      fun c => modifyGet fun n => ((c, n), n + 1)).run 0 =
    (method (some ('r', 0)) ('i', 1) [('p', 2)] [('b', 3), ('c', 4)], 5) := rfl

end Shape

/-! ## The children of a node in a walk -/

namespace Survey

/-- **One child of a node in a walk.**  Its tree after all edits is handed over, and what was found
in it is put behind what was found in the children before it. -/
def visit (w : Survey) : StateM (List Record × List MissedContext) (Option Term) :=
  modifyGet fun found => (w.after?, found.1 ++ w.records, found.2 ++ w.missed)

/-- What is found in the children of a shape, however they are walked, is found in their order. -/
theorem run_mapM_visit {α : Type u} (walk : α → Survey) (shape : Shape α) :
    (shape.mapM fun a => (walk a).visit).run ([], []) = (shape.map fun a => (walk a).after?,
      shape.children.flatMap fun a => (walk a).records,
      shape.children.flatMap fun a => (walk a).missed) := by
  have hfold (as : List α) (found : List Record × List MissedContext) :
      as.foldl (fun found a => (found.1 ++ (walk a).records, found.2 ++ (walk a).missed)) found =
        (found.1 ++ as.flatMap fun a => (walk a).records,
          found.2 ++ as.flatMap fun a => (walk a).missed) := by
    induction as generalizing found with
    | nil => simp
    | cons a as ih => simp [ih]
  have hrun := Shape.run_mapM_modifyGet (fun a => (walk a).after?)
    (fun (found : List Record × List MissedContext) a =>
      (found.1 ++ (walk a).records, found.2 ++ (walk a).missed)) shape ([], [])
  rw [hfold] at hrun
  exact hrun

end Survey

/-- **A node is walked in one pass over its children**, each of them met once, in source order, and
walked on its own.  The pass leaves the shape of what became of the children, and what was found in
them.  The shape transposes to the node as it stands after all edits, which a function or method
offers as the context of what was found. -/
theorem Sources.survey_node_eq_pass (s : Sources) (c : Category) (sp : Span) (shape : Shape Diff) :
    let pass := (shape.mapM fun d => (s.survey d).visit).run ([], [])
    let after? := pass.1.transpose.map (Term.mk c sp)
    s.survey (.node c sp shape) = {
      after? := after?
      records := pass.2.1.map
        (Record.offer (if c.establishesContext then after?.map (s.enclosing c sp) else none))
      missed := pass.2.2 ++
        if c.establishesContext && after?.isNone then [⟨c, sp.start.line⟩] else [] } := by
  intro pass after?
  have hpass : pass = (shape.map fun d => (s.survey d).after?,
      shape.children.flatMap fun d => (s.survey d).records,
      shape.children.flatMap fun d => (s.survey d).missed) := Survey.run_mapM_visit s.survey shape
  have hafter : ((shape.map s.survey).map Survey.after?).transpose.map (Term.mk c sp) = after? := by
    rw [Shape.map_map]
    unfold after?
    rw [hpass]
    rfl
  rw [survey_node]
  unfold join
  rw [hafter, Shape.children_map, List.flatMap_map, List.flatMap_map, hpass]
  by_cases hc : c.establishesContext
  · cases after? <;> simp [hc, Record.offer_some]
  · simp [hc]

end DiffContents
