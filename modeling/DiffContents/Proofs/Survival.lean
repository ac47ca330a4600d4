import DiffContents.Proofs.Irredundance
import Mathlib.Data.List.Basic
import Mathlib.Data.List.Induction

/-! # Which records remain

`Record.dedup` compares every record with kept ones, whose contexts may have been rewritten by
then.  This module says what remains in terms of the input alone.  Whether a record survives depends
on the records before it (`Record.survives`); how it is reported depends, if it is of an edited
declaration, on the records after it as well (`Record.outcome`).

The invariant of the fold is that the kept records are the survivors so far, each with the outcome
it has so far.  One more record changes the outcome of at most one survivor, the one that absorbs
it, and only if it is not covered; `outcome_concat` says so.
-/
namespace DiffContents

/-- The family of a declaration: its category, and its name without regard to case. -/
def Declaration.family (d : Declaration) : Category × String :=
  (d.category, Text.lowercase d.name)

theorem Declaration.alike_iff_family {a b : Declaration} :
    a.alike b = true ↔ a.family = b.family := by
  rw [alike_iff, family, family, Prod.mk.injEq]

namespace Record

/-- The record is of an edited declaration of the family. -/
def edits (r : Record) (family : Category × String) : Bool :=
  match r.context with
  | some (.edited d _) => decide (d.family = family)
  | _ => false

/-- **A record is kept** when no earlier record has its context, or its lack of one, and no earlier
record is of an edited declaration of its family. -/
def survives (earlier : List Record) (r : Record) : Bool :=
  match r.context with
  | none => decide (∀ e ∈ earlier, e.context ≠ none)
  | some (.edited d _) => decide (∀ e ∈ earlier, e.edits d.family = false)
  | some (.enclosing d) =>
    decide (∀ e ∈ earlier, e.context ≠ some (.enclosing d) ∧ e.edits d.family = false)

/-- **A later record marks a kept one** of an edited declaration as modified when it is of the same
family, and either is of an edited declaration too, with another context, or lies in a declaration
that no record before the kept one lies in. -/
def marks (earlier : List Record) (d : Declaration) (change : Change) (k : Record) : Bool :=
  match k.context with
  | none => false
  | some (.edited d' change') =>
    decide (d'.family = d.family ∧ Context.edited d' change' ≠ .edited d change)
  | some (.enclosing d') =>
    decide (d'.family = d.family ∧ ∀ e ∈ earlier, e.context ≠ some (.enclosing d'))

/-- **How a kept record is reported**: as it came, but as modified if a later record marks it. -/
def outcome (earlier : List Record) (r : Record) (later : List Record) : Record :=
  match r.context with
  | some (.edited d change) =>
    { r with context := some (.edited d
        (if change = .modified ∨ ∃ k ∈ later, marks earlier d change k = true then .modified
          else change)) }
  | _ => r

/-! ## Every place in a list -/

section Places

universe u
variable {α : Type u}

/-- The places of a list: every element, with those before it and those after it. -/
def places : List α → List (List α × α × List α)
  | [] => []
  | x :: xs => ([], x, xs) :: (places xs).map fun p => (x :: p.1, p.2)

theorem mem_places_iff {xs pre post : List α} {x : α} :
    (pre, x, post) ∈ places xs ↔ xs = pre ++ x :: post := by
  induction xs generalizing pre with
  | nil => simp [places]
  | cons y ys ih =>
    cases pre with
    | nil => simp [places, eq_comm]
    | cons a pre => simp [places, ih, eq_comm, and_comm]

theorem places_concat (xs : List α) (y : α) :
    places (xs ++ [y]) =
      (places xs).map (fun p => (p.1, p.2.1, p.2.2 ++ [y])) ++ [(xs, y, [])] := by
  induction xs with
  | nil => rfl
  | cons x xs ih => simp [places, ih, Function.comp_def]

theorem places_eq_map_finRange (xs : List α) :
    places xs = (List.finRange xs.length).map fun j : Fin xs.length =>
      (xs.take j.val, xs[j], xs.drop (j.val + 1)) := by
  induction xs with
  | nil => rfl
  | cons x xs ih => simp [places, ih, List.finRange_succ, Function.comp_def]

/-- Two places of one list are the same, or one is before the other. -/
theorem places_trichotomy {xs e₁ l₁ e₂ l₂ : List α} {x₁ x₂ : α} (h₁ : xs = e₁ ++ x₁ :: l₁)
    (h₂ : xs = e₂ ++ x₂ :: l₂) : x₁ ∈ e₂ ∨ (e₁ = e₂ ∧ x₁ = x₂ ∧ l₁ = l₂) ∨ x₂ ∈ e₁ := by
  rw [h₁] at h₂
  rcases List.append_eq_append_iff.mp h₂ with ⟨a, rfl, h⟩ | ⟨a, rfl, h⟩
  · cases a with
    | nil => simp_all
    | cons b a =>
      obtain ⟨rfl, -⟩ := List.cons.inj h
      simp
  · cases a with
    | nil => simp_all
    | cons b a =>
      obtain ⟨rfl, -⟩ := List.cons.inj h
      simp

/-- Among the elements with a property there is a first one. -/
theorem exists_first_place {p : α → Prop} {xs : List α} (h : ∃ x ∈ xs, p x) :
    ∃ pre x post, xs = pre ++ x :: post ∧ p x ∧ ∀ e ∈ pre, ¬ p e := by
  classical
  obtain ⟨x, hx⟩ := Option.isSome_iff_exists.mp
    (List.find?_isSome (p := fun x => decide (p x)).mpr (by simpa using h))
  obtain ⟨hp, pre, post, rfl, hpre⟩ := List.find?_eq_some_iff_append.mp hx
  exact ⟨pre, x, post, rfl, by simpa using hp, fun e he => by simpa using hpre e he⟩

end Places

/-- A record that marks another is about the same family. -/
theorem exists_of_marks {earlier : List Record} {d : Declaration} {change : Change} {k : Record}
    (h : marks earlier d change k = true) :
    ∃ c, k.context = some c ∧ c.declaration.family = d.family := by
  unfold marks at h
  split at h
  · cases h
  · rename_i hk
    exact ⟨_, hk, (of_decide_eq_true h).1⟩
  · rename_i hk
    exact ⟨_, hk, (of_decide_eq_true h).1⟩

/-! ## Survival and blocking -/

theorem edits_family_iff {e r : Record} {c : Context} (hr : r.context = some c) :
    e.edits c.declaration.family = true ↔ e.absorbs r = true := by
  unfold edits absorbs
  rw [hr]
  cases e.context with
  | none => simp
  | some k =>
    cases k with
    | edited d change => simp [Declaration.alike_iff_family]
    | enclosing d => simp

/-- A record survives when no earlier one blocks it. -/
theorem survives_iff {earlier : List Record} {r : Record} :
    survives earlier r = true ↔ ∀ e ∈ earlier, e.blocks r = false := by
  have hblocks (e : Record) :
      e.blocks r = false ↔ e.context ≠ r.context ∧ e.absorbs r = false := by
    rw [← Bool.not_eq_true, blocks_iff, not_or, Bool.not_eq_true]
  simp only [hblocks]
  unfold survives
  cases hr : r.context with
  | none => simp [absorbs, hr]
  | some c =>
    have hedits (e : Record) : e.edits c.declaration.family = e.absorbs r :=
      Bool.eq_iff_iff.mpr (edits_family_iff hr)
    cases c with
    | enclosing d =>
      simp only [Context.declaration] at hedits
      simp [hedits]
    | edited d change =>
      simp only [Context.declaration] at hedits
      simp only [hedits, decide_eq_true_eq]
      constructor
      · intro h e he
        refine ⟨fun heq => ?_, h e he⟩
        have habs : e.absorbs r = true := absorbs_of_context_eq (heq.trans hr.symm) hr
        exact Bool.false_ne_true ((h e he).symm.trans habs)
      · exact fun h e he => (h e he).2

theorem not_absorbs_of_survives {earlier : List Record} {e r : Record}
    (hs : survives earlier r = true) (he : e ∈ earlier) : ¬ e.absorbs r = true := by
  intro h
  have hblocks : e.blocks r = true := blocks_iff.mpr (.inr h)
  rw [survives_iff.mp hs e he] at hblocks
  cases hblocks

theorem absorbs_trans {e r q : Record} (h : e.absorbs r = true) (h' : r.absorbs q = true) :
    e.absorbs q = true := by
  obtain ⟨d, change, c, he, hr, hd⟩ := absorbs_iff.mp h
  obtain ⟨d', change', c', hr', hq, hd'⟩ := absorbs_iff.mp h'
  obtain rfl : c = .edited d' change' := Option.some.inj (hr.symm.trans hr')
  exact absorbs_iff.mpr ⟨d, change, c', he, hq, Declaration.alike_trans hd hd'⟩

/-- What blocks a record blocks what that record blocks. -/
theorem blocks_trans {e r q : Record} (h : e.blocks r = true) (h' : r.blocks q = true) :
    e.blocks q = true := by
  rw [blocks_iff] at h h' ⊢
  rcases h with h | h <;> rcases h' with h' | h'
  · exact .inl (h.trans h')
  · right
    obtain ⟨d, change, c, hr, hq, hd⟩ := absorbs_iff.mp h'
    exact absorbs_iff.mpr ⟨d, change, c, h.trans hr, hq, hd⟩
  · right
    obtain ⟨d, change, c, he, hr, hd⟩ := absorbs_iff.mp h
    exact absorbs_iff.mpr ⟨d, change, c, he, h' ▸ hr, hd⟩
  · exact .inr (absorbs_trans h h')

/-! ## Outcomes -/

theorem asModified_asModified (r : Record) : r.asModified.asModified = r.asModified := by
  obtain ⟨p, _ | (_ | _)⟩ := r <;> rfl

theorem outcome_of_not_edited {r : Record} (h : ¬ ∃ d change, r.context = some (.edited d change))
    (earlier later : List Record) : outcome earlier r later = r := by
  unfold outcome
  split
  · rename_i d change hr
    exact absurd ⟨d, change, hr⟩ h
  · rfl

/-- A kept record of an edited declaration is reported as it came or as modified. -/
theorem outcome_of_edited {r : Record} {d : Declaration} {change : Change}
    (hr : r.context = some (.edited d change)) (earlier later : List Record) :
    outcome earlier r later =
      if ∃ k ∈ later, marks earlier d change k = true then r.asModified else r := by
  obtain ⟨p, c⟩ := r
  obtain rfl : c = _ := hr
  unfold outcome
  dsimp only
  by_cases hm : ∃ k ∈ later, marks earlier d change k = true
  · simp only [hm, or_true, if_true]
    rfl
  · simp only [hm, or_false, if_false]
    split <;> simp_all

@[simp] theorem outcome_nil (earlier : List Record) (r : Record) : outcome earlier r [] = r := by
  by_cases hr : ∃ d change, r.context = some (.edited d change)
  · obtain ⟨d, change, hr⟩ := hr
    simp [outcome_of_edited hr]
  · exact outcome_of_not_edited hr earlier []

theorem outcome_eq_or (earlier : List Record) (r : Record) (later : List Record) :
    outcome earlier r later = r ∨ outcome earlier r later = r.asModified := by
  by_cases hr : ∃ d change, r.context = some (.edited d change)
  · obtain ⟨d, change, hr⟩ := hr
    rw [outcome_of_edited hr]
    split
    · exact .inr rfl
    · exact .inl rfl
  · exact .inl (outcome_of_not_edited hr earlier later)

@[simp] theorem blocks_outcome (earlier later : List Record) (r q : Record) :
    (outcome earlier r later).blocks q = r.blocks q := by
  rcases outcome_eq_or earlier r later with h | h <;> simp [h]

@[simp] theorem absorbs_outcome (earlier later : List Record) (r q : Record) :
    (outcome earlier r later).absorbs q = r.absorbs q := by
  rcases outcome_eq_or earlier r later with h | h <;> simp [h]

@[simp] theorem absorbs_outcome_right (earlier later : List Record) (r q : Record) :
    q.absorbs (outcome earlier r later) = q.absorbs r := by
  rcases outcome_eq_or earlier r later with h | h <;> simp [h]

/-- A later record marks a survivor when the survivor absorbs it and no record so far has its
context. -/
theorem marks_iff {earlier : List Record} {r k : Record} {d : Declaration} {change : Change}
    (hr : r.context = some (.edited d change)) (hs : survives earlier r = true) :
    marks earlier d change k = true ↔
      r.absorbs k = true ∧ ∀ e ∈ earlier ++ [r], e.context ≠ k.context := by
  have habs : r.absorbs k = true ↔
      ∃ c, k.context = some c ∧ c.declaration.family = d.family := by
    rw [absorbs_iff]
    constructor
    · rintro ⟨d₀, change₀, c, he, hc, hd⟩
      obtain ⟨rfl, rfl⟩ : d = d₀ ∧ change = change₀ := by simpa [hr] using he
      exact ⟨c, hc, (Declaration.alike_iff_family.mp hd).symm⟩
    · rintro ⟨c, hc, hd⟩
      exact ⟨d, change, c, hr, hc, Declaration.alike_iff_family.mpr hd.symm⟩
  rw [habs]
  unfold marks
  cases hk : k.context with
  | none => simp
  | some c =>
    cases c with
    | enclosing d' =>
      rw [decide_eq_true_eq]
      constructor
      · rintro ⟨hd, h⟩
        refine ⟨⟨_, rfl, hd⟩, fun e he => ?_⟩
        rcases List.mem_append.mp he with he | he
        · exact h e he
        · rw [List.mem_singleton] at he
          subst he
          simp [hr]
      · rintro ⟨⟨c, hc, hd⟩, h⟩
        obtain rfl := Option.some.inj hc
        exact ⟨hd, fun e he => h e (List.mem_append_left _ he)⟩
    | edited d' change' =>
      rw [decide_eq_true_eq]
      constructor
      · rintro ⟨hd, hne⟩
        refine ⟨⟨_, rfl, hd⟩, fun e he heq => ?_⟩
        rcases List.mem_append.mp he with he | he
        · exact not_absorbs_of_survives hs he <|
            absorbs_iff.mpr ⟨d', change', _, heq, hr, Declaration.alike_iff_family.mpr hd⟩
        · rw [List.mem_singleton] at he
          subst he
          exact hne (Option.some.inj (heq.symm.trans hr))
      · rintro ⟨⟨c, hc, hd⟩, h⟩
        obtain rfl := Option.some.inj hc
        exact ⟨hd, fun heq => h r (by simp) (hr.trans (congrArg some heq.symm))⟩

/-- Where nothing marks a survivor of an edited declaration, every record of an edited declaration
of its family has the context of the survivor. -/
theorem context_eq_of_unmarked {earlier later : List Record} {x q : Record} {d d' : Declaration}
    {change change' : Change} (hs : survives earlier x = true)
    (hx : x.context = some (.edited d change)) (hm : ∀ k ∈ later, marks earlier d change k = false)
    (hmem : q ∈ earlier ++ x :: later) (hq : q.context = some (.edited d' change'))
    (hd : d'.family = d.family) : q.context = x.context := by
  rw [List.mem_append, List.mem_cons] at hmem
  rcases hmem with hmem | rfl | hmem
  · have habs : q.absorbs x = true :=
      absorbs_iff.mpr ⟨d', change', _, hq, hx, Declaration.alike_iff_family.mpr hd⟩
    exact absurd habs (not_absorbs_of_survives hs hmem)
  · rfl
  · have hq' := hm q hmem
    rw [hq, hx]
    simpa [marks, hq, hd] using hq'

/-! ## The invariant of the fold -/

/-- What remains at a place, if anything. -/
def survivor? (p : List Record × Record × List Record) : Option Record :=
  if survives p.1 p.2.1 then some (outcome p.1 p.2.1 p.2.2) else none

/-- The records that survive, each with its outcome. -/
def survivors (rs : List Record) : List Record := (places rs).filterMap survivor?

theorem mem_survivors_iff {rs : List Record} {k : Record} : k ∈ survivors rs ↔
    ∃ earlier r later, rs = earlier ++ r :: later ∧ survives earlier r = true ∧
      outcome earlier r later = k := by
  unfold survivors
  rw [List.mem_filterMap]
  constructor
  · rintro ⟨⟨earlier, r, later⟩, hp, hk⟩
    unfold survivor? at hk
    split at hk
    · rename_i hs
      exact ⟨earlier, r, later, mem_places_iff.mp hp, hs, Option.some.inj hk⟩
    · cases hk
  · rintro ⟨earlier, r, later, hp, hs, rfl⟩
    exact ⟨(earlier, r, later), mem_places_iff.mpr hp, by simp [survivor?, hs]⟩

/-- The survivors block what the records they survive from block. -/
theorem exists_survivor_blocks {rs : List Record} {q : Record} :
    (∃ k ∈ survivors rs, k.blocks q = true) ↔ ∃ e ∈ rs, e.blocks q = true := by
  constructor
  · rintro ⟨k, hk, hq⟩
    obtain ⟨earlier, r, later, rfl, -, rfl⟩ := mem_survivors_iff.mp hk
    rw [blocks_outcome] at hq
    exact ⟨r, by simp, hq⟩
  · intro h
    obtain ⟨earlier, r, later, rfl, hq, hfirst⟩ := exists_first_place h
    have hs : survives earlier r = true := survives_iff.mpr fun e he =>
      Bool.eq_false_iff.mpr fun hb => hfirst e he (blocks_trans hb hq)
    refine ⟨outcome earlier r later, mem_survivors_iff.mpr ⟨_, _, _, rfl, hs, rfl⟩, ?_⟩
    rwa [blocks_outcome]

theorem absorbs_congr_right {e r q : Record} (h : r.context = q.context) :
    e.absorbs r = e.absorbs q := by
  unfold absorbs
  rw [h]

/-- Two records that absorb a third absorb each other. -/
theorem absorbs_of_common {e k r : Record} (h : e.absorbs r = true) (h' : k.absorbs r = true) :
    e.absorbs k = true := by
  obtain ⟨d, change, c, he, hr, hd⟩ := absorbs_iff.mp h
  obtain ⟨d', change', c', hk, hr', hd'⟩ := absorbs_iff.mp h'
  obtain rfl : c = c' := Option.some.inj (hr.symm.trans hr')
  have hdd' : d.alike d' = true := Declaration.alike_trans hd (Declaration.alike_symm hd')
  exact absorbs_iff.mpr ⟨d, change, _, he, hk, hdd'⟩

/-- **A step on irredundant records.**  Those that absorb the incoming record are reported as
modified from then on, unless a kept record covers it. -/
theorem keep_eq_map {kept : List Record} (h : Irredundant kept) (r : Record) :
    keep kept r = (kept.map fun k =>
        if (∀ e ∈ kept, e.covers r = false) ∧ k.absorbs r = true then k.asModified else k) ++
      if ∀ k ∈ kept, k.blocks r = false then [r] else [] := by
  rcases keep_cases kept r with
    ⟨⟨k, hk, hcov⟩, he⟩ | ⟨hnone, pre, k, post, rfl, hk, he⟩ | ⟨hnone, he⟩
  · have hcovered : ¬ ∀ e ∈ kept, e.covers r = false := fun h => by simp [h k hk] at hcov
    have hblocked : ¬ ∀ e ∈ kept, e.blocks r = false := fun h => by
      have := h k hk
      simp [blocks, hcov] at this
    simp [he, hcovered, hblocked]
  · rw [irredundant_iff_pairwise, List.pairwise_append, List.pairwise_cons] at h
    obtain ⟨-, ⟨hpost, -⟩, hpre⟩ := h
    -- any other absorbing record would absorb `k` or be absorbed by it
    have hpre' : ∀ a ∈ pre, a.absorbs r = false := fun a ha => Bool.eq_false_iff.mpr fun habs =>
      Bool.false_ne_true ((hpre a ha k (by simp)).symm.trans
        (blocks_iff.mpr (.inr (absorbs_of_common habs hk))))
    have hpost' : ∀ a ∈ post, a.absorbs r = false := fun a ha => Bool.eq_false_iff.mpr fun habs =>
      Bool.false_ne_true ((hpost a ha).symm.trans
        (blocks_iff.mpr (.inr (absorbs_of_common hk habs))))
    have hself (l : List Record) (hl : ∀ a ∈ l, a.absorbs r = false) :
        (l.map fun k => if k.absorbs r = true then k.asModified else k) = l :=
      (List.map_congr_left fun a ha => by simp [hl a ha]).trans (List.map_id l)
    have hblocked : ¬ ∀ e ∈ pre ++ k :: post, e.blocks r = false := fun h => by
      have := h k (by simp)
      simp [blocks, hk] at this
    rw [he, if_neg hblocked, List.append_nil]
    simp only [eq_true hnone, true_and]
    rw [List.map_append, List.map_cons, hself pre hpre', hself post hpost', if_pos hk]
  · have habs : ∀ k ∈ kept, k.absorbs r = false := fun k hk => by
      have := hnone k hk
      simp_all [blocks]
    rw [he, if_pos hnone]
    congr 1
    exact ((List.map_congr_left fun a ha => by simp [habs a ha]).trans (List.map_id kept)).symm

/-- Where a survivor that is reported as it came absorbs an incoming record, the survivors cover
that record exactly when some record up to the survivor has its context. -/
theorem exists_survivor_covers {earlier later : List Record} {x r : Record}
    (hs : survives earlier x = true) (hx : outcome earlier x later = x)
    (habs : x.absorbs r = true) :
    (∃ k ∈ survivors (earlier ++ x :: later), k.context = r.context) ↔
      ∃ e ∈ earlier ++ [x], e.context = r.context := by
  -- an earlier record of an edited declaration of this family would have kept `x` from surviving
  have hfirst : ∀ e ∈ earlier, ¬ e.absorbs r = true := fun e he h =>
    not_absorbs_of_survives hs he (absorbs_of_common h habs)
  constructor
  · rintro ⟨k, hk, hkr⟩
    obtain ⟨earlier', x', later', hrs, hs', rfl⟩ := mem_survivors_iff.mp hk
    have hxx' : x.absorbs x' = true := by
      rwa [← absorbs_outcome_right earlier' later', absorbs_congr_right hkr]
    rcases places_trichotomy rfl hrs with hin | ⟨rfl, rfl, rfl⟩ | hin
    · exact absurd hxx' (not_absorbs_of_survives hs' hin)
    · exact ⟨x, by simp, hx ▸ hkr⟩
    · have hplain : ¬ ∃ d change, x'.context = some (.edited d change) := by
        rintro ⟨d, change, hd⟩
        have hself : x'.absorbs x' = true := absorbs_of_context_eq rfl hd
        exact hfirst x' hin (absorbs_trans (absorbs_of_common hself hxx') habs)
      -- and what is of no edited declaration is reported as it came
      rw [outcome_of_not_edited hplain] at hkr
      exact ⟨x', List.mem_append_left _ hin, hkr⟩
  · rintro ⟨e, he, her⟩
    rcases List.mem_append.mp he with he | he
    · -- `e` itself may have been covered; the first record with its context was not
      obtain ⟨pre, f, post, rfl, hfr, hpre⟩ :=
        exists_first_place (p := fun e => e.context = r.context) ⟨e, he, her⟩
      have hplain : ¬ ∃ d change, f.context = some (.edited d change) := by
        rintro ⟨d, change, hd⟩
        exact hfirst f (by simp) (absorbs_of_context_eq hfr (hfr ▸ hd))
      have hsf : survives pre f = true := survives_iff.mpr fun a ha => by
        rw [← Bool.not_eq_true, blocks_iff, absorbs_congr_right hfr, hfr, not_or]
        exact ⟨hpre a ha, hfirst a (List.mem_append_left _ ha)⟩
      refine ⟨f, mem_survivors_iff.mpr ⟨pre, f, post ++ x :: later, by simp, hsf, ?_⟩, hfr⟩
      exact outcome_of_not_edited hplain _ _
    · rw [List.mem_singleton] at he
      subst he
      exact ⟨e, mem_survivors_iff.mpr ⟨earlier, e, later, rfl, hs, hx⟩, her⟩

/-- **One more record** changes the outcome of a survivor exactly as a step changes a kept
record. -/
theorem outcome_concat {earlier later : List Record} {x : Record} (hs : survives earlier x = true)
    (r : Record) : outcome earlier x (later ++ [r]) =
      if (∀ k ∈ survivors (earlier ++ x :: later), k.covers r = false) ∧
          (outcome earlier x later).absorbs r = true then
        (outcome earlier x later).asModified
      else outcome earlier x later := by
  rw [absorbs_outcome]
  by_cases hx : ∃ d change, x.context = some (.edited d change)
  · obtain ⟨d, change, hx⟩ := hx
    have houtcome := outcome_of_edited hx earlier later
    by_cases hold : ∃ k ∈ later, marks earlier d change k = true
    · -- marked already, and to mark it again changes nothing
      have hmore : ∃ k ∈ later ++ [r], marks earlier d change k = true := by
        obtain ⟨k, hk, hm⟩ := hold
        exact ⟨k, List.mem_append_left _ hk, hm⟩
      rw [houtcome, if_pos hold, outcome_of_edited hx, if_pos hmore, asModified_asModified,
        ite_self]
    · rw [if_neg hold] at houtcome
      rw [houtcome, outcome_of_edited hx]
      have hmarks : (∃ k ∈ later ++ [r], marks earlier d change k = true) ↔
          (∀ k ∈ survivors (earlier ++ x :: later), k.covers r = false) ∧ x.absorbs r = true := by
        have hlast : (∃ k ∈ later ++ [r], marks earlier d change k = true) ↔
            marks earlier d change r = true := by
          simp only [List.mem_append, List.mem_singleton, or_and_right, exists_or, hold, false_or,
            exists_eq_left]
        rw [hlast, marks_iff hx hs, and_comm]
        refine and_congr_left fun habs => ?_
        have hcov := not_congr (@exists_survivor_covers earlier later x r hs houtcome habs)
        simp only [not_exists, not_and] at hcov
        simp only [covers, decide_eq_false_iff_not]
        exact hcov.symm
      simp only [hmarks]
  · have hnot (q : Record) : x.absorbs q = false := Bool.eq_false_iff.mpr fun h => by
      obtain ⟨d, change, c, hd, -⟩ := absorbs_iff.mp h
      exact hx ⟨d, change, hd⟩
    simp [outcome_of_not_edited hx, hnot]

/-- **What remains of a list of records** is what survives in it. -/
theorem dedup_eq_survivors (rs : List Record) : dedup rs = survivors rs := by
  induction rs using List.reverseRecOn with
  | nil => rfl
  | append_singleton rs r ih =>
    have hstep : dedup (rs ++ [r]) = keep (dedup rs) r := by
      rw [dedup_append, List.foldl_cons, List.foldl_nil]
    have hblocked : (∀ k ∈ survivors rs, k.blocks r = false) ↔ survives rs r = true := by
      have hex := not_congr (@exists_survivor_blocks rs r)
      simp only [not_exists, not_and, Bool.not_eq_true] at hex
      rw [survives_iff, hex]
    rw [hstep, keep_eq_map (irredundant_dedup rs), ih]
    simp only [hblocked]
    rw [survivors, survivors, places_concat, List.filterMap_append, List.filterMap_map,
      List.map_filterMap]
    congr 1
    · -- the places there were before now have one more record behind them
      refine List.filterMap_congr fun ⟨earlier, x, later⟩ hp => ?_
      obtain rfl := mem_places_iff.mp hp
      by_cases hs : survives earlier x = true
      · simp only [survivor?, hs, if_true, Option.map_some, Function.comp_apply]
        rw [outcome_concat hs r]
        rfl
      · simp [survivor?, hs]
    · by_cases hs : survives rs r = true
      · simp [survivor?, hs]
      · simp [survivor?, hs]

/-- **What remains, in terms of the input alone.**  Deduplication keeps the records that survive
those before them, in the order of the input; a kept record is reported as it came, or as modified
when a record behind it marks it. -/
theorem dedup_eq_filterMap (rs : List Record) :
    dedup rs = (List.finRange rs.length).filterMap fun j : Fin rs.length =>
      if survives (rs.take j.val) rs[j] then
        some (outcome (rs.take j.val) rs[j] (rs.drop (j.val + 1)))
      else none := by
  rw [dedup_eq_survivors, survivors, places_eq_map_finRange, List.filterMap_map]
  rfl

/-- An edit inside `foo` is taken up by the new function `Foo`, which counts as modified then. -/
example : dedup [⟨default, some (.edited ⟨.function, "Foo", default⟩ .added)⟩,
      ⟨default, some (.enclosing ⟨.function, "foo", default⟩)⟩] =
    [⟨default, some (.edited ⟨.function, "Foo", default⟩ .modified)⟩] := by
  decide

end Record

end DiffContents
