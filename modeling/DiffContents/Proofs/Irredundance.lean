import DiffContents.Dedup

/-! # Kept records do not repeat each other

A list of records is irredundant (`Record.Irredundant`) when no record in it has the context of an
earlier one or speaks of a declaration that an earlier one has edited.  Deduplication makes every
list irredundant and changes no list that is.

The rewriting of a kept record does not get in the way: what a record blocks, and what blocks it,
stay the same when it is reported as modified (`blocks_asModified_left`, `blocks_asModified_right`).
A step therefore keeps the invariant in each of its three outcomes (`keep_cases`).
-/
namespace DiffContents

namespace Record

/-- Standing earlier, the record keeps the other from being kept: it covers it or absorbs it. -/
def blocks (e r : Record) : Bool := e.covers r || e.absorbs r

/-- **No record repeats an earlier one.**  Any two contexts differ, and no record is about a
declaration that an earlier record has edited, up to the case of its name. -/
def Irredundant (rs : List Record) : Prop :=
  ∀ (i j : Nat) (_ : i < j) (_ : j < rs.length), rs[i].context ≠ rs[j].context ∧
    ∀ d change c, rs[i].context = some (.edited d change) → rs[j].context = some c →
      d.alike c.declaration = false

theorem absorbs_iff {e r : Record} : e.absorbs r = true ↔
    ∃ d change c, e.context = some (.edited d change) ∧ r.context = some c ∧
      d.alike c.declaration = true := by
  unfold absorbs
  split
  · simp_all
  · rename_i hne
    constructor
    · intro h
      cases h
    · rintro ⟨d, change, c, he, hr, -⟩
      exact absurd hr (hne d change c he)

theorem blocks_iff {e r : Record} :
    e.blocks r = true ↔ e.context = r.context ∨ e.absorbs r = true := by
  simp [blocks, covers]

theorem irredundant_iff_pairwise {rs : List Record} :
    Irredundant rs ↔ rs.Pairwise fun e r => e.blocks r = false := by
  rw [List.pairwise_iff_getElem]
  have hiff (e r : Record) : e.blocks r = false ↔ e.context ≠ r.context ∧
      ∀ d change c, e.context = some (.edited d change) → r.context = some c →
        d.alike c.declaration = false := by
    rw [← Bool.not_eq_true, blocks_iff, absorbs_iff]
    grind
  constructor
  · exact fun h i j _ hj hij => (hiff _ _).mpr (h i j hij hj)
  · exact fun h i j hij hj => (hiff _ _).mp (h i j (Nat.lt_trans hij hj) hj hij)

instance : DecidablePred Irredundant :=
  fun _ => decidable_of_iff _ irredundant_iff_pairwise.symm

/-! ## Rewriting leaves blocking alone -/

@[simp] theorem absorbs_asModified_left (e r : Record) : e.asModified.absorbs r = e.absorbs r := by
  obtain ⟨p, _ | (_ | _)⟩ := e <;> cases hr : r.context <;>
    simp [absorbs, asModified, Context.asModified, hr]

@[simp] theorem absorbs_asModified_right (e r : Record) :
    e.absorbs r.asModified = e.absorbs r := by
  unfold absorbs asModified
  cases e.context with
  | none => rfl
  | some c => cases c <;> cases r.context <;> simp

/-- Equal contexts of an edited declaration are alike, so to cover it is to absorb it. -/
theorem absorbs_of_context_eq {e r : Record} {d : Declaration} {change : Change}
    (h : e.context = r.context) (hr : r.context = some (.edited d change)) :
    e.absorbs r = true :=
  absorbs_iff.mpr ⟨d, change, .edited d change, h.trans hr, hr, d.alike_refl⟩

theorem asModified_of_not_edited {r : Record}
    (h : ¬ ∃ d change, r.context = some (.edited d change)) : r.asModified = r := by
  obtain ⟨p, _ | (⟨d, change⟩ | d)⟩ := r
  · rfl
  · exact absurd ⟨d, change, rfl⟩ h
  · rfl

theorem context_asModified {r : Record} {d : Declaration} {change : Change}
    (h : r.context = some (.edited d change)) :
    r.asModified.context = some (.edited d .modified) := by
  simp [asModified, h, Context.asModified]

/-- A record reported as modified blocks what it blocked before. -/
@[simp] theorem blocks_asModified_left (e r : Record) : e.asModified.blocks r = e.blocks r := by
  by_cases he : ∃ d change, e.context = some (.edited d change)
  · obtain ⟨d, change, he⟩ := he
    have he' := context_asModified he
    rw [Bool.eq_iff_iff, blocks_iff, blocks_iff, absorbs_asModified_left]
    constructor
    · rintro (h | h)
      · rw [← absorbs_asModified_left]
        exact .inr (absorbs_of_context_eq h (h ▸ he'))
      · exact .inr h
    · rintro (h | h)
      · exact .inr (absorbs_of_context_eq h (h ▸ he))
      · exact .inr h
  · rw [asModified_of_not_edited he]

/-- A record reported as modified is blocked by what blocked it before. -/
@[simp] theorem blocks_asModified_right (e r : Record) : e.blocks r.asModified = e.blocks r := by
  by_cases hr : ∃ d change, r.context = some (.edited d change)
  · obtain ⟨d, change, hr⟩ := hr
    have hr' := context_asModified hr
    rw [Bool.eq_iff_iff, blocks_iff, blocks_iff, absorbs_asModified_right]
    constructor
    · rintro (h | h)
      · rw [← absorbs_asModified_right]
        exact .inr (absorbs_of_context_eq h hr')
      · exact .inr h
    · rintro (h | h)
      · exact .inr (absorbs_of_context_eq h hr)
      · exact .inr h
  · rw [asModified_of_not_edited hr]

/-! ## One step -/

theorem absorb_eq_none {r : Record} {kept : List Record} (h : absorb r kept = none) :
    ∀ k ∈ kept, k.absorbs r = false := by
  induction kept with
  | nil => simp
  | cons k kept ih =>
    unfold absorb at h
    split at h
    · cases h
    · rename_i hk
      rw [Option.map_eq_none_iff] at h
      rintro e he
      rcases List.mem_cons.mp he with rfl | he
      · exact Bool.eq_false_iff.mpr hk
      · exact ih h e he

theorem absorb_eq_some {r : Record} {kept kept' : List Record} (h : absorb r kept = some kept') :
    ∃ pre k post, kept = pre ++ k :: post ∧ k.absorbs r = true ∧
      kept' = pre ++ k.asModified :: post := by
  induction kept generalizing kept' with
  | nil => cases h
  | cons k kept ih =>
    unfold absorb at h
    split at h
    · rename_i hk
      obtain rfl := Option.some.inj h
      exact ⟨[], k, kept, rfl, hk, rfl⟩
    · obtain ⟨rest, hrest, rfl⟩ := Option.map_eq_some_iff.mp h
      obtain ⟨pre, a, post, rfl, ha, rfl⟩ := ih hrest
      exact ⟨k :: pre, a, post, rfl, ha, rfl⟩

/-- **The three outcomes of a step.**  A record is dropped because a kept one covers it, or taken
up by a kept one that absorbs it, or kept because no kept one blocks it. -/
theorem keep_cases (kept : List Record) (r : Record) :
    ((∃ k ∈ kept, k.covers r = true) ∧ keep kept r = kept) ∨
    ((∀ k ∈ kept, k.covers r = false) ∧ ∃ pre k post, kept = pre ++ k :: post ∧
      k.absorbs r = true ∧ keep kept r = pre ++ k.asModified :: post) ∨
    ((∀ k ∈ kept, k.blocks r = false) ∧ keep kept r = kept ++ [r]) := by
  unfold keep
  split
  · rename_i hcov
    exact .inl ⟨List.any_eq_true.mp hcov, rfl⟩
  · rename_i hcov
    rw [List.any_eq_true] at hcov
    have hnone : ∀ k ∈ kept, k.covers r = false := fun k hk =>
      Bool.eq_false_iff.mpr fun h => hcov ⟨k, hk, h⟩
    cases habs : absorb r kept with
    | some kept' =>
      obtain ⟨pre, k, post, hkept, hk, rfl⟩ := absorb_eq_some habs
      exact .inr (.inl ⟨hnone, pre, k, post, hkept, hk, rfl⟩)
    | none =>
      refine .inr (.inr ⟨fun k hk => ?_, rfl⟩)
      simp [blocks, hnone k hk, absorb_eq_none habs k hk]

/-- A step keeps the kept records irredundant. -/
theorem Irredundant.keep {kept : List Record} (h : Irredundant kept) (r : Record) :
    Irredundant (keep kept r) := by
  rw [irredundant_iff_pairwise] at h ⊢
  rcases keep_cases kept r with ⟨-, he⟩ | ⟨-, pre, k, post, rfl, -, he⟩ | ⟨hnone, he⟩
  · rwa [he]
  · rw [he]
    simpa [List.pairwise_append] using h
  · rw [he]
    refine List.pairwise_append.mpr ⟨h, List.pairwise_singleton _ _, fun k hk e he => ?_⟩
    rw [List.mem_singleton] at he
    subst he
    exact hnone k hk

/-- A record that no kept one blocks is kept. -/
theorem keep_of_not_blocked {kept : List Record} {r : Record}
    (h : ∀ k ∈ kept, k.blocks r = false) : Record.keep kept r = kept ++ [r] := by
  have hneither : ∀ k ∈ kept, k.covers r = false ∧ k.absorbs r = false := fun k hk => by
    simpa [blocks] using h k hk
  rcases keep_cases kept r with ⟨⟨k, hk, hcov⟩, -⟩ | ⟨-, pre, k, post, rfl, habs, -⟩ | ⟨-, he⟩
  · rw [(hneither k hk).1] at hcov
    cases hcov
  · rw [(hneither k (by simp)).2] at habs
    cases habs
  · exact he

/-! ## Whole runs -/

/-- Every run of steps keeps the kept records irredundant. -/
theorem Irredundant.foldl_keep {kept : List Record} (h : Irredundant kept) (rs : List Record) :
    Irredundant (rs.foldl Record.keep kept) := by
  induction rs generalizing kept with
  | nil => exact h
  | cons r rs ih => exact ih (h.keep r)

/-- **Deduplicated records are irredundant.** -/
theorem irredundant_dedup (rs : List Record) : Irredundant (dedup rs) := by
  have hnil : Irredundant [] := irredundant_iff_pairwise.mpr List.Pairwise.nil
  exact hnil.foldl_keep rs

/-- Going on from kept records that do not block what follows keeps all of it. -/
theorem foldl_keep_of_irredundant {kept rs : List Record} (h : Irredundant (kept ++ rs)) :
    rs.foldl Record.keep kept = kept ++ rs := by
  induction rs generalizing kept with
  | nil => simp
  | cons r rs ih =>
    have hr : ∀ k ∈ kept, k.blocks r = false := fun k hk =>
      (List.pairwise_append.mp (irredundant_iff_pairwise.mp h)).2.2 k hk r List.mem_cons_self
    rw [List.foldl_cons, keep_of_not_blocked hr, ih (by simpa using h), List.append_assoc]
    rfl

theorem dedup_of_irredundant {rs : List Record} (h : Irredundant rs) : dedup rs = rs := by
  have h' : Irredundant ([] ++ rs) := h
  exact foldl_keep_of_irredundant h'

/-- **Deduplication leaves exactly the irredundant lists alone**, and makes every list one of them;
so deduplicating once is enough. -/
theorem dedup_eq_self_iff (rs : List Record) :
    Irredundant (dedup rs) ∧ (dedup rs = rs ↔ Irredundant rs) ∧ dedup (dedup rs) = dedup rs :=
  ⟨irredundant_dedup rs, ⟨fun h => h ▸ irredundant_dedup rs, dedup_of_irredundant⟩,
    dedup_of_irredundant (irredundant_dedup rs)⟩

end Record

end DiffContents
