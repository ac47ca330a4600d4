import DiffContents.Proofs.Irredundance
import Mathlib.Data.List.Forall2
import Mathlib.Data.List.Induction

/-! # Deduplication in stages

Records that were deduplicated once may be followed by more records and deduplicated again: the
result is the one for all records at once, because deduplicated records are irredundant and pass
through unchanged.

What is kept at one stage is still there at the next one, at the same place (`Persists`).  A step
may report one kept record as modified, if it is of an edited declaration, and otherwise only adds
a record at the end (`forall₂_persists_keep`); a run of steps does no more
(`forall₂_persists_foldl_keep`), and never takes back what was reported.
-/
namespace DiffContents

namespace Record

/-- **The kept record is still there as the other**: with its patch and its context, except that an
edited declaration may be reported as modified by then. -/
def Persists (k k' : Record) : Prop :=
  k'.patch = k.patch ∧ (k'.context = k.context ∨
    ∃ d change, k.context = some (.edited d change) ∧ k'.context = some (.edited d .modified))

theorem Persists.refl (k : Record) : k.Persists k := ⟨rfl, .inl rfl⟩

theorem Persists.trans {k k' k'' : Record} (h : k.Persists k') (h' : k'.Persists k'') :
    k.Persists k'' := by
  obtain ⟨hp, hc⟩ := h
  obtain ⟨hp', hc'⟩ := h'
  refine ⟨hp'.trans hp, ?_⟩
  rcases hc with hc | ⟨d, change, hk, hk'⟩
  · rwa [hc] at hc'
  · -- reported as modified at the first stage, so it is at the second one
    rcases hc' with hc' | ⟨d', change', hd', hk''⟩
    · exact .inr ⟨d, change, hk, hc'.trans hk'⟩
    · rw [hk'] at hd'
      obtain ⟨rfl, -⟩ := Context.edited.inj (Option.some.inj hd')
      exact .inr ⟨d, change, hk, hk''⟩

/-- A record that absorbs another is of an edited declaration, so it may be reported as modified. -/
theorem persists_asModified {k r : Record} (h : k.absorbs r = true) : k.Persists k.asModified := by
  obtain ⟨d, change, _, hk, -, -⟩ := absorbs_iff.mp h
  exact ⟨rfl, .inr ⟨d, change, hk, context_asModified hk⟩⟩

theorem forall₂_persists_refl (ks : List Record) : List.Forall₂ Persists ks ks :=
  List.forall₂_same.mpr fun k _ => Persists.refl k

theorem forall₂_persists_trans {ks ks' ks'' : List Record} (h : List.Forall₂ Persists ks ks')
    (h' : List.Forall₂ Persists ks' ks'') : List.Forall₂ Persists ks ks'' := by
  induction h generalizing ks'' with
  | nil => exact h'
  | cons hk _ ih =>
    cases h' with
    | cons hk' hks' => exact .cons (hk.trans hk') (ih hks')

/-- **A step** leaves the kept records where they are; a new record stands behind them. -/
theorem forall₂_persists_keep (kept : List Record) (r : Record) :
    List.Forall₂ Persists kept ((keep kept r).take kept.length) := by
  rcases keep_cases kept r with ⟨-, he⟩ | ⟨-, pre, k, post, rfl, habs, he⟩ | ⟨-, he⟩
  · rw [he, List.take_length]
    exact forall₂_persists_refl kept
  · have hlength : (pre ++ k :: post).length = (pre ++ k.asModified :: post).length := by simp
    rw [he, hlength, List.take_length]
    exact List.rel_append (forall₂_persists_refl pre)
      (.cons (persists_asModified habs) (forall₂_persists_refl post))
  · rw [he, List.take_left]
    exact forall₂_persists_refl kept

/-- **A run of steps** leaves the kept records where they are. -/
theorem forall₂_persists_foldl_keep (kept ys : List Record) :
    List.Forall₂ Persists kept ((ys.foldl keep kept).take kept.length) := by
  -- From the last step on, which is compared with all that was kept before it.
  induction ys using List.reverseRecOn with
  | nil =>
    rw [List.foldl_nil, List.take_length]
    exact forall₂_persists_refl kept
  | append_singleton ys y ih =>
    rw [List.foldl_append, List.foldl_cons, List.foldl_nil]
    have hle : kept.length ≤ (ys.foldl keep kept).length := by
      have hlength := ih.length_eq
      rw [List.length_take] at hlength
      omega
    have hlast := List.forall₂_take kept.length (forall₂_persists_keep (ys.foldl keep kept) y)
    rw [List.take_take, Nat.min_eq_left hle] at hlast
    exact forall₂_persists_trans ih hlast

/-- **Records may be deduplicated in stages.**  Records that were deduplicated and are followed by
others give the same as all records at once; and what was kept at the first stage comes first at the
second one, record by record with the same patch and the same context, except that an edited
declaration may be reported as modified. -/
theorem dedup_in_stages (xs ys : List Record) :
    dedup (xs ++ ys) = dedup (dedup xs ++ ys) ∧
    List.Forall₂ Persists (dedup xs) ((dedup (xs ++ ys)).take (dedup xs).length) := by
  constructor
  · rw [dedup_append, dedup_append, dedup_of_irredundant (irredundant_dedup xs)]
  · rw [dedup_append]
    exact forall₂_persists_foldl_keep (dedup xs) ys

/-- The later records may not be deduplicated first.  Here they come to one that is reported as
modified, and so is then the record that absorbs it; behind the earlier records both are dropped. -/
example :
    let d : Declaration := ⟨.function, "f", default⟩
    let xs : List Record := [⟨.insert default, some (.enclosing d)⟩,
      ⟨.insert default, some (.edited d .added)⟩]
    let ys : List Record := [⟨.insert default, some (.edited d .added)⟩,
      ⟨.insert default, some (.enclosing d)⟩]
    dedup (xs ++ ys) ≠ dedup (xs ++ dedup ys) := by
  decide

end Record

end DiffContents
