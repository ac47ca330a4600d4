import DiffContents.Proofs.Filing
import DiffContents.Proofs.Merging
import Mathlib.Data.List.Induction

/-! # Tables built in steps

A table of contents is built by steps of three kinds: an item is pushed under a key, the table of a
list of records is merged in, or a table that was itself built in steps is.  However the steps are
nested, they come to pushing the items they give off one by one (`Step.emitted`), because merging in
a table pushes its items (`merge_pushAll`).  What the finished table holds under a key can then be
read off the items.
-/
namespace DiffContents

namespace Contents

/-- **A step in building a table.** -/
inductive Step where
  /-- An item is pushed under a key. -/
  | push (key : String) (item : Item)
  /-- The table of records under a key is merged in. -/
  | records (key : String) (records : List Record)
  /-- A table built in steps of its own is merged in. -/
  | nested (steps : List Step)

mutual

/-- The table after one more step. -/
def Step.apply : Step → Contents → Contents
  | .push key item, c => c.push key item
  | .records key rs, c => c.merge (ofRecords key rs)
  | .nested steps, c => c.merge (applyAll steps empty)

/-- The table after more steps. -/
def applyAll : List Step → Contents → Contents
  | [], c => c
  | step :: steps, c => applyAll steps (step.apply c)

end

/-- **The table that steps build.** -/
def build (steps : List Step) : Contents := applyAll steps empty

mutual

/-- The items a step gives off, each with the key it stands under. -/
def Step.emitted : Step → List (String × Item)
  | .push key item => [(key, item)]
  | .records key rs => (rs.filterMap Item.ofRecord?).map fun item => (key, item)
  | .nested steps => emittedAll steps

/-- The items that steps give off, in their order. -/
def emittedAll : List Step → List (String × Item)
  | [] => []
  | step :: steps => step.emitted ++ emittedAll steps

end

/-- The table with items pushed one by one. -/
def pushAll (c : Contents) (items : List (String × Item)) : Contents :=
  items.foldl (fun c p => c.push p.1 p.2) c

/-- The entries among items under a key. -/
def entriesUnder (key : String) (items : List (String × Item)) : List Entry :=
  items.filterMap fun p => if p.1 = key then Item.entry? p.2 else none

/-- The faults among items under a key. -/
def faultsUnder (key : String) (items : List (String × Item)) : List Fault :=
  items.filterMap fun p => if p.1 = key then Item.fault? p.2 else none

theorem pushAll_append (c : Contents) (xs ys : List (String × Item)) :
    c.pushAll (xs ++ ys) = (c.pushAll xs).pushAll ys := by
  simp [pushAll]

/-! ## Merging -/

/-- **Merging is associative.** -/
theorem merge_assoc (c d e : Contents) : (c.merge d).merge e = c.merge (d.merge e) := by
  unfold merge
  rw [Buckets.merge_assoc, Buckets.merge_assoc]

theorem empty_merge (c : Contents) : empty.merge c = c := by
  show (⟨Buckets.empty.merge c.entries, Buckets.empty.merge c.faults⟩ : Contents) = c
  rw [Buckets.empty_merge, Buckets.empty_merge]

/-- An item pushed onto a table is still pushed when the table is merged in. -/
theorem merge_push (c d : Contents) (key : String) (item : Item) :
    c.merge (d.push key item) = (c.merge d).push key item := by
  cases item with
  | entry e => simp only [merge, push, Buckets.merge_append]
  | fault f => simp only [merge, push, Buckets.merge_append]

/-- **To merge in a table is to push its items.** -/
theorem merge_pushAll (c : Contents) (items : List (String × Item)) :
    c.merge (empty.pushAll items) = c.pushAll items := by
  -- From the last item on, because a push at the end is what a merge lets through.
  induction items using List.reverseRecOn with
  | nil => rfl
  | append_singleton items p ih =>
    rw [pushAll_append, pushAll_append, ← ih]
    exact merge_push ..

theorem ofRecords_eq_pushAll (key : String) (rs : List Record) :
    ofRecords key rs = empty.pushAll (Step.records key rs).emitted := by
  rw [ofRecords, Step.emitted, pushAll, List.foldl_map]

/-- The table of records in two parts is merged from the tables of the parts. -/
theorem ofRecords_append (key : String) (xs ys : List Record) :
    ofRecords key (xs ++ ys) = (ofRecords key xs).merge (ofRecords key ys) := by
  have hemitted : (Step.records key (xs ++ ys)).emitted =
      (Step.records key xs).emitted ++ (Step.records key ys).emitted := by
    simp [Step.emitted]
  rw [ofRecords_eq_pushAll key ys, merge_pushAll, ofRecords_eq_pushAll, ofRecords_eq_pushAll,
    hemitted, pushAll_append]

mutual

/-- **One step** pushes the items it gives off. -/
theorem Step.apply_eq_pushAll : (step : Step) → (c : Contents) →
    step.apply c = c.pushAll step.emitted
  | .push key item, c => rfl
  | .records key rs, c => by
    rw [Step.apply, ofRecords_eq_pushAll, merge_pushAll]
  | .nested steps, c => by
    rw [Step.apply, applyAll_eq_pushAll steps empty, merge_pushAll, Step.emitted]

/-- **A run of steps** pushes the items they give off, in their order. -/
theorem applyAll_eq_pushAll : (steps : List Step) → (c : Contents) →
    applyAll steps c = c.pushAll (emittedAll steps)
  | [], c => rfl
  | step :: steps, c => by
    rw [applyAll, emittedAll, pushAll_append, Step.apply_eq_pushAll step c,
      applyAll_eq_pushAll steps]

end

/-! ## What the items come to -/

/-- One push adds to one list, if its key is asked for. -/
theorem get_push (c : Contents) (key k : String) (item : Item) :
    (c.push key item).entries.get k = c.entries.get k ++ entriesUnder k [(key, item)] ∧
      (c.push key item).faults.get k = c.faults.get k ++ faultsUnder k [(key, item)] := by
  cases item with
  | entry e =>
    simp only [push, Buckets.get_append, entriesUnder, faultsUnder, Item.entry?, Item.fault?]
    by_cases hk : key = k
    · simp [hk]
    · simp [hk, Ne.symm hk]
  | fault f =>
    simp only [push, Buckets.get_append, entriesUnder, faultsUnder, Item.entry?, Item.fault?]
    by_cases hk : key = k
    · simp [hk]
    · simp [hk, Ne.symm hk]

theorem entriesUnder_append (k : String) (xs ys : List (String × Item)) :
    entriesUnder k (xs ++ ys) = entriesUnder k xs ++ entriesUnder k ys := by
  simp [entriesUnder]

theorem faultsUnder_append (k : String) (xs ys : List (String × Item)) :
    faultsUnder k (xs ++ ys) = faultsUnder k xs ++ faultsUnder k ys := by
  simp [faultsUnder]

/-- **Under a key** stand the items that were pushed under it, behind what stood there before. -/
theorem get_pushAll (c : Contents) (items : List (String × Item)) (k : String) :
    (c.pushAll items).entries.get k = c.entries.get k ++ entriesUnder k items ∧
      (c.pushAll items).faults.get k = c.faults.get k ++ faultsUnder k items := by
  induction items using List.reverseRecOn with
  | nil => simp [pushAll, entriesUnder, faultsUnder]
  | append_singleton items p ih =>
    obtain ⟨hentries, hfaults⟩ := ih
    obtain ⟨hentry, hfault⟩ := get_push (c.pushAll items) p.1 k p.2
    rw [pushAll_append, entriesUnder_append, faultsUnder_append, ← List.append_assoc,
      ← List.append_assoc, ← hentries, ← hfaults]
    exact ⟨hentry, hfault⟩

/-- A push puts its item under a key, so no key is left without items. -/
theorem filled_push {c : Contents} (h : c.entries.Filled ∧ c.faults.Filled) (key : String)
    (item : Item) : (c.push key item).entries.Filled ∧ (c.push key item).faults.Filled := by
  cases item with
  | entry e => exact ⟨h.1.append key (List.cons_ne_nil e []), h.2⟩
  | fault f => exact ⟨h.1, h.2.append key (List.cons_ne_nil f [])⟩

theorem filled_pushAll {c : Contents} (h : c.entries.Filled ∧ c.faults.Filled)
    (items : List (String × Item)) :
    (c.pushAll items).entries.Filled ∧ (c.pushAll items).faults.Filled := by
  induction items using List.reverseRecOn with
  | nil => exact h
  | append_singleton items p ih =>
    rw [pushAll_append]
    exact filled_push ih p.1 p.2

/-- **A table built in steps** is the one with the items of all steps pushed one by one, however the
steps are nested.  Under a key it has the entries and the faults that were given off under it, in
the order of the steps, and a key without any does not occur.  So merging is associative, an empty
table changes nothing on either side of a merge, and the table of records in two parts is merged
from the tables of the parts. -/
theorem build_eq_pushAll (steps : List Step) :
    build steps = empty.pushAll (emittedAll steps) ∧
    (∀ k, (build steps).entries.get k = entriesUnder k (emittedAll steps) ∧
      (k ∉ (build steps).entries.keys ↔ entriesUnder k (emittedAll steps) = []) ∧
      (build steps).faults.get k = faultsUnder k (emittedAll steps) ∧
      (k ∉ (build steps).faults.keys ↔ faultsUnder k (emittedAll steps) = [])) ∧
    (∀ c d e : Contents, (c.merge d).merge e = c.merge (d.merge e)) ∧
    (∀ c : Contents, empty.merge c = c ∧ c.merge empty = c) ∧
    ∀ key xs ys, ofRecords key (xs ++ ys) = (ofRecords key xs).merge (ofRecords key ys) := by
  have hbuild : build steps = empty.pushAll (emittedAll steps) := applyAll_eq_pushAll steps empty
  refine ⟨hbuild, fun k => ?_, merge_assoc, fun c => ⟨c.empty_merge, c.merge_empty⟩,
    ofRecords_append⟩
  have hempty : empty.entries.Filled ∧ empty.faults.Filled :=
    ⟨Buckets.filled_empty, Buckets.filled_empty⟩
  obtain ⟨hfilledEntries, hfilledFaults⟩ := filled_pushAll hempty (emittedAll steps)
  obtain ⟨hentries, hfaults⟩ := get_pushAll empty (emittedAll steps) k
  have hnone : empty.entries.get k = [] ∧ empty.faults.get k = [] := ⟨rfl, rfl⟩
  rw [hnone.1, List.nil_append] at hentries
  rw [hnone.2, List.nil_append] at hfaults
  rw [hbuild, hfilledEntries.mem_keys_iff, hfilledFaults.mem_keys_iff, hentries, hfaults]
  exact ⟨rfl, not_not, rfl, not_not⟩

end Contents

end DiffContents
