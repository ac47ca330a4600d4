import DiffContents.Buckets
import Mathlib.Data.List.Perm.Basic
import Mathlib.Data.List.Sort
import Mathlib.Data.String.Basic

/-! # Lists under keys, merged

What a collection holds is told by the list under each key: `Buckets.get` adds up over merges
(`get_merge`), one collection at a time or many (`get_foldl_merge`).  As long as no key stands
without items (`Filled`), which no operation brings about, nothing else is to be told: two
collections with the same list under every key are equal (`Filled.ext`), and where the lists are the
same up to order so are all the items (`Filled.perm_items`).  With or without such keys, merging is
associative (`merge_assoc`).
-/
namespace DiffContents

universe u v

namespace Buckets

variable {α : Type u} {δ : Type v}

/-- No key stands without items. -/
def Filled (b : Buckets α) : Prop := ∀ p ∈ b.toList, p.2 ≠ []

theorem ext_toList {b c : Buckets α} (h : b.toList = c.toList) : b = c := by
  cases b
  cases c
  simpa using h

/-! ## What merging does to the list under a key -/

theorem get_foldl_append {ps : List (String × List α)} (h : Sorted ps) (b : Buckets α)
    (k : String) : (ps.foldl (fun b p => b.append p.1 p.2) b).get k =
      b.get k ++ (ps.lookup k).getD [] := by
  induction ps generalizing b with
  | nil => simp
  | cons p ps ih =>
    obtain ⟨key, xs⟩ := p
    obtain ⟨hkey, hps⟩ := List.pairwise_cons.mp h
    rw [List.foldl_cons, ih hps, get_append, List.append_assoc]
    congr 1
    by_cases hk : k = key
    · subst hk
      -- the keys behind this one are greater
      have hnone : ps.lookup k = none := by
        rw [List.lookup_eq_none_iff]
        intro p hp
        exact bne_iff_ne.mpr (String.ne_of_lt (hkey p hp))
      simp [hnone]
    · simp [hk, List.lookup_cons, beq_false_of_ne hk]

/-- **Merging** puts the items of the one behind those of the other, key by key. -/
theorem get_merge (b c : Buckets α) (k : String) : (b.merge c).get k = b.get k ++ c.get k :=
  get_foldl_append c.sorted b k

theorem get_foldl_merge (f : δ → Buckets α) (ds : List δ) (b : Buckets α) (k : String) :
    (ds.foldl (fun b d => b.merge (f d)) b).get k =
      b.get k ++ ds.flatMap fun d => (f d).get k := by
  induction ds generalizing b with
  | nil => simp
  | cons d ds ih => rw [List.foldl_cons, ih, get_merge, List.flatMap_cons, List.append_assoc]

/-! ## No key without items -/

theorem filled_empty : (empty : Buckets α).Filled := by
  simp [Filled]

theorem Filled.append {b : Buckets α} (h : b.Filled) (key : String) {items : List α}
    (hitems : items ≠ []) : (b.append key items).Filled := by
  unfold Filled at h ⊢
  rw [toList_append]
  generalize b.toList = ps at h ⊢
  induction ps with
  | nil => simpa [insertPairs] using hitems
  | cons p ps ih =>
    obtain ⟨k, xs⟩ := p
    obtain ⟨hxs, hps⟩ := List.forall_mem_cons.mp h
    rw [insertPairs]
    split
    · exact List.forall_mem_cons.mpr ⟨hitems, h⟩
    · split
      · refine List.forall_mem_cons.mpr ⟨?_, hps⟩
        simp [hitems]
      · exact List.forall_mem_cons.mpr ⟨hxs, ih hps⟩

theorem Filled.merge {b c : Buckets α} (hb : b.Filled) (hc : c.Filled) : (b.merge c).Filled := by
  unfold Filled at hc
  unfold Buckets.merge
  generalize c.toList = ps at hc ⊢
  induction ps generalizing b with
  | nil => exact hb
  | cons p ps ih =>
    obtain ⟨hp, hps⟩ := List.forall_mem_cons.mp hc
    exact ih (hb.append p.1 hp) hps

theorem Filled.foldl_merge {f : δ → Buckets α} {ds : List δ} (hf : ∀ d ∈ ds, (f d).Filled)
    {b : Buckets α} (hb : b.Filled) : (ds.foldl (fun b d => b.merge (f d)) b).Filled := by
  induction ds generalizing b with
  | nil => exact hb
  | cons d ds ih =>
    obtain ⟨hd, hds⟩ := List.forall_mem_cons.mp hf
    exact ih hds (hb.merge hd)

/-! ## The lists under the keys tell everything -/

theorem get_of_mem {b : Buckets α} {p : String × List α} (h : p ∈ b.toList) :
    b.get p.1 = p.2 := by
  obtain ⟨l₁, l₂, hl⟩ := List.append_of_mem h
  have hbefore : ∀ q ∈ l₁, q.1 < p.1 := fun q hq =>
    (List.pairwise_append.mp (hl ▸ b.sorted)).2.2 q hq p List.mem_cons_self
  have hlookup : b.toList.lookup p.1 = some p.2 := List.lookup_eq_some_iff.mpr
    ⟨l₁, l₂, hl, fun q hq => bne_iff_ne.mpr (String.ne_of_lt (hbefore q hq)).symm⟩
  rw [get, hlookup, Option.getD_some]

theorem toList_eq_map_keys (b : Buckets α) : b.toList = b.keys.map fun k => (k, b.get k) := by
  unfold keys
  rw [List.map_map]
  refine ((List.map_congr_left fun p hp => ?_).trans (List.map_id _)).symm
  rw [Function.comp_apply, get_of_mem hp, id_eq]

theorem items_eq_flatMap_keys (b : Buckets α) : b.items = b.keys.flatMap b.get := by
  rw [items, toList_eq_map_keys, List.flatMap_map]

theorem mem_keys_of_mem_get {b : Buckets α} {k : String} {a : α} (h : a ∈ b.get k) :
    k ∈ b.keys := by
  cases hl : b.toList.lookup k with
  | none => simp [get, hl] at h
  | some xs =>
    obtain ⟨l₁, l₂, hl, -⟩ := List.lookup_eq_some_iff.mp hl
    exact List.mem_map.mpr ⟨(k, xs), by simp [hl], rfl⟩

theorem mem_items_of_mem_get {b : Buckets α} {k : String} {a : α} (h : a ∈ b.get k) :
    a ∈ b.items := by
  rw [items_eq_flatMap_keys]
  exact List.mem_flatMap.mpr ⟨k, mem_keys_of_mem_get h, h⟩

theorem pairwise_keys (b : Buckets α) : b.keys.Pairwise (· < ·) :=
  List.pairwise_map.mpr b.sorted

/-- Collections with the same keys and the same lists under them are equal. -/
theorem ext_get {b c : Buckets α} (hkeys : ∀ k, k ∈ b.keys ↔ k ∈ c.keys)
    (hget : ∀ k, b.get k = c.get k) : b = c := by
  refine ext_toList ?_
  have hkeys' := List.Pairwise.eq_of_mem_iff b.pairwise_keys c.pairwise_keys hkeys
  rw [toList_eq_map_keys, toList_eq_map_keys, hkeys']
  exact List.map_congr_left fun k _ => by rw [hget k]

/-- The keys of a filled collection are those with items. -/
theorem Filled.mem_keys_iff {b : Buckets α} (h : b.Filled) {k : String} :
    k ∈ b.keys ↔ b.get k ≠ [] := by
  constructor
  · intro hk
    obtain ⟨p, hp, rfl⟩ := List.mem_map.mp hk
    rw [get_of_mem hp]
    exact h p hp
  · intro hk
    obtain ⟨a, ha⟩ := List.exists_mem_of_ne_nil _ hk
    exact mem_keys_of_mem_get ha

/-- Filled collections have the same keys if they have items under the same keys. -/
theorem Filled.keys_eq {b c : Buckets α} (hb : b.Filled) (hc : c.Filled)
    (h : ∀ k, b.get k = [] ↔ c.get k = []) : b.keys = c.keys := by
  refine List.Pairwise.eq_of_mem_iff b.pairwise_keys c.pairwise_keys fun k => ?_
  rw [hb.mem_keys_iff, hc.mem_keys_iff]
  exact not_congr (h k)

/-- **Filled collections with the same lists under the keys are equal.** -/
theorem Filled.ext {b c : Buckets α} (hb : b.Filled) (hc : c.Filled)
    (h : ∀ k, b.get k = c.get k) : b = c := by
  refine ext_get (fun k => ?_) h
  rw [hb.mem_keys_iff, hc.mem_keys_iff, h k]

/-- Filled collections with the same lists under the keys, up to order, have the same items, up to
order. -/
theorem Filled.perm_items {b c : Buckets α} (hb : b.Filled) (hc : c.Filled)
    (h : ∀ k, (b.get k).Perm (c.get k)) : b.items.Perm c.items := by
  have hkeys := hb.keys_eq hc fun k =>
    ⟨fun he => (he ▸ h k).symm.eq_nil, fun he => (he ▸ h k).eq_nil⟩
  rw [items_eq_flatMap_keys, items_eq_flatMap_keys, hkeys]
  exact List.Perm.flatMap_left _ fun k _ => h k

/-! ## Merging once more -/

theorem mem_keys_insertPairs {key k : String} {items : List α} {ps : List (String × List α)} :
    k ∈ (insertPairs key items ps).map Prod.fst ↔ k = key ∨ k ∈ ps.map Prod.fst := by
  induction ps with
  | nil => simp [insertPairs]
  | cons p ps ih =>
    rw [insertPairs]
    split
    · simp
    · split
      · next heq => simp [heq]
      · simp only [List.map_cons, List.mem_cons, ih]
        exact or_left_comm

theorem mem_keys_append {b : Buckets α} {key k : String} {items : List α} :
    k ∈ (b.append key items).keys ↔ k = key ∨ k ∈ b.keys :=
  mem_keys_insertPairs

/-- The keys of a merge are those of both collections. -/
theorem mem_keys_merge {b c : Buckets α} {k : String} :
    k ∈ (b.merge c).keys ↔ k ∈ b.keys ∨ k ∈ c.keys := by
  have hfold (ps : List (String × List α)) (b : Buckets α) :
      k ∈ (ps.foldl (fun b p => b.append p.1 p.2) b).keys ↔ k ∈ b.keys ∨ k ∈ ps.map Prod.fst := by
    induction ps generalizing b with
    | nil => simp
    | cons p ps ih =>
      rw [List.foldl_cons, ih, mem_keys_append, List.map_cons, List.mem_cons, or_left_comm,
        or_assoc]
  exact hfold c.toList b

/-- **Merging is associative.** -/
theorem merge_assoc (b c d : Buckets α) : (b.merge c).merge d = b.merge (c.merge d) := by
  refine ext_get (fun k => ?_) fun k => ?_
  · rw [mem_keys_merge, mem_keys_merge, mem_keys_merge, mem_keys_merge, or_assoc]
  · rw [get_merge, get_merge, get_merge, get_merge, List.append_assoc]

/-- A collection merged into an empty one comes out as it is. -/
theorem empty_merge (b : Buckets α) : empty.merge b = b := by
  refine ext_get (fun k => ?_) fun k => ?_
  · rw [mem_keys_merge]
    simp [keys]
  · rw [get_merge]
    simp [get]

/-- Appending is merging with a collection of one key. -/
theorem append_eq_merge (b : Buckets α) (key : String) (items : List α) :
    b.append key items = b.merge (empty.append key items) := rfl

theorem merge_append (b c : Buckets α) (key : String) (items : List α) :
    b.merge (c.append key items) = (b.merge c).append key items := by
  rw [append_eq_merge c, ← merge_assoc, ← append_eq_merge]

end Buckets

end DiffContents
