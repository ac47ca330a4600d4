import DiffContents.Proofs.Filing
import DiffContents.Proofs.Merging

/-! # Many documents in one table

The table of many documents is merged from their tables, in their order.  Under a key it holds what
the documents of that key contribute, each one from its own kept records, and nothing else
(`get_contentsOfAll`).  So it depends on the order of documents only as far as documents share a
key: reordering them reorders the lists under the keys (`contentsOfAll_perm`).
-/
namespace DiffContents

namespace Counts

/-- Changes may be counted in any order. -/
theorem record_right_comm (n : Counts) (a b : Change) :
    (n.record a).record b = (n.record b).record a := by
  cases a <;> cases b <;> rfl

end Counts

namespace Contents

/-- The tally does not depend on the order of the entries and faults. -/
theorem counts_eq_of_perm {c d : Contents} (he : c.entries.items.Perm d.entries.items)
    (hf : c.faults.items.Perm d.faults.items) : c.counts = d.counts := by
  have : RightCommutative fun (n : Counts) (e : Entry) => n.record e.change :=
    ⟨fun n a b => n.record_right_comm a.change b.change⟩
  unfold counts
  rw [he.foldl_eq, hf.length_eq]

theorem filled_ofRecords (key : String) (rs : List Record) :
    (ofRecords key rs).entries.Filled ∧ (ofRecords key rs).faults.Filled := by
  obtain ⟨hentries, hfaults⟩ := toList_ofRecords key rs
  unfold Buckets.Filled
  rw [hentries, hfaults]
  exact ⟨fun _ hp => Buckets.snd_ne_nil_of_mem_only hp,
    fun _ hp => Buckets.snd_ne_nil_of_mem_only hp⟩

end Contents

section Documents

variable (ds : List Document)

theorem contentsOfAll_eq_foldl_merge : contentsOfAll ds =
    ⟨ds.foldl (fun b d => b.merge d.contents.entries) .empty,
      ds.foldl (fun b d => b.merge d.contents.faults) .empty⟩ := by
  -- the two halves of a table never meet in a merge, whatever table it starts from
  have hfold (c : Contents) : ds.foldl (fun c d => c.merge d.contents) c =
      ⟨ds.foldl (fun b d => b.merge d.contents.entries) c.entries,
        ds.foldl (fun b d => b.merge d.contents.faults) c.faults⟩ := by
    induction ds generalizing c with
    | nil => rfl
    | cons d ds ih => rw [List.foldl_cons, ih]; rfl
  exact hfold Contents.empty

theorem filled_contentsOfAll :
    (contentsOfAll ds).entries.Filled ∧ (contentsOfAll ds).faults.Filled := by
  rw [contentsOfAll_eq_foldl_merge]
  exact ⟨Buckets.Filled.foldl_merge (fun d _ => (Contents.filled_ofRecords d.key d.records).1)
      Buckets.filled_empty,
    Buckets.Filled.foldl_merge (fun d _ => (Contents.filled_ofRecords d.key d.records).2)
      Buckets.filled_empty⟩

/-- Lists that documents of one key contribute are contributed by the documents of that key. -/
theorem flatMap_ite_key {α : Type} (f : Document → List α) (k : String) :
    (ds.flatMap fun d => if k = d.key then f d else []) =
      (ds.filter (·.key = k)).flatMap f := by
  induction ds with
  | nil => rfl
  | cons d ds ih =>
    rw [List.flatMap_cons, ih]
    by_cases hk : d.key = k
    · rw [if_pos hk.symm, List.filter_cons_of_pos (by simpa using hk), List.flatMap_cons]
    · rw [if_neg (Ne.symm hk), List.filter_cons_of_neg (by simpa using hk), List.nil_append]

/-- **Under a key** stands what the kept records of the documents with that key contribute. -/
theorem get_contentsOfAll (k : String) :
    (contentsOfAll ds).entries.get k =
        (ds.filter (·.key = k)).flatMap (fun d => Record.entries d.records) ∧
      (contentsOfAll ds).faults.get k =
        (ds.filter (·.key = k)).flatMap (fun d => Record.faults d.records) := by
  rw [contentsOfAll_eq_foldl_merge]
  dsimp only
  rw [Buckets.get_foldl_merge, Buckets.get_foldl_merge, ← flatMap_ite_key, ← flatMap_ite_key]
  exact ⟨List.flatMap_congr fun d _ => (Contents.get_ofRecords d.key k d.records).1,
    List.flatMap_congr fun d _ => (Contents.get_ofRecords d.key k d.records).2⟩

end Documents

/-- **The order of documents matters only where they share a key.**  Reordered documents have the
same keys, the same tally and, up to order, the same lists under every key; where the documents of
each key keep their order, the tables are equal.  Under a key stand the contributions of the
documents with that key, in the order of the documents, each from its own kept records. -/
theorem contentsOfAll_perm {xs ys : List Document} (h : xs.Perm ys) :
    (∀ k, ((contentsOfAll xs).entries.get k).Perm ((contentsOfAll ys).entries.get k) ∧
      ((contentsOfAll xs).faults.get k).Perm ((contentsOfAll ys).faults.get k)) ∧
    (contentsOfAll xs).entries.keys = (contentsOfAll ys).entries.keys ∧
    (contentsOfAll xs).faults.keys = (contentsOfAll ys).faults.keys ∧
    (contentsOfAll xs).counts = (contentsOfAll ys).counts ∧
    ((∀ k, xs.filter (·.key = k) = ys.filter (·.key = k)) →
      contentsOfAll xs = contentsOfAll ys) ∧
    ∀ k, (contentsOfAll xs).entries.get k =
        (xs.filter (·.key = k)).flatMap (fun d => Record.entries d.records) ∧
      (contentsOfAll xs).faults.get k =
        (xs.filter (·.key = k)).flatMap (fun d => Record.faults d.records) := by
  obtain ⟨hxe, hxf⟩ := filled_contentsOfAll xs
  obtain ⟨hye, hyf⟩ := filled_contentsOfAll ys
  have hget (k : String) :
      ((contentsOfAll xs).entries.get k).Perm ((contentsOfAll ys).entries.get k) ∧
        ((contentsOfAll xs).faults.get k).Perm ((contentsOfAll ys).faults.get k) := by
    obtain ⟨hex, hfx⟩ := get_contentsOfAll xs k
    obtain ⟨hey, hfy⟩ := get_contentsOfAll ys k
    rw [hex, hfx, hey, hfy]
    exact ⟨(h.filter _).flatMap_right _, (h.filter _).flatMap_right _⟩
  have hnil {α : Type} {as bs : List α} (hp : as.Perm bs) : as = [] ↔ bs = [] :=
    ⟨fun he => (he ▸ hp).symm.eq_nil, fun he => (he ▸ hp).eq_nil⟩
  refine ⟨hget, hxe.keys_eq hye fun k => hnil (hget k).1, hxf.keys_eq hyf fun k => hnil (hget k).2,
    Contents.counts_eq_of_perm (hxe.perm_items hye fun k => (hget k).1)
      (hxf.perm_items hyf fun k => (hget k).2), fun hkeep => ?_, get_contentsOfAll xs⟩
  -- without reordering under a key the lists are equal, and filled buckets with equal lists are too
  have hsame (k : String) : (contentsOfAll xs).entries.get k = (contentsOfAll ys).entries.get k ∧
      (contentsOfAll xs).faults.get k = (contentsOfAll ys).faults.get k := by
    obtain ⟨hex, hfx⟩ := get_contentsOfAll xs k
    obtain ⟨hey, hfy⟩ := get_contentsOfAll ys k
    rw [hex, hfx, hey, hfy, hkeep k]
    exact ⟨rfl, rfl⟩
  have hentries := hxe.ext hye fun k => (hsame k).1
  have hfaults := hxf.ext hyf fun k => (hsame k).2
  calc contentsOfAll xs = ⟨(contentsOfAll xs).entries, (contentsOfAll xs).faults⟩ := rfl
    _ = contentsOfAll ys := by rw [hentries, hfaults]

section Swap

/-- A new file whose text is the name of a function, the one thing in it. -/
private def newFunction (path name : String) : Document where
  beforePath := ""
  afterPath := path
  beforeSource := ""
  afterSource := name
  diff := .leaf (.insert (.mk .function (.ofBytes name 0 1)
    (.function (.mk (.other "Identifier") (.ofBytes name 0 1) .leaf) [] [])))

/-- A document goes before another of another key: the table stays the same.  Had it gone before one
of its own key, the list under the key would be in another order. -/
theorem contentsOfAll_swap :
    [newFunction "a.go" "f", newFunction "b.go" "g", newFunction "a.go" "h"].Perm
        [newFunction "b.go" "g", newFunction "a.go" "f", newFunction "a.go" "h"] ∧
      contentsOfAll [newFunction "a.go" "f", newFunction "b.go" "g", newFunction "a.go" "h"] =
        contentsOfAll [newFunction "b.go" "g", newFunction "a.go" "f", newFunction "a.go" "h"] ∧
      ((contentsOfAll [newFunction "a.go" "f", newFunction "b.go" "g",
        newFunction "a.go" "h"]).entries.get "a.go").map Entry.name = ["f", "h"] := by
  have hperm : [newFunction "a.go" "f", newFunction "b.go" "g", newFunction "a.go" "h"].Perm
      [newFunction "b.go" "g", newFunction "a.go" "f", newFunction "a.go" "h"] := .swap ..
  refine ⟨hperm, (contentsOfAll_perm hperm).2.2.2.2.1 fun k => ?_, by decide⟩
  have hkey (path name : String) : (newFunction path name).key = path := rfl
  by_cases ha : "a.go" = k
  · subst ha
    simp [hkey]
  · simp [List.filter_cons, hkey, ha]

end Swap

end DiffContents
