import DiffContents.Document

/-! # What is filed under a key

A table of contents is built by pushing items one at a time.  While all of them go under one key,
the table holds the entries and the faults among them in the order they came in, and a key only
where there is something to hold (`Buckets.only`).  One push keeps this up (`toList_push`), and so
does a whole run of them (`toList_foldl_push`).
-/
namespace DiffContents

universe u

namespace Buckets

variable {α : Type u}

/-- The pairs of one key with its items; without items there is no key either. -/
def only (key : String) : List α → List (String × List α)
  | [] => []
  | x :: xs => [(key, x :: xs)]

theorem insertPairs_only (key : String) (xs : List α) (x : α) :
    insertPairs key [x] (only key xs) = only key (xs ++ [x]) := by
  cases xs with
  | nil => rfl
  | cons y ys =>
    rw [only, insertPairs, if_neg (String.lt_irrefl key), if_pos rfl, List.cons_append, only]

theorem mem_only_iff {key k : String} {xs ys : List α} :
    (k, ys) ∈ only key xs ↔ k = key ∧ ys = xs ∧ xs ≠ [] := by
  cases xs <;> simp [only]

theorem snd_ne_nil_of_mem_only {key : String} {xs : List α} {p : String × List α}
    (h : p ∈ only key xs) : p.2 ≠ [] := by
  obtain ⟨-, hp, hne⟩ := mem_only_iff.mp h
  rwa [hp]

theorem flatMap_snd_only (key : String) (xs : List α) : (only key xs).flatMap Prod.snd = xs := by
  cases xs <;> simp [only]

theorem lookup_only (key k : String) (xs : List α) :
    ((only key xs).lookup k).getD [] = if k = key then xs else [] := by
  cases xs with
  | nil => simp [only]
  | cons x xs =>
    by_cases hk : k = key
    · simp [only, hk]
    · simp [only, List.lookup_cons, hk, beq_false_of_ne hk]

end Buckets

namespace Item

/-- The item, if it is an entry. -/
def entry? : Item → Option Entry
  | entry e => some e
  | fault _ => none

/-- The item, if it is a fault. -/
def fault? : Item → Option Fault
  | entry _ => none
  | fault f => some f

end Item

namespace Record

/-- The entries that records contribute, in their order. -/
def entries (rs : List Record) : List Entry := (rs.filterMap Item.ofRecord?).filterMap Item.entry?

/-- The faults that records contribute, in their order. -/
def faults (rs : List Record) : List Fault := (rs.filterMap Item.ofRecord?).filterMap Item.fault?

/-- **A record gives an entry** for its context, unless it shows a region that could not be
parsed. -/
theorem mem_entries_iff {rs : List Record} {e : Entry} : e ∈ entries rs ↔
    ∃ r ∈ rs, r.isError = false ∧ ∃ c, r.context = some c ∧ Item.ofContext c = e := by
  have hrecord (r : Record) : (Item.ofRecord? r).bind Item.entry? = some e ↔
      r.isError = false ∧ ∃ c, r.context = some c ∧ Item.ofContext c = e := by
    unfold Item.ofRecord?
    cases r.isError <;> cases r.context <;> simp [Item.entry?]
  rw [entries, List.filterMap_filterMap, List.mem_filterMap]
  simp only [hrecord]

/-- A record gives a fault when it shows a region that could not be parsed. -/
theorem mem_faults_iff {rs : List Record} {f : Fault} : f ∈ faults rs ↔
    ∃ r ∈ rs, r.isError = true ∧ ⟨r.info.name, r.info.span⟩ = f := by
  have hrecord (r : Record) : (Item.ofRecord? r).bind Item.fault? = some f ↔
      r.isError = true ∧ ⟨r.info.name, r.info.span⟩ = f := by
    unfold Item.ofRecord?
    cases r.isError <;> cases r.context <;> simp [Item.fault?]
  rw [faults, List.filterMap_filterMap, List.mem_filterMap]
  simp only [hrecord]

end Record

namespace Contents

/-- **One push** puts an item behind those of its kind. -/
theorem toList_push {key : String} {c : Contents} {es : List Entry} {fs : List Fault}
    (hes : c.entries.toList = Buckets.only key es) (hfs : c.faults.toList = Buckets.only key fs)
    (item : Item) :
    (c.push key item).entries.toList = Buckets.only key (es ++ item.entry?.toList) ∧
      (c.push key item).faults.toList = Buckets.only key (fs ++ item.fault?.toList) := by
  cases item with
  | entry e =>
    refine ⟨?_, by simpa [Item.fault?, push] using hfs⟩
    show Buckets.insertPairs key [e] c.entries.toList = Buckets.only key (es ++ [e])
    rw [hes, Buckets.insertPairs_only]
  | fault f =>
    refine ⟨by simpa [Item.entry?, push] using hes, ?_⟩
    show Buckets.insertPairs key [f] c.faults.toList = Buckets.only key (fs ++ [f])
    rw [hfs, Buckets.insertPairs_only]

/-- **A run of pushes** puts the items behind those of their kinds, in their order. -/
theorem toList_foldl_push {key : String} {c : Contents} {es : List Entry} {fs : List Fault}
    (hes : c.entries.toList = Buckets.only key es) (hfs : c.faults.toList = Buckets.only key fs)
    (items : List Item) :
    let d := items.foldl (fun c item => c.push key item) c
    d.entries.toList = Buckets.only key (es ++ items.filterMap Item.entry?) ∧
      d.faults.toList = Buckets.only key (fs ++ items.filterMap Item.fault?) := by
  induction items generalizing c es fs with
  | nil => simpa using ⟨hes, hfs⟩
  | cons item items ih =>
    obtain ⟨hes', hfs'⟩ := toList_push hes hfs item
    have hcons {β : Type} (f : Item → Option β) :
        (item :: items).filterMap f = (f item).toList ++ items.filterMap f := by
      cases hf : f item <;> simp [hf]
    rw [List.foldl_cons, hcons, hcons, ← List.append_assoc, ← List.append_assoc]
    exact ih hes' hfs'

/-- **The table of records under one key** holds what they contribute, and no other key. -/
theorem toList_ofRecords (key : String) (rs : List Record) :
    (ofRecords key rs).entries.toList = Buckets.only key (Record.entries rs) ∧
      (ofRecords key rs).faults.toList = Buckets.only key (Record.faults rs) := by
  have hes : empty.entries.toList = Buckets.only key [] := rfl
  have hfs : empty.faults.toList = Buckets.only key [] := rfl
  have h := toList_foldl_push hes hfs (rs.filterMap Item.ofRecord?)
  unfold ofRecords Record.entries Record.faults
  simpa only [List.nil_append] using h

theorem get_ofRecords (key k : String) (rs : List Record) :
    (ofRecords key rs).entries.get k = (if k = key then Record.entries rs else []) ∧
      (ofRecords key rs).faults.get k = if k = key then Record.faults rs else [] := by
  obtain ⟨hentries, hfaults⟩ := toList_ofRecords key rs
  unfold Buckets.get
  rw [hentries, hfaults]
  exact ⟨Buckets.lookup_only key k _, Buckets.lookup_only key k _⟩

end Contents

namespace Document

variable {doc : Document}

/-- **An entry comes from a kept record** with its context, unless the record shows a region that
could not be parsed. -/
theorem mem_items_entries_iff {e : Entry} : e ∈ doc.contents.entries.items ↔
    ∃ r ∈ doc.records, r.isError = false ∧ ∃ c, r.context = some c ∧ Item.ofContext c = e := by
  have hitems : doc.contents.entries.items = Record.entries doc.records := by
    unfold Buckets.items contents
    rw [(Contents.toList_ofRecords doc.key doc.records).1, Buckets.flatMap_snd_only]
  rw [hitems, Record.mem_entries_iff]

/-- Under the key of a document stands what its kept records contribute. -/
theorem get_key_contents : doc.contents.entries.get doc.key = Record.entries doc.records ∧
    doc.contents.faults.get doc.key = Record.faults doc.records := by
  obtain ⟨hentries, hfaults⟩ := Contents.get_ofRecords doc.key doc.key doc.records
  exact ⟨hentries.trans (if_pos rfl), hfaults.trans (if_pos rfl)⟩

/-- Everything in the table of a document stands under the key of the document. -/
theorem eq_key_of_mem_keys {k : String}
    (h : k ∈ doc.contents.entries.keys ∨ k ∈ doc.contents.faults.keys) : k = doc.key := by
  obtain ⟨hentries, hfaults⟩ := Contents.toList_ofRecords doc.key doc.records
  unfold Buckets.keys contents at h
  rw [hentries, hfaults] at h
  rcases h with h | h
  · obtain ⟨⟨k', items⟩, hmem, rfl⟩ := List.mem_map.mp h
    exact (Buckets.mem_only_iff.mp hmem).1
  · obtain ⟨⟨k', items⟩, hmem, rfl⟩ := List.mem_map.mp h
    exact (Buckets.mem_only_iff.mp hmem).1

end Document

end DiffContents
