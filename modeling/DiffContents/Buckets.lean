/-!
# Lists under keys

`Buckets α` keeps lists under text keys, the keys in increasing order of their code points, which
is also the order of their UTF-8 bytes.

* `append` puts more items behind those of a key, `merge` those of another collection behind
  those of this one, key by key;
* `get` is the list under a key; `get_append` says what `append` does to it.
-/

namespace DiffContents

universe u

namespace Buckets

variable {α : Type u}

/-- The pairs of a sorted list of pairs with more items behind those of one key. -/
def insertPairs (key : String) (items : List α) :
    List (String × List α) → List (String × List α)
  | [] => [(key, items)]
  | (k, xs) :: rest =>
    if key < k then (key, items) :: (k, xs) :: rest
    else if key = k then (k, xs ++ items) :: rest
    else (k, xs) :: insertPairs key items rest

/-- The keys of a list of pairs increase. -/
def Sorted (pairs : List (String × List α)) : Prop := pairs.Pairwise fun p q => p.1 < q.1

theorem mem_insertPairs {key : String} {items : List α} {pairs : List (String × List α)}
    {p : String × List α} (h : p ∈ insertPairs key items pairs) :
    p.1 = key ∨ ∃ q ∈ pairs, p.1 = q.1 := by
  induction pairs with
  | nil => simp_all [insertPairs]
  | cons q rest ih =>
    obtain ⟨k, xs⟩ := q
    rw [insertPairs] at h
    split at h
    · simp only [List.mem_cons] at h ⊢
      rcases h with rfl | h
      · exact .inl rfl
      · exact .inr ⟨p, h, rfl⟩
    · split at h
      · simp only [List.mem_cons] at h ⊢
        rcases h with rfl | h
        · exact .inr ⟨(k, xs), .inl rfl, rfl⟩
        · exact .inr ⟨p, .inr h, rfl⟩
      · simp only [List.mem_cons] at h ⊢
        rcases h with rfl | h
        · exact .inr ⟨(k, xs), .inl rfl, rfl⟩
        · rcases ih h with h | ⟨q, hq, he⟩
          · exact .inl h
          · exact .inr ⟨q, .inr hq, he⟩

theorem sorted_insertPairs (key : String) (items : List α) {pairs : List (String × List α)}
    (h : Sorted pairs) : Sorted (insertPairs key items pairs) := by
  induction pairs with
  | nil => simp [insertPairs, Sorted]
  | cons q rest ih =>
    obtain ⟨k, xs⟩ := q
    obtain ⟨hk, hr⟩ := List.pairwise_cons.mp h
    rw [insertPairs]
    split
    · next hlt =>
      refine List.pairwise_cons.mpr ⟨fun p hp => ?_, h⟩
      rcases List.mem_cons.mp hp with rfl | hp
      · exact hlt
      · exact String.lt_trans hlt (hk p hp)
    · next hnot =>
      split
      · exact List.pairwise_cons.mpr ⟨fun p hp => hk p hp, hr⟩
      · next hne =>
        refine List.pairwise_cons.mpr ⟨fun p hp => ?_, ih hr⟩
        rcases mem_insertPairs hp with he | ⟨q, hq, he⟩
        · rw [he]
          rcases String.le_total key k with hle | hle
          · exact absurd (String.le_antisymm hle (String.not_lt.mp hnot)) hne
          · refine String.not_le.mp fun hle' => hne (String.le_antisymm hle' hle)
        · rw [he]
          exact hk q hq

end Buckets

/-- **Lists under keys**, the keys increasing. -/
structure Buckets (α : Type u) where
  /-- The keys with their lists. -/
  toList : List (String × List α)
  /-- The keys increase. -/
  sorted : Buckets.Sorted toList

namespace Buckets

variable {α : Type u}

/-- No keys. -/
def empty : Buckets α := ⟨[], List.Pairwise.nil⟩

instance : Inhabited (Buckets α) := ⟨empty⟩

/-- More items behind those under a key. -/
def append (b : Buckets α) (key : String) (items : List α) : Buckets α :=
  ⟨insertPairs key items b.toList, sorted_insertPairs key items b.sorted⟩

/-- The lists of another collection behind those of this one, key by key. -/
def merge (b c : Buckets α) : Buckets α :=
  c.toList.foldl (fun b p => b.append p.1 p.2) b

/-- The keys, increasing. -/
def keys (b : Buckets α) : List String := b.toList.map Prod.fst

/-- The list under a key; a key that does not occur has the empty list. -/
def get (b : Buckets α) (key : String) : List α := (b.toList.lookup key).getD []

/-- All items, key by key. -/
def items (b : Buckets α) : List α := b.toList.flatMap Prod.snd

/-- There are no keys. -/
def isEmpty (b : Buckets α) : Bool := b.toList.isEmpty

@[simp] theorem toList_empty : (empty : Buckets α).toList = [] := rfl

@[simp] theorem toList_append (b : Buckets α) (key : String) (items : List α) :
    (b.append key items).toList = insertPairs key items b.toList := rfl

@[simp] theorem merge_empty (b : Buckets α) : b.merge empty = b := rfl

theorem lookup_insertPairs (key k : String) (items : List α) (pairs : List (String × List α))
    (h : Sorted pairs) :
    ((insertPairs key items pairs).lookup k).getD [] =
      (pairs.lookup k).getD [] ++ if k = key then items else [] := by
  induction pairs with
  | nil =>
    by_cases hk : k = key
    · simp [insertPairs, hk]
    · simp [insertPairs, List.lookup_cons, hk, beq_false_of_ne hk]
  | cons q rest ih =>
    obtain ⟨k', xs⟩ := q
    obtain ⟨hk', hr⟩ := List.pairwise_cons.mp h
    rw [insertPairs]
    split
    · next hlt =>
      by_cases hk : k = key
      · subst hk
        have hne : (k == k') = false := beq_false_of_ne (String.ne_of_lt hlt)
        have hnone : rest.lookup k = none := by
          rw [List.lookup_eq_none_iff]
          intro p hp
          exact bne_iff_ne.mpr fun he =>
            String.lt_irrefl _ (String.lt_trans (he ▸ hk' p hp) hlt)
        simp [List.lookup_cons, hne, hnone]
      · have hne : (k == key) = false := beq_false_of_ne hk
        simp [List.lookup_cons, hne, hk]
    · split
      · next he =>
        subst he
        by_cases hk : k = key
        · subst hk; simp
        · have hne : (k == key) = false := beq_false_of_ne hk
          simp [List.lookup_cons, hne, hk]
      · next hne =>
        by_cases hk : k = k'
        · subst hk
          have : ¬ k = key := fun he => hne he.symm
          simp [this]
        · have hne' : (k == k') = false := beq_false_of_ne hk
          simp only [List.lookup_cons, hne', ih hr]

/-- **`append` adds to one list and leaves the others alone.** -/
theorem get_append (b : Buckets α) (key k : String) (items : List α) :
    (b.append key items).get k = b.get k ++ if k = key then items else [] :=
  lookup_insertPairs key k items b.toList b.sorted

end Buckets

end DiffContents
