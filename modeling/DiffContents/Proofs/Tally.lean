import DiffContents.Encoding
import DiffContents.Proofs.Building
import Mathlib.Data.List.TFAE
import Mathlib.Tactic.TFAE

/-! # What the tally of a table says

A table is empty when it has no keys, its tally is taken over its lists, and the words for it are
made of the counts.  The three agree on tables built in steps, because no key of such a table stands
without items (`filled_build`).

The counts are numbers of 32 bits.  Whatever is counted, a count is the number of entries of its
kind up to multiples of 2³² (`of_counts`), so it is that number in a table with fewer items than
that; and since the items of a merge are those of both tables (`perm_items_merge`), their counts add
up as long as there are no more items in total (`Counts.AddUpTo`).
-/
namespace DiffContents

universe u

namespace Counts

/-- The count of a kind of change. -/
def of (n : Counts) : Change → UInt32
  | .added => n.added
  | .removed => n.removed
  | .modified => n.modified

/-- **Two tallies add up to a third one**, count by count and without wrapping around. -/
def AddUpTo (m n total : Counts) : Prop :=
  (∀ change, (m.of change).toNat + (n.of change).toNat = (total.of change).toNat) ∧
    m.faults.toNat + n.faults.toNat = total.faults.toNat

theorem of_record (n : Counts) (a b : Change) :
    (n.record a).of b = n.of b + if a = b then 1 else 0 := by
  cases a <;> cases b <;> simp [record, of]

/-- Counted one by one, the entries of a kind come to their number. -/
theorem of_foldl_record (es : List Entry) (n : Counts) (change : Change) :
    (es.foldl (fun n e => n.record e.change) n).of change =
      n.of change + UInt32.ofNat (es.countP (·.change = change)) := by
  induction es generalizing n with
  | nil => simp
  | cons e es ih =>
    rw [List.foldl_cons, ih, of_record, UInt32.add_assoc, List.countP_cons, Nat.add_comm,
      UInt32.ofNat_add]
    by_cases h : e.change = change
    · simp [h]
    · simp [h]

/-! ## Words -/

/-- The words for the counts that are not zero. -/
def parts (n : Counts) : List String :=
  part n.added "added" ++ part n.removed "removed" ++ part n.modified "modified" ++
    part n.faults "parse errors"

theorem text_of_parts_nil {n : Counts} (h : n.parts = []) : n.text = "No changes" := by
  unfold parts at h
  rw [text, h]

theorem text_of_parts_cons {n : Counts} {p : String} {ps : List String} (h : n.parts = p :: ps) :
    n.text = String.intercalate ", " (p :: ps) := by
  unfold parts at h
  rw [text, h]

theorem part_eq_nil_iff {k : UInt32} {noun : String} : part k noun = [] ↔ k = 0 := by
  unfold part
  split <;> simp [*]

theorem parts_eq_nil_iff {n : Counts} : n.parts = [] ↔ n = zero := by
  simp only [parts, List.append_eq_nil_iff, part_eq_nil_iff]
  constructor
  · rintro ⟨⟨⟨ha, hr⟩, hm⟩, hf⟩
    calc n = ⟨n.added, n.removed, n.modified, n.faults⟩ := rfl
      _ = zero := by rw [ha, hr, hm, hf]; rfl
  · rintro rfl
    exact ⟨⟨⟨rfl, rfl⟩, rfl⟩, rfl⟩

/-- The words for a count begin with a digit. -/
theorem exists_digit_of_mem_part {k : UInt32} {noun p : String} (h : p ∈ part k noun) :
    ∃ c cs, p.toList = c :: cs ∧ c.isDigit = true := by
  unfold part at h
  split at h
  · cases h
  · rw [List.mem_singleton] at h
    subst h
    have hchars : (toString k.toNat).toList = Nat.toDigits 10 k.toNat := Nat.toList_repr
    rw [String.toList_append, String.toList_append, hchars]
    cases hdigits : Nat.toDigits 10 k.toNat with
    | nil => exact absurd hdigits Nat.toDigits_ne_nil
    | cons c cs =>
      have hc : c ∈ Nat.toDigits 10 k.toNat := hdigits ▸ List.mem_cons_self
      exact ⟨c, _, rfl, Nat.isDigit_of_mem_toDigits (by decide) (by decide) hc⟩

/-- **Only an empty tally is put as no changes**: the words for any other begin with a digit. -/
theorem text_eq_noChanges_iff (n : Counts) : n.text = "No changes" ↔ n = zero := by
  rw [← parts_eq_nil_iff]
  refine ⟨fun htext => ?_, text_of_parts_nil⟩
  cases hparts : n.parts with
  | nil => rfl
  | cons p ps =>
    exfalso
    have hp : p ∈ n.parts := hparts ▸ List.mem_cons_self
    obtain ⟨c, cs, hchars, hdigit⟩ : ∃ c cs, p.toList = c :: cs ∧ c.isDigit = true := by
      simp only [parts, List.mem_append] at hp
      rcases hp with ((hp | hp) | hp) | hp
      all_goals exact exists_digit_of_mem_part hp
    rw [text_of_parts_cons hparts] at htext
    have hlist := congrArg String.toList htext
    rw [String.toList_intercalate, List.map_cons, hchars] at hlist
    have hhead : c = 'N' := by
      cases ps with
      | nil => simpa using congrArg List.head? hlist
      | cons p' ps => simpa using congrArg List.head? hlist
    rw [hhead] at hdigit
    cases hdigit

end Counts

namespace Buckets

variable {α : Type u}

/-! ## The items of a merge -/

theorem perm_items_append (b : Buckets α) (key : String) (items : List α) :
    (b.append key items).items.Perm (b.items ++ items) := by
  unfold Buckets.items
  rw [toList_append]
  induction b.toList with
  | nil => simp [insertPairs]
  | cons p ps ih =>
    rw [insertPairs]
    split
    · rw [List.flatMap_cons]
      exact List.perm_append_comm
    · split
      · -- the key is there, so its items stand before those of the later keys
        rw [List.flatMap_cons, List.flatMap_cons, List.append_assoc, List.append_assoc]
        exact List.perm_append_comm.append_left p.2
      · rw [List.flatMap_cons, List.flatMap_cons, List.append_assoc]
        exact ih.append_left p.2

/-- **The items of a merge** are those of both collections. -/
theorem perm_items_merge (b c : Buckets α) : (b.merge c).items.Perm (b.items ++ c.items) := by
  have hfold (ps : List (String × List α)) (b : Buckets α) :
      (ps.foldl (fun b p => b.append p.1 p.2) b).items.Perm (b.items ++ ps.flatMap Prod.snd) := by
    induction ps generalizing b with
    | nil => simp
    | cons p ps ih =>
      rw [List.foldl_cons, List.flatMap_cons, ← List.append_assoc]
      exact (ih _).trans ((perm_items_append b p.1 p.2).append_right _)
  exact hfold c.toList b

/-- A filled collection without items has no keys. -/
theorem Filled.isEmpty_iff {b : Buckets α} (h : b.Filled) : b.isEmpty = true ↔ b.items = [] := by
  unfold Buckets.isEmpty Buckets.items
  rw [List.isEmpty_iff, List.flatMap_eq_nil_iff]
  constructor
  · intro hb p hp
    rw [hb] at hp
    cases hp
  · intro hitems
    exact List.eq_nil_iff_forall_not_mem.mpr fun p hp => h p hp (hitems p hp)

theorem member_eq_nil_iff {b : Buckets α} {name : String} {f : α → Json} :
    b.member name f = [] ↔ b.isEmpty = true := by
  unfold Buckets.member
  split <;> simp [*]

end Buckets

namespace Contents

/-- How many entries and faults a table holds. -/
def size (c : Contents) : Nat := c.entries.items.length + c.faults.items.length

theorem size_merge (c d : Contents) : (c.merge d).size = c.size + d.size := by
  have hentries := (Buckets.perm_items_merge c.entries d.entries).length_eq
  have hfaults := (Buckets.perm_items_merge c.faults d.faults).length_eq
  rw [List.length_append] at hentries hfaults
  show (c.entries.merge d.entries).items.length + (c.faults.merge d.faults).items.length = _
  unfold size
  omega

/-- **No key of a table built in steps stands without items.** -/
theorem filled_build (steps : List Step) :
    (build steps).entries.Filled ∧ (build steps).faults.Filled := by
  rw [build, applyAll_eq_pushAll]
  exact filled_pushAll ⟨Buckets.filled_empty, Buckets.filled_empty⟩ _

/-- A filled table is empty when it holds nothing. -/
theorem isEmpty_iff_size {c : Contents} (h : c.entries.Filled ∧ c.faults.Filled) :
    c.isEmpty = true ↔ c.size = 0 := by
  unfold isEmpty size
  rw [Bool.and_eq_true, h.1.isEmpty_iff, h.2.isEmpty_iff]
  simp

theorem toJson_eq_empty_iff (c : Contents) : c.toJson = .object [] ↔ c.isEmpty = true := by
  unfold toJson isEmpty
  rw [Json.object.injEq, List.append_eq_nil_iff, Buckets.member_eq_nil_iff,
    Buckets.member_eq_nil_iff, Bool.and_eq_true]

/-! ## Counting in 32 bits -/

/-- **A count** is the number of entries of its kind, as a number of 32 bits. -/
theorem of_counts (c : Contents) (change : Change) :
    c.counts.of change = UInt32.ofNat (c.entries.items.countP (·.change = change)) := by
  have hfold := Counts.of_foldl_record c.entries.items Counts.zero change
  have hfaults (n : Counts) (k : UInt32) : ({ n with faults := k } : Counts).of change =
      n.of change := by
    cases change <;> rfl
  have hzero : Counts.zero.of change = 0 := by cases change <;> rfl
  rw [counts, hfaults, hfold, hzero, UInt32.zero_add]

theorem countP_le_size (c : Contents) (change : Change) :
    c.entries.items.countP (·.change = change) ≤ c.size :=
  Nat.le_trans List.countP_le_length (Nat.le_add_right ..)

/-- In a table that is not too large nothing wraps around. -/
theorem toNat_of_counts {c : Contents} (h : c.size < UInt32.size) (change : Change) :
    (c.counts.of change).toNat = c.entries.items.countP (·.change = change) := by
  rw [of_counts, UInt32.toNat_ofNat_of_lt' (Nat.lt_of_le_of_lt (c.countP_le_size change) h)]

theorem toNat_faults_counts {c : Contents} (h : c.size < UInt32.size) :
    c.counts.faults.toNat = c.faults.items.length := by
  have hle : c.faults.items.length ≤ c.size := Nat.le_add_left ..
  exact UInt32.toNat_ofNat_of_lt' (Nat.lt_of_le_of_lt hle h)

/-- Every entry is counted under one kind. -/
theorem length_eq_countP (es : List Entry) :
    es.countP (·.change = .added) + es.countP (·.change = .removed) +
      es.countP (·.change = .modified) = es.length := by
  induction es with
  | nil => rfl
  | cons e es ih =>
    simp only [List.countP_cons, List.length_cons]
    cases e.change <;> simp <;> omega

theorem sum_counts {c : Contents} (h : c.size < UInt32.size) :
    c.counts.added.toNat + c.counts.removed.toNat + c.counts.modified.toNat =
      c.entries.items.length := by
  have hadded : c.counts.added.toNat = _ := toNat_of_counts h .added
  have hremoved : c.counts.removed.toNat = _ := toNat_of_counts h .removed
  have hmodified : c.counts.modified.toNat = _ := toNat_of_counts h .modified
  rw [hadded, hremoved, hmodified, length_eq_countP]

theorem counts_eq_zero_iff {c : Contents} (h : c.size < UInt32.size) :
    c.counts = Counts.zero ↔ c.size = 0 := by
  have hsum := sum_counts h
  have hfaults := toNat_faults_counts h
  constructor
  · intro hzero
    rw [hzero] at hsum hfaults
    unfold size
    rw [← hsum, ← hfaults]
    rfl
  · intro hsize
    unfold size at hsize
    have hzero {k : UInt32} (hk : k.toNat = 0) : k = 0 := UInt32.toNat_inj.mp hk
    calc c.counts = ⟨c.counts.added, c.counts.removed, c.counts.modified, c.counts.faults⟩ := rfl
      _ = Counts.zero := by
        rw [hzero (k := c.counts.added) (by omega), hzero (k := c.counts.removed) (by omega),
          hzero (k := c.counts.modified) (by omega), hzero (k := c.counts.faults) (by omega)]
        rfl

/-- **Tallies of two tables add up to that of their merge**, if it is not too large. -/
theorem addUpTo_merge {c d : Contents} (h : (c.merge d).size < UInt32.size) :
    c.counts.AddUpTo d.counts (c.merge d).counts := by
  have hsize := size_merge c d
  have hc : c.size < UInt32.size := by omega
  have hd : d.size < UInt32.size := by omega
  constructor
  · intro change
    have hperm : (c.merge d).entries.items.Perm _ := Buckets.perm_items_merge c.entries d.entries
    rw [toNat_of_counts hc, toNat_of_counts hd, toNat_of_counts h, hperm.countP_eq,
      List.countP_append]
  · have hperm : (c.merge d).faults.items.Perm _ := Buckets.perm_items_merge c.faults d.faults
    rw [toNat_faults_counts hc, toNat_faults_counts hd, toNat_faults_counts h, hperm.length_eq,
      List.length_append]

/-- **A table built in steps and its tally agree**, if it has fewer than 2³² items.  No key stands
without items.  The table is empty exactly when it holds nothing, when all its counts are zero, when
the words for them are those for no changes, and when its JSON form has no members.  The counts are
the numbers of entries of each kind, so together the number of entries, and the number of faults;
and they add up over merges. -/
theorem build_tallied {steps : List Step} (h : (build steps).size < 2 ^ 32) :
    (∀ p ∈ (build steps).entries.toList, p.2 ≠ []) ∧
    (∀ p ∈ (build steps).faults.toList, p.2 ≠ []) ∧
    [(build steps).isEmpty = true, (build steps).size = 0, (build steps).counts = Counts.zero,
      (build steps).counts.text = "No changes", (build steps).toJson = .object []].TFAE ∧
    (∀ change, ((build steps).counts.of change).toNat =
      (build steps).entries.items.countP (·.change = change)) ∧
    (build steps).counts.added.toNat + (build steps).counts.removed.toNat +
      (build steps).counts.modified.toNat = (build steps).entries.items.length ∧
    (build steps).counts.faults.toNat = (build steps).faults.items.length ∧
    ∀ steps', ((build steps).merge (build steps')).size < 2 ^ 32 →
      (build steps).counts.AddUpTo (build steps').counts
        ((build steps).merge (build steps')).counts := by
  obtain ⟨hentries, hfaults⟩ := filled_build steps
  refine ⟨hentries, hfaults, ?_, toNat_of_counts h, sum_counts h, toNat_faults_counts h,
    fun _ h' => addUpTo_merge h'⟩
  have hsize := isEmpty_iff_size ⟨hentries, hfaults⟩
  have hcounts := counts_eq_zero_iff h
  have htext := (build steps).counts.text_eq_noChanges_iff
  have hjson := (build steps).toJson_eq_empty_iff
  tfae_have 1 ↔ 2 := hsize
  tfae_have 3 ↔ 2 := hcounts
  tfae_have 4 ↔ 3 := htext
  tfae_have 5 ↔ 1 := hjson
  tfae_finish

/-- An entry under one key, and the table of an unparseable region under another. -/
private def twoKeys : List Step := [
  .push "a.go" (.entry ⟨.added, .function, "f", default⟩),
  .records "b.go" [⟨.insert ⟨none, "func ((", default⟩, none⟩]]

/-- Tables with a key in common, one of them built by merging: together they hold five items, and
the table itself is told from an empty one by its words. -/
theorem twoKeys_tallied : (build twoKeys).size < 2 ^ 32 ∧
    ((build twoKeys).merge (build (.nested twoKeys :: twoKeys.take 1))).size < 2 ^ 32 ∧
    (build twoKeys).counts.AddUpTo (build (.nested twoKeys :: twoKeys.take 1)).counts
      ((build twoKeys).merge (build (.nested twoKeys :: twoKeys.take 1))).counts ∧
    ((build twoKeys).isEmpty = true ↔ (build twoKeys).counts.text = "No changes") ∧
    (build twoKeys).counts.text = "1 added, 1 parse errors" := by
  have hsize : (build twoKeys).size < 2 ^ 32 := by decide
  have hmerged :
      ((build twoKeys).merge (build (.nested twoKeys :: twoKeys.take 1))).size < 2 ^ 32 := by
    decide
  obtain ⟨-, -, hempty, -, -, -, hadd⟩ := build_tallied hsize
  exact ⟨hsize, hmerged, hadd _ hmerged, hempty.out 0 3, by decide⟩

end Contents

end DiffContents
