import DiffContents.Proofs.Collation
import Mathlib.Data.List.Infix

/-! # Which files share a key

A file that was renamed has two paths, and its key is both of them with an arrow between; any other
file has one path, which may stand on either side or on both, and its key is that path.  As long as
no path holds an arrow itself (`Text.ArrowFree`), the key of a renamed file holds exactly one, so
the key is taken apart at it in one way only (`eq_and_eq_of_arrow`), and it is no path of another
file.  So two files share a key only if they are renamed alike or have the same one path
(`SameFile`), and only then do their entries meet in a table of contents.
-/
namespace DiffContents

namespace Text

/-- The text holds no arrow. -/
def ArrowFree (s : String) : Prop := ¬ ['-', '>'] <:+: s.toList

instance (s : String) : Decidable (ArrowFree s) := inferInstanceAs (Decidable (¬ _))

/-- A text with an arrow between blanks is not free of arrows. -/
theorem not_arrowFree_arrow (s t : String) : ¬ ArrowFree (s ++ " -> " ++ t) := by
  intro h
  apply h
  rw [String.toList_append, String.toList_append]
  exact ⟨s.toList ++ [' '], ' ' :: t.toList, by simp⟩

/-- What stands before an arrow and goes on with the rest of a text up to a later arrow holds the
first one, unless there is nothing between the two. -/
theorem eq_nil_of_arrow {cs xs ys : List Char} (hcs : ¬ ['-', '>'] <:+: cs)
    (h : ' ' :: '-' :: '>' :: ' ' :: xs = cs ++ ' ' :: '-' :: '>' :: ' ' :: ys) : cs = [] := by
  match cs with
  | [] => rfl
  -- an arrow one or two places further on does not fit the blanks of the first one
  | [a] => simp at h
  | [a, b] => simp at h
  | a :: b :: c :: cs =>
    exfalso
    simp only [List.cons_append, List.cons.injEq] at h
    obtain ⟨rfl, rfl, rfl, -⟩ := h
    exact hcs ⟨[' '], cs, rfl⟩

/-- Where one text goes on beyond another one, both before an arrow, it goes on with nothing. -/
theorem eq_and_eq_of_toList_eq {s t s' t' : String} {cs : List Char} (hs' : ArrowFree s')
    (hcs : s'.toList = s.toList ++ cs)
    (h : ' ' :: '-' :: '>' :: ' ' :: t.toList = cs ++ ' ' :: '-' :: '>' :: ' ' :: t'.toList) :
    s = s' ∧ t = t' := by
  have hfree : ¬ ['-', '>'] <:+: cs := fun hin =>
    hs' (hin.trans ⟨s.toList, [], by rw [List.append_nil, hcs]⟩)
  obtain rfl := eq_nil_of_arrow hfree h
  simp only [List.append_nil] at hcs
  simp only [List.nil_append, List.cons.injEq, true_and] at h
  exact ⟨(String.toList_inj.mp hcs).symm, String.toList_inj.mp h⟩

/-- **An arrow between texts without arrows** is found in one way. -/
theorem eq_and_eq_of_arrow {s t s' t' : String} (hs : ArrowFree s) (hs' : ArrowFree s')
    (h : s ++ " -> " ++ t = s' ++ " -> " ++ t') : s = s' ∧ t = t' := by
  have hlist : s.toList ++ ' ' :: '-' :: '>' :: ' ' :: t.toList =
      s'.toList ++ ' ' :: '-' :: '>' :: ' ' :: t'.toList := by
    simpa using congrArg String.toList h
  rcases List.append_eq_append_iff.mp hlist with ⟨cs, hcs, hrest⟩ | ⟨cs, hcs, hrest⟩
  · exact eq_and_eq_of_toList_eq hs' hcs hrest
  · obtain ⟨rfl, rfl⟩ := eq_and_eq_of_toList_eq hs hcs hrest
    exact ⟨rfl, rfl⟩

end Text

open Text (ArrowFree)

/-! ## Renamed files and files of one path -/

/-- The file has two paths that differ. -/
def Renamed (before after : String) : Prop := before ≠ "" ∧ after ≠ "" ∧ before ≠ after

instance (before after : String) : Decidable (Renamed before after) :=
  inferInstanceAs (Decidable (_ ∧ _))

/-- **The one path of a file**: that of a new file, that of a removed file, or the path it keeps. -/
inductive OnePath : String → String → String → Prop where
  | new (path : String) : OnePath "" path path
  | removed (path : String) : OnePath path "" path
  | kept (path : String) : OnePath path path path

/-- **Two pairs of paths speak of the same file**: both of a renamed one with the same two paths, or
neither, and then of the same one path. -/
def SameFile (before after before' after' : String) : Prop :=
  (Renamed before after ∧ Renamed before' after' ∧ before = before' ∧ after = after') ∨
    (¬ Renamed before after ∧ ¬ Renamed before' after' ∧
      ∃ path, OnePath before after path ∧ OnePath before' after' path)

variable {before after before' after' : String}

theorem pathKey_of_renamed (h : Renamed before after) :
    pathKey before after = before ++ " -> " ++ after := by
  obtain ⟨hb, ha, hne⟩ := h
  rw [pathKey, if_neg hb, if_neg ha, if_neg hne]

/-- The key of a file that was not renamed is its one path. -/
theorem onePath_pathKey (h : ¬ Renamed before after) :
    OnePath before after (pathKey before after) := by
  unfold pathKey
  by_cases hb : before = ""
  · subst hb
    rw [if_pos rfl]
    exact .new after
  · by_cases ha : after = ""
    · subst ha
      rw [if_neg hb, if_pos rfl]
      exact .removed before
    · by_cases hne : before = after
      · subst hne
        rw [if_neg hb, if_neg hb, if_pos rfl]
        exact .kept before
      · exact absurd ⟨hb, ha, hne⟩ h

theorem pathKey_of_onePath {path : String} (h : OnePath before after path) :
    pathKey before after = path := by
  unfold pathKey
  cases h with
  | new => exact if_pos rfl
  | removed =>
    by_cases hp : before = ""
    · rw [if_pos hp, hp]
    · rw [if_neg hp, if_pos rfl]
  | kept =>
    by_cases hp : before = ""
    · rw [if_pos hp]
    · rw [if_neg hp, if_neg hp, if_pos rfl]

/-- The one path of a file is one of its paths. -/
theorem OnePath.arrowFree {path : String} (h : OnePath before after path) (hb : ArrowFree before)
    (ha : ArrowFree after) : ArrowFree path := by
  cases h with
  | new => exact ha
  | removed | kept => exact hb

/-- A renamed file and one that was not renamed have different keys. -/
theorem pathKey_ne_of_renamed (h : Renamed before after) (h' : ¬ Renamed before' after')
    (hb' : ArrowFree before') (ha' : ArrowFree after') :
    pathKey before after ≠ pathKey before' after' := by
  intro hkey
  have hfree : ArrowFree (pathKey before' after') := (onePath_pathKey h').arrowFree hb' ha'
  rw [← hkey, pathKey_of_renamed h] at hfree
  exact Text.not_arrowFree_arrow before after hfree

theorem pathKey_eq_iff (hb : ArrowFree before) (ha : ArrowFree after) (hb' : ArrowFree before')
    (ha' : ArrowFree after') :
    pathKey before after = pathKey before' after' ↔ SameFile before after before' after' := by
  constructor
  · intro hkey
    by_cases h : Renamed before after
    · by_cases h' : Renamed before' after'
      · rw [pathKey_of_renamed h, pathKey_of_renamed h'] at hkey
        exact .inl ⟨h, h', Text.eq_and_eq_of_arrow hb hb' hkey⟩
      · exact absurd hkey (pathKey_ne_of_renamed h h' hb' ha')
    · by_cases h' : Renamed before' after'
      · exact absurd hkey.symm (pathKey_ne_of_renamed h' h hb ha)
      · have hpath := onePath_pathKey h
        rw [hkey] at hpath
        exact .inr ⟨h, h', _, hpath, onePath_pathKey h'⟩
  · rintro (⟨-, -, rfl, rfl⟩ | ⟨-, -, path, h, h'⟩)
    · rfl
    · rw [pathKey_of_onePath h, pathKey_of_onePath h']

/-! ## Documents under one key -/

namespace Document

/-- No path of the document holds an arrow. -/
def ArrowFree (d : Document) : Prop := Text.ArrowFree d.beforePath ∧ Text.ArrowFree d.afterPath

instance (d : Document) : Decidable d.ArrowFree := inferInstanceAs (Decidable (_ ∧ _))

/-- The two documents speak of the same file. -/
def SameFile (d e : Document) : Prop :=
  DiffContents.SameFile d.beforePath d.afterPath e.beforePath e.afterPath

/-- The document has an entry or a fault under the key. -/
def FilesUnder (d : Document) (k : String) : Prop :=
  d.contents.entries.get k ≠ [] ∨ d.contents.faults.get k ≠ []

instance (d : Document) (k : String) : Decidable (d.FilesUnder k) :=
  inferInstanceAs (Decidable (_ ∨ _))

/-- A document files everything under its own key. -/
theorem FilesUnder.eq_key {d : Document} {k : String} (h : d.FilesUnder k) : d.key = k := by
  obtain ⟨hentries, hfaults⟩ := Contents.get_ofRecords d.key k d.records
  by_cases hk : k = d.key
  · exact hk.symm
  · rw [if_neg hk] at hentries hfaults
    rcases h with h | h
    · exact absurd hentries h
    · exact absurd hfaults h

end Document

/-- Under a key of the merged table stands what the single tables have under it. -/
theorem get_contentsOfAll_eq_flatMap (ds : List Document) (k : String) :
    (contentsOfAll ds).entries.get k = ds.flatMap (·.contents.entries.get k) ∧
      (contentsOfAll ds).faults.get k = ds.flatMap (·.contents.faults.get k) := by
  rw [contentsOfAll_eq_foldl_merge]
  exact ⟨Buckets.get_foldl_merge (·.contents.entries) ds .empty k,
    Buckets.get_foldl_merge (·.contents.faults) ds .empty k⟩

/-- **Keys tell files apart.**  Where no path holds an arrow, two pairs of paths have the same key
exactly if they speak of the same file: renamed both, with the same two paths, or neither of them,
with the same one path.  So in the table of many such documents, whose lists under a key are those
of the single documents one after the other, the entries and faults under a key come from documents
of one file. -/
theorem pathKey_separates :
    (∀ before after before' after', ArrowFree before → ArrowFree after → ArrowFree before' →
      ArrowFree after' →
      (pathKey before after = pathKey before' after' ↔ SameFile before after before' after')) ∧
    ∀ ds : List Document, (∀ d ∈ ds, d.ArrowFree) → ∀ k,
      (contentsOfAll ds).entries.get k = ds.flatMap (·.contents.entries.get k) ∧
      (contentsOfAll ds).faults.get k = ds.flatMap (·.contents.faults.get k) ∧
      ∀ d ∈ ds, ∀ e ∈ ds, d.FilesUnder k → e.FilesUnder k → d.SameFile e := by
  constructor
  · intro before after before' after' hb ha hb' ha'
    exact pathKey_eq_iff hb ha hb' ha'
  · intro ds hds k
    obtain ⟨hentries, hfaults⟩ := get_contentsOfAll_eq_flatMap ds k
    refine ⟨hentries, hfaults, fun d hd e he hdk hek => ?_⟩
    obtain ⟨hdb, hda⟩ := hds d hd
    obtain ⟨heb, hea⟩ := hds e he
    have hkey : d.key = e.key := hdk.eq_key.trans hek.eq_key.symm
    exact (pathKey_eq_iff hdb hda heb hea).mp hkey

/-- It is not enough that no path holds the arrow with its blanks. -/
example : pathKey "a ->" "b" = pathKey "a" "-> b" := by decide

section Unparseable

/-- A file that could not be parsed. -/
private def unparseable (beforePath afterPath : String) : Document where
  beforePath := beforePath
  afterPath := afterPath
  beforeSource := ""
  afterSource := "(("
  diff := .leaf (.insert (.mk .parseError (.ofBytes "((" 0 2) .leaf))

private def unparseableFiles : List Document :=
  [unparseable "a.go" "b.go", unparseable "" "b.go", unparseable "b.go" "b.go"]

/-- A new file and one that keeps its path stand under one key, and have the same one path.  A file
renamed to that path has another key, since it is not the same file. -/
theorem pathKey_separates_rename :
    (∀ d ∈ unparseableFiles, d.ArrowFree) ∧
    (unparseable "" "b.go").FilesUnder "b.go" ∧ (unparseable "b.go" "b.go").FilesUnder "b.go" ∧
    (unparseable "" "b.go").SameFile (unparseable "b.go" "b.go") ∧
    ¬ SameFile "a.go" "b.go" "" "b.go" := by
  have hfree : ∀ d ∈ unparseableFiles, d.ArrowFree := by decide
  have hnew : (unparseable "" "b.go").FilesUnder "b.go" := by decide
  have hkept : (unparseable "b.go" "b.go").FilesUnder "b.go" := by decide
  obtain ⟨-, -, hsame⟩ := pathKey_separates.2 unparseableFiles hfree "b.go"
  refine ⟨hfree, hnew, hkept, hsame _ (by simp [unparseableFiles]) _
    (by simp [unparseableFiles]) hnew hkept, fun h => ?_⟩
  have hkey := (pathKey_separates.1 "a.go" "b.go" "" "b.go" (by decide) (by decide) (by decide)
    (by decide)).mpr h
  exact absurd hkey (by decide)

end Unparseable

end DiffContents
