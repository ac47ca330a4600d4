import DiffContents.Proofs.RoundTrip
import DiffContents.Run
import Mathlib.Data.List.Forall2

/-! # All documents or the first fault

A command loads its documents in the order of its paths and goes no further than the first one that
cannot be loaded.  `loadAll_of_loads` and `loadAll_of_error` say what this comes to in either case,
and `Document.exists_first_fault` that there is no third one.  A summary is made of all documents or
not at all.

What a failed command shows depends on the paths up to the one it failed at, and through them on
nothing but the files they lead to (`Directory.read_congr`), because following a path looks at the
names of files and never into them (`Directory.resolve_congr`).
-/
namespace DiffContents

namespace Directory

variable {d e : Directory}

/-- The two directories have files under the same names. -/
def SameNames (d e : Directory) : Prop := d.files.map Prod.fst = e.files.map Prod.fst

instance (d e : Directory) : Decidable (d.SameNames e) := inferInstanceAs (Decidable (_ = _))

/-- A file is found by its names. -/
theorem lookup_isSome_eq (d : Directory) (names : List String) :
    (d.files.lookup names).isSome = (d.files.map Prod.fst).contains names := by
  rw [Bool.eq_iff_iff, List.lookup_isSome_iff, List.contains_iff_mem, List.mem_map]
  constructor
  · rintro ⟨p, hp, hnames⟩
    exact ⟨p, hp, (eq_of_beq hnames).symm⟩
  · rintro ⟨p, hp, rfl⟩
    exact ⟨p, hp, beq_self_eq_true p.1⟩

theorem hasBelow_eq (d : Directory) (names : List String) : d.hasBelow names =
    (d.files.map Prod.fst).any fun path =>
      names.length < path.length && path.take names.length = names := by
  rw [List.any_map]
  rfl

theorem step_congr (h : d.SameNames e) : d.step = e.step := by
  unfold SameNames at h
  funext name place
  cases place with
  | file names => rfl
  | above => rfl
  | inside names => simp only [step, lookup_isSome_eq, hasBelow_eq, h]

/-- **Where a path leads** is told by the names of the files. -/
theorem resolve_congr (h : d.SameNames e) (path : String) : d.resolve path = e.resolve path := by
  have hfollow (names : List String) (place : Place) :
      d.follow names place = e.follow names place := by
    induction names generalizing place with
    | nil => rfl
    | cons name names ih =>
      rw [follow, follow, step_congr h]
      cases e.step name place with
      | error fault => rfl
      | ok place => exact ih place
  rw [resolve, resolve]
  split
  · rfl
  · exact hfollow _ _

/-- **Reading a path** looks into the file it leads to and into no other one. -/
theorem read_congr (h : d.SameNames e) {path : String}
    (hfile : ∀ file, d.files.lookup file ≠ e.files.lookup file →
      d.resolve path ≠ .ok (.file file)) :
    d.read path = e.read path := by
  unfold read
  rw [← resolve_congr h]
  cases hplace : d.resolve path with
  | error fault => rfl
  | ok place =>
    cases place with
    | inside names => rfl
    | above => rfl
    | file file =>
      have hlookup : d.files.lookup file = e.files.lookup file := by
        by_contra hne
        exact hfile file hne hplace
      simp only [bind, Except.bind, hlookup]

/-- The settings are the file of their name in the directory itself. -/
theorem eq_of_resolve_settings {file : List String}
    (h : d.resolve Settings.fileName = .ok (.file file)) : file = [Settings.fileName] := by
  have hresolve : d.resolve Settings.fileName =
      d.step Settings.fileName (.inside []) >>= fun place => .ok place := rfl
  have hstep : d.step Settings.fileName (.inside []) =
      if (d.files.lookup [Settings.fileName]).isSome then .ok (.file [Settings.fileName])
      else if d.hasBelow [Settings.fileName] then .ok (.inside [Settings.fileName])
      else .error .notFound := rfl
  rw [hresolve, hstep] at h
  split at h
  · cases h
    rfl
  · split at h
    · cases h
    · cases h

end Directory

namespace Document

/-- **Why a document cannot be loaded**: its path cannot be read, or the text there is no
document. -/
theorem load_eq_error_iff {read : FileReader} {path : String} {e : LoadError} :
    load read path = .error e ↔
      (∃ fault, read path = .error fault ∧ e = .unreadable path fault) ∨
        ∃ text error, read path = .ok text ∧ ofText text = .error error ∧
          e = .invalid path error := by
  unfold load
  cases hread : read path with
  | error fault =>
    constructor
    · intro h
      cases h
      exact .inl ⟨fault, rfl, rfl⟩
    · rintro (⟨_, hfault, rfl⟩ | ⟨_, _, htext, -, -⟩)
      · cases hfault
        rfl
      · cases htext
  | ok text =>
    show (ofText text).mapError (.invalid path) = .error e ↔ _
    cases htext : ofText text with
    | error error =>
      constructor
      · intro h
        cases h
        exact .inr ⟨text, error, rfl, htext, rfl⟩
      · rintro (⟨_, hfault, -⟩ | ⟨_, _, htext', herror, rfl⟩)
        · cases hfault
        · cases htext'
          rw [htext] at herror
          cases herror
          rfl
    | ok d =>
      constructor
      · intro h
        cases h
      · rintro (⟨_, hfault, -⟩ | ⟨_, _, htext', herror, -⟩)
        · cases hfault
        · cases htext'
          rw [htext] at herror
          cases herror

theorem path_of_load_eq_error {read : FileReader} {path : String} {e : LoadError}
    (h : load read path = .error e) : e.path = path := by
  rcases load_eq_error_iff.mp h with ⟨fault, -, rfl⟩ | ⟨text, error, -, -, rfl⟩
  · rfl
  · rfl

theorem load_congr {read read' : FileReader} {path : String} (h : read path = read' path) :
    load read path = load read' path := by
  rw [load, load, h]

/-- Every path leads to the document beside it. -/
def Loads (read : FileReader) (paths : List String) (ds : List Document) : Prop :=
  List.Forall₂ (fun path d => load read path = .ok d) paths ds

theorem exists_loads {read : FileReader} {paths : List String}
    (h : ∀ path ∈ paths, ∃ d, load read path = .ok d) : ∃ ds, Loads read paths ds := by
  induction paths with
  | nil => exact ⟨[], .nil⟩
  | cons path paths ih =>
    obtain ⟨hpath, hpaths⟩ := List.forall_mem_cons.mp h
    obtain ⟨d, hd⟩ := hpath
    obtain ⟨ds, hds⟩ := ih hpaths
    exact ⟨d :: ds, .cons hd hds⟩

theorem Loads.forall_mem {read : FileReader} {paths : List String} {ds : List Document}
    (h : Loads read paths ds) : ∀ path ∈ paths, ∃ d, load read path = .ok d := by
  induction h with
  | nil => exact List.forall_mem_nil _
  | cons hd _ ih => exact List.forall_mem_cons.mpr ⟨⟨_, hd⟩, ih⟩

theorem Loads.congr {read read' : FileReader} {paths : List String} {ds : List Document}
    (h : Loads read paths ds) (hread : ∀ path ∈ paths, read path = read' path) :
    Loads read' paths ds := by
  induction h with
  | nil => exact .nil
  | cons hd _ ih =>
    obtain ⟨hpath, hpaths⟩ := List.forall_mem_cons.mp hread
    exact .cons (load_congr hpath ▸ hd) (ih hpaths)

/-- **Where not all documents load**, there is a first path that does not lead to one. -/
theorem exists_first_fault {read : FileReader} {paths : List String}
    (h : ∃ path ∈ paths, ∃ e, load read path = .error e) :
    ∃ before path after ds e, paths = before ++ path :: after ∧ Loads read before ds ∧
      load read path = .error e := by
  induction paths with
  | nil =>
    obtain ⟨path, hpath, -⟩ := h
    cases hpath
  | cons first paths ih =>
    cases hfirst : load read first with
    | error e => exact ⟨[], first, paths, [], e, rfl, .nil, hfirst⟩
    | ok d =>
      obtain ⟨path, hpath, e, he⟩ := h
      rcases List.mem_cons.mp hpath with rfl | hpath
      · rw [hfirst] at he
        cases he
      · obtain ⟨before, path, after, ds, e, rfl, hds, he⟩ := ih ⟨path, hpath, e, he⟩
        exact ⟨first :: before, path, after, d :: ds, e, rfl, .cons hfirst hds, he⟩

/-- There is one first path that does not lead to a document. -/
theorem first_fault_unique {read : FileReader} {before before' after after' : List String}
    {path path' : String} (hbefore : ∀ p ∈ before, ∃ d, load read p = .ok d)
    (hpath : ∃ e, load read path = .error e) (hbefore' : ∀ p ∈ before', ∃ d, load read p = .ok d)
    (hpath' : ∃ e, load read path' = .error e)
    (h : before ++ path :: after = before' ++ path' :: after') :
    before = before' ∧ path = path' := by
  -- Where the two places differ, one of the faults stands before the other.
  have habsurd {p : String} (hok : ∃ d, load read p = .ok d)
      (herror : ∃ e, load read p = .error e) : False := by
    obtain ⟨d, hd⟩ := hok
    obtain ⟨e, he⟩ := herror
    rw [hd] at he
    cases he
  induction before generalizing before' with
  | nil =>
    cases before' with
    | nil => exact ⟨rfl, (List.cons.inj h).1⟩
    | cons first' before' =>
      obtain ⟨rfl, -⟩ := List.cons.inj h
      exact (habsurd (hbefore' path List.mem_cons_self) hpath).elim
  | cons first before ih =>
    cases before' with
    | nil =>
      obtain ⟨rfl, -⟩ := List.cons.inj h
      exact (habsurd (hbefore first List.mem_cons_self) hpath').elim
    | cons first' before' =>
      obtain ⟨rfl, hrest⟩ := List.cons.inj h
      obtain ⟨rfl, rfl⟩ := ih (List.forall_mem_cons.mp hbefore).2
        (List.forall_mem_cons.mp hbefore').2 hrest
      exact ⟨rfl, rfl⟩

end Document

open Document (Loads)

/-- Documents that all load are loaded in their order. -/
theorem loadAll_of_loads {read : FileReader} {paths : List String} {ds : List Document}
    (h : Loads read paths ds) :
    loadAll read paths = (List.zipWith Event.loaded paths ds, .ok ds) := by
  induction h with
  | nil => rfl
  | cons hd _ ih =>
    rw [loadAll, hd, ih]
    rfl

/-- **Loading ends at the first fault.**  What stands behind it is not looked at. -/
theorem loadAll_of_error {read : FileReader} {before after : List String} {path : String}
    {ds : List Document} {e : LoadError} (h : Loads read before ds)
    (he : Document.load read path = .error e) :
    loadAll read (before ++ path :: after) =
      (List.zipWith Event.loaded before ds, .error e) := by
  induction h with
  | nil =>
    rw [List.nil_append, loadAll, he]
    rfl
  | cons hd _ ih =>
    rw [List.cons_append, loadAll, hd, ih]
    rfl

/-! ## Running a command -/

theorem Settings.load_congr {read read' : FileReader}
    (h : read Settings.fileName = read' Settings.fileName) :
    Settings.load read = Settings.load read' := by
  rw [Settings.load, Settings.load, h]

namespace Outcome

variable {o : Outcome}

theorem exitCode_of_ok {r : Report} (h : o.result = .ok r) : o.exitCode = 0 := by
  rw [exitCode, h]

theorem printed_of_ok {r : Report} (h : o.result = .ok r) (ms : Nat) :
    o.printed ms = r.text ms := by
  rw [printed, h]

theorem exitCode_of_loading {e : LoadError} (h : o.result = .error (.loading e)) :
    o.exitCode = 1 := by
  rw [exitCode, h]

theorem printed_of_error {f : Failure} (h : o.result = .error f) (ms : Nat) :
    o.printed ms = "" := by
  rw [printed, h]

end Outcome

theorem perform_summarize {read : FileReader} {l : Layout} {paths : List String} {compact : Bool}
    {threads : Option Nat} {ds : List Document} (h : Loads read paths ds) :
    perform read l (.summarize paths compact threads) =
      (List.zipWith Event.loaded paths ds ++ ds.flatMap Document.summaryEvents,
        .ok (.summary l (contentsOfAll ds) ds.length)) := by
  rw [perform, Command.paths, loadAll_of_loads h]
  rfl

theorem perform_of_error {read : FileReader} {l : Layout} {c : Command} {before after : List String}
    {path : String} {ds : List Document} {e : LoadError} (hc : c.paths = before ++ path :: after)
    (h : Loads read before ds) (he : Document.load read path = .error e) :
    perform read l c = (List.zipWith Event.loaded before ds, .error (.loading e)) := by
  rw [perform, hc, loadAll_of_error h he]

theorem invoke_of_command {env : Environment} {i : Invocation} {c : Command}
    (hc : i.command = some c) :
    invoke env i = ((Settings.load env.read).2.toList.map
          (Event.settingsFault env.settingsReason) ++
        (perform env.read (layout env.terminal (Settings.load env.read).1 i c) c).1,
      (perform env.read (layout env.terminal (Settings.load env.read).1 i c) c).2) := by
  unfold invoke
  rw [hc]

theorem run_of_request (env : Environment) {args : List String} {i : Invocation}
    (h : Request.ofArguments env.threads args = .run i) :
    run env args = ⟨(invoke env i).2,
      (invoke env i).1.filter (logFilter env.logFilter i).shows⟩ := by
  rw [run, h]

/-- **A failed command depends on what it read.**  It comes to the same wherever the settings and
the paths up to the one it failed at read the same. -/
theorem invoke_congr_of_error {env : Environment} {read : FileReader} {i : Invocation} {c : Command}
    {before after : List String} {path : String} {ds : List Document} {e : LoadError}
    (hi : i.command = some c) (hc : c.paths = before ++ path :: after)
    (h : Loads env.read before ds) (he : Document.load env.read path = .error e)
    (hsettings : env.read Settings.fileName = read Settings.fileName)
    (hread : ∀ p ∈ before ++ [path], env.read p = read p) :
    invoke env i = invoke { env with read := read } i := by
  obtain ⟨hbefore, hpath⟩ := List.forall_mem_append.mp hread
  have h' : Loads read before ds := h.congr hbefore
  have he' : Document.load read path = .error e :=
    Document.load_congr (hpath path List.mem_cons_self) ▸ he
  rw [invoke_of_command hi, invoke_of_command hi, ← Settings.load_congr hsettings,
    perform_of_error hc h he, perform_of_error hc h' he']

/-- **A summary of all documents or none.**  Where every path leads to a document, the program
succeeds and prints the report on all of them in the order of the paths, and a line feed.
Otherwise it fails, prints nothing and reports the fault of the first path that leads to none; and
had other files than the settings and those that this path and the ones before it lead to held
something else, the outcome and its log would be the same.  Only the files are those of the
directory: whatever else is found around the program is arbitrary. -/
theorem run_summarize (env : Environment) (d : Directory) (args : List String)
    {i : Invocation} {paths : List String} {compact : Bool} {threads : Option Nat}
    (hargs : Request.ofArguments env.threads args = .run i)
    (hi : i.command = some (.summarize paths compact threads)) :
    let o := run { env with read := d.read } args
    ((∀ path ∈ paths, ∃ doc, Document.load d.read path = .ok doc) → ∃ ds,
      Loads d.read paths ds ∧ o.exitCode = 0 ∧ ∀ ms, o.printed ms =
        Summary.render
          (layout env.terminal (Settings.load d.read).1 i (.summarize paths compact threads))
          ⟨contentsOfAll ds, paths.length, ms⟩ ++ "\n") ∧
    ((∃ path ∈ paths, ∃ e, Document.load d.read path = .error e) →
      ∃ before path after e, paths = before ++ path :: after ∧
        (∀ p ∈ before, ∃ doc, Document.load d.read p = .ok doc) ∧
        Document.load d.read path = .error e ∧ e.path = path ∧
        o.exitCode = 1 ∧ (∀ ms, o.printed ms = "") ∧ o.result = .error (.loading e) ∧
        ∀ d' : Directory, d.SameNames d' →
          (∀ file, d.files.lookup file ≠ d'.files.lookup file → file ≠ [Settings.fileName] ∧
            ∀ p ∈ before ++ [path], d.resolve p ≠ .ok (.file file)) →
          run { env with read := d'.read } args = o) := by
  intro o
  -- The outcome is kept as a name that is only ever rewritten, so that no step computes a run.
  have hrun : o = run { env with read := d.read } args := rfl
  clear_value o
  rw [run_of_request { env with read := d.read } hargs] at hrun
  constructor
  · intro h
    obtain ⟨ds, hds⟩ := Document.exists_loads h
    have hresult : o.result = .ok (.summary
        (layout env.terminal (Settings.load d.read).1 i (.summarize paths compact threads))
        (contentsOfAll ds) paths.length) := by
      rw [hrun, invoke_of_command hi, perform_summarize hds, List.Forall₂.length_eq hds]
    exact ⟨ds, hds, Outcome.exitCode_of_ok hresult, Outcome.printed_of_ok hresult⟩
  · intro h
    obtain ⟨before, path, after, ds, e, hpaths, hds, he⟩ := Document.exists_first_fault h
    have hc : (Command.summarize paths compact threads).paths = before ++ path :: after := hpaths
    have hresult : o.result = .error (.loading e) := by
      rw [hrun, invoke_of_command hi, perform_of_error hc hds he]
    refine ⟨before, path, after, e, hpaths, hds.forall_mem, he, Document.path_of_load_eq_error he,
      Outcome.exitCode_of_loading hresult, Outcome.printed_of_error hresult, hresult, ?_⟩
    intro d' hnames hfiles
    have hsettings : d.read Settings.fileName = d'.read Settings.fileName := by
      refine Directory.read_congr hnames fun file hfile hplace => ?_
      exact (hfiles file hfile).1 (Directory.eq_of_resolve_settings hplace)
    have hread : ∀ p ∈ before ++ [path], d.read p = d'.read p := by
      intro p hp
      exact Directory.read_congr hnames fun file hfile => (hfiles file hfile).2 p hp
    have hinvoke : invoke { env with read := d.read } i = invoke { env with read := d'.read } i :=
      invoke_congr_of_error hi hc hds he hsettings hread
    rw [run_of_request { env with read := d'.read } hargs, hrun, hinvoke]

section SecondOfThree

/-- A document of a new file without edits. -/
private def uneditedDocument : Document :=
  ⟨"", "a.go", "", "", .node (.other "Program") ⟨0, 0, .first, .first⟩ .leaf⟩

/-- A directory of three files, the second of which holds no document. -/
private def threeFiles (first third : String) : Directory :=
  ⟨[(["a.json"], some first), (["b.json"], some "[]"), (["c.json"], some third)]⟩

/-- Three files and nothing else around the program. -/
private def amongThree (first third : String) : Environment where
  read := (threeFiles first third).read
  threads := none
  logFilter := none

private theorem load_first {text : String} (htext : Document.ofText text = .ok uneditedDocument)
    (third : String) :
    Document.load (threeFiles text third).read "a.json" = .ok uneditedDocument := by
  have hread : (threeFiles text third).read "a.json" = .ok text := rfl
  rw [Document.load, hread]
  show Document.parse "a.json" text = _
  rw [Document.parse, htext]
  rfl

private theorem load_second (first third : String) :
    ∃ e, Document.load (threeFiles first third).read "b.json" = .error e := by
  have hread : (threeFiles first third).read "b.json" = .ok "[]" := rfl
  have hnone : (Document.parse "b.json" "[]").toOption.isSome = false := by decide +kernel
  rw [Document.load, hread]
  show ∃ e, Document.parse "b.json" "[]" = .error e
  cases h : Document.parse "b.json" "[]" with
  | ok doc =>
    rw [h] at hnone
    cases hnone
  | error e => exact ⟨e, rfl⟩

/-- Of three paths the first leads to a document and the second does not: the program fails at the
second, whatever the third file holds.  With the first path alone it succeeds. -/
theorem summarize_second_of_three :
    let args := ["summarize", "a.json", "b.json", "c.json"]
    ∃ text, Document.ofText text = .ok uneditedDocument ∧
      (run (amongThree text "") ["summarize", "a.json"]).exitCode = 0 ∧
      (run (amongThree text "") args).exitCode = 1 ∧
      (run (amongThree text "") args).printed 0 = "" ∧
      run (amongThree text "null") args = run (amongThree text "") args := by
  intro args
  -- Nothing below looks into the text, so it stays a name.
  obtain ⟨text, htext⟩ : ∃ text, Document.ofText text = .ok uneditedDocument :=
    ⟨_, (roundTrips_of_reads Document.reads uneditedDocument (by decide) (by decide)).1⟩
  have hfirst : ∀ p ∈ ["a.json"], ∃ doc, Document.load (threeFiles text "").read p = .ok doc := by
    intro p hp
    obtain rfl := List.mem_singleton.mp hp
    exact ⟨uneditedDocument, load_first htext ""⟩
  have hsecond := load_second text ""
  have hone :=
    run_summarize (amongThree text "") (threeFiles text "") ["summarize", "a.json"] rfl rfl
  have hthree := run_summarize (amongThree text "") (threeFiles text "") args rfl rfl
  obtain ⟨ds, -, hzero, -⟩ := hone.1 hfirst
  obtain ⟨before, path, after, e, hpaths, hbefore, he, -, hcode, hprinted, -, hframe⟩ :=
    hthree.2 ⟨"b.json", by simp, hsecond⟩
  obtain ⟨rfl, rfl⟩ : ["a.json"] = before ∧ "b.json" = path :=
    Document.first_fault_unique hfirst hsecond hbefore ⟨e, he⟩ hpaths
  refine ⟨text, htext, hzero, hcode, hprinted 0, hframe (threeFiles text "null") rfl ?_⟩
  intro file hfile
  have hthird : file = ["c.json"] := by
    by_contra hne
    refine hfile ?_
    simp [threeFiles, List.lookup_cons, beq_false_of_ne hne]
  subst hthird
  have ha : (threeFiles text "").resolve "a.json" = .ok (.file ["a.json"]) := rfl
  have hb : (threeFiles text "").resolve "b.json" = .ok (.file ["b.json"]) := rfl
  refine ⟨by decide, fun p hp => ?_⟩
  rcases List.mem_pair.mp hp with rfl | rfl
  · simp [ha]
  · simp [hb]

end SecondOfThree

end DiffContents
