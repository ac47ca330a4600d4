import DiffContents.Proofs.Json.Outlines
import DiffContents.Proofs.Json.Reading
import Mathlib.Data.List.Forall2

/-!
# What readers make of outlines

A reader that succeeds reads a node for its outline: it makes the same of every node that shows it
(`Reader.Makes`), and if it reads as the text goes by, it has seen to it that the node ends well
throughout (`Reader.Lawful`).  This module says so of every way to build a reader, and at the same
time what is made in terms of outlines alone: a structure from a chain of members (`Form.Made`), a
choice from its only member (`ChoiceMade`), a tagged form from its tag and what stands beside it
(`TaggedMade`).
-/

namespace DiffContents

namespace Json

theorem unit_bind_eq_ok_iff {ε β : Type} {x : Except ε Unit} {f : Unit → Except ε β} {b : β} :
    x >>= f = .ok b ↔ x = .ok () ∧ f () = .ok b := by
  rw [bind_eq_ok_iff]
  exact ⟨fun ⟨_, hx, hf⟩ => ⟨hx, hf⟩, fun ⟨hx, hf⟩ => ⟨(), hx, hf⟩⟩

/-! ## Passing over and taking in -/

/-- The scalar can be read. -/
def Atom.Readable : Atom → Prop
  | .null | .bool _ => True
  | .number n => n ≠ none
  | .string s => s ≠ none

namespace Outline

mutual

/-- **The value can be taken in** where so many levels of arrays and objects may nest. -/
def Fits (depth : Nat) : Outline → Prop
  | .atom a => a.Readable
  | .array os => depth ≠ 0 ∧ FitElements (depth - 1) os
  | .object os => depth ≠ 0 ∧ FitMembers (depth - 1) os

/-- All elements can be taken in. -/
def FitElements (depth : Nat) : List Outline → Prop
  | [] => True
  | o :: os => o.Fits depth ∧ FitElements depth os

/-- All members can be taken in, and their names can be read. -/
def FitMembers (depth : Nat) : List (Option String × Outline) → Prop
  | [] => True
  | (key, o) :: os => key ≠ none ∧ o.Fits depth ∧ FitMembers depth os

end

theorem fitElements_iff {depth : Nat} {os : List Outline} :
    FitElements depth os ↔ ∀ o ∈ os, o.Fits depth := by
  induction os with
  | nil => simp [FitElements]
  | cons o os ih => rw [FitElements, ih, List.forall_mem_cons]

theorem fitMembers_iff {depth : Nat} {os : List (Option String × Outline)} :
    FitMembers depth os ↔ ∀ m ∈ os, m.1 ≠ none ∧ m.2.Fits depth := by
  induction os with
  | nil => simp [FitMembers]
  | cons m os ih => rw [FitMembers, ih, List.forall_mem_cons, and_assoc]

end Outline

namespace Node

theorem checkScalar_eq_ok_iff {v : Scalar} : checkScalar v = .ok () ↔ v.atom.Readable := by
  cases v with
  | null | bool => exact ⟨fun _ => trivial, fun _ => rfl⟩
  | number x | string x =>
    cases x with
    | error p => exact ⟨nofun, fun h => absurd rfl h⟩
    | ok x => exact ⟨fun _ => nofun, fun _ => rfl⟩

mutual

/-- A node that shows an outline is passed over. -/
theorem skip_of_shows : ∀ (o : Outline) (n : Node), n.Shows o → n.skip = .ok ()
  | .atom _, _, ⟨_, _, _, _, rfl, _⟩ => rfl
  | .array os, _, ⟨_, ns, _, _, rfl, h⟩ => by
    rw [skip, skipElements_of_shows os ns h]; rfl
  | .object os, _, ⟨_, ms, _, _, rfl, h⟩ => by
    rw [skip, skipMembers_of_shows os ms h]; rfl

theorem skipElements_of_shows : ∀ (os : List Outline) (ns : List Node),
    ShowsElements ns os → skipElements ns = .ok ()
  | [], _, rfl => rfl
  | o :: os, _, ⟨n, ns, rfl, hn, _, h⟩ => by
    rw [skipElements, skip_of_shows o n hn]
    exact skipElements_of_shows os ns h

theorem skipMembers_of_shows : ∀ (os : List (Option String × Outline)) (ms : List (Name × Node)),
    ShowsMembers ms os → skipMembers ms = .ok ()
  | [], _, rfl => rfl
  | (_, o) :: os, _, ⟨_, n, ms, rfl, _, hn, _, h⟩ => by
    rw [skipMembers, skip_of_shows o n hn]
    exact skipMembers_of_shows os ms h

end

mutual

/-- **A node is taken in if its outline fits.** -/
theorem check_eq_ok_iff : ∀ (o : Outline) (n : Node) (depth : Nat), n.Shows o →
    (n.check depth = .ok () ↔ o.Fits depth)
  | .atom _, _, _, ⟨_, _, _, _, rfl, rfl⟩ => checkScalar_eq_ok_iff
  | .array os, _, depth, ⟨_, ns, _, _, rfl, h⟩ => by
    rw [check, Outline.Fits, ← checkElements_eq_ok_iff os ns (depth - 1) h]
    by_cases hd : depth = 0
    · simp [hd]
    · simp [hd, unit_bind_eq_ok_iff, endingProblem]
  | .object os, _, depth, ⟨_, ms, _, _, rfl, h⟩ => by
    rw [check, Outline.Fits, ← checkMembers_eq_ok_iff os ms (depth - 1) h]
    by_cases hd : depth = 0
    · simp [hd]
    · simp [hd, unit_bind_eq_ok_iff, endingProblem]

theorem checkElements_eq_ok_iff : ∀ (os : List Outline) (ns : List Node) (depth : Nat),
    ShowsElements ns os → (checkElements depth ns = .ok () ↔ Outline.FitElements depth os)
  | [], _, _, rfl => ⟨fun _ => trivial, fun _ => rfl⟩
  | o :: os, _, depth, ⟨n, ns, rfl, hn, _, h⟩ => by
    rw [checkElements, Outline.FitElements, ← check_eq_ok_iff o n depth hn,
      ← checkElements_eq_ok_iff os ns depth h]
    exact unit_bind_eq_ok_iff

theorem checkMembers_eq_ok_iff : ∀ (os : List (Option String × Outline)) (ms : List (Name × Node))
    (depth : Nat), ShowsMembers ms os →
    (checkMembers depth ms = .ok () ↔ Outline.FitMembers depth os)
  | [], _, _, rfl => ⟨fun _ => trivial, fun _ => rfl⟩
  | (_, o) :: os, _, depth, ⟨name, n, ms, rfl, rfl, hn, _, h⟩ => by
    rw [checkMembers, Outline.FitMembers, ← check_eq_ok_iff o n depth hn,
      ← checkMembers_eq_ok_iff os ms depth h]
    cases name.value with
    | error p => exact ⟨nofun, fun h => absurd rfl h.1⟩
    | ok key =>
      show (check depth n >>= fun _ => checkMembers depth ms) = .ok () ↔ _
      rw [unit_bind_eq_ok_iff]
      exact ⟨fun h => ⟨nofun, h⟩, And.right⟩

end

end Node

namespace Reader

open Node

variable {α β σ : Type}

/-! ## What is made of an outline -/

/-- **The reader makes `a` of the outline**: of every node that shows it. -/
def Makes (r : Reader α) (site : Site) (o : Outline) (a : α) : Prop :=
  ∀ n : Node, n.Shows o → r site n = .ok a

/-- **A reader that reads outlines.**  What it makes of one node it makes of every node with the
same outline; and what it reads as the text goes by ends well throughout. -/
structure Lawful (r : Reader α) : Prop where
  makes : ∀ {site : Site} {n : Node} {o : Outline} {a : α}, n.Shows o → r site n = .ok a →
    r.Makes site o a
  whole : ∀ {site : Site} {n : Node} {a : α}, n.Sound → site.stored = false →
    r site n = .ok a → n.Whole

theorem Lawful.eq_ok_iff {r : Reader α} (h : r.Lawful) {site : Site} {n : Node} {o : Outline}
    {a : α} (hn : n.Shows o) : r site n = .ok a ↔ r.Makes site o a :=
  ⟨h.makes hn, fun hm => hm n hn⟩

theorem map_eq_ok_iff {ε : Type} {x : Except ε α} {f : α → β} {b : β} :
    f <$> x = .ok b ↔ ∃ a, x = .ok a ∧ f a = b := by
  cases x with
  | error e => exact ⟨nofun, nofun⟩
  | ok a => exact ⟨fun h => ⟨a, rfl, Except.ok.inj h⟩,
      fun ⟨_, ha, h⟩ => Except.ok.inj ha ▸ congrArg Except.ok h⟩

theorem Lawful.map {r : Reader α} (h : r.Lawful) (f : α → β) :
    Lawful fun site n => f <$> r site n where
  makes hn hr n' hn' := by
    obtain ⟨a, ha, rfl⟩ := map_eq_ok_iff.mp hr
    exact map_eq_ok_iff.mpr ⟨a, h.makes hn ha n' hn', rfl⟩
  whole hs hstored hr := by
    obtain ⟨a, ha, rfl⟩ := map_eq_ok_iff.mp hr
    exact h.whole hs hstored ha

/-- A node that shows a scalar is that scalar. -/
theorem exists_scalar_of_shows {v : Scalar} {start stop : Mark} {following : List Token}
    {o : Outline} (h : (scalar v start stop following).Shows o) : o = .atom v.atom := by
  cases o with
  | atom a =>
    obtain ⟨v', start', stop', following', heq, rfl⟩ := h
    cases heq
    rfl
  | array os =>
    obtain ⟨_, _, _, _, heq, -⟩ := h
    cases heq
  | object os =>
    obtain ⟨_, _, _, _, heq, -⟩ := h
    cases heq

theorem lift_eq_ok_iff {x : Except Problem α} {a : α} : lift x = .ok a ↔ x = .ok a :=
  mapError_eq_ok_iff

/-! ## Scalars -/

/-- The reader reads scalars, by what is left of them in an outline. -/
def ReadsAtoms (r : Reader α) (value : Site → Atom → α → Prop) : Prop :=
  ∀ site n a, r site n = .ok a ↔
    ∃ v start stop following, n = scalar v start stop following ∧ value site v.atom a

theorem ReadsAtoms.lawful {r : Reader α} {value : Site → Atom → α → Prop}
    (h : ReadsAtoms r value) : Lawful r where
  makes := by
    intro site n o a hn hr n' hn'
    obtain ⟨v, start, stop, following, rfl, hv⟩ := (h site n a).mp hr
    obtain rfl := exists_scalar_of_shows hn
    obtain ⟨v', start', stop', following', rfl, hatom⟩ := hn'
    exact (h site _ a).mpr ⟨v', start', stop', following', rfl, hatom ▸ hv⟩
  whole := by
    intro site n a _ _ hr
    obtain ⟨v, start, stop, following, rfl, -⟩ := (h site n a).mp hr
    exact ⟨_, rfl⟩

/-- What is made of an atom is its value. -/
theorem ReadsAtoms.makes_iff {r : Reader α} {value : Site → Atom → α → Prop}
    (h : ReadsAtoms r value) {site : Site} {o : Outline} {a : α} :
    r.Makes site o a ↔ ∃ x, o = .atom x ∧ value site x a := by
  obtain ⟨n, hn, -⟩ := exists_shows o []
  rw [← h.lawful.eq_ok_iff hn, h]
  constructor
  · rintro ⟨v, start, stop, following, rfl, hv⟩
    exact ⟨v.atom, exists_scalar_of_shows hn, hv⟩
  · rintro ⟨x, rfl, hx⟩
    obtain ⟨v, start, stop, following, rfl, rfl⟩ := hn
    exact ⟨v, start, stop, following, rfl, hx⟩

theorem atom_eq_string_iff {v : Scalar} {s : String} :
    v.atom = .string (some s) ↔ v = .string (.ok s) := by
  cases v with
  | string x => cases x <;> simp [Scalar.atom, Except.toOption]
  | _ => simp [Scalar.atom]

theorem atom_eq_number_iff {v : Scalar} {x : Number} :
    v.atom = .number (some x) ↔ v = .number (.ok x) := by
  cases v with
  | number y => cases y <;> simp [Scalar.atom, Except.toOption]
  | _ => simp [Scalar.atom]

theorem atom_eq_null_iff {v : Scalar} : v.atom = .null ↔ v = .null := by
  cases v <;> simp [Scalar.atom]

theorem readsAtoms_string : ReadsAtoms string fun _ x s => x = .string (some s) := by
  intro site n s
  simp only [atom_eq_string_iff]
  constructor
  · intro h
    unfold string at h
    split at h
    · next start stop following =>
      rw [lift_eq_ok_iff] at h
      exact ⟨_, start, stop, following, rfl, by rw [h]⟩
    · cases h
  · rintro ⟨_, start, stop, following, rfl, rfl⟩
    rfl

theorem readsAtoms_natural (bound : Nat) (wanted : String) :
    ReadsAtoms (natural bound wanted) fun _ x k => x = .number (some (.int k)) ∧ k < bound := by
  intro site n k
  simp only [atom_eq_number_iff]
  constructor
  · intro h
    unfold natural at h
    split at h
    · next i start stop following =>
      split at h
      · cases h
      · next hrange =>
        simp only [Bool.or_eq_true, decide_eq_true_eq, not_or] at hrange
        obtain rfl := Except.ok.inj h
        have hi : i = (i.toNat : Int) := by omega
        exact ⟨_, start, stop, following, rfl, by rw [← hi], by omega⟩
    · cases h
  · rintro ⟨_, start, stop, following, rfl, rfl, hk⟩
    have hneg : ¬ ((k : Int) < 0) := by omega
    have hbound : ¬ ((bound : Int) ≤ k) := by omega
    simp [natural, hneg, hbound]

theorem lawful_uint32 : Lawful uint32 := (readsAtoms_natural _ _).lawful.map _

theorem lawful_uint64 : Lawful uint64 := (readsAtoms_natural _ _).lawful.map _

/-- A tag is a name, or out of the store also a number. -/
def TagValue (names : List String) (site : Site) (x : Atom) (i : Nat) : Prop :=
  (∃ s, x = .string (some s) ∧ names.findIdx? (· = s) = some i) ∨
    site.stored = true ∧ x = .number (some (.int i)) ∧ i < names.length

theorem readsAtoms_tag (names : List String) : ReadsAtoms (tag names) (TagValue names) := by
  intro site n i
  unfold TagValue
  simp only [atom_eq_string_iff, atom_eq_number_iff]
  constructor
  · intro h
    unfold tag at h
    split at h
    · next start stop following =>
      obtain ⟨s, hs, hfind⟩ := bind_eq_ok_iff.mp h
      rw [lift_eq_ok_iff] at hs
      subst hs
      split at hfind
      · next hi =>
        obtain rfl := Except.ok.inj hfind
        exact ⟨_, start, stop, following, rfl, .inl ⟨s, rfl, hi⟩⟩
      · cases hfind
    · next start stop following =>
      split at h
      · next hi =>
        obtain rfl := Except.ok.inj h
        exact ⟨_, start, stop, following, rfl, .inr ⟨rfl, rfl, hi⟩⟩
      · cases h
    · cases h
  · rintro ⟨_, start, stop, following, rfl, ⟨s, rfl, hi⟩ | ⟨hstored, rfl, hi⟩⟩
    · simp [tag, hi]
    · obtain ⟨depth, stored⟩ := site
      obtain rfl : stored = true := hstored
      simp [tag, hi]

/-- A value that may be null: it is null, or `r` makes it. -/
theorem option_eq_ok_iff {r : Reader α} {site : Site} {n : Node} {o : Outline} (hn : n.Shows o)
    {a : Option α} : option r site n = .ok a ↔
      o = .atom .null ∧ a = none ∨ o ≠ .atom .null ∧ ∃ b, r site n = .ok b ∧ a = some b := by
  by_cases hnull : o = .atom .null
  · subst hnull
    obtain ⟨v, start, stop, following, rfl, hv⟩ := hn
    rw [atom_eq_null_iff] at hv
    subst hv
    simp [option, eq_comm]
  · have hread : option r site n = some <$> r site n := by
      unfold option
      split
      · exact absurd (exists_scalar_of_shows hn) hnull
      · rfl
    rw [hread, map_eq_ok_iff]
    simp [hnull, eq_comm]

theorem Lawful.option {r : Reader α} (h : r.Lawful) : Lawful (option r) where
  makes := by
    intro site n o a hn hr n' hn'
    rw [option_eq_ok_iff hn] at hr
    rw [option_eq_ok_iff hn']
    rcases hr with hr | ⟨hnull, b, hb, rfl⟩
    · exact .inl hr
    · exact .inr ⟨hnull, b, h.makes hn hb n' hn', rfl⟩
  whole := by
    intro site n a hs hstored hr
    unfold Reader.option at hr
    split at hr
    · exact ⟨_, rfl⟩
    · obtain ⟨b, hb, -⟩ := map_eq_ok_iff.mp hr
      exact h.whole hs hstored hb

/-! ## Lists -/

/-- The site inside a bracket. -/
def Enters (site site' : Site) : Prop := enter site .first = .ok site'

theorem enter_eq_ok_iff {site site' : Site} (start : Mark) :
    enter site start = .ok site' ↔ Enters site site' := by
  unfold Enters enter
  split
  · exact Iff.rfl
  · split
    · exact ⟨nofun, nofun⟩
    · exact Iff.rfl

theorem stored_of_enter {site site' : Site} {start : Mark} (h : enter site start = .ok site') :
    site'.stored = site.stored := by
  unfold enter at h
  split at h
  · cases h; rfl
  · next hstored =>
    split at h
    · cases h
    · cases h
      simpa using hstored

theorem elements_eq_ok_iff {r : Reader α} (h : r.Lawful) {site : Site} {ns : List Node}
    {os : List Outline} (hn : ShowsElements ns os) {as : List α} :
    elements r site ns = .ok as ↔ List.Forall₂ (r.Makes site) os as := by
  induction os generalizing ns as with
  | nil =>
    obtain rfl := hn
    simp [elements, eq_comm]
  | cons o os ih =>
    obtain ⟨n, ns, rfl, hn, -, hns⟩ := hn
    simp only [elements, bind_eq_ok_iff, h.eq_ok_iff hn, ih hns]
    constructor
    · rintro ⟨a, ha, as, has, heq⟩
      obtain rfl := Except.ok.inj heq
      exact .cons ha has
    · rintro (_ | ⟨ha, has⟩)
      exact ⟨_, ha, _, has, rfl⟩

theorem whole_of_elements {r : Reader α} (h : r.Lawful) {site : Site}
    (hstored : site.stored = false) {ending : Ending} {ns : List Node}
    (hs : SoundElements ending ns) {as : List α} (hr : elements r site ns = .ok as) :
    ∀ n ∈ ns, n.Whole := by
  induction ns generalizing as with
  | nil => exact List.forall_mem_nil _
  | cons n ns ih =>
    obtain ⟨hn, -, hns⟩ := hs
    simp only [elements, bind_eq_ok_iff] at hr
    obtain ⟨a, ha, as, has, -⟩ := hr
    exact List.forall_mem_cons.mpr ⟨h.whole hn hstored ha, ih hns has⟩

theorem close_eq_ok_iff {ending : Ending} : close ending = .ok () ↔
    ∃ stop, ending = .closed stop := by
  rw [close, lift_eq_ok_iff, endingProblem_eq_ok_iff]

/-- A list is made element by element. -/
theorem list_eq_ok_iff {r : Reader α} (h : r.Lawful) {site : Site} {n : Node} {o : Outline}
    (hn : n.Shows o) {as : List α} : list r site n = .ok as ↔
      ∃ os site', o = .array os ∧ Enters site site' ∧ List.Forall₂ (r.Makes site') os as := by
  cases o with
  | atom x =>
    obtain ⟨v, start, stop, following, rfl, -⟩ := hn
    exact ⟨nofun, fun ⟨_, _, ho, _⟩ => by cases ho⟩
  | object os =>
    obtain ⟨start, ms, stop, following, rfl, -⟩ := hn
    exact ⟨nofun, fun ⟨_, _, ho, _⟩ => by cases ho⟩
  | array os =>
    obtain ⟨start, ns, stop, following, rfl, hns⟩ := hn
    simp only [list, bind_eq_ok_iff, mapError_eq_ok_iff, enter_eq_ok_iff,
      elements_eq_ok_iff h hns]
    constructor
    · rintro ⟨site', hsite, as, has, _, _, heq⟩
      obtain rfl := Except.ok.inj heq
      exact ⟨os, site', rfl, hsite, has⟩
    · rintro ⟨os, site', heq, hsite, has⟩
      cases heq
      exact ⟨site', hsite, as, has, (), rfl, rfl⟩

theorem Lawful.list {r : Reader α} (h : r.Lawful) : Lawful (list r) where
  makes hn hr n' hn' := (list_eq_ok_iff h hn').mpr ((list_eq_ok_iff h hn).mp hr)
  whole := by
    intro site n as hs hstored hr
    unfold Reader.list at hr
    split at hr
    · next start ns ending following =>
      obtain ⟨site', hsite, hr⟩ := bind_eq_ok_iff.mp hr
      obtain ⟨as', has, hr⟩ := bind_eq_ok_iff.mp hr
      obtain ⟨hclose, -⟩ := unit_bind_eq_ok_iff.mp hr
      obtain ⟨stop, rfl⟩ := close_eq_ok_iff.mp hclose
      rw [mapError_eq_ok_iff] at has
      exact whole_array (whole_of_elements h ((stored_of_enter hsite).trans hstored) hs has)
    · cases hr

/-! ## Members, one after the other -/

/-- **A chain of steps**, one for each item of a list. -/
inductive Chain {μ : Type} (step : μ → σ → σ → Prop) : List μ → σ → σ → Prop
  | nil (s : σ) : Chain step [] s s
  | cons {m : μ} {ms : List μ} {s s₁ s' : σ} (head : step m s s₁) (tail : Chain step ms s₁ s') :
    Chain step (m :: ms) s s'

theorem chain_nil_iff {μ : Type} {step : μ → σ → σ → Prop} {s s' : σ} :
    Chain step [] s s' ↔ s' = s := by
  constructor
  · rintro ⟨⟩
    rfl
  · rintro rfl
    exact .nil _

theorem chain_cons_iff {μ : Type} {step : μ → σ → σ → Prop} {m : μ} {ms : List μ} {s s' : σ} :
    Chain step (m :: ms) s s' ↔ ∃ s₁, step m s s₁ ∧ Chain step ms s₁ s' := by
  constructor
  · rintro (_ | ⟨head, tail⟩)
    exact ⟨_, head, tail⟩
  · rintro ⟨s₁, head, tail⟩
    exact .cons head tail

/-- **A field that reads outlines.** -/
structure Field.Lawful (f : Field σ) : Prop where
  makes : ∀ {site : Site} {n n' : Node} {o : Outline} {s s' : σ}, n.Shows o → n'.Shows o →
    f.read site n s = .ok s' → f.read site n' s = .ok s'
  whole : ∀ {site : Site} {n : Node} {s s' : σ}, n.Sound → site.stored = false →
    f.read site n s = .ok s' → n.Whole

theorem Lawful.field {r : Reader α} (h : r.Lawful) (name : String) (optional : Bool)
    (get : σ → Option α) (set : α → σ → σ) : (Field.of name optional get set r).Lawful where
  makes hn hn' hr := by
    obtain ⟨a, ha, hs⟩ := bind_eq_ok_iff.mp hr
    exact bind_eq_ok_iff.mpr ⟨a, h.makes hn ha _ hn', hs⟩
  whole hs hstored hr := by
    obtain ⟨a, ha, -⟩ := bind_eq_ok_iff.mp hr
    exact h.whole hs hstored ha

/-- What a field makes of an outline. -/
def Field.Makes (f : Field σ) (site : Site) (o : Outline) (s s' : σ) : Prop :=
  ∀ n : Node, n.Shows o → f.read site n s = .ok s'

theorem Field.Lawful.eq_ok_iff {f : Field σ} (h : f.Lawful) {site : Site} {n : Node}
    {o : Outline} {s s' : σ} (hn : n.Shows o) :
    f.read site n s = .ok s' ↔ f.Makes site o s s' :=
  ⟨fun hr _ hn' => h.makes hn hn' hr, fun hm => hm n hn⟩

/-- The field with a name. -/
def fieldNamed (fields : List (Field σ)) (key : String) : Option (Field σ) :=
  fields.find? (·.name = key)

/-- **One member is read**: into the field of its name, which has not been read yet, or it is no
field and passed over. -/
inductive Takes (fields : List (Field σ)) (site : Site) : Option String × Outline → σ → σ → Prop
  | field {key : String} {f : Field σ} {o : Outline} {s s' : σ}
    (known : fieldNamed fields key = some f) (fresh : f.given s = false)
    (read : f.Makes site o s s') : Takes fields site (some key, o) s s'
  | other {key : String} {o : Outline} {s : σ} (unknown : fieldNamed fields key = none) :
    Takes fields site (some key, o) s s

theorem takes_iff {fields : List (Field σ)} {site : Site} {m : Option String × Outline}
    {s s' : σ} : Takes fields site m s s' ↔ ∃ key, m.1 = some key ∧
      (fieldNamed fields key = none ∧ s' = s ∨
        ∃ f, fieldNamed fields key = some f ∧ f.given s = false ∧ f.Makes site m.2 s s') := by
  constructor
  · rintro (⟨known, fresh, read⟩ | ⟨unknown⟩)
    · exact ⟨_, rfl, .inr ⟨_, known, fresh, read⟩⟩
    · exact ⟨_, rfl, .inl ⟨unknown, rfl⟩⟩
  · obtain ⟨key, o⟩ := m
    rintro ⟨key, rfl, ⟨unknown, rfl⟩ | ⟨f, known, fresh, read⟩⟩
    · exact .other unknown
    · exact .field known fresh read

/-- The name of a member is read, or it is not. -/
theorem toOption_eq_some_iff {ε : Type} {x : Except ε α} {a : α} :
    x.toOption = some a ↔ x = .ok a := by
  cases x <;> simp [Except.toOption]

theorem members_eq_ok_iff {fields : List (Field σ)} (h : ∀ f ∈ fields, f.Lawful) {site : Site}
    {ms : List (Name × Node)} {os : List (Option String × Outline)} (hm : ShowsMembers ms os)
    {s s' : σ} : members fields site ms s = .ok s' ↔ Chain (Takes fields site) os s s' := by
  induction os generalizing ms s with
  | nil =>
    obtain rfl := hm
    rw [chain_nil_iff, members]
    exact ⟨fun hr => (Except.ok.inj hr).symm, fun hr => congrArg Except.ok hr.symm⟩
  | cons m os ih =>
    obtain ⟨name, n, ms, rfl, hname, hn, -, hms⟩ := hm
    rw [chain_cons_iff, members, bind_eq_ok_iff]
    simp only [takes_iff, lift_eq_ok_iff, ← hname, toOption_eq_some_iff]
    constructor
    · rintro ⟨key, hkey, hr⟩
      split at hr
      · next hunknown =>
        obtain ⟨-, hr⟩ := unit_bind_eq_ok_iff.mp hr
        exact ⟨s, ⟨key, hkey, .inl ⟨hunknown, rfl⟩⟩, (ih hms).mp hr⟩
      · next f hknown =>
        split at hr
        · cases hr
        · next hfresh =>
          obtain ⟨s₁, hread, hr⟩ := bind_eq_ok_iff.mp hr
          have hf := h f (List.mem_of_find?_eq_some hknown)
          exact ⟨s₁, ⟨key, hkey, .inr ⟨f, hknown, by simpa using hfresh,
            (hf.eq_ok_iff hn).mp hread⟩⟩, (ih hms).mp hr⟩
    · rintro ⟨s₁, ⟨key, hkey, ⟨hunknown, rfl⟩ | ⟨f, hknown, hfresh, hread⟩⟩, hrest⟩
      · refine ⟨key, hkey, ?_⟩
        unfold fieldNamed at hunknown
        rw [hunknown]
        exact unit_bind_eq_ok_iff.mpr
          ⟨by rw [skip_of_shows _ n hn]; rfl, (ih hms).mpr hrest⟩
      · refine ⟨key, hkey, ?_⟩
        unfold fieldNamed at hknown
        rw [hknown]
        dsimp only
        rw [if_neg (by simp [hfresh])]
        exact bind_eq_ok_iff.mpr ⟨s₁, hread n hn, (ih hms).mpr hrest⟩

theorem whole_of_members {fields : List (Field σ)} (h : ∀ f ∈ fields, f.Lawful) {site : Site}
    (hstored : site.stored = false) {ending : Ending} {ms : List (Name × Node)}
    (hs : SoundMembers ending ms) {s s' : σ} (hr : members fields site ms s = .ok s') :
    ∀ m ∈ ms, m.2.Whole := by
  induction ms generalizing s with
  | nil => exact List.forall_mem_nil _
  | cons m ms ih =>
    obtain ⟨name, n⟩ := m
    obtain ⟨hn, -, hms⟩ := hs
    rw [members, bind_eq_ok_iff] at hr
    obtain ⟨key, -, hr⟩ := hr
    split at hr
    · obtain ⟨hskip, hr⟩ := unit_bind_eq_ok_iff.mp hr
      rw [lift_eq_ok_iff] at hskip
      exact List.forall_mem_cons.mpr ⟨whole_of_skip n hskip, ih hms hr⟩
    · next f hknown =>
      split at hr
      · cases hr
      · obtain ⟨s₁, hread, hr⟩ := bind_eq_ok_iff.mp hr
        have hf := h f (List.mem_of_find?_eq_some hknown)
        exact List.forall_mem_cons.mpr ⟨hf.whole hn hstored hread, ih hms hr⟩

/-! ## Fields in order -/

/-- **Fields are read from elements in order**; at the end optional ones may be absent. -/
inductive InOrder (site : Site) : List (Field σ) → List Outline → σ → σ → Prop
  | done (s : σ) : InOrder site [] [] s s
  | field {f : Field σ} {fs : List (Field σ)} {o : Outline} {os : List Outline} {s s₁ s' : σ}
    (read : f.Makes site o s s₁) (rest : InOrder site fs os s₁ s') :
    InOrder site (f :: fs) (o :: os) s s'
  | absent {f : Field σ} {fs : List (Field σ)} {s s' : σ} (optional : f.optional = true)
    (rest : InOrder site fs [] s s') : InOrder site (f :: fs) [] s s'

/-- Nothing is in excess after an element exactly if no element is left. -/
theorem excess_eq_ok_iff {site : Site} {taken : Nat} {last : Node} {rest : List Node}
    (h : Next (if rest = [] then .closeArray else .comma) last.following) :
    excess site taken (some last) rest = .ok () ↔ rest = [] := by
  unfold excess
  cases hstored : site.stored with
  | true => cases rest <;> simp
  | false =>
    obtain ⟨t, ts, hfollowing, hkind⟩ := h
    simp only [Bool.false_eq_true, if_false, Option.map_some, hfollowing]
    by_cases hrest : rest = []
    · rw [if_pos hrest] at hkind
      simp [hkind, hrest]
    · rw [if_neg hrest] at hkind
      simp only [hkind, hrest, iff_false]
      cases ts with
      | nil => exact nofun
      | cons t' ts =>
        dsimp only
        split <;> exact nofun

/-- Where reading fields in order stands: the last element read, if one was, has a comma or the
closing bracket after it, and if none was, there are fields to read yet. -/
structure Stands (last : Option Node) (fields : List (Field σ)) (rest : List Node) : Prop where
  next : ∀ n ∈ last, Next (if rest = [] then .closeArray else .comma) n.following
  fields : last = none → fields = [] → rest = []

theorem excess_of_stands {site : Site} {taken : Nat} {last : Option Node} {rest : List Node}
    (h : Stands (σ := σ) last [] rest) : excess site taken last rest = .ok () ↔ rest = [] := by
  cases last with
  | none =>
    rw [h.fields rfl rfl]
    cases hstored : site.stored <;> simp [excess, hstored]
  | some n => exact excess_eq_ok_iff (h.next n rfl)

theorem fieldsInOrder_eq_ok_iff {title : String} {count : Nat} {stop : Mark} {site : Site}
    {fields : List (Field σ)} (h : ∀ f ∈ fields, f.Lawful) {taken : Nat} {last : Option Node}
    {ns : List Node} {os : List Outline} (hlast : Stands last fields ns)
    (hn : ShowsElements ns os) {s s' : σ} :
    fieldsInOrder title count (.closed stop) site taken last fields ns s = .ok s' ↔
      InOrder site fields os s s' := by
  induction fields generalizing taken last ns os s with
  | nil =>
    rw [fieldsInOrder, unit_bind_eq_ok_iff, excess_of_stands hlast]
    constructor
    · rintro ⟨rfl, hs⟩
      obtain rfl := Except.ok.inj hs
      cases os with
      | nil => exact .done s
      | cons o os =>
        obtain ⟨_, _, hns, -⟩ := hn
        cases hns
    · rintro ⟨⟩
      exact ⟨hn, rfl⟩
  | cons f fs ih =>
    obtain ⟨hf, hfs⟩ := List.forall_mem_cons.mp h
    cases os with
    | nil =>
      obtain rfl := hn
      have hlast' : Stands last fs [] := ⟨hlast.next, fun _ _ => rfl⟩
      have hnil : ShowsElements [] [] := rfl
      rw [fieldsInOrder, unit_bind_eq_ok_iff]
      constructor
      · rintro ⟨-, hr⟩
        split at hr
        · next hoptional => exact .absent hoptional ((ih hfs hlast' hnil).mp hr)
        · cases hr
      · rintro (_ | _ | ⟨hoptional, hrest⟩)
        exact ⟨rfl, by rw [if_pos hoptional]; exact (ih hfs hlast' hnil).mpr hrest⟩
    | cons o os =>
      obtain ⟨n, ns, rfl, hn, hnext, hns⟩ := hn
      have hlast' : Stands (some n) fs ns := by
        refine ⟨fun m hm => ?_, nofun⟩
        obtain rfl := Option.some.inj hm
        simpa only [hns.nil_iff] using hnext
      rw [fieldsInOrder, bind_eq_ok_iff]
      simp only [hf.eq_ok_iff hn, ih hfs hlast' hns]
      constructor
      · rintro ⟨s₁, hread, hrest⟩
        exact .field hread hrest
      · rintro (_ | ⟨hread, hrest⟩)
        exact ⟨_, hread, hrest⟩

/-- As the text goes by, elements in excess are noticed by the comma before them. -/
theorem eq_nil_of_excess {site : Site} (hstored : site.stored = false) {taken : Nat} {last : Node}
    {ending : Ending} {rest : List Node}
    (hgoes : GoesOn .closeArray (rest = []) ending last.following)
    (h : excess site taken (some last) rest = .ok ()) : rest = [] := by
  unfold excess at h
  simp only [hstored, Bool.false_eq_true, if_false, Option.map_some] at h
  cases hfollowing : last.following with
  | nil =>
    rw [hfollowing] at hgoes
    cases hgoes
  | cons t ts =>
    rw [hfollowing] at hgoes h
    cases hgoes with
    | comma kind more =>
      simp only [kind] at h
      cases ts with
      | nil => cases h
      | cons t' ts =>
        dsimp only at h
        split at h <;> cases h
    | close kind none closed => exact none
    | broken _ _ none _ => exact none

/-- What reading fields in order as the text goes by has seen of the elements. -/
theorem whole_of_fieldsInOrder {title : String} {count : Nat} {ending : Ending} {site : Site}
    (hstored : site.stored = false) {fields : List (Field σ)} (h : ∀ f ∈ fields, f.Lawful)
    {taken : Nat} {last : Option Node} {ns : List Node}
    (hlast : ∀ n ∈ last, GoesOn .closeArray (ns = []) ending n.following)
    (hfields : last = none → fields = [] → ns = []) (hs : SoundElements ending ns) {s s' : σ}
    (hr : fieldsInOrder title count ending site taken last fields ns s = .ok s') :
    ∀ n ∈ ns, n.Whole := by
  induction fields generalizing taken last ns s with
  | nil =>
    rw [fieldsInOrder, unit_bind_eq_ok_iff] at hr
    obtain ⟨hexcess, -⟩ := hr
    cases last with
    | none =>
      rw [hfields rfl rfl]
      exact List.forall_mem_nil _
    | some n =>
      rw [eq_nil_of_excess hstored (hlast n rfl) hexcess]
      exact List.forall_mem_nil _
  | cons f fs ih =>
    obtain ⟨hf, hfs⟩ := List.forall_mem_cons.mp h
    cases ns with
    | nil => exact List.forall_mem_nil _
    | cons n ns =>
      obtain ⟨hn, hgoes, hns⟩ := hs
      rw [fieldsInOrder, bind_eq_ok_iff] at hr
      obtain ⟨s₁, hread, hr⟩ := hr
      have hwhole := hf.whole hn hstored hread
      obtain ⟨o, ho⟩ := hwhole
      have hlast' : ∀ m ∈ some n, GoesOn .closeArray (ns = []) ending m.following := by
        intro m hm
        obtain rfl := Option.some.inj hm
        exact hgoes (ended_of_outline? ho)
      exact List.forall_mem_cons.mpr ⟨⟨o, ho⟩, ih hfs hlast' nofun hns hr⟩

/-! ## Structures -/

/-- **A form that reads outlines**: it has fields, and all of them do. -/
structure Form.Lawful (form : Form σ α) : Prop where
  fields : ∀ f ∈ form.fields, f.Lawful
  nonempty : form.fields ≠ []

/-- What is made of the members of an object. -/
def Form.MakesMembers (form : Form σ α) (site : Site) (os : List (Option String × Outline))
    (a : α) : Prop :=
  ∃ s, Chain (Takes form.fields site) os form.blank s ∧ form.build s = .ok a

/-- What is made of the elements of an array. -/
def Form.MakesElements (form : Form σ α) (site : Site) (os : List Outline) (a : α) : Prop :=
  ∃ s, InOrder site form.fields os form.blank s ∧ form.build s = .ok a

/-- **What is made of a structure**: of the members of an object, or of the elements of an array. -/
inductive Form.Made (form : Form σ α) (site : Site) : Outline → α → Prop
  | object {site' : Site} {os : List (Option String × Outline)} {a : α}
    (enters : Enters site site') (made : form.MakesMembers site' os a) :
    Form.Made form site (.object os) a
  | array {site' : Site} {os : List Outline} {a : α} (enters : Enters site site')
    (made : form.MakesElements site' os a) : Form.Made form site (.array os) a

theorem finish_closed_eq_ok_iff {form : Form σ α} {stop : Mark} {s : σ} {a : α} :
    finish form (.closed stop) s = .ok a ↔ form.build s = .ok a := by
  simp only [finish, close_closed, ok_bind, mapError_eq_ok_iff]

theorem exists_closed_of_finish {form : Form σ α} {ending : Ending} {s : σ} {a : α}
    (h : finish form ending s = .ok a) : ∃ stop, ending = .closed stop := by
  unfold finish at h
  exact close_eq_ok_iff.mp (unit_bind_eq_ok_iff.mp h).1

theorem ofMembers_eq_ok_iff {form : Form σ α} (h : form.Lawful) {site : Site}
    {ms : List (Name × Node)} {os : List (Option String × Outline)} (hm : ShowsMembers ms os)
    (stop : Mark) {a : α} :
    ofMembers form site ms (.closed stop) = .ok a ↔ form.MakesMembers site os a := by
  simp only [ofMembers, bind_eq_ok_iff, mapError_eq_ok_iff, members_eq_ok_iff h.fields hm,
    finish_closed_eq_ok_iff]
  exact Iff.rfl

theorem ofElements_eq_ok_iff {form : Form σ α} (h : form.Lawful) {site : Site} {ns : List Node}
    {os : List Outline} (hn : ShowsElements ns os) (stop : Mark) {a : α} :
    ofElements form site ns (.closed stop) = .ok a ↔ form.MakesElements site os a := by
  have hstands : Stands none form.fields ns := ⟨nofun, fun _ hnil => absurd hnil h.nonempty⟩
  simp only [ofElements, bind_eq_ok_iff, mapError_eq_ok_iff,
    fieldsInOrder_eq_ok_iff h.fields hstands hn, finish_closed_eq_ok_iff]
  exact Iff.rfl

theorem structureOr_eq_ok_iff {form : Form σ α} (h : form.Lawful) {wanted : String} {site : Site}
    {n : Node} {o : Outline} (hn : n.Shows o) {a : α} :
    structureOr wanted form site n = .ok a ↔ form.Made site o a := by
  cases o with
  | atom x =>
    obtain ⟨v, start, stop, following, rfl, -⟩ := hn
    exact ⟨nofun, nofun⟩
  | array os =>
    obtain ⟨start, ns, stop, following, rfl, hns⟩ := hn
    simp only [structureOr, bind_eq_ok_iff, enter_eq_ok_iff, ofElements_eq_ok_iff h hns]
    constructor
    · rintro ⟨site', henters, hmade⟩
      exact .array henters hmade
    · intro hmade
      cases hmade with
      | array henters hmade => exact ⟨_, henters, hmade⟩
  | object os =>
    obtain ⟨start, ms, stop, following, rfl, hms⟩ := hn
    simp only [structureOr, bind_eq_ok_iff, enter_eq_ok_iff, ofMembers_eq_ok_iff h hms]
    constructor
    · rintro ⟨site', henters, hmade⟩
      exact .object henters hmade
    · intro hmade
      cases hmade with
      | object henters hmade => exact ⟨_, henters, hmade⟩

theorem lawful_structureOr {form : Form σ α} (h : form.Lawful) (wanted : String) :
    Lawful (structureOr wanted form) where
  makes hn hr n' hn' := (structureOr_eq_ok_iff h hn').mpr ((structureOr_eq_ok_iff h hn).mp hr)
  whole := by
    intro site n a hs hstored hr
    unfold structureOr at hr
    split at hr
    · next start ns ending following =>
      obtain ⟨site', hsite, hr⟩ := bind_eq_ok_iff.mp hr
      obtain ⟨s, hread, hfinish⟩ := bind_eq_ok_iff.mp hr
      rw [mapError_eq_ok_iff] at hread
      obtain ⟨stop, rfl⟩ := exists_closed_of_finish hfinish
      exact whole_array (whole_of_fieldsInOrder ((stored_of_enter hsite).trans hstored) h.fields
        (fun _ hnone => by cases hnone) (fun _ hnil => absurd hnil h.nonempty) hs hread)
    · next start ms ending following =>
      obtain ⟨site', hsite, hr⟩ := bind_eq_ok_iff.mp hr
      obtain ⟨s, hread, hfinish⟩ := bind_eq_ok_iff.mp hr
      rw [mapError_eq_ok_iff] at hread
      obtain ⟨stop, rfl⟩ := exists_closed_of_finish hfinish
      exact whole_object (whole_of_members h.fields ((stored_of_enter hsite).trans hstored) hs
        hread)
    · cases hr

end Reader

end Json

end DiffContents
