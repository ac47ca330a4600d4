import DiffContents.Proofs.Json.Choosing
import Mathlib.Data.List.Pairwise

/-!
# Rewritings that a reader does not notice

The members of an object come in no particular order; one that holds its default may be left out,
and others that no field is named after may stand among them.  `Slot` is what a rewriting needs to know
of a field, and `Slot.RewritesStructure`, `Slot.RewritesChoice` and `Slot.RewritesTagged` are the
rewritings of the three forms, one step at a time, in the form itself or in a value inside it.

A reader respects a rewriting if it makes the same of an outline before and after it
(`Reader.Respects`).  What carries this through a chain of members is that reading one member and
reading another commute (`Chain.perm`): then a member can be moved to the end, where leaving it out
undoes its step.
-/

namespace DiffContents

namespace Json

/-! ## Rewritings of outlines -/

/-- **What a rewriting knows of a field**: its name, the value that may be left out, and the
rewritings of a value in its place. -/
structure Slot where
  name : String
  default : Option Outline
  inside : Outline → Outline → Prop

namespace Slot

/-- A value inside which nothing is rewritten. -/
def fixed : Outline → Outline → Prop := fun _ _ => False

/-- The slot of a tag. -/
def kind : Slot := ⟨"kind", none, fixed⟩

/-- **One rewriting of the members of an object.** -/
inductive RewritesMembers (slots : List Slot) :
    List (Option String × Outline) → List (Option String × Outline) → Prop
  /-- The members come in another order. -/
  | reorder {ms ms' : List (Option String × Outline)} (perm : ms.Perm ms') :
    RewritesMembers slots ms ms'
  /-- A member that holds its default is left out. -/
  | leaveOut {before behind : List (Option String × Outline)} {slot : Slot} {o : Outline}
    (mem : slot ∈ slots) (holds : slot.default = some o) :
    RewritesMembers slots (before ++ (some slot.name, o) :: behind) (before ++ behind)
  /-- A member that no slot is named after is added. -/
  | add {before behind : List (Option String × Outline)} {name : String} {a : Atom}
    (unused : ∀ slot ∈ slots, slot.name ≠ name) (readable : a.Readable) :
    RewritesMembers slots (before ++ behind) (before ++ (some name, .atom a) :: behind)
  /-- The value of a member is rewritten. -/
  | inside {before behind : List (Option String × Outline)} {slot : Slot} {o o' : Outline}
    (mem : slot ∈ slots) (rewrites : slot.inside o o') :
    RewritesMembers slots (before ++ (some slot.name, o) :: behind)
      (before ++ (some slot.name, o') :: behind)

/-- One of the elements that stand for the slots in order is rewritten. -/
inductive RewritesElements : List Slot → List Outline → List Outline → Prop
  | head {slot : Slot} {slots : List Slot} {o o' : Outline} {os : List Outline}
    (rewrites : slot.inside o o') : RewritesElements (slot :: slots) (o :: os) (o' :: os)
  | tail {slot : Slot} {slots : List Slot} {o : Outline} {os os' : List Outline}
    (rewrites : RewritesElements slots os os') :
    RewritesElements (slot :: slots) (o :: os) (o :: os')

/-- **One rewriting of a structure.** -/
inductive RewritesStructure (slots : List Slot) : Outline → Outline → Prop
  | members {ms ms' : List (Option String × Outline)} (rewrites : RewritesMembers slots ms ms') :
    RewritesStructure slots (.object ms) (.object ms')
  | elements {os os' : List Outline} (rewrites : RewritesElements slots os os') :
    RewritesStructure slots (.array os) (.array os')

/-- **One rewriting of a list**: of one of its elements. -/
inductive RewritesList (rel : Outline → Outline → Prop) : Outline → Outline → Prop
  | element {before behind : List Outline} {o o' : Outline} (rewrites : rel o o') :
    RewritesList rel (.array (before ++ o :: behind)) (.array (before ++ o' :: behind))

/-- **One rewriting of a choice**: of the value beside the name. -/
inductive RewritesChoice (variants : List (String × (Outline → Outline → Prop))) :
    Outline → Outline → Prop
  | value {key : String} {rel : Outline → Outline → Prop} {o o' : Outline}
    (known : variants.lookup key = some rel) (rewrites : rel o o') :
    RewritesChoice variants (.object [(some key, o)]) (.object [(some key, o')])

/-- The slots of the form a tag stands for, by its name or its number. -/
inductive Tags (variants : List (String × List Slot)) : Outline → List Slot → Prop
  | name {key : String} {slots : List Slot} (known : variants.lookup key = some slots) :
    Tags variants (.atom (.string (some key))) slots
  | number {i : Nat} {key : String} {slots : List Slot}
    (known : variants[i]? = some (key, slots)) :
    Tags variants (.atom (.number (some (.int i)))) slots

/-- **One rewriting of a tagged form.**  The tag is a member like any other, but stays as it is. -/
inductive RewritesTagged (variants : List (String × List Slot)) : Outline → Outline → Prop
  | members {ms ms' : List (Option String × Outline)} {t : Outline} {slots : List Slot}
    (mem : (some "kind", t) ∈ ms) (tags : Tags variants t slots)
    (rewrites : RewritesMembers (kind :: slots) ms ms') :
    RewritesTagged variants (.object ms) (.object ms')
  | elements {os os' : List Outline} {t : Outline} {slots : List Slot}
    (tags : Tags variants t slots) (rewrites : RewritesElements slots os os') :
    RewritesTagged variants (.array (t :: os)) (.array (t :: os'))

/-- The slot of a value in which nothing is rewritten. -/
def plain (name : String) : Slot := ⟨name, none, fixed⟩

/-- The slot of a text that may be left out if it is empty. -/
def text (name : String) : Slot := ⟨name, some (.atom (.string (some ""))), fixed⟩

/-- The slot of a value that has to be there. -/
def needed (name : String) (rel : Outline → Outline → Prop) : Slot := ⟨name, none, rel⟩

/-- The slot of a list that may be left out if it is empty. -/
def list (name : String) (rel : Outline → Outline → Prop) : Slot :=
  ⟨name, some (.array []), RewritesList rel⟩

/-- The slot of a value that may be left out if it is null. -/
def option (name : String) (rel : Outline → Outline → Prop) : Slot :=
  ⟨name, some (.atom .null), rel⟩

/-! ## What can be taken in stays so -/

/-- **A rewriting that can be made in any place**: it neither begins nor ends with null, and what
can be taken in can be taken in afterwards. -/
structure Gentle (rel : Outline → Outline → Prop) : Prop where
  source : ∀ {o o' : Outline}, rel o o' → o ≠ .atom .null
  target : ∀ {o o' : Outline}, rel o o' → o' ≠ .atom .null
  fits : ∀ {depth : Nat} {o o' : Outline}, rel o o' → o.Fits depth → o'.Fits depth

theorem gentle_fixed : Gentle fixed := ⟨nofun, nofun, nofun⟩

theorem fitMembers_of_rewrites {slots : List Slot} (h : ∀ slot ∈ slots, Gentle slot.inside)
    {depth : Nat} {ms ms' : List (Option String × Outline)} (hr : RewritesMembers slots ms ms')
    (hms : Outline.FitMembers depth ms) : Outline.FitMembers depth ms' := by
  rw [Outline.fitMembers_iff] at hms ⊢
  cases hr with
  | reorder perm => exact fun m hm => hms m (perm.mem_iff.mpr hm)
  | leaveOut mem holds =>
    simp only [List.forall_mem_append, List.forall_mem_cons] at hms ⊢
    exact ⟨hms.1, hms.2.2⟩
  | add unused readable =>
    simp only [List.forall_mem_append, List.forall_mem_cons] at hms ⊢
    exact ⟨hms.1, ⟨nofun, readable⟩, hms.2⟩
  | inside mem rewrites =>
    simp only [List.forall_mem_append, List.forall_mem_cons] at hms ⊢
    obtain ⟨hbefore, ⟨hname, hfits⟩, hbehind⟩ := hms
    exact ⟨hbefore, ⟨hname, (h _ mem).fits rewrites hfits⟩, hbehind⟩

/-- What holds of all elements, and of each after a rewriting in its place. -/
theorem forall_mem_of_rewritesElements {P : Outline → Prop} {slots : List Slot}
    (h : ∀ slot ∈ slots, ∀ o o', slot.inside o o' → P o → P o') {os os' : List Outline}
    (hr : RewritesElements slots os os') (hos : ∀ o ∈ os, P o) : ∀ o ∈ os', P o := by
  induction hr with
  | head rewrites =>
    rw [List.forall_mem_cons] at hos h ⊢
    exact ⟨h.1 _ _ rewrites hos.1, hos.2⟩
  | tail _ ih =>
    rw [List.forall_mem_cons] at hos h ⊢
    exact ⟨hos.1, ih h.2 hos.2⟩

theorem gentle_structure {slots : List Slot} (h : ∀ slot ∈ slots, Gentle slot.inside) :
    Gentle (RewritesStructure slots) where
  source := by
    rintro _ _ (⟨-⟩ | ⟨-⟩) <;> exact nofun
  target := by
    rintro _ _ (⟨-⟩ | ⟨-⟩) <;> exact nofun
  fits := by
    rintro depth _ _ (⟨rewrites⟩ | ⟨rewrites⟩) ⟨hdepth, hfit⟩
    · exact ⟨hdepth, fitMembers_of_rewrites h rewrites hfit⟩
    · rw [Outline.fitElements_iff] at hfit
      exact ⟨hdepth, Outline.fitElements_iff.mpr (forall_mem_of_rewritesElements
        (fun slot mem _ _ => (h slot mem).fits) rewrites hfit)⟩

theorem gentle_list {rel : Outline → Outline → Prop} (h : Gentle rel) :
    Gentle (RewritesList rel) where
  source := by
    rintro _ _ ⟨-⟩
    exact nofun
  target := by
    rintro _ _ ⟨-⟩
    exact nofun
  fits := by
    rintro depth _ _ ⟨rewrites⟩ ⟨hdepth, hfit⟩
    refine ⟨hdepth, ?_⟩
    rw [Outline.fitElements_iff] at hfit ⊢
    simp only [List.forall_mem_append, List.forall_mem_cons] at hfit ⊢
    exact ⟨hfit.1, h.fits rewrites hfit.2.1, hfit.2.2⟩

theorem gentle_choice {variants : List (String × (Outline → Outline → Prop))}
    (h : ∀ p ∈ variants, Gentle p.2) : Gentle (RewritesChoice variants) where
  source := by
    rintro _ _ ⟨-, -⟩
    exact nofun
  target := by
    rintro _ _ ⟨-, -⟩
    exact nofun
  fits := by
    rintro depth _ _ ⟨known, rewrites⟩ ⟨hdepth, hname, hfit, -⟩
    exact ⟨hdepth, hname, (h _ (Reader.mem_of_lookup known)).fits rewrites hfit, trivial⟩

theorem Tags.exists_mem {variants : List (String × List Slot)} {t : Outline} {slots : List Slot}
    (h : Tags variants t slots) : ∃ key, (key, slots) ∈ variants := by
  cases h with
  | name known => exact ⟨_, Reader.mem_of_lookup known⟩
  | number known => exact ⟨_, List.mem_of_getElem? known⟩

theorem gentle_tagged {variants : List (String × List Slot)}
    (h : ∀ p ∈ variants, ∀ slot ∈ p.2, Gentle slot.inside) : Gentle (RewritesTagged variants) where
  source := by
    rintro _ _ (⟨-, -, -⟩ | ⟨-, -⟩) <;> exact nofun
  target := by
    rintro _ _ (⟨-, -, -⟩ | ⟨-, -⟩) <;> exact nofun
  fits := by
    rintro depth _ _ (⟨-, tags, rewrites⟩ | ⟨tags, rewrites⟩) ⟨hdepth, hfit⟩
    · obtain ⟨key, hmem⟩ := tags.exists_mem
      exact ⟨hdepth, fitMembers_of_rewrites
        (List.forall_mem_cons.mpr ⟨gentle_fixed, h _ hmem⟩) rewrites hfit⟩
    · obtain ⟨key, hmem⟩ := tags.exists_mem
      obtain ⟨htag, hfit⟩ := hfit
      rw [Outline.fitElements_iff] at hfit
      exact ⟨hdepth, htag, Outline.fitElements_iff.mpr (forall_mem_of_rewritesElements
        (fun slot mem _ _ => (h _ hmem slot mem).fits) rewrites hfit)⟩

end Slot

namespace Reader

open Node

variable {α β σ μ : Type}

/-! ## Chains whose steps commute -/

theorem chain_append_iff {step : μ → σ → σ → Prop} {ms ms' : List μ} {s u : σ} :
    Chain step (ms ++ ms') s u ↔ ∃ t, Chain step ms s t ∧ Chain step ms' t u := by
  induction ms generalizing s with
  | nil =>
    simp only [List.nil_append, chain_nil_iff]
    exact ⟨fun h => ⟨s, rfl, h⟩, fun ⟨_, ht, h⟩ => ht ▸ h⟩
  | cons m ms ih =>
    simp only [List.cons_append, chain_cons_iff, ih]
    constructor
    · rintro ⟨s₁, hm, t, hms, hms'⟩
      exact ⟨t, ⟨s₁, hm, hms⟩, hms'⟩
    · rintro ⟨t, ⟨s₁, hm, hms⟩, hms'⟩
      exact ⟨s₁, hm, t, hms, hms'⟩

theorem chain_middle_iff {step : μ → σ → σ → Prop} {before behind : List μ} {m : μ} {s u : σ} :
    Chain step (before ++ m :: behind) s u ↔
      ∃ t t', Chain step before s t ∧ step m t t' ∧ Chain step behind t' u := by
  simp only [chain_append_iff, chain_cons_iff]
  constructor
  · rintro ⟨t, hbefore, t', hm, hbehind⟩
    exact ⟨t, t', hbefore, hm, hbehind⟩
  · rintro ⟨t, t', hbefore, hm, hbehind⟩
    exact ⟨t, hbefore, t', hm, hbehind⟩

/-- **Steps that commute can be taken in any order.** -/
theorem Chain.perm {step : μ → σ → σ → Prop}
    (comm : ∀ {m m' : μ} {s t u : σ}, step m s t → step m' t u → ∃ t', step m' s t' ∧ step m t' u)
    {ms ms' : List μ} (h : ms.Perm ms') {s u : σ} (hc : Chain step ms s u) :
    Chain step ms' s u := by
  induction h generalizing s with
  | nil => exact hc
  | cons m _ ih =>
    obtain ⟨s₁, hm, hms⟩ := chain_cons_iff.mp hc
    exact .cons hm (ih hms)
  | swap m m' ms =>
    obtain ⟨s₁, hm', hms⟩ := chain_cons_iff.mp hc
    obtain ⟨s₂, hm, hms⟩ := chain_cons_iff.mp hms
    obtain ⟨t', hm, hm'⟩ := comm hm' hm
    exact .cons hm (.cons hm' hms)
  | trans _ _ ih ih' => exact ih' (ih hc)

/-! ## Readers -/

/-- **The reader respects the rewriting**: it makes the same of what is rewritten so. -/
structure Respects (r : Reader α) (rel : Outline → Outline → Prop) : Prop where
  lawful : r.Lawful
  gentle : Slot.Gentle rel
  keeps : ∀ {site : Site} {o o' : Outline} {a : α}, rel o o' → r.Makes site o a →
    r.Makes site o' a

theorem Lawful.respects_fixed {r : Reader α} (h : r.Lawful) : r.Respects Slot.fixed :=
  ⟨h, Slot.gentle_fixed, nofun⟩

/-- What a reader makes of an outline, by what it reads from the nodes that show it. -/
theorem makes_iff {r : Reader α} {site : Site} {o : Outline} {a : α} {P : Prop}
    (h : ∀ n : Node, n.Shows o → (r site n = .ok a ↔ P)) : r.Makes site o a ↔ P := by
  obtain ⟨n, hn, -⟩ := exists_shows o []
  exact ⟨fun hm => (h n hn).mp (hm n hn), fun hp n hn => (h n hn).mpr hp⟩

theorem makes_map_iff {r : Reader α} (hr : r.Lawful) {f : α → β} {site : Site} {o : Outline}
    {b : β} : Makes (fun site n => f <$> r site n) site o b ↔ ∃ a, r.Makes site o a ∧ f a = b :=
  makes_iff fun n hn => by simp only [map_eq_ok_iff, hr.eq_ok_iff hn]

theorem makes_option_iff {r : Reader α} (hr : r.Lawful) {site : Site} {o : Outline}
    {a : Option α} : (option r).Makes site o a ↔
      o = .atom .null ∧ a = none ∨ o ≠ .atom .null ∧ ∃ b, r.Makes site o b ∧ a = some b :=
  makes_iff fun n hn => by simp only [option_eq_ok_iff hn, hr.eq_ok_iff hn]

theorem makes_list_iff {r : Reader α} (hr : r.Lawful) {site : Site} {o : Outline} {as : List α} :
    (list r).Makes site o as ↔
      ∃ os site', o = .array os ∧ Enters site site' ∧ List.Forall₂ (r.Makes site') os as :=
  makes_iff fun _ hn => list_eq_ok_iff hr hn

theorem makes_structureOr_iff {form : Form σ α} (h : form.Lawful) {wanted : String} {site : Site}
    {o : Outline} {a : α} : (structureOr wanted form).Makes site o a ↔ form.Made site o a :=
  makes_iff fun _ hn => structureOr_eq_ok_iff h hn

theorem makes_choice_iff {variants : List (String × Variant α)}
    (h : ∀ p ∈ variants, VariantLawful p.2) {site : Site} {o : Outline} {a : α} :
    (choice variants).Makes site o a ↔ ChoiceMade variants site o a :=
  makes_iff fun _ hn => choice_eq_ok_iff h hn

theorem makes_tagged_iff {title : String} {variants : List (String × (Content → Except Failure α))}
    (h : ∀ p ∈ variants, ContentLawful p.2) {site : Site} {o : Outline} {a : α} :
    (tagged title variants).Makes site o a ↔ TaggedMade variants site o a :=
  makes_iff fun _ hn => tagged_eq_ok_iff h hn

section Respects

variable {r : Reader α} {rel : Outline → Outline → Prop}

theorem Respects.map (h : r.Respects rel) (f : α → β) :
    Respects (fun site n => f <$> r site n) rel where
  lawful := h.lawful.map f
  gentle := h.gentle
  keeps := by
    intro site o o' b hrel hb
    rw [makes_map_iff h.lawful] at hb ⊢
    obtain ⟨a, ha, rfl⟩ := hb
    exact ⟨a, h.keeps hrel ha, rfl⟩

theorem Respects.option (h : r.Respects rel) : (option r).Respects rel where
  lawful := h.lawful.option
  gentle := h.gentle
  keeps := by
    intro site o o' a hrel ha
    rw [makes_option_iff h.lawful] at ha ⊢
    rcases ha with ⟨hnull, -⟩ | ⟨-, b, hb, rfl⟩
    · exact absurd hnull (h.gentle.source hrel)
    · exact .inr ⟨h.gentle.target hrel, b, h.keeps hrel hb, rfl⟩

/-- What is made of elements is made of them after a rewriting of one. -/
theorem forall₂_of_rewrites {R : Outline → α → Prop} {before behind : List Outline}
    {o o' : Outline} (h : ∀ {a}, R o a → R o' a) {as : List α}
    (has : List.Forall₂ R (before ++ o :: behind) as) :
    List.Forall₂ R (before ++ o' :: behind) as := by
  induction before generalizing as with
  | nil =>
    cases has with
    | cons ha has => exact .cons (h ha) has
  | cons b before ih =>
    cases has with
    | cons ha has => exact .cons ha (ih has)

theorem Respects.list (h : r.Respects rel) : (list r).Respects (Slot.RewritesList rel) where
  lawful := h.lawful.list
  gentle := Slot.gentle_list h.gentle
  keeps := by
    rintro site _ _ as ⟨rewrites⟩ has
    rw [makes_list_iff h.lawful] at has ⊢
    obtain ⟨_, site', heq, henters, has⟩ := has
    cases heq
    exact ⟨_, site', rfl, henters, forall₂_of_rewrites (h.keeps rewrites) has⟩

/-- A reader respects any of several rewritings if it respects each of them. -/
theorem respects_exists {ι : Type} [Inhabited ι] {rels : ι → Outline → Outline → Prop}
    (h : ∀ i, r.Respects (rels i)) : r.Respects fun o o' => ∃ i, rels i o o' where
  lawful := (h default).lawful
  gentle := {
    source := fun ⟨i, hi⟩ => (h i).gentle.source hi
    target := fun ⟨i, hi⟩ => (h i).gentle.target hi
    fits := fun ⟨i, hi⟩ => (h i).gentle.fits hi }
  keeps := fun ⟨i, hi⟩ => (h i).keeps hi

end Respects

/-! ## Fields and their slots -/

/-- Reading the first field and then the second comes to reading them in the other order. -/
structure Field.Commutes (f g : Field σ) : Prop where
  given : ∀ {site : Site} {o : Outline} {s t : σ}, g.Makes site o s t → f.given t = f.given s
  swap : ∀ {site : Site} {o o' : Outline} {s t u : σ}, f.Makes site o s t → g.Makes site o' t u →
    ∃ t', g.Makes site o' s t' ∧ f.Makes site o t' u

/-- **Two fields that can be read in either order.** -/
structure Field.Independent (f g : Field σ) : Prop where
  name : f.name ≠ g.name
  left : f.Commutes g
  right : g.Commutes f

theorem Field.Independent.symm {f g : Field σ} (h : f.Independent g) : g.Independent f :=
  ⟨h.name.symm, h.right, h.left⟩

/-- **The slot is the field's**: what the field makes of a value it makes after a rewriting inside
it, and what it makes of its default leads to what is built without. -/
structure Form.Hosts (form : Form σ α) (f : Field σ) (slot : Slot) : Prop where
  lawful : f.Lawful
  gentle : Slot.Gentle slot.inside
  name : f.name = slot.name
  given : ∀ {site : Site} {o : Outline} {s t : σ}, f.Makes site o s t → f.given t = true
  inside : ∀ {site : Site} {o o' : Outline} {s t : σ}, slot.inside o o' → f.Makes site o s t →
    f.Makes site o' s t
  leaveOut : ∀ {site : Site} {o : Outline} {s t : σ}, slot.default = some o → f.given s = false →
    f.Makes site o s t → form.build t = form.build s

/-- **The slots are the form's**, and its fields can be read in any order. -/
structure Form.Suits (form : Form σ α) (slots : List Slot) : Prop where
  hosts : List.Forall₂ form.Hosts form.fields slots
  nonempty : slots ≠ []
  independent : form.fields.Pairwise Field.Independent

/-- What is read into a place is found there. -/
theorem makes_of_iff {name : String} {optional : Bool} {get : σ → Option α} {set : α → σ → σ}
    {r : Reader α} (hget : ∀ a s, get (set a s) = some a) {site : Site} {o : Outline} {s t : σ} :
    (Field.of name optional get set r).Makes site o s t ↔ ∃ a, r.Makes site o a ∧ t = set a s := by
  have hread : ∀ n, (Field.of name optional get set r).read site n s = .ok t ↔
      ∃ a, r site n = .ok a ∧ t = set a s := by
    intro n
    simp only [Field.of, bind_eq_ok_iff]
    exact exists_congr fun a => and_congr_right fun _ =>
      ⟨fun h => (Except.ok.inj h).symm, fun h => congrArg Except.ok h.symm⟩
  simp only [Field.Makes, hread]
  constructor
  · intro h
    obtain ⟨n, hn, -⟩ := exists_shows o []
    obtain ⟨a, -, rfl⟩ := h n hn
    refine ⟨a, fun n' hn' => ?_, rfl⟩
    obtain ⟨a', ha', heq⟩ := h n' hn'
    have hsame := congrArg get heq
    rw [hget, hget] at hsame
    exact Option.some.inj hsame ▸ ha'
  · rintro ⟨a, ha, rfl⟩ n hn
    exact ⟨a, ha n hn, rfl⟩

section Independent

variable {name name' : String} {optional optional' : Bool} {get : σ → Option α}
  {get' : σ → Option β} {set : α → σ → σ} {set' : β → σ → σ} {r : Reader α} {r' : Reader β}

theorem commutes_of (hself : ∀ a s, get (set a s) = some a)
    (hself' : ∀ b s, get' (set' b s) = some b) (hget : ∀ b s, get (set' b s) = get s)
    (hset : ∀ a b s, set' b (set a s) = set a (set' b s)) :
    (Field.of name optional get set r).Commutes (Field.of name' optional' get' set' r') where
  given ht := by
    obtain ⟨b, -, rfl⟩ := (makes_of_iff hself').mp ht
    simp only [Field.of, hget]
  swap ht hu := by
    obtain ⟨a, ha, rfl⟩ := (makes_of_iff hself).mp ht
    obtain ⟨b, hb, rfl⟩ := (makes_of_iff hself').mp hu
    exact ⟨set' b _, (makes_of_iff hself').mpr ⟨b, hb, rfl⟩,
      (makes_of_iff hself).mpr ⟨a, ha, hset a b _⟩⟩

/-- Fields kept in different places can be read in either order. -/
theorem independent_of (hname : name ≠ name') (hself : ∀ a s, get (set a s) = some a)
    (hself' : ∀ b s, get' (set' b s) = some b) (hget : ∀ b s, get (set' b s) = get s)
    (hget' : ∀ a s, get' (set a s) = get' s)
    (hset : ∀ a b s, set' b (set a s) = set a (set' b s)) :
    (Field.of name optional get set r).Independent (Field.of name' optional' get' set' r') :=
  ⟨hname, commutes_of hself hself' hget hset,
    commutes_of hself' hself hget' fun b a s => (hset a b s).symm⟩

end Independent

section Hosts

variable {γ : Type} {form : Form σ γ} {optional : Bool} {r : Reader α}
  {rel : Outline → Outline → Prop}

/-- A field hosts the slot with its name, if its reader respects the rewritings inside. -/
theorem hosts_of {get : σ → Option α} {set : α → σ → σ} (slot : Slot)
    (h : r.Respects slot.inside) (hget : ∀ a s, get (set a s) = some a)
    (hleave : ∀ {site o a s}, slot.default = some o → get s = none → r.Makes site o a →
      form.build (set a s) = form.build s) :
    form.Hosts (Field.of slot.name optional get set r) slot where
  lawful := h.lawful.field _ _ _ _
  gentle := h.gentle
  name := rfl
  given ht := by
    obtain ⟨a, -, rfl⟩ := (makes_of_iff hget).mp ht
    simp only [Field.of, hget, Option.isSome_some]
  inside hrel ht := by
    obtain ⟨a, ha, rfl⟩ := (makes_of_iff hget).mp ht
    exact (makes_of_iff hget).mpr ⟨a, h.keeps hrel ha, rfl⟩
  leaveOut hdefault hgiven ht := by
    obtain ⟨a, ha, rfl⟩ := (makes_of_iff hget).mp ht
    exact hleave hdefault (by simpa [Field.of] using hgiven) ha

theorem hosts_needed {get : σ → Option α} {set : α → σ → σ} (name : String)
    (h : r.Respects rel) (hget : ∀ a s, get (set a s) = some a) :
    form.Hosts (Field.of name optional get set r) (.needed name rel) :=
  hosts_of (.needed name rel) h hget nofun

theorem hosts_plain {get : σ → Option α} {set : α → σ → σ} (name : String) (h : r.Lawful)
    (hget : ∀ a s, get (set a s) = some a) :
    form.Hosts (Field.of name optional get set r) (.plain name) :=
  hosts_needed name h.respects_fixed hget

theorem hosts_text {get : σ → Option String} {set : String → σ → σ} (name : String)
    (hget : ∀ a s, get (set a s) = some a)
    (hbuild : ∀ s, get s = none → form.build (set "" s) = form.build s) :
    form.Hosts (Field.of name optional get set string) (.text name) := by
  refine hosts_of (.text name) readsAtoms_string.lawful.respects_fixed hget ?_
  intro site o a s hdefault hs ha
  obtain ⟨x, rfl, rfl⟩ := readsAtoms_string.makes_iff.mp ha
  cases hdefault
  exact hbuild s hs

theorem hosts_list {get : σ → Option (List α)} {set : List α → σ → σ} (name : String)
    (h : r.Respects rel) (hget : ∀ a s, get (set a s) = some a)
    (hbuild : ∀ s, get s = none → form.build (set [] s) = form.build s) :
    form.Hosts (Field.of name optional get set (list r)) (.list name rel) := by
  refine hosts_of (.list name rel) h.list hget ?_
  intro site o as s hdefault hs has
  obtain ⟨os, site', rfl, -, has⟩ := (makes_list_iff h.lawful).mp has
  cases hdefault
  cases has
  exact hbuild s hs

theorem hosts_option {get : σ → Option (Option α)} {set : Option α → σ → σ} (name : String)
    (h : r.Respects rel) (hget : ∀ a s, get (set a s) = some a)
    (hbuild : ∀ s, get s = none → form.build (set none s) = form.build s) :
    form.Hosts (Field.of name optional get set (Reader.option r)) (.option name rel) := by
  refine hosts_of (.option name rel) h.option hget ?_
  intro site o a s hdefault hs ha
  rcases (makes_option_iff h.lawful).mp ha with ⟨-, rfl⟩ | ⟨hnull, -⟩
  · exact hbuild s hs
  · exact absurd (Option.some.inj hdefault).symm hnull

end Hosts

/-! ## Structures -/

/-- What stands in one of two lists that agree has a counterpart in the other. -/
theorem exists_of_forall₂ {γ δ : Type} {R : γ → δ → Prop} {xs : List γ} {ys : List δ}
    (h : List.Forall₂ R xs ys) :
    (∀ x ∈ xs, ∃ y ∈ ys, R x y) ∧ ∀ y ∈ ys, ∃ x ∈ xs, R x y := by
  induction h with
  | nil => exact ⟨nofun, nofun⟩
  | cons hxy _ ih =>
    constructor
    · rintro x (_ | ⟨_, hx⟩)
      · exact ⟨_, .head _, hxy⟩
      · obtain ⟨y, hy, hR⟩ := ih.1 x hx
        exact ⟨y, .tail _ hy, hR⟩
    · rintro y (_ | ⟨_, hy⟩)
      · exact ⟨_, .head _, hxy⟩
      · obtain ⟨x, hx, hR⟩ := ih.2 y hy
        exact ⟨x, .tail _ hx, hR⟩

namespace Form.Suits

variable {form : Form σ α} {slots : List Slot}

theorem lawful (h : form.Suits slots) : form.Lawful where
  fields f hf := by
    obtain ⟨slot, -, hhosts⟩ := (exists_of_forall₂ h.hosts).1 f hf
    exact hhosts.lawful
  nonempty hnil := by
    have hhosts := h.hosts
    rw [hnil, List.forall₂_nil_left_iff] at hhosts
    exact h.nonempty hhosts

theorem gentle (h : form.Suits slots) : ∀ slot ∈ slots, Slot.Gentle slot.inside := by
  intro slot hslot
  obtain ⟨f, -, hhosts⟩ := (exists_of_forall₂ h.hosts).2 slot hslot
  exact hhosts.gentle

/-- The field of a slot is found by the slot's name. -/
theorem exists_fieldNamed (h : form.Suits slots) {slot : Slot} (hslot : slot ∈ slots) :
    ∃ f, fieldNamed form.fields slot.name = some f ∧ form.Hosts f slot := by
  obtain ⟨hosts, -, independent⟩ := h
  generalize form.fields = fields at hosts independent
  unfold fieldNamed
  induction hosts with
  | nil => cases hslot
  | @cons f slot' fields slots hf hosts ih =>
    rw [List.pairwise_cons] at independent
    obtain rfl | hslot := List.mem_cons.mp hslot
    · exact ⟨f, List.find?_cons_of_pos (by simpa using hf.name), hf⟩
    · obtain ⟨g, hfind, hg⟩ := ih hslot independent.2
      have hne := (independent.1 g (List.mem_of_find?_eq_some hfind)).name
      rw [hg.name] at hne
      exact ⟨g, by rwa [List.find?_cons_of_neg (by simpa using hne)], hg⟩

theorem fieldNamed_eq_none (h : form.Suits slots) {name : String}
    (unused : ∀ slot ∈ slots, slot.name ≠ name) : fieldNamed form.fields name = none := by
  rw [fieldNamed, List.find?_eq_none]
  intro f hf
  obtain ⟨slot, hslot, hhosts⟩ := (exists_of_forall₂ h.hosts).1 f hf
  simpa [hhosts.name] using unused slot hslot

/-- **Reading one member and reading another commute.** -/
theorem takes_comm (h : form.Suits slots) {site : Site} {m m' : Option String × Outline}
    {s t u : σ} (hm : Takes form.fields site m s t) (hm' : Takes form.fields site m' t u) :
    ∃ t', Takes form.fields site m' s t' ∧ Takes form.fields site m t' u := by
  cases hm with
  | other unknown => exact ⟨u, hm', .other unknown⟩
  | @field key f o _ _ known fresh read =>
    cases hm' with
    | other unknown => exact ⟨s, .other unknown, .field known fresh read⟩
    | @field key' g o' _ _ known' fresh' read' =>
      have hf := List.mem_of_find?_eq_some known
      have hg := List.mem_of_find?_eq_some known'
      by_cases heq : f = g
      · -- the second member of one name finds its field read
        subst heq
        obtain ⟨slot, -, hhosts⟩ := (exists_of_forall₂ h.hosts).1 f hf
        exact absurd (hhosts.given read) (by simpa using fresh')
      · have : Std.Symm (@Field.Independent σ) := ⟨fun _ _ => Field.Independent.symm⟩
        have hfg := h.independent.forall hf hg heq
        obtain ⟨t', hread', hread⟩ := hfg.left.swap read read'
        exact ⟨t', .field known' ((hfg.right.given read).symm.trans fresh') hread',
          .field known ((hfg.left.given hread').trans fresh) hread⟩

/-- **What is made of members is made of them after a rewriting.** -/
theorem makesMembers (h : form.Suits slots) {site : Site} {ms ms' : List (Option String × Outline)}
    (hr : Slot.RewritesMembers slots ms ms') {a : α} (ha : form.MakesMembers site ms a) :
    form.MakesMembers site ms' a := by
  obtain ⟨s, hchain, hbuild⟩ := ha
  cases hr with
  | reorder perm => exact ⟨s, hchain.perm h.takes_comm perm, hbuild⟩
  | @leaveOut before behind slot o mem holds =>
    -- at the end of the chain, the step of the member can be undone
    have hperm : (before ++ (some slot.name, o) :: behind).Perm
        (before ++ behind ++ [(some slot.name, o)]) :=
      List.perm_middle.trans (List.perm_append_singleton _ _).symm
    obtain ⟨t, hrest, hlast⟩ := chain_append_iff.mp (hchain.perm h.takes_comm hperm)
    obtain ⟨s', hstep, hnil⟩ := chain_cons_iff.mp hlast
    obtain rfl := chain_nil_iff.mp hnil
    obtain ⟨f, hfind, hhosts⟩ := h.exists_fieldNamed mem
    cases hstep with
    | other unknown => cases unknown.symm.trans hfind
    | field known fresh read =>
      obtain rfl := Option.some.inj (known.symm.trans hfind)
      exact ⟨t, hrest, (hhosts.leaveOut holds fresh read).symm.trans hbuild⟩
  | add unused readable =>
    obtain ⟨t, hbefore, hbehind⟩ := chain_append_iff.mp hchain
    exact ⟨s, chain_middle_iff.mpr
      ⟨t, t, hbefore, .other (h.fieldNamed_eq_none unused), hbehind⟩, hbuild⟩
  | inside mem rewrites =>
    obtain ⟨t, t', hbefore, hstep, hbehind⟩ := chain_middle_iff.mp hchain
    obtain ⟨f, hfind, hhosts⟩ := h.exists_fieldNamed mem
    refine ⟨s, chain_middle_iff.mpr ⟨t, t', hbefore, ?_, hbehind⟩, hbuild⟩
    cases hstep with
    | other unknown => cases unknown.symm.trans hfind
    | field known fresh read =>
      obtain rfl := Option.some.inj (known.symm.trans hfind)
      exact .field known fresh (hhosts.inside rewrites read)

theorem inOrder {fields : List (Field σ)} (h : List.Forall₂ form.Hosts fields slots) {site : Site}
    {os os' : List Outline} (hr : Slot.RewritesElements slots os os') {s t : σ}
    (ht : InOrder site fields os s t) : InOrder site fields os' s t := by
  induction hr generalizing fields s with
  | head rewrites =>
    cases h with
    | cons hf hfs =>
      cases ht with
      | field read rest => exact .field (hf.inside rewrites read) rest
  | tail _ ih =>
    cases h with
    | cons hf hfs =>
      cases ht with
      | field read rest => exact .field read (ih hfs rest)

/-- What is made of elements is made of them after a rewriting. -/
theorem makesElements (h : form.Suits slots) {site : Site} {os os' : List Outline}
    (hr : Slot.RewritesElements slots os os') {a : α} (ha : form.MakesElements site os a) :
    form.MakesElements site os' a := by
  obtain ⟨s, hs, hbuild⟩ := ha
  exact ⟨s, inOrder h.hosts hr hs, hbuild⟩

/-- **A structure is read alike after a rewriting.** -/
theorem respects (h : form.Suits slots) (wanted : String) :
    (structureOr wanted form).Respects (Slot.RewritesStructure slots) where
  lawful := lawful_structureOr h.lawful wanted
  gentle := Slot.gentle_structure h.gentle
  keeps := by
    intro site o o' a hr ha
    rw [makes_structureOr_iff h.lawful] at ha ⊢
    cases hr with
    | members rewrites =>
      cases ha with
      | object enters made => exact .object enters (h.makesMembers rewrites made)
    | elements rewrites =>
      cases ha with
      | array enters made => exact .array enters (h.makesElements rewrites made)

end Form.Suits

/-! ## Choices -/

/-- **The variant respects the rewriting** of the value beside its name. -/
structure VariantRespects (v : Variant α) (rel : Outline → Outline → Prop) : Prop where
  lawful : VariantLawful v
  value : Respects (fun site n => v site (.value n)) rel

theorem variantRespects_wrapped {r : Reader α} {rel : Outline → Outline → Prop}
    (h : r.Respects rel) : VariantRespects (wrapped r) rel :=
  ⟨variantLawful_wrapped h.lawful, h⟩

theorem variantRespects_record {form : Form σ α} {slots : List Slot} (h : form.Suits slots) :
    VariantRespects (record form) (Slot.RewritesStructure slots) where
  lawful := variantLawful_record h.lawful
  value := {
    lawful := (variantLawful_record h.lawful).value
    gentle := Slot.gentle_structure h.gentle
    keeps := fun hr ha => (h.respects _).keeps hr ha }

/-- What two lists that agree name by name have at a name. -/
theorem of_lookup {γ δ : Type} {P : γ → δ → Prop} {ps : List (String × γ)}
    {qs : List (String × δ)} (h : List.Forall₂ (fun p q => p.1 = q.1 ∧ P p.2 q.2) ps qs)
    {key : String} {c : γ} {d : δ} (hc : ps.lookup key = some c) (hd : qs.lookup key = some d) :
    P c d := by
  induction h with
  | nil => cases hc
  | @cons p q ps qs hpq _ ih =>
    obtain ⟨name, c'⟩ := p
    obtain ⟨name', d'⟩ := q
    obtain ⟨rfl, hp⟩ : name = name' ∧ P c' d' := hpq
    rw [List.lookup_cons] at hc hd
    split at hc
    · next heq =>
      rw [heq] at hd
      obtain rfl := Option.some.inj hc
      obtain rfl := Option.some.inj hd
      exact hp
    · next heq =>
      rw [heq] at hd
      exact ih hc hd

/-- **A choice is read alike after a rewriting.** -/
theorem respects_choice {variants : List (String × Variant α)}
    {rels : List (String × (Outline → Outline → Prop))}
    (h : List.Forall₂ (fun v w => v.1 = w.1 ∧ VariantRespects v.2 w.2) variants rels) :
    (choice variants).Respects (Slot.RewritesChoice rels) := by
  have hlawful : ∀ p ∈ variants, VariantLawful p.2 := fun p hp =>
    let ⟨_, _, _, hq⟩ := (exists_of_forall₂ h).1 p hp
    hq.lawful
  have hgentle : ∀ q ∈ rels, Slot.Gentle q.2 := fun q hq =>
    let ⟨_, _, _, hp⟩ := (exists_of_forall₂ h).2 q hq
    hp.value.gentle
  refine ⟨lawful_choice hlawful, Slot.gentle_choice hgentle, ?_⟩
  intro site o o' a hr ha
  rw [makes_choice_iff hlawful] at ha ⊢
  cases hr with
  | value known rewrites =>
    cases ha with
    | value enters known' made =>
      exact .value enters known' ((of_lookup h known' known).value.keeps rewrites made)

/-! ## Tagged forms -/

theorem takesTag_comm {names : List String} {site : Site} {m m' : Option String × Outline}
    {s t u : Option Nat} (hm : TakesTag names site m s t) (hm' : TakesTag names site m' t u) :
    ∃ t', TakesTag names site m' s t' ∧ TakesTag names site m t' u := by
  cases hm with
  | other ne stores => exact ⟨u, hm', .other ne stores⟩
  | tag read =>
    cases hm' with
    | other ne stores => exact ⟨none, .other ne stores, .tag read⟩

/-- A tag that has been found stays the tag. -/
theorem eq_of_chain_takesTag {names : List String} {site : Site}
    {ms : List (Option String × Outline)} {i : Nat} {t : Option Nat}
    (h : Chain (TakesTag names site) ms (some i) t) : t = some i := by
  induction ms with
  | nil => exact chain_nil_iff.mp h
  | cons m ms ih =>
    obtain ⟨s, hm, hms⟩ := chain_cons_iff.mp h
    cases hm with
    | other => exact ih hms

/-- The tag that is found is the one that stands among the members. -/
theorem makes_of_chain_takesTag {names : List String} {site : Site}
    {ms : List (Option String × Outline)} {i : Nat}
    (h : Chain (TakesTag names site) ms none (some i)) {o : Outline} (ho : (some "kind", o) ∈ ms) : (tag names).Makes site o i := by
  obtain ⟨before, behind, rfl⟩ := List.append_of_mem ho
  obtain ⟨t, t', -, hm, hbehind⟩ := chain_middle_iff.mp h
  cases hm with
  | other ne => exact absurd rfl ne
  | tag read =>
    obtain rfl := Option.some.inj (eq_of_chain_takesTag hbehind)
    exact read

theorem stores_of_gentle {rel : Outline → Outline → Prop} (h : Slot.Gentle rel) {site : Site}
    {o o' : Outline} (hr : rel o o') (ho : Stores site o) : Stores site o' :=
  ho.imp_right (h.fits hr)

/-- **What is read beside a tag respects the rewritings of the slots.** -/
structure ContentRespects (c : Content → Except Failure α) (slots : List Slot) : Prop where
  lawful : ContentLawful c
  gentle : ∀ slot ∈ slots, Slot.Gentle slot.inside
  name : ∀ slot ∈ slots, slot.name ≠ "kind"
  members : ∀ {ms ms' : List (Option String × Outline)} {a : α},
    Slot.RewritesMembers (.kind :: slots) ms ms' → MakesMembers c ms a → MakesMembers c ms' a
  elements : ∀ {os os' : List Outline} {a : α}, Slot.RewritesElements slots os os' →
    MakesElements c os a → MakesElements c os' a

/-- For what stands beside it, a tag is a member that no slot is named after. -/
theorem rewritesMembers_of_kind {slots : List Slot} {ms ms' : List (Option String × Outline)}
    (h : Slot.RewritesMembers (.kind :: slots) ms ms') : Slot.RewritesMembers slots ms ms' := by
  cases h with
  | reorder perm => exact .reorder perm
  | leaveOut mem holds =>
    obtain rfl | mem := List.mem_cons.mp mem
    · cases holds
    · exact .leaveOut mem holds
  | add unused readable => exact .add (fun slot mem => unused slot (.tail _ mem)) readable
  | inside mem rewrites =>
    obtain rfl | mem := List.mem_cons.mp mem
    · cases rewrites
    · exact .inside mem rewrites

theorem contentRespects_beside {form : Form σ α} {slots : List Slot} (h : form.Suits slots)
    (hname : ∀ slot ∈ slots, slot.name ≠ "kind") : ContentRespects (beside form) slots where
  lawful := contentLawful_beside h.lawful
  gentle := h.gentle
  name := hname
  members hr ha := by
    rw [makesMembers_beside_iff h.lawful] at ha ⊢
    exact h.makesMembers (rewritesMembers_of_kind hr) ha
  elements hr ha := by
    rw [makesElements_beside_iff h.lawful] at ha ⊢
    exact h.makesElements hr ha

theorem contentRespects_bare (a : α) : ContentRespects (bare a) [] where
  lawful := contentLawful_bare a
  gentle := nofun
  name := nofun
  members := by
    intro ms ms' b _ hb ns _
    obtain ⟨ns', hns'⟩ := exists_showsMembers ms
    exact hb ns' hns'
  elements := nofun

/-- The tag is found again after a rewriting. -/
theorem ContentRespects.chain {c : Content → Except Failure α} {slots : List Slot}
    (hc : ContentRespects c slots) {names : List String} {site : Site}
    {ms ms' : List (Option String × Outline)} (hr : Slot.RewritesMembers (.kind :: slots) ms ms')
    {t : Option Nat} (h : Chain (TakesTag names site) ms none t) :
    Chain (TakesTag names site) ms' none t := by
  cases hr with
  | reorder perm => exact h.perm takesTag_comm perm
  | leaveOut mem holds =>
    obtain ⟨s, s', hbefore, hm, hbehind⟩ := chain_middle_iff.mp h
    obtain rfl | mem := List.mem_cons.mp mem
    · cases holds
    · have hne := hc.name _ mem
      generalize Slot.name _ = key at hm hne
      cases hm with
      | tag => exact absurd rfl hne
      | other => exact chain_append_iff.mpr ⟨s, hbefore, hbehind⟩
  | add unused readable =>
    obtain ⟨s, hbefore, hbehind⟩ := chain_append_iff.mp h
    have hne := (unused _ List.mem_cons_self).symm
    exact chain_middle_iff.mpr ⟨s, s, hbefore, .other hne (.inr readable), hbehind⟩
  | inside mem rewrites =>
    obtain ⟨s, s', hbefore, hm, hbehind⟩ := chain_middle_iff.mp h
    obtain rfl | mem := List.mem_cons.mp mem
    · cases rewrites
    · refine chain_middle_iff.mpr ⟨s, s', hbefore, ?_, hbehind⟩
      have hne := hc.name _ mem
      generalize Slot.name _ = key at hm hne ⊢
      cases hm with
      | tag => exact absurd rfl hne
      | other ne stores => exact .other ne (stores_of_gentle (hc.gentle _ mem) rewrites stores)

theorem getElem?_of_lookup {γ : Type} {ps : List (String × γ)} {key : String} {c : γ} {i : Nat}
    (hc : ps.lookup key = some c) (hi : (ps.map Prod.fst).findIdx? (· = key) = some i) :
    ps[i]? = some (key, c) := by
  induction ps generalizing i with
  | nil => cases hc
  | cons p ps ih =>
    obtain ⟨name, c'⟩ := p
    rw [List.map_cons, List.findIdx?_cons] at hi
    by_cases hname : name = key
    · subst hname
      simp at hc hi
      simp [← hc, ← hi]
    · rw [List.lookup_cons, beq_false_of_ne (Ne.symm hname)] at hc
      rw [if_neg (by simpa using hname)] at hi
      obtain ⟨j, hj, rfl⟩ := Option.map_eq_some_iff.mp hi
      exact ih hc hj

/-- A tag leads to the slots it stands for. -/
theorem getElem?_of_tags {variants : List (String × List Slot)} {site : Site} {o : Outline}
    {slots : List Slot} (h : Slot.Tags variants o slots) {i : Nat}
    (hi : (tag (variants.map Prod.fst)).Makes site o i) :
    ∃ key, variants[i]? = some (key, slots) := by
  obtain ⟨x, rfl, hx⟩ := (readsAtoms_tag _).makes_iff.mp hi
  cases h with
  | name known =>
    obtain ⟨s, heq, hs⟩ | ⟨-, heq, -⟩ := hx
    · cases heq
      exact ⟨_, getElem?_of_lookup known hs⟩
    · cases heq
  | number known =>
    obtain ⟨s, heq, -⟩ | ⟨-, heq, -⟩ := hx
    · cases heq
    · cases heq
      exact ⟨_, known⟩

theorem map_fst_eq {γ δ : Type} {P : γ → δ → Prop} {ps : List (String × γ)}
    {qs : List (String × δ)} (h : List.Forall₂ (fun p q => p.1 = q.1 ∧ P p.2 q.2) ps qs) :
    ps.map Prod.fst = qs.map Prod.fst := by
  induction h with
  | nil => rfl
  | cons hpq _ ih => rw [List.map_cons, List.map_cons, hpq.1, ih]

section Tagged

variable {title : String} {variants : List (String × (Content → Except Failure α))}
  {slots : List (String × List Slot)}

/-- The content a tag is read for is the one whose slots the tag stands for. -/
theorem contentRespects_of_tags
    (h : List.Forall₂ (fun v w => v.1 = w.1 ∧ ContentRespects v.2 w.2) variants slots)
    {t : Outline} {rewritten : List Slot} (tags : Slot.Tags slots t rewritten) {site : Site}
    {i : Nat} (hi : (tag (variants.map Prod.fst)).Makes site t i) {key : String}
    {c : Content → Except Failure α} (hc : variants[i]? = some (key, c)) :
    ContentRespects c rewritten := by
  rw [map_fst_eq h] at hi
  obtain ⟨key', hslots⟩ := getElem?_of_tags tags hi
  obtain ⟨hlt, hc⟩ := List.getElem?_eq_some_iff.mp hc
  obtain ⟨hlt', hslots⟩ := List.getElem?_eq_some_iff.mp hslots
  have hrespects := (h.get hlt hlt').2
  simpa only [List.get_eq_getElem, hc, hslots] using hrespects

/-- **A tagged form is read alike after a rewriting.** -/
theorem respects_tagged
    (h : List.Forall₂ (fun v w => v.1 = w.1 ∧ ContentRespects v.2 w.2) variants slots) :
    (tagged title variants).Respects (Slot.RewritesTagged slots) := by
  have hlawful : ∀ p ∈ variants, ContentLawful p.2 := fun p hp =>
    let ⟨_, _, _, hq⟩ := (exists_of_forall₂ h).1 p hp
    hq.lawful
  have hgentle : ∀ q ∈ slots, ∀ slot ∈ q.2, Slot.Gentle slot.inside := fun q hq =>
    let ⟨_, _, _, hp⟩ := (exists_of_forall₂ h).2 q hq
    hp.gentle
  refine ⟨lawful_tagged hlawful, Slot.gentle_tagged hgentle, ?_⟩
  intro site o o' a hr ha
  rw [makes_tagged_iff hlawful] at ha ⊢
  cases hr with
  | members mem tags rewrites =>
    cases ha with
    | members enters chain variant made =>
      have hc := contentRespects_of_tags h tags (makes_of_chain_takesTag chain mem) variant
      exact .members enters (hc.chain rewrites chain) variant (hc.members rewrites made)
  | elements tags rewrites =>
    cases ha with
    | elements enters tag stores variant made =>
      have hc := contentRespects_of_tags h tags tag variant
      have hstores := Slot.forall_mem_of_rewritesElements
        (fun slot hslot _ _ => stores_of_gentle (hc.gentle slot hslot)) rewrites stores
      exact .elements enters tag hstores variant (hc.elements rewrites made)

end Tagged

/-! ## Texts -/

variable {r : Reader α} {text : String} {a : α}

/-- **A text that is read is JSON**, so it has an outline. -/
theorem exists_outline_of_read (hr : r.Lawful) (h : read r text = .ok a) :
    ∃ o, Outline.ofText? text = some o := by
  obtain ⟨hsound, hfollowing⟩ := Node.sound_ofText text
  unfold read at h
  dsimp only at h
  split at h
  · cases h
  · next a' ha =>
    obtain ⟨o, ho⟩ := hr.whole hsound rfl ha
    refine ⟨o, Outline.ofText?_eq_some_iff.mpr ⟨ho, ?_⟩⟩
    split at h
    · next hnil => exact absurd hnil (hfollowing (Node.ended_of_outline? ho))
    · next t ts hcons =>
      split at h
      · next hkind => exact ⟨t, ts, hcons, hkind⟩
      · cases h

/-- **What is read from a text is made of its outline.** -/
theorem read_eq_ok_iff (hr : r.Lawful) {o : Outline} (ho : Outline.ofText? text = some o) :
    read r text = .ok a ↔ r.Makes ⟨maxDepth, false⟩ o a := by
  obtain ⟨-, t, ts, hfollowing, hkind⟩ := Outline.ofText?_eq_some_iff.mp ho
  rw [← hr.eq_ok_iff (Outline.ofText?_shows ho)]
  unfold read
  dsimp only
  cases r ⟨maxDepth, false⟩ (Node.ofText text) with
  | error f => exact ⟨nofun, nofun⟩
  | ok a' => simp [hfollowing, hkind]

end Reader

end Json

end DiffContents
