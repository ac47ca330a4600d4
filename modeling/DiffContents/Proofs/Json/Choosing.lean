import DiffContents.Proofs.Json.Making

/-!
# What choices and tagged forms make of outlines

A choice is made of the only member of an object, or of a name (`ChoiceMade`).  As the text goes by
only the first member is looked at, and the closing bracket has to come after it.

A tagged form takes all its members in, finds the tag among them, and reads the members again for
the form of the tag (`TaggedMade`); where it is written as an array, the tag comes first.
-/

namespace DiffContents

namespace Json

namespace Reader

open Node

variable {α β σ : Type}

/-! ## Choices -/

/-- **A variant that reads outlines.** -/
structure VariantLawful (v : Variant α) : Prop where
  name : ∀ {site : Site} {following following' : List Token} {a : α},
    v site (.none following) = .ok a → v site (.none following') = .ok a
  value : Lawful fun site n => v site (.value n)

/-- What a variant makes of an outline. -/
def VariantMakes (v : Variant α) (site : Site) (o : Outline) (a : α) : Prop :=
  Makes (fun site n => v site (.value n)) site o a

theorem variantLawful_wrapped {r : Reader α} (h : r.Lawful) : VariantLawful (wrapped r) where
  name := nofun
  value := h

theorem variantLawful_record {form : Form σ α} (h : form.Lawful) :
    VariantLawful (record form) where
  name := nofun
  value := {
    makes := fun hn hr n' hn' => (lawful_structureOr h _).makes hn hr n' hn'
    whole := fun hs hstored hr => (lawful_structureOr h _).whole hs hstored hr }

/-- **What is made of a choice**: the variant of a name makes it of the value beside the name, or of
the name alone. -/
inductive ChoiceMade (variants : List (String × Variant α)) (site : Site) : Outline → α → Prop
  | value {site' : Site} {key : String} {v : Variant α} {o : Outline} {a : α}
    (enters : Enters site site') (known : variants.lookup key = some v)
    (made : VariantMakes v site' o a) : ChoiceMade variants site (.object [(some key, o)]) a
  | name {key : String} {v : Variant α} {a : α} (known : variants.lookup key = some v)
    (made : v site (.none []) = .ok a) : ChoiceMade variants site (.atom (.string (some key))) a

theorem choose_eq_ok_iff {variants : List (String × Variant α)} {key : String} {stop : Mark}
    {v : Variant α} : choose variants key stop = .ok v ↔ variants.lookup key = some v := by
  unfold choose
  cases variants.lookup key with
  | none => exact ⟨nofun, nofun⟩
  | some v' => simp

theorem mem_of_lookup {γ : Type} {key : String} {c : γ} {ps : List (String × γ)}
    (h : ps.lookup key = some c) : (key, c) ∈ ps := by
  obtain ⟨before, behind, rfl, -⟩ := List.lookup_eq_some_iff.mp h
  exact List.mem_append_right before List.mem_cons_self

/-- The closing bracket comes next. -/
theorem closeChoice_eq_ok_iff {k : TokenKind} {ts : List Token} (h : Next k ts) :
    closeChoice ts = .ok () ↔ k = .closeObject := by
  obtain ⟨t, us, rfl, rfl⟩ := h
  unfold closeChoice
  dsimp only
  split
  · next hk => simp [hk]
  · next hk => simp [hk]
  · next hk _ => exact ⟨nofun, fun he => absurd he hk⟩

/-- A name in place of a choice. -/
theorem choice_name_eq_ok_iff {variants : List (String × Variant α)}
    (h : ∀ p ∈ variants, VariantLawful p.2) {site : Site} {x : Except Problem String}
    {start stop : Mark} {following : List Token} {a : α} :
    choice variants site (scalar (.string x) start stop following) = .ok a ↔
      ∃ key v, x = .ok key ∧ variants.lookup key = some v ∧ v site (.none []) = .ok a := by
  have hread : choice variants site (scalar (.string x) start stop following) =
      (lift x >>= fun s => choose variants s stop >>= fun v => v site (.none following)) := by
    unfold choice
    cases site.stored <;> rfl
  rw [hread]
  simp only [bind_eq_ok_iff, lift_eq_ok_iff, choose_eq_ok_iff]
  constructor
  · rintro ⟨key, hkey, v, hv, hr⟩
    exact ⟨key, v, hkey, hv, (h _ (mem_of_lookup hv)).name hr⟩
  · rintro ⟨key, v, hkey, hv, hr⟩
    exact ⟨key, hkey, v, hv, (h _ (mem_of_lookup hv)).name hr⟩

/-- A single member in place of a choice. -/
theorem choice_member_eq_ok_iff {variants : List (String × Variant α)} {site : Site}
    {start : Mark} {name : Name} {n : Node} {ending : Ending} {following : List Token}
    (hnext : Next .closeObject n.following) {a : α} :
    choice variants site (Node.object start [(name, n)] ending following) = .ok a ↔
      ∃ site' key v, Enters site site' ∧ name.value = .ok key ∧ variants.lookup key = some v ∧
        v site' (.value n) = .ok a := by
  have hread : choice variants site (Node.object start [(name, n)] ending following) = .ok a ↔
      (enter site start >>= fun site' => lift name.value >>= fun key =>
        choose variants key name.stop >>= fun v => v site' (.value n)) = .ok a := by
    unfold choice
    cases hstored : site.stored with
    | true =>
      have henter : enter site start = .ok site := if_pos hstored
      rw [if_pos rfl, henter, ok_bind]
      exact Iff.rfl
    | false =>
      -- as the text goes by, the closing bracket is looked for behind the value
      have hclose : closeChoice n.following = .ok () := (closeChoice_eq_ok_iff hnext).mpr rfl
      simp only [Bool.false_eq_true, if_false, choicePassing, hclose, ok_bind, bind_pure]
  rw [hread]
  simp only [bind_eq_ok_iff, enter_eq_ok_iff, lift_eq_ok_iff, choose_eq_ok_iff]
  constructor
  · rintro ⟨site', henters, key, hkey, v, hv, hr⟩
    exact ⟨site', key, v, henters, hkey, hv, hr⟩
  · rintro ⟨site', key, v, henters, hkey, hv, hr⟩
    exact ⟨site', henters, key, hkey, v, hv, hr⟩

/-- More than one member in place of a choice. -/
theorem choice_members_ne_ok {variants : List (String × Variant α)} {site : Site}
    {start : Mark} {name : Name} {n : Node} {m : Name × Node} {ms : List (Name × Node)}
    {ending : Ending} {following : List Token} (hnext : Next .comma n.following) {a : α} :
    choice variants site (Node.object start ((name, n) :: m :: ms) ending following) ≠ .ok a := by
  intro h
  unfold choice at h
  cases hstored : site.stored with
  | true =>
    rw [hstored, if_pos rfl] at h
    cases h
  | false =>
    simp only [hstored, Bool.false_eq_true, if_false, choicePassing, bind_eq_ok_iff] at h
    obtain ⟨_, -, _, -, _, -, _, -, _, hclose, -⟩ := h
    cases (closeChoice_eq_ok_iff hnext).mp hclose

/-- A scalar that is no name in place of a choice. -/
theorem choice_scalar_ne_ok {variants : List (String × Variant α)} {site : Site} {v : Scalar}
    (hv : ∀ x, v ≠ .string x) {start stop : Mark} {following : List Token} {a : α} :
    choice variants site (scalar v start stop following) ≠ .ok a := by
  unfold choice
  cases v with
  | string x => exact absurd rfl (hv x)
  | null | bool | number => cases site.stored <;> exact nofun

/-- An array in place of a choice. -/
theorem choice_array_ne_ok {variants : List (String × Variant α)} {site : Site} {start : Mark}
    {ns : List Node} {ending : Ending} {following : List Token} {a : α} :
    choice variants site (.array start ns ending following) ≠ .ok a := by
  unfold choice
  cases site.stored <;> exact nofun

/-- An object without members in place of a choice. -/
theorem choice_empty_ne_ok {variants : List (String × Variant α)} {site : Site} {start : Mark}
    {ending : Ending} {following : List Token} {a : α} :
    choice variants site (Node.object start [] ending following) ≠ .ok a := by
  unfold choice
  cases site.stored with
  | true => exact nofun
  | false =>
    intro h
    obtain ⟨_, -, h⟩ := bind_eq_ok_iff.mp h
    cases h

theorem choice_eq_ok_iff {variants : List (String × Variant α)}
    (h : ∀ p ∈ variants, VariantLawful p.2) {site : Site} {n : Node} {o : Outline}
    (hn : n.Shows o) {a : α} : choice variants site n = .ok a ↔ ChoiceMade variants site o a := by
  cases o with
  | array os =>
    obtain ⟨start, ns, stop, following, rfl, -⟩ := hn
    exact ⟨fun hr => absurd hr choice_array_ne_ok, nofun⟩
  | atom x =>
    obtain ⟨v, start, stop, following, rfl, rfl⟩ := hn
    by_cases hv : ∃ x, v = .string x
    · obtain ⟨x, rfl⟩ := hv
      rw [choice_name_eq_ok_iff h]
      constructor
      · rintro ⟨key, v, rfl, hv, hr⟩
        exact .name hv hr
      · intro hmade
        generalize hx : Scalar.atom (.string x) = atom at hmade
        cases hmade with
        | name hv hr => exact ⟨_, _, Scalar.string.inj (atom_eq_string_iff.mp hx), hv, hr⟩
    · rw [not_exists] at hv
      refine ⟨fun hr => absurd hr (choice_scalar_ne_ok hv), fun hmade => ?_⟩
      generalize hx : v.atom = atom at hmade
      cases hmade with
      | name => exact absurd (atom_eq_string_iff.mp hx) (hv _)
  | object os =>
    obtain ⟨start, ms, stop, following, rfl, hms⟩ := hn
    cases os with
    | nil =>
      obtain rfl := hms
      exact ⟨fun hr => absurd hr choice_empty_ne_ok, nofun⟩
    | cons m os =>
      obtain ⟨key, o⟩ := m
      obtain ⟨name, n, ms, rfl, hname, hn, hnext, hms⟩ := hms
      cases os with
      | nil =>
        obtain rfl := hms
        rw [choice_member_eq_ok_iff hnext]
        constructor
        · rintro ⟨site', key', v, henters, hkey, hv, hr⟩
          rw [← toOption_eq_some_iff, hname] at hkey
          subst hkey
          exact .value henters hv ((h _ (mem_of_lookup hv)).value.makes hn hr)
        · intro hmade
          cases hmade with
          | value henters hv hmade =>
            exact ⟨_, _, _, henters, toOption_eq_some_iff.mp hname, hv, hmade n hn⟩
      | cons m' os =>
        obtain ⟨name', n', ms, rfl, -⟩ := hms
        exact ⟨fun hr => absurd hr (choice_members_ne_ok hnext), nofun⟩

theorem lawful_choice {variants : List (String × Variant α)}
    (h : ∀ p ∈ variants, VariantLawful p.2) : Lawful (choice variants) where
  makes hn hr n' hn' := (choice_eq_ok_iff h hn').mpr ((choice_eq_ok_iff h hn).mp hr)
  whole := by
    intro site n a hs hstored hr
    unfold choice at hr
    rw [hstored, if_neg (by simp)] at hr
    unfold choicePassing at hr
    split at hr
    · exact ⟨_, rfl⟩
    · obtain ⟨_, -, hr⟩ := bind_eq_ok_iff.mp hr
      cases hr
    · next start name n ms ending following =>
      obtain ⟨site', hsite, hr⟩ := bind_eq_ok_iff.mp hr
      obtain ⟨key, -, hr⟩ := bind_eq_ok_iff.mp hr
      obtain ⟨v, hv, hr⟩ := bind_eq_ok_iff.mp hr
      obtain ⟨a', ha, hr⟩ := bind_eq_ok_iff.mp hr
      obtain ⟨hclose, -⟩ := unit_bind_eq_ok_iff.mp hr
      obtain ⟨hn, hgoes, -⟩ := hs
      have hv := h _ (mem_of_lookup (choose_eq_ok_iff.mp hv))
      obtain ⟨o, ho⟩ := hv.value.whole hn ((stored_of_enter hsite).trans hstored) ha
      -- behind the first value comes the closing bracket, so it is the only one
      have hgoes := hgoes (ended_of_outline? ho)
      cases hfollowing : n.following with
      | nil =>
        rw [hfollowing] at hgoes
        cases hgoes
      | cons t ts =>
        rw [hfollowing] at hgoes hclose
        have hk := (closeChoice_eq_ok_iff ⟨t, ts, rfl, rfl⟩).mp hclose
        cases hgoes with
        | comma kind more => cases kind.symm.trans hk
        | close kind none closed =>
          subst none closed
          exact whole_object (List.forall_mem_cons.mpr ⟨⟨o, ho⟩, List.forall_mem_nil _⟩)
        | broken _ other _ _ => exact absurd hk other
    · cases hr
    · cases hr
    · cases hr
    · cases hr

/-! ## Taking in -/

/-- The outline can be taken in at a place. -/
def Stores (site : Site) (o : Outline) : Prop := site.stored = true ∨ o.Fits site.depth

theorem store_eq_ok_iff {site : Site} {n : Node} {o : Outline} (hn : n.Shows o) :
    store site n = .ok () ↔ Stores site o := by
  unfold store Stores
  cases site.stored with
  | true => exact ⟨fun _ => .inl rfl, fun _ => rfl⟩
  | false =>
    rw [if_neg (by simp), lift_eq_ok_iff, check_eq_ok_iff o n site.depth hn]
    exact ⟨.inr, fun h => h.resolve_left (by simp)⟩

theorem whole_of_store {site : Site} (hstored : site.stored = false) {n : Node}
    (h : store site n = .ok ()) : n.Whole := by
  rw [store, if_neg (by simp [hstored]), lift_eq_ok_iff] at h
  exact whole_of_check n site.depth h

theorem storeAll_eq_ok_iff {site : Site} {ns : List Node} {os : List Outline}
    (hn : ShowsElements ns os) : storeAll site ns = .ok () ↔ ∀ o ∈ os, Stores site o := by
  induction os generalizing ns with
  | nil =>
    obtain rfl := hn
    exact ⟨fun _ => nofun, fun _ => rfl⟩
  | cons o os ih =>
    obtain ⟨n, ns, rfl, hn, -, hns⟩ := hn
    rw [storeAll, unit_bind_eq_ok_iff, store_eq_ok_iff hn, ih hns, List.forall_mem_cons]

theorem whole_of_storeAll {site : Site} (hstored : site.stored = false) {ns : List Node}
    (h : storeAll site ns = .ok ()) : ∀ n ∈ ns, n.Whole := by
  induction ns with
  | nil => exact List.forall_mem_nil _
  | cons n ns ih =>
    rw [storeAll, unit_bind_eq_ok_iff] at h
    exact List.forall_mem_cons.mpr ⟨whole_of_store hstored h.1, ih h.2⟩

/-! ## Tags -/

/-- **One member is looked at**: it is the tag, which has not been found yet, or it is taken in. -/
inductive TakesTag (names : List String) (site : Site) :
    Option String × Outline → Option Nat → Option Nat → Prop
  | tag {o : Outline} {i : Nat} (read : (tag names).Makes site o i) :
    TakesTag names site (some "kind", o) none (some i)
  | other {key : String} {o : Outline} {t : Option Nat} (ne : key ≠ "kind")
    (stores : Stores site o) : TakesTag names site (some key, o) t t

theorem takesTag_iff {names : List String} {site : Site} {m : Option String × Outline}
    {t t' : Option Nat} : TakesTag names site m t t' ↔ ∃ key, m.1 = some key ∧
      (key ≠ "kind" ∧ Stores site m.2 ∧ t' = t ∨
        key = "kind" ∧ t = none ∧ ∃ i, (tag names).Makes site m.2 i ∧ t' = some i) := by
  constructor
  · rintro (⟨read⟩ | ⟨ne, stores⟩)
    · exact ⟨_, rfl, .inr ⟨rfl, rfl, _, read, rfl⟩⟩
    · exact ⟨_, rfl, .inl ⟨ne, stores, rfl⟩⟩
  · obtain ⟨key, o⟩ := m
    rintro ⟨key, rfl, ⟨ne, stores, rfl⟩ | ⟨rfl, rfl, i, read, rfl⟩⟩
    · exact .other ne stores
    · exact .tag read

theorem lawful_tag (names : List String) : Lawful (tag names) := (readsAtoms_tag names).lawful

theorem tagAmong_eq_ok_iff {names : List String} {site : Site} {ms : List (Name × Node)}
    {os : List (Option String × Outline)} (hm : ShowsMembers ms os) {t t' : Option Nat} :
    tagAmong names site ms t = .ok t' ↔ Chain (TakesTag names site) os t t' := by
  induction os generalizing ms t with
  | nil =>
    obtain rfl := hm
    rw [chain_nil_iff, tagAmong]
    exact ⟨fun hr => (Except.ok.inj hr).symm, fun hr => congrArg Except.ok hr.symm⟩
  | cons m os ih =>
    obtain ⟨name, n, ms, rfl, hname, hn, -, hms⟩ := hm
    rw [chain_cons_iff, tagAmong, bind_eq_ok_iff]
    simp only [takesTag_iff, lift_eq_ok_iff, ← hname, toOption_eq_some_iff]
    constructor
    · rintro ⟨key, hkey, hr⟩
      split at hr
      · next hkind =>
        split at hr
        · cases hr
        · next hfresh =>
          obtain ⟨i, hi, hr⟩ := bind_eq_ok_iff.mp hr
          exact ⟨some i, ⟨key, hkey, .inr ⟨hkind, by simpa using hfresh, i,
            (lawful_tag names).makes hn hi, rfl⟩⟩, (ih hms).mp hr⟩
      · next hne =>
        obtain ⟨hstore, hr⟩ := unit_bind_eq_ok_iff.mp hr
        exact ⟨t, ⟨key, hkey, .inl ⟨hne, (store_eq_ok_iff hn).mp hstore, rfl⟩⟩, (ih hms).mp hr⟩
    · rintro ⟨t₁, ⟨key, hkey, ⟨hne, hstores, rfl⟩ | ⟨rfl, rfl, i, hi, rfl⟩⟩, hrest⟩
      · refine ⟨key, hkey, ?_⟩
        rw [if_neg hne]
        exact unit_bind_eq_ok_iff.mpr ⟨(store_eq_ok_iff hn).mpr hstores, (ih hms).mpr hrest⟩
      · refine ⟨"kind", hkey, ?_⟩
        rw [if_pos rfl]
        exact bind_eq_ok_iff.mpr ⟨i, hi n hn, (ih hms).mpr hrest⟩

theorem whole_of_tagAmong {names : List String} {site : Site} (hstored : site.stored = false)
    {ending : Ending} {ms : List (Name × Node)} (hs : SoundMembers ending ms)
    {t t' : Option Nat} (hr : tagAmong names site ms t = .ok t') : ∀ m ∈ ms, m.2.Whole := by
  induction ms generalizing t with
  | nil => exact List.forall_mem_nil _
  | cons m ms ih =>
    obtain ⟨name, n⟩ := m
    obtain ⟨hn, -, hms⟩ := hs
    rw [tagAmong, bind_eq_ok_iff] at hr
    obtain ⟨key, -, hr⟩ := hr
    split at hr
    · split at hr
      · cases hr
      · obtain ⟨i, hi, hr⟩ := bind_eq_ok_iff.mp hr
        exact List.forall_mem_cons.mpr ⟨(lawful_tag names).whole hn hstored hi, ih hms hr⟩
    · obtain ⟨hstore, hr⟩ := unit_bind_eq_ok_iff.mp hr
      exact List.forall_mem_cons.mpr ⟨whole_of_store hstored hstore, ih hms hr⟩

/-! ## Tagged forms -/

/-- What is made of the members beside a tag. -/
def MakesMembers (c : Content → Except Failure α) (os : List (Option String × Outline)) (a : α) :
    Prop :=
  ∀ ms, ShowsMembers ms os → c (.members ms) = .ok a

/-- What is made of the elements behind a tag. -/
def MakesElements (c : Content → Except Failure α) (os : List Outline) (a : α) : Prop :=
  ∀ ns, ShowsElements ns os → c (.elements ns) = .ok a

/-- **What stands beside a tag is read by its outline.** -/
structure ContentLawful (c : Content → Except Failure α) : Prop where
  members : ∀ {ms : List (Name × Node)} {os : List (Option String × Outline)} {a : α},
    ShowsMembers ms os → c (.members ms) = .ok a → MakesMembers c os a
  elements : ∀ {ns : List Node} {os : List Outline} {a : α},
    ShowsElements ns os → c (.elements ns) = .ok a → MakesElements c os a

theorem makesMembers_beside_iff {form : Form σ α} (h : form.Lawful)
    {os : List (Option String × Outline)} {a : α} :
    MakesMembers (beside form) os a ↔ form.MakesMembers ⟨0, true⟩ os a := by
  obtain ⟨ms, hms⟩ := exists_showsMembers os
  exact ⟨fun hm => (ofMembers_eq_ok_iff h hms .first).mp (hm ms hms),
    fun hm ms hms => (ofMembers_eq_ok_iff h hms .first).mpr hm⟩

theorem makesElements_beside_iff {form : Form σ α} (h : form.Lawful) {os : List Outline} {a : α} :
    MakesElements (beside form) os a ↔ form.MakesElements ⟨0, true⟩ os a := by
  obtain ⟨ns, hns⟩ := exists_showsElements os
  exact ⟨fun hm => (ofElements_eq_ok_iff h hns .first).mp (hm ns hns),
    fun hm ns hns => (ofElements_eq_ok_iff h hns .first).mpr hm⟩

theorem contentLawful_beside {form : Form σ α} (h : form.Lawful) : ContentLawful (beside form) where
  members hms hr :=
    (makesMembers_beside_iff h).mpr ((ofMembers_eq_ok_iff h hms .first).mp hr)
  elements hns hr :=
    (makesElements_beside_iff h).mpr ((ofElements_eq_ok_iff h hns .first).mp hr)

theorem contentLawful_bare (a : α) : ContentLawful (bare a) where
  members _ hr _ _ := hr
  elements := by
    intro ns os b hns hr ns' hns'
    have hnil : ns.isEmpty = ns'.isEmpty := by
      rw [Bool.eq_iff_iff, List.isEmpty_iff, List.isEmpty_iff, hns.nil_iff, hns'.nil_iff]
    unfold bare at hr ⊢
    dsimp only at hr ⊢
    rw [← hnil]
    split at hr
    · next hempty => rw [if_pos hempty, hr]
    · cases hr

/-- **What is made of a tagged form.**  The members are all taken in, with the tag among them, and
read again for the form of the tag; the elements behind a tag likewise. -/
inductive TaggedMade (variants : List (String × (Content → Except Failure α))) (site : Site) :
    Outline → α → Prop
  | members {site' : Site} {os : List (Option String × Outline)} {i : Nat} {key : String}
    {c : Content → Except Failure α} {a : α} (enters : Enters site site')
    (tag : Chain (TakesTag (variants.map Prod.fst) site') os none (some i))
    (variant : variants[i]? = some (key, c)) (made : MakesMembers c os a) :
    TaggedMade variants site (.object os) a
  | elements {site' : Site} {o : Outline} {os : List Outline} {i : Nat} {key : String}
    {c : Content → Except Failure α} {a : α} (enters : Enters site site')
    (tag : (tag (variants.map Prod.fst)).Makes site' o i)
    (stores : ∀ o' ∈ os, Stores site' o') (variant : variants[i]? = some (key, c))
    (made : MakesElements c os a) : TaggedMade variants site (.array (o :: os)) a

theorem split_array_eq_ok_iff {title : String} {names : List String} {site : Site} {start : Mark}
    {n : Node} {ns : List Node} {stop : Mark} {following : List Token} {o : Outline}
    {os : List Outline} (hn : n.Shows o) (hns : ShowsElements ns os) {i : Nat} {c : Content} :
    split title names site (.array start (n :: ns) (.closed stop) following) = .ok (i, c) ↔
      c = .elements ns ∧ ∃ site', Enters site site' ∧ (tag names).Makes site' o i ∧
        ∀ o' ∈ os, Stores site' o' := by
  simp only [split, bind_eq_ok_iff, mapError_eq_ok_iff, enter_eq_ok_iff,
    (lawful_tag names).eq_ok_iff hn, storeAll_eq_ok_iff hns, close_closed]
  constructor
  · rintro ⟨site', henters, i', hi, -, hstores, -, -, heq⟩
    obtain ⟨rfl, rfl⟩ := Prod.mk.inj (Except.ok.inj heq)
    exact ⟨rfl, site', henters, hi, hstores⟩
  · rintro ⟨rfl, site', henters, hi, hstores⟩
    exact ⟨site', henters, i, hi, (), hstores, (), trivial, rfl⟩

theorem split_object_eq_ok_iff {title : String} {names : List String} {site : Site} {start : Mark}
    {ms : List (Name × Node)} {stop : Mark} {following : List Token}
    {os : List (Option String × Outline)} (hms : ShowsMembers ms os) {i : Nat} {c : Content} :
    split title names site (.object start ms (.closed stop) following) = .ok (i, c) ↔
      c = .members ms ∧ ∃ site', Enters site site' ∧
        Chain (TakesTag names site') os none (some i) := by
  simp only [split, bind_eq_ok_iff, mapError_eq_ok_iff, enter_eq_ok_iff,
    tagAmong_eq_ok_iff hms, close_closed]
  constructor
  · rintro ⟨site', henters, t, ht, -, -, heq⟩
    cases t with
    | none =>
      have heq : Except.error _ = Except.ok (i, c) := heq
      cases heq
    | some i' =>
      obtain ⟨rfl, rfl⟩ := Prod.mk.inj (Except.ok.inj heq)
      exact ⟨rfl, site', henters, ht⟩
  · rintro ⟨rfl, site', henters, ht⟩
    exact ⟨site', henters, some i, ht, (), trivial, rfl⟩

theorem tagged_eq_ok_iff_split {title : String}
    {variants : List (String × (Content → Except Failure α))} {site : Site} {n : Node} {a : α} :
    tagged title variants site n = .ok a ↔ ∃ i c, split title (variants.map Prod.fst) site n =
      .ok (i, c) ∧ ∃ key r, variants[i]? = some (key, r) ∧ r c = .ok a := by
  unfold tagged
  rw [bind_eq_ok_iff]
  constructor
  · rintro ⟨⟨i, c⟩, hsplit, hr⟩
    dsimp only at hr
    split at hr
    · next key r hv =>
      rw [mapError_eq_ok_iff] at hr
      exact ⟨i, c, hsplit, key, r, hv, hr⟩
    · cases hr
  · rintro ⟨i, c, hsplit, key, r, hv, hr⟩
    refine ⟨(i, c), hsplit, ?_⟩
    dsimp only
    rw [hv]
    exact mapError_eq_ok_iff.mpr hr

theorem tagged_eq_ok_iff {title : String} {variants : List (String × (Content → Except Failure α))}
    (h : ∀ p ∈ variants, ContentLawful p.2) {site : Site} {n : Node} {o : Outline}
    (hn : n.Shows o) {a : α} :
    tagged title variants site n = .ok a ↔ TaggedMade variants site o a := by
  rw [tagged_eq_ok_iff_split]
  cases o with
  | atom x =>
    obtain ⟨v, start, stop, following, rfl, -⟩ := hn
    refine ⟨?_, nofun⟩
    rintro ⟨i, c, hsplit, -⟩
    cases hsplit
  | array os =>
    obtain ⟨start, ns, stop, following, rfl, hns⟩ := hn
    cases os with
    | nil =>
      obtain rfl := hns
      refine ⟨?_, nofun⟩
      rintro ⟨i, c, hsplit, -⟩
      cases hsplit
    | cons o os =>
      obtain ⟨n, ns, rfl, hn, -, hns⟩ := hns
      simp only [split_array_eq_ok_iff hn hns]
      constructor
      · rintro ⟨i, _, ⟨rfl, site', henters, hi, hstores⟩, key, r, hv, hr⟩
        exact .elements henters hi hstores hv ((h _ (List.mem_of_getElem? hv)).elements hns hr)
      · intro hmade
        cases hmade with
        | elements henters hi hstores hv hmade =>
          exact ⟨_, _, ⟨rfl, _, henters, hi, hstores⟩, _, _, hv, hmade ns hns⟩
  | object os =>
    obtain ⟨start, ms, stop, following, rfl, hms⟩ := hn
    simp only [split_object_eq_ok_iff hms]
    constructor
    · rintro ⟨i, _, ⟨rfl, site', henters, ht⟩, key, r, hv, hr⟩
      exact .members henters ht hv ((h _ (List.mem_of_getElem? hv)).members hms hr)
    · intro hmade
      cases hmade with
      | members henters ht hv hmade =>
        exact ⟨_, _, ⟨rfl, _, henters, ht⟩, _, _, hv, hmade ms hms⟩

theorem lawful_tagged {title : String} {variants : List (String × (Content → Except Failure α))}
    (h : ∀ p ∈ variants, ContentLawful p.2) : Lawful (tagged title variants) where
  makes hn hr n' hn' := (tagged_eq_ok_iff h hn').mpr ((tagged_eq_ok_iff h hn).mp hr)
  whole := by
    intro site n a hs hstored hr
    obtain ⟨i, c, hsplit, -⟩ := tagged_eq_ok_iff_split.mp hr
    unfold split at hsplit
    split at hsplit
    · cases hsplit
    · obtain ⟨_, -, hsplit⟩ := bind_eq_ok_iff.mp hsplit
      cases hsplit
    · next start n ns ending following =>
      obtain ⟨site', hsite, hsplit⟩ := bind_eq_ok_iff.mp hsplit
      obtain ⟨i', hi, hsplit⟩ := bind_eq_ok_iff.mp hsplit
      obtain ⟨hstore, hsplit⟩ := unit_bind_eq_ok_iff.mp hsplit
      obtain ⟨hclose, -⟩ := unit_bind_eq_ok_iff.mp hsplit
      obtain ⟨stop, rfl⟩ := close_eq_ok_iff.mp hclose
      rw [mapError_eq_ok_iff] at hi
      have hstored' := (stored_of_enter hsite).trans hstored
      exact whole_array (List.forall_mem_cons.mpr
        ⟨(lawful_tag _).whole hs.1 hstored' hi, whole_of_storeAll hstored' hstore⟩)
    · next start ms ending following =>
      obtain ⟨site', hsite, hsplit⟩ := bind_eq_ok_iff.mp hsplit
      obtain ⟨t, ht, hsplit⟩ := bind_eq_ok_iff.mp hsplit
      obtain ⟨hclose, -⟩ := unit_bind_eq_ok_iff.mp hsplit
      obtain ⟨stop, rfl⟩ := close_eq_ok_iff.mp hclose
      rw [mapError_eq_ok_iff] at ht
      exact whole_object (whole_of_tagAmong ((stored_of_enter hsite).trans hstored) hs ht)
    · cases hsplit

end Reader

end Json

end DiffContents
