import DiffContents.Json.Reader
import DiffContents.Proofs.Json.Nodes

/-!
# Readers on the node of a value

A reader `r` reads a value `j` as `a` (`Reader.Reads r j a`) when it makes `a` of every node that
spells `j`, at every place where there is room for the levels of `j`.  There is one rule for each
way to build a reader: a structure is read from its members, whatever their order and whatever
stands among them (`MembersRead`), a choice from its only member, a tagged form from its tag and
what stands beside it.

Every text of `j` is then read as `a`, if `j` has no more levels than a text may have:
`read_of_lexesTo`.
-/

namespace DiffContents

namespace Json

/-! ## Nesting -/

mutual

/-- **How many levels of arrays and objects a value has.** -/
def depth : Json → Nat
  | .array elements => elementsDepth elements + 1
  | .object members => membersDepth members + 1
  | .null | .bool _ | .number _ | .string _ => 0

/-- The levels of the deepest element. -/
def elementsDepth : List Json → Nat
  | [] => 0
  | j :: js => max (depth j) (elementsDepth js)

/-- The levels of the deepest member. -/
def membersDepth : List (String × Json) → Nat
  | [] => 0
  | (_, j) :: ms => max (depth j) (membersDepth ms)

end

theorem depth_le_elementsDepth {j : Json} {js : List Json} (h : j ∈ js) :
    j.depth ≤ elementsDepth js := by
  induction js with
  | nil => cases h
  | cons j' js ih =>
    rw [elementsDepth]
    rcases List.mem_cons.mp h with rfl | h
    · exact Nat.le_max_left ..
    · exact Nat.le_trans (ih h) (Nat.le_max_right ..)

namespace Node

mutual

/-- A value is passed over. -/
theorem skip_of_spells : ∀ (j : Json) (n : Node), n.Spells j → n.skip = .ok ()
  | .null, _, ⟨_, _, _, rfl⟩ | .bool _, _, ⟨_, _, _, rfl⟩
  | .number _, _, ⟨_, _, _, rfl⟩ | .string _, _, ⟨_, _, _, rfl⟩ => rfl
  | .array js, _, ⟨_, ns, _, _, rfl, h⟩ => by
    rw [skip, skipElements_of_spells js ns h]; rfl
  | .object js, _, ⟨_, ms, _, _, rfl, h⟩ => by
    rw [skip, skipMembers_of_spells js ms h]; rfl

theorem skipElements_of_spells : ∀ (js : List Json) (ns : List Node),
    SpellsElements ns js → skipElements ns = .ok ()
  | [], _, rfl => rfl
  | j :: js, _, ⟨n, ns, rfl, hn, h⟩ => by
    rw [skipElements, skip_of_spells j n hn]
    exact skipElements_of_spells js ns h

theorem skipMembers_of_spells : ∀ (js : List (String × Json)) (ms : List (Name × Node)),
    SpellsMembers ms js → skipMembers ms = .ok ()
  | [], _, rfl => rfl
  | (_, j) :: js, _, ⟨_, n, ms, rfl, _, hn, _, h⟩ => by
    rw [skipMembers, skip_of_spells j n hn]
    exact skipMembers_of_spells js ms h

end

mutual

/-- A value that does not nest too deeply is taken in. -/
theorem check_of_spells : ∀ (j : Json) (n : Node) (levels : Nat), n.Spells j →
    j.depth ≤ levels → n.check levels = .ok ()
  | .null, _, _, ⟨_, _, _, rfl⟩, _ | .bool _, _, _, ⟨_, _, _, rfl⟩, _
  | .number _, _, _, ⟨_, _, _, rfl⟩, _ | .string _, _, _, ⟨_, _, _, rfl⟩, _ => rfl
  | .array js, _, levels, ⟨_, ns, _, _, rfl, h⟩, hd => by
    rw [depth] at hd
    rw [check, if_neg (by omega), checkElements_of_spells js ns (levels - 1) h (by omega)]
    rfl
  | .object js, _, levels, ⟨_, ms, _, _, rfl, h⟩, hd => by
    rw [depth] at hd
    rw [check, if_neg (by omega), checkMembers_of_spells js ms (levels - 1) h (by omega)]
    rfl

theorem checkElements_of_spells : ∀ (js : List Json) (ns : List Node) (levels : Nat),
    SpellsElements ns js → elementsDepth js ≤ levels → checkElements levels ns = .ok ()
  | [], _, _, rfl, _ => rfl
  | j :: js, _, levels, ⟨n, ns, rfl, hn, h⟩, hd => by
    rw [elementsDepth, Nat.max_le] at hd
    rw [checkElements, check_of_spells j n levels hn hd.1]
    exact checkElements_of_spells js ns levels h hd.2

theorem checkMembers_of_spells : ∀ (js : List (String × Json)) (ms : List (Name × Node))
    (levels : Nat), SpellsMembers ms js → membersDepth js ≤ levels →
    checkMembers levels ms = .ok ()
  | [], _, _, rfl, _ => rfl
  | (_, j) :: js, _, levels, ⟨_, n, ms, rfl, hname, hn, _, h⟩, hd => by
    rw [membersDepth, Nat.max_le] at hd
    rw [checkMembers, hname, check_of_spells j n levels hn hd.1]
    exact checkMembers_of_spells js ms levels h hd.2

end

end Node

/-! ## Room -/

/-- **The site has room for a value** of so many levels. -/
def Site.Holds (site : Site) (levels : Nat) : Prop := site.stored = true ∨ levels ≤ site.depth

theorem Site.Holds.mono {site : Site} {levels levels' : Nat} (h : site.Holds levels')
    (hl : levels ≤ levels') : site.Holds levels :=
  h.imp_right (Nat.le_trans hl)

namespace Reader

open Node

variable {α β σ : Type}

/-! ## Steps that succeed -/

@[simp] theorem ok_bind {ε : Type} (a : α) (f : α → Except ε β) : (Except.ok a >>= f) = f a := rfl

@[simp] theorem mapError_ok {ε ε' : Type} (f : ε → ε') (a : α) :
    (Except.ok a : Except ε α).mapError f = .ok a := rfl

@[simp] theorem lift_ok (a : α) : lift (.ok a) = .ok a := rfl

@[simp] theorem close_closed (stop : Mark) : close (.closed stop) = .ok () := rfl

/-- Inside a bracket there is room for one level less. -/
theorem enter_of_holds {site : Site} {levels : Nat} (h : site.Holds (levels + 1))
    (start : Mark) : ∃ site', enter site start = .ok site' ∧ site'.Holds levels := by
  cases hs : site.stored with
  | true => exact ⟨site, by rw [enter, if_pos hs], .inl hs⟩
  | false =>
    have hd : levels + 1 ≤ site.depth := h.resolve_left (by simp [hs])
    refine ⟨⟨site.depth - 1, false⟩, ?_, .inr (show levels ≤ site.depth - 1 by omega)⟩
    rw [enter, if_neg (by simp [hs]), if_neg (by omega)]

/-! ## Scalars, options and lists -/

/-- **The reader makes `a` of the value `j`**, which is plain, wherever there is room for it. -/
structure Reads (r : Reader α) (j : Json) (a : α) : Prop where
  plain : j.Plain
  ok : ∀ site n, site.Holds j.depth → n.Spells j → r site n = .ok a

theorem Reads.map {r : Reader α} {j : Json} {a : α} (h : Reads r j a) (f : α → β) :
    Reads (fun site n => f <$> r site n) j (f a) where
  plain := h.plain
  ok site n hs hn := by rw [h.ok site n hs hn]; rfl

theorem reads_string (s : String) : Reads string (.string s) s where
  plain := trivial
  ok := by
    rintro site _ - ⟨_, _, _, rfl⟩
    rfl

theorem natural_of_spells {bound x : Nat} (hx : x < bound) (wanted : String) (site : Site)
    {n : Node} (h : n.Spells (.ofNat x)) : natural bound wanted site n = .ok x := by
  obtain ⟨_, _, _, rfl⟩ := h
  have hn : ¬ ((x : Int) < 0) := by omega
  have hb : ¬ ((bound : Int) ≤ x) := by omega
  simp [natural, hn, hb]

/-- A natural number of 64 bits is plain. -/
theorem plain_ofNat {x : Nat} (hx : x < UInt64.size) : (Json.ofNat x).Plain :=
  ⟨by omega, by omega⟩

theorem reads_uint32 (x : UInt32) : Reads uint32 (.ofNat x.toNat) x where
  plain := plain_ofNat (Nat.lt_trans x.toNat_lt (by decide))
  ok site n _ h := by
    rw [uint32, natural_of_spells x.toNat_lt "u32" site h]
    simp [Functor.map, Except.map]

theorem reads_uint64 (x : UInt64) : Reads uint64 (.ofNat x.toNat) x where
  plain := plain_ofNat x.toNat_lt
  ok site n _ h := by
    rw [uint64, natural_of_spells x.toNat_lt "usize" site h]
    simp [Functor.map, Except.map]

/-- A value that is null only when it is absent. -/
theorem reads_option {r : Reader α} {f : α → Json} (o : Option α)
    (hnull : ∀ a ∈ o, f a ≠ .null) (h : ∀ a ∈ o, Reads r (f a) a) :
    Reads (option r) (.ofOption f o) o := by
  cases o with
  | none =>
    refine ⟨trivial, ?_⟩
    rintro site _ - ⟨_, _, _, rfl⟩
    rfl
  | some a =>
    refine ⟨(h a rfl).plain, fun site n hs hn => ?_⟩
    rw [option, (h a rfl).ok site n hs hn]
    · rfl
    · -- a node of null is read as an absence, whatever `r` would make of it
      rintro start stop following rfl
      have hne := hnull a rfl
      change Spells _ (f a) at hn
      cases hj : f a <;> simp_all [Spells]

theorem plainElements_map {f : α → Json} {as : List α} (h : ∀ a ∈ as, (f a).Plain) :
    PlainElements (as.map f) := by
  induction as with
  | nil => trivial
  | cons a as ih =>
    exact ⟨h a List.mem_cons_self, ih fun a' ha' => h a' (List.mem_cons_of_mem a ha')⟩

theorem plainMembers_iff {ms : List (String × Json)} :
    PlainMembers ms ↔ ∀ m ∈ ms, m.2.Plain := by
  induction ms with
  | nil => simp [PlainMembers]
  | cons m ms ih => rw [PlainMembers, ih, List.forall_mem_cons]

/-- The elements are read one by one. -/
theorem elements_of_reads {r : Reader α} {f : α → Json} {as : List α}
    (h : ∀ a ∈ as, Reads r (f a) a) {site : Site}
    (hs : site.Holds (elementsDepth (as.map f))) {ns : List Node}
    (hn : SpellsElements ns (as.map f)) : elements r site ns = .ok as := by
  induction as generalizing ns with
  | nil =>
    obtain rfl := hn
    rfl
  | cons a as ih =>
    obtain ⟨n, ns, rfl, hn, hns⟩ := hn
    rw [List.map_cons, elementsDepth] at hs
    have hhead := (h a List.mem_cons_self).ok site n (hs.mono (Nat.le_max_left ..)) hn
    have htail := ih (fun a' ha' => h a' (List.mem_cons_of_mem a ha'))
      (hs.mono (Nat.le_max_right ..)) hns
    rw [elements, hhead, htail]
    rfl

/-- **A list of values.** -/
theorem reads_list {r : Reader α} {f : α → Json} {as : List α}
    (h : ∀ a ∈ as, Reads r (f a) a) : Reads (list r) (.ofList f as) as where
  plain := plainElements_map fun a ha => (h a ha).plain
  ok := by
    rintro site _ hs ⟨start, ns, stop, following, rfl, hns⟩
    obtain ⟨site', hsite, hholds⟩ := enter_of_holds hs start
    rw [list, hsite]
    simp only [ok_bind, elements_of_reads h hholds hns, mapError_ok, close_closed]
    rfl

/-! ## Structures -/

/-- **The members are read one after the other**, in any order, which changes what has been read
from the one state to the other: each is a field that has not been read yet, or no field at all. -/
inductive MembersRead (fields : List (Field σ)) : List (String × Json) → σ → σ → Prop
  | nil (s : σ) : MembersRead fields [] s s
  | field {name title : String} {optional : Bool} {γ : Type} {get : σ → Option γ}
      {set : γ → σ → σ} {r : Reader γ} {j : Json} {a : γ} {js : List (String × Json)} {s s' : σ}
      (known : fields.find? (·.name = name) = some (.of title optional get set r))
      (fresh : (get s).isSome = false) (read : Reads r j a)
      (rest : MembersRead fields js (set a s) s') : MembersRead fields ((name, j) :: js) s s'
  | other {name : String} {j : Json} {js : List (String × Json)} {s s' : σ}
      (unknown : fields.find? (·.name = name) = none) (plain : j.Plain)
      (rest : MembersRead fields js s s') : MembersRead fields ((name, j) :: js) s s'

namespace MembersRead

variable {fields : List (Field σ)} {js : List (String × Json)} {s s' : σ}

theorem plain (h : MembersRead fields js s s') : PlainMembers js := by
  induction h with
  | nil => trivial
  | field _ _ read _ ih => exact ⟨read.plain, ih⟩
  | other _ plain _ ih => exact ⟨plain, ih⟩

theorem ok (h : MembersRead fields js s s') {site : Site}
    (hs : site.Holds (membersDepth js)) {ms : List (Name × Node)} (hm : SpellsMembers ms js) :
    members fields site ms s = .ok s' := by
  induction h generalizing ms with
  | nil =>
    obtain rfl := hm
    rfl
  | field known fresh read _ ih =>
    obtain ⟨name, n, ms, rfl, hname, hn, -, hms⟩ := hm
    rw [membersDepth] at hs
    have hread := read.ok site n (hs.mono (Nat.le_max_left ..)) hn
    have hrest := ih (hs.mono (Nat.le_max_right ..)) hms
    rw [members, hname]
    simp only [lift_ok, ok_bind, known, Field.of, fresh, hread]
    exact hrest
  | other unknown _ _ ih =>
    obtain ⟨name, n, ms, rfl, hname, hn, -, hms⟩ := hm
    rw [membersDepth] at hs
    have hrest := ih (hs.mono (Nat.le_max_right ..)) hms
    rw [members, hname]
    simp only [lift_ok, ok_bind, unknown, skip_of_spells _ n hn]
    exact hrest

/-- What has been read is made into a structure. -/
theorem ofMembers_ok {form : Form σ α} {a : α}
    (h : MembersRead form.fields js form.blank s) (hb : form.build s = .ok a) {site : Site}
    (hs : site.Holds (membersDepth js)) {ms : List (Name × Node)} (hm : SpellsMembers ms js)
    (stop : Mark) : ofMembers form site ms (.closed stop) = .ok a := by
  rw [ofMembers, h.ok hs hm]
  simp only [mapError_ok, ok_bind, finish, close_closed, hb]

end MembersRead

/-- **A structure.** -/
theorem reads_structureOr {form : Form σ α} {js : List (String × Json)} {s : σ} {a : α}
    (wanted : String) (h : MembersRead form.fields js form.blank s)
    (hb : form.build s = .ok a) : Reads (structureOr wanted form) (.object js) a where
  plain := h.plain
  ok := by
    rintro site _ hs ⟨start, ms, stop, following, rfl, hms⟩
    obtain ⟨site', hsite, hholds⟩ := enter_of_holds hs start
    rw [structureOr, hsite]
    exact h.ofMembers_ok hb hholds hms stop

/-! ## Choices -/

/-- **The variant is read from the value `j`.** -/
structure VariantReads (v : Variant α) (j : Json) (a : α) : Prop where
  plain : j.Plain
  ok : ∀ site n, site.Holds j.depth → n.Spells j → v site (.value n) = .ok a

theorem variantReads_wrapped {r : Reader α} {j : Json} {a : α} (h : Reads r j a) :
    VariantReads (wrapped r) j a := ⟨h.plain, h.ok⟩

theorem variantReads_record {form : Form σ α} {js : List (String × Json)} {s : σ} {a : α}
    (h : MembersRead form.fields js form.blank s) (hb : form.build s = .ok a) :
    VariantReads (record form) (.object js) a :=
  ⟨h.plain, fun site n hs hn => (reads_structureOr _ h hb).ok site n hs hn⟩

/-- A name that stands alone. -/
theorem reads_choice_name {variants : List (String × Variant α)} {key : String} {v : Variant α}
    {a : α} (hv : variants.lookup key = some v)
    (h : ∀ site following, v site (.none following) = .ok a) :
    Reads (choice variants) (.string key) a where
  plain := trivial
  ok := by
    rintro site _ - ⟨start, stop, following, rfl⟩
    have hchoose : choose variants key stop = .ok v := by rw [choose, hv]
    cases hs : site.stored <;>
      simp [choice, hs, choicePassing, choiceStored, hchoose, h]

theorem closeChoice_of_closes {ts : List Token} (h : Closes ts) : closeChoice ts = .ok () := by
  obtain ⟨t, ht, hkind⟩ := h
  cases ts with
  | nil => rfl
  | cons u us =>
    cases ht
    simp [closeChoice, hkind]

/-- **A name with a value.** -/
theorem reads_choice {variants : List (String × Variant α)} {key : String} {v : Variant α}
    {j : Json} {a : α} (hv : variants.lookup key = some v) (h : VariantReads v j a) :
    Reads (choice variants) (.object [(key, j)]) a where
  plain := ⟨h.plain, trivial⟩
  ok := by
    rintro site _ hs ⟨start, _, stop, following, rfl, name, n, _, rfl, hname, hn, hcloses, rfl⟩
    have hchoose : ∀ stop, choose variants key stop = .ok v := fun stop => by rw [choose, hv]
    have hlevels : (Json.object [(key, j)]).depth = j.depth + 1 := by
      simp [depth, membersDepth]
    rw [hlevels] at hs
    cases hstored : site.stored with
    | true =>
      simp only [choice, hstored, if_true, choiceStored, hname, lift_ok, ok_bind, hchoose]
      exact h.ok site n (.inl hstored) hn
    | false =>
      -- as the text goes by, the closing bracket is looked for behind the value
      obtain ⟨site', hsite, hholds⟩ := enter_of_holds hs start
      simp [choice, hstored, choicePassing, hsite, hname, hchoose, h.ok site' n hholds hn,
        closeChoice_of_closes (hcloses rfl), pure, Except.pure]

/-! ## Tagged forms -/

theorem store_of_spells {site : Site} {n : Node} {j : Json} (hs : site.Holds j.depth)
    (hn : n.Spells j) : store site n = .ok () := by
  cases hstored : site.stored with
  | true => rw [store, if_pos hstored]
  | false =>
    have hd : j.depth ≤ site.depth := hs.resolve_left (by simp [hstored])
    rw [store, if_neg (by simp [hstored]), check_of_spells j n site.depth hn hd]
    rfl

/-- Members that are no tag are taken in. -/
theorem tagAmong_of_ne {names : List String} {js : List (String × Json)}
    (hne : ∀ m ∈ js, m.1 ≠ "kind") (t : Option Nat) {site : Site}
    (hs : site.Holds (membersDepth js)) {ms : List (Name × Node)} (hm : SpellsMembers ms js) :
    tagAmong names site ms t = .ok t := by
  induction js generalizing ms with
  | nil =>
    obtain rfl := hm
    rfl
  | cons m js ih =>
    obtain ⟨name, n, ms, rfl, hname, hn, -, hms⟩ := hm
    rw [membersDepth] at hs
    have hrest := ih (fun m' h => hne m' (List.mem_cons_of_mem _ h))
      (hs.mono (Nat.le_max_right ..)) hms
    rw [tagAmong, hname]
    simp only [lift_ok, ok_bind, if_neg (hne _ List.mem_cons_self),
      store_of_spells (hs.mono (Nat.le_max_left ..)) hn]
    exact hrest

/-- **What stands beside a tag is read from the members.** -/
structure ContentReads (c : Content → Except Failure α) (js : List (String × Json)) (a : α) :
    Prop where
  plain : PlainMembers js
  ok : ∀ ms, SpellsMembers ms js → c (.members ms) = .ok a

theorem contentReads_beside {form : Form σ α} {js : List (String × Json)} {s : σ} {a : α}
    (h : MembersRead form.fields js form.blank s) (hb : form.build s = .ok a) :
    ContentReads (beside form) js a :=
  ⟨h.plain, fun _ hm => h.ofMembers_ok hb (.inl rfl) hm .first⟩

theorem contentReads_bare (a : α) {js : List (String × Json)} (hp : PlainMembers js) :
    ContentReads (bare a) js a :=
  ⟨hp, fun _ _ => rfl⟩

theorem tag_of_spells {names : List String} {key : String} {i : Nat}
    (hi : names.findIdx? (· = key) = some i) (site : Site) {n : Node}
    (hn : n.Spells (.string key)) : tag names site n = .ok i := by
  obtain ⟨_, _, _, rfl⟩ := hn
  simp [tag, hi]

/-- A tag before other members is told from them, and the others are taken in. -/
theorem split_of_spells {names : List String} {key : String} {i : Nat}
    {js : List (String × Json)} (title : String) (hi : names.findIdx? (· = key) = some i)
    (hne : ∀ m ∈ js, m.1 ≠ "kind") {site : Site} {n : Node}
    (hs : site.Holds (Json.object (("kind", .string key) :: js)).depth)
    (hn : n.Spells (.object (("kind", .string key) :: js))) :
    ∃ ms, split title names site n = .ok (i, .members ms) ∧
      SpellsMembers ms (("kind", .string key) :: js) := by
  obtain ⟨start, ms, stop, following, rfl, hms⟩ := hn
  obtain ⟨site', hsite, hholds⟩ := enter_of_holds hs start
  refine ⟨ms, ?_, hms⟩
  -- the tag is the first member; all members are kept, and the form skips the tag among them later
  obtain ⟨name, n, rest, rfl, hname, hn, -, hrest⟩ := hms
  rw [membersDepth] at hholds
  have hamong : tagAmong names site' ((name, n) :: rest) none = .ok (some i) := by
    rw [tagAmong, hname]
    simp only [lift_ok, ok_bind, tag_of_spells hi site' hn]
    exact tagAmong_of_ne hne (some i) (hholds.mono (Nat.le_max_right ..)) hrest
  rw [split, hsite]
  simp only [ok_bind, hamong, mapError_ok]
  rfl

/-- **A tagged form**, the tag before what stands beside it. -/
theorem reads_tagged {variants : List (String × (Content → Except Failure α))} {key : String}
    {i : Nat} {c : Content → Except Failure α} {js : List (String × Json)} {a : α}
    (title : String) (hi : (variants.map Prod.fst).findIdx? (· = key) = some i)
    (hc : variants[i]? = some (key, c)) (hne : ∀ m ∈ js, m.1 ≠ "kind")
    (h : ContentReads c (("kind", .string key) :: js) a) :
    Reads (tagged title variants) (.object (("kind", .string key) :: js)) a where
  plain := h.plain
  ok site n hs hn := by
    obtain ⟨ms, hsplit, hms⟩ := split_of_spells title hi hne hs hn
    rw [tagged, hsplit]
    simp only [ok_bind, hc, h.ok ms hms, mapError_ok]

end Reader

/-- **What a reader makes of a value it makes of every text of the value**, if the value does not
nest too deeply. -/
theorem read_of_lexesTo {α : Type} {r : Reader α} {j : Json} {a : α} (h : r.Reads j a)
    (hd : j.depth ≤ maxDepth) {text : String} (ht : LexesTo text.toList j.kinds) :
    read r text = .ok a := by
  obtain ⟨hspells, t, hfollowing, hkind⟩ := Node.ofText_of_lexesTo ht
  simp [read, h.ok ⟨maxDepth, false⟩ _ (.inr hd) hspells, hfollowing, hkind]

/-- What is read from a value is read from both of its texts. -/
theorem Reader.Reads.read_texts {α : Type} {r : Reader α} {j : Json} {a : α} (h : r.Reads j a)
    (hd : j.depth ≤ maxDepth) : read r j.compact = .ok a ∧ read r j.pretty = .ok a :=
  ⟨read_of_lexesTo h hd (lexesTo_compact h.plain), read_of_lexesTo h hd (lexesTo_pretty h.plain)⟩

end Json

end DiffContents
