import DiffContents.Json.Node
import DiffContents.Proofs.Json.Nodes

/-!
# The outline of a text

An outline is what is left of a JSON text without its layout: the values in it, with the members of
every object in the order they are written in.  A string or number that cannot be read stands in it
without its value, because a reader may pass over it all the same.

A node is read off the tokens of a text, so the tokens after its values are known: a comma or the
closing bracket (`Node.Sound`).  `Node.Shows` is the relation between a node and its outline that
says so, and every node of a text with an outline shows it (`Outline.ofText?_shows`).  Conversely
every outline is shown by some node (`exists_shows`).
-/

namespace DiffContents

namespace Json

theorem bind_eq_ok_iff {ε α β : Type} {x : Except ε α} {f : α → Except ε β} {b : β} :
    x >>= f = .ok b ↔ ∃ a, x = .ok a ∧ f a = .ok b := by
  cases x with
  | error e => exact ⟨nofun, nofun⟩
  | ok a => exact ⟨fun h => ⟨a, rfl, h⟩, fun ⟨_, ha, h⟩ => Except.ok.inj ha ▸ h⟩

theorem mapError_eq_ok_iff {ε ε' α : Type} {x : Except ε α} {f : ε → ε'} {a : α} :
    x.mapError f = .ok a ↔ x = .ok a := by
  cases x with
  | error e => exact ⟨nofun, nofun⟩
  | ok a' =>
    show Except.ok a' = .ok a ↔ Except.ok a' = .ok a
    rw [Except.ok.injEq, Except.ok.injEq]

/-- A scalar without its layout; a number or string that cannot be read has no value. -/
inductive Atom where
  | null
  | bool (value : Bool)
  | number (value : Option Number)
  | string (value : Option String)
deriving DecidableEq, Repr, Inhabited

/-- **The outline of a text.**  A name that cannot be read is left out. -/
inductive Outline where
  | atom (value : Atom)
  | array (elements : List Outline)
  | object (members : List (Option String × Outline))
deriving Repr, Inhabited

/-- A scalar without its layout. -/
def Scalar.atom : Scalar → Atom
  | .null => .null
  | .bool b => .bool b
  | .number n => .number n.toOption
  | .string s => .string s.toOption

namespace Node

mutual

/-- **The outline of a node**, if everything in it ends well. -/
def outline? : Node → Option Outline
  | missing _ _ => none
  | scalar value _ _ _ => some (.atom value.atom)
  | array _ elements (.closed _) _ => (outlines? elements).map .array
  | object _ members (.closed _) _ => (memberOutlines? members).map .object
  | array _ _ (.broken _) _ | object _ _ (.broken _) _ => none

/-- The outlines of elements. -/
def outlines? : List Node → Option (List Outline)
  | [] => some []
  | n :: ns => do return (← outline? n) :: (← outlines? ns)

/-- The outlines of members, with their names. -/
def memberOutlines? : List (Name × Node) → Option (List (Option String × Outline))
  | [] => some []
  | (name, n) :: ms => do
    return (name.value.toOption, ← outline? n) :: (← memberOutlines? ms)

end

/-- The tokens begin with one of the kind. -/
def Next (k : TokenKind) (ts : List Token) : Prop := ∃ t us, ts = t :: us ∧ t.kind = k

mutual

/-- **The node shows the outline**: it is the outline with places, and the tokens after the values
in it are the commas between them and the closing brackets. -/
def Shows : Node → Outline → Prop
  | n, .atom a => ∃ v start stop following, n = scalar v start stop following ∧ v.atom = a
  | n, .array os => ∃ start ns stop following,
      n = array start ns (.closed stop) following ∧ ShowsElements ns os
  | n, .object os => ∃ start ms stop following,
      n = object start ms (.closed stop) following ∧ ShowsMembers ms os

/-- The nodes show the elements one by one. -/
def ShowsElements : List Node → List Outline → Prop
  | ns, [] => ns = []
  | ns, o :: os => ∃ n rest, ns = n :: rest ∧ n.Shows o ∧
      Next (if os = [] then .closeArray else .comma) n.following ∧ ShowsElements rest os

/-- The nodes show the members one by one. -/
def ShowsMembers : List (Name × Node) → List (Option String × Outline) → Prop
  | ms, [] => ms = []
  | ms, (key, o) :: os => ∃ name n rest, ms = (name, n) :: rest ∧ name.value.toOption = key ∧
      n.Shows o ∧ Next (if os = [] then .closeObject else .comma) n.following ∧
        ShowsMembers rest os

end

theorem ShowsElements.nil_iff {ns : List Node} {os : List Outline} (h : ShowsElements ns os) :
    ns = [] ↔ os = [] := by
  cases os with
  | nil => exact ⟨fun _ => rfl, fun _ => h⟩
  | cons o os =>
    obtain ⟨n, ns, rfl, -⟩ := h
    exact ⟨nofun, nofun⟩

theorem ShowsMembers.nil_iff {ms : List (Name × Node)} {os : List (Option String × Outline)}
    (h : ShowsMembers ms os) : ms = [] ↔ os = [] := by
  cases os with
  | nil => exact ⟨fun _ => rfl, fun _ => h⟩
  | cons o os =>
    obtain ⟨name, n, ms, rfl, -⟩ := h
    exact ⟨nofun, nofun⟩

/-! ## What the tokens after a value are -/

/-- The node is a value whose end was found. -/
def Ended : Node → Prop
  | missing _ _ => False
  | scalar _ _ _ _ => True
  | array _ _ ending _ | object _ _ ending _ => ∃ stop, ending = .closed stop

/-- **How a list goes on** after one of its values: with a comma, and then more must come for the
list to end well; with its closing bracket; or not well. -/
inductive GoesOn (close : TokenKind) (last : Prop) (ending : Ending) : List Token → Prop
  | comma {t : Token} {ts : List Token} (kind : t.kind = .comma)
    (more : last → ∀ stop, ending ≠ .closed stop) : GoesOn close last ending (t :: ts)
  | close {t : Token} {ts : List Token} {stop : Mark} (kind : t.kind = close) (none : last)
    (closed : ending = .closed stop) : GoesOn close last ending (t :: ts)
  | broken {t : Token} {ts : List Token} (comma : t.kind ≠ .comma) (other : t.kind ≠ close)
    (none : last) (broken : ∀ stop, ending ≠ .closed stop) : GoesOn close last ending (t :: ts)

mutual

/-- **The tokens after the values of the node are where they should be.** -/
def Sound : Node → Prop
  | missing _ _ | scalar _ _ _ _ => True
  | array _ ns ending _ => SoundElements ending ns
  | object _ ms ending _ => SoundMembers ending ms

/-- The tokens after the elements are where they should be. -/
def SoundElements (ending : Ending) : List Node → Prop
  | [] => True
  | n :: ns => n.Sound ∧ (n.Ended → GoesOn .closeArray (ns = []) ending n.following) ∧
      SoundElements ending ns

/-- The tokens after the members are where they should be. -/
def SoundMembers (ending : Ending) : List (Name × Node) → Prop
  | [] => True
  | (_, n) :: ms => n.Sound ∧ (n.Ended → GoesOn .closeObject (ms = []) ending n.following) ∧
      SoundMembers ending ms

end

/-- The tokens end with the end of the text. -/
def Ends (ts : List Token) : Prop := ∃ us t, ts = us ++ [t] ∧ t.kind = .finish

theorem Ends.ne_nil {ts : List Token} (h : Ends ts) : ts ≠ [] := by
  obtain ⟨us, t, rfl, -⟩ := h
  simp

/-- The end of the text stays behind when another token is taken. -/
theorem Ends.tail {t : Token} {ts : List Token} (h : Ends (t :: ts)) (ht : t.kind ≠ .finish) :
    Ends ts := by
  obtain ⟨us, u, hus, hu⟩ := h
  cases us with
  | nil =>
    obtain ⟨rfl, -⟩ := List.cons.inj hus
    exact absurd hu ht
  | cons u' us =>
    obtain ⟨-, rfl⟩ := List.cons.inj hus
    exact ⟨us, u, rfl, hu⟩

theorem ends_tokensFrom (m : Mark) (cs : List Char) : Ends (tokensFrom m cs) := by
  fun_induction tokensFrom m cs with
  | case1 m => exact ⟨[], _, rfl, rfl⟩
  | case2 m c cs _ ih => exact ih
  | case3 m c cs _ ih =>
    obtain ⟨us, t, hus, ht⟩ := ih
    exact ⟨_ :: us, t, by rw [hus]; rfl, ht⟩

/-- What reading a value leaves: the tokens after it. -/
structure Leaves (r : Node × List Token) : Prop where
  sound : r.1.Sound
  ends : r.2 = [] ∨ Ends r.2
  following : r.1.Ended → r.1.following = r.2 ∧ r.2 ≠ []

/-- What reading a list leaves: the tokens after it, if it ends well. -/
structure LeavesList {α : Type} (sound : Ending → List α → Prop) (turn : Turn)
    (r : List α × Ending × List Token) : Prop where
  sound : sound r.2.1 r.1
  ends : r.2.2 = [] ∨ Ends r.2.2
  closed : ∀ stop, r.2.1 = .closed stop → r.2.2 ≠ [] ∧ (turn = .afterComma → r.1 ≠ [])

theorem leaves_missing (flaw : Flaw) (stray : Option Mark) : Leaves (missing flaw stray, []) where
  sound := trivial
  ends := .inl rfl
  following := nofun

theorem leaves_scalar {v : Scalar} {start stop : Mark} {ts : List Token} (h : Ends ts) :
    Leaves (scalar v start stop ts, ts) where
  sound := trivial
  ends := .inr h
  following := fun _ => ⟨rfl, h.ne_nil⟩

theorem broken_ne_closed (flaw : Flaw) (stop : Mark) : Ending.broken flaw ≠ .closed stop := nofun

/-- A list that is not closed leaves nothing. -/
theorem leavesList_broken {α : Type} {sound : Ending → List α → Prop} {turn : Turn} {flaw : Flaw}
    {as : List α} (h : sound (.broken flaw) as) :
    LeavesList sound turn (as, .broken flaw, []) where
  sound := h
  ends := .inl rfl
  closed stop hstop := absurd hstop (broken_ne_closed flaw stop)

/-- Reading one value, one list of elements, one list of members or the value of a member leaves the
tokens after it. -/
structure LeavesAll (fuel : Nat) : Prop where
  read : ∀ ts, Ends ts → Leaves (read fuel ts)
  elements : ∀ turn ts, Ends ts → LeavesList SoundElements turn (readElements fuel turn ts)
  members : ∀ turn ts, Ends ts → LeavesList SoundMembers turn (readMembers fuel turn ts)
  value : ∀ ts, Ends ts → Leaves (readValue fuel ts)

theorem leaves_read {fuel : Nat} (ih : LeavesAll fuel) {ts : List Token} (h : Ends ts) :
    Leaves (Node.read (fuel + 1) ts) := by
  cases ts with
  | nil => exact absurd rfl h.ne_nil
  | cons t ts =>
    rw [Node.read]
    cases hk : t.kind with
    | openArray =>
      have hlist := ih.elements .opening ts (h.tail (by simp [hk]))
      refine ⟨hlist.sound, hlist.ends, fun hended => ?_⟩
      obtain ⟨stop, hstop⟩ := hended
      exact ⟨rfl, (hlist.closed stop hstop).1⟩
    | openObject =>
      have hlist := ih.members .opening ts (h.tail (by simp [hk]))
      refine ⟨hlist.sound, hlist.ends, fun hended => ?_⟩
      obtain ⟨stop, hstop⟩ := hended
      exact ⟨rfl, (hlist.closed stop hstop).1⟩
    | null | bool | number | string => exact leaves_scalar (h.tail (by simp [hk]))
    | closeArray | closeObject | comma | colon | brokenString | broken | finish =>
      exact leaves_missing _ _

/-- The token after an element says how the list goes on. -/
theorem soundElements_cons {ending : Ending} {n : Node} {ns : List Node} {t : Token}
    {ts : List Token} (hn : Leaves (n, t :: ts)) (hns : SoundElements ending ns)
    (hgoes : GoesOn .closeArray (ns = []) ending (t :: ts)) : SoundElements ending (n :: ns) :=
  ⟨hn.sound, fun hended => by rw [(hn.following hended).1]; exact hgoes, hns⟩

/-- The token after the value of a member says how the list goes on. -/
theorem soundMembers_cons {ending : Ending} {name : Name} {n : Node} {ms : List (Name × Node)}
    {t : Token} {ts : List Token} (hn : Leaves (n, t :: ts)) (hms : SoundMembers ending ms)
    (hgoes : GoesOn .closeObject (ms = []) ending (t :: ts)) :
    SoundMembers ending ((name, n) :: ms) :=
  ⟨hn.sound, fun hended => by rw [(hn.following hended).1]; exact hgoes, hms⟩

/-- After a value that does not end, or ends where the tokens do, nothing goes on. -/
theorem not_ended_of_leaves {n : Node} (h : Leaves (n, [])) : ¬ n.Ended :=
  fun hended => (h.following hended).2 rfl

/-- A list that ends with a closing bracket. -/
theorem leavesList_closed {α : Type} {sound : Ending → List α → Prop} {turn : Turn} {t : Token}
    {ts : List Token} {as : List α} (hsound : sound (.closed t.stop) as) (hends : Ends (t :: ts))
    (ht : t.kind ≠ .finish) (has : turn = .afterComma → as ≠ []) :
    LeavesList sound turn (as, .closed t.stop, ts) where
  sound := hsound
  ends := .inr (hends.tail ht)
  closed _ _ := ⟨(hends.tail ht).ne_nil, has⟩

theorem leaves_readElements {fuel : Nat} (ih : LeavesAll fuel) (turn : Turn) {ts : List Token}
    (h : Ends ts) : LeavesList SoundElements turn (readElements (fuel + 1) turn ts) := by
  cases ts with
  | nil => exact absurd rfl h.ne_nil
  | cons t ts =>
    unfold readElements
    split
    · next ht => exact leavesList_closed trivial h (by simp [ht]) (by simp)
    · exact leavesList_broken trivial
    · exact leavesList_broken trivial
    · have hread := ih.read (t :: ts) h
      split
      · exact leavesList_broken ⟨trivial, False.elim, trivial⟩
      · next n _ heq =>
        rw [heq] at hread
        exact leavesList_broken ⟨hread.sound, fun he => absurd he (not_ended_of_leaves hread),
          trivial⟩
      · next n u us _ heq =>
        rw [heq] at hread
        have hends : Ends (u :: us) := hread.ends.resolve_left (by simp)
        split
        · next hu =>
          have hrest := ih.elements .afterComma us (hends.tail (by simp [hu]))
          refine ⟨soundElements_cons hread hrest.sound (.comma hu fun hnil stop hstop => ?_),
            hrest.ends, fun stop hstop => ⟨(hrest.closed stop hstop).1, fun _ => by simp⟩⟩
          exact (hrest.closed stop hstop).2 rfl hnil
        · next hu =>
          refine leavesList_closed ?_ hends (by simp [hu]) (by simp)
          exact soundElements_cons hread trivial (.close hu rfl rfl)
        · next hu =>
          refine leavesList_broken (soundElements_cons hread trivial ?_)
          exact .broken (by simp [hu]) (by simp [hu]) rfl (broken_ne_closed _)
        · next hc ha _ =>
          refine leavesList_broken (soundElements_cons hread trivial ?_)
          exact .broken hc ha rfl (broken_ne_closed _)

theorem leaves_readMembers {fuel : Nat} (ih : LeavesAll fuel) (turn : Turn) {ts : List Token}
    (h : Ends ts) : LeavesList SoundMembers turn (readMembers (fuel + 1) turn ts) := by
  cases ts with
  | nil => exact absurd rfl h.ne_nil
  | cons t ts =>
    unfold readMembers
    split
    · next ht => exact leavesList_closed trivial h (by simp [ht]) (by simp)
    · exact leavesList_broken trivial
    · exact leavesList_broken trivial
    · exact leavesList_broken trivial
    · exact leavesList_broken trivial
    · next _ _ _ _ ht =>
      have hread := ih.value ts (h.tail (by simp [ht]))
      dsimp only
      split
      · exact leavesList_broken ⟨trivial, False.elim, trivial⟩
      · next n _ heq =>
        rw [heq] at hread
        exact leavesList_broken ⟨hread.sound, fun he => absurd he (not_ended_of_leaves hread),
          trivial⟩
      · next n u us _ heq =>
        rw [heq] at hread
        have hends : Ends (u :: us) := hread.ends.resolve_left (by simp)
        split
        · next hu =>
          have hrest := ih.members .afterComma us (hends.tail (by simp [hu]))
          refine ⟨soundMembers_cons hread hrest.sound (.comma hu fun hnil stop hstop => ?_),
            hrest.ends, fun stop hstop => ⟨(hrest.closed stop hstop).1, fun _ => by simp⟩⟩
          exact (hrest.closed stop hstop).2 rfl hnil
        · next hu =>
          refine leavesList_closed ?_ hends (by simp [hu]) (by simp)
          exact soundMembers_cons hread trivial (.close hu rfl rfl)
        · next hu =>
          refine leavesList_broken (soundMembers_cons hread trivial ?_)
          exact .broken (by simp [hu]) (by simp [hu]) rfl (broken_ne_closed _)
        · next hc ha _ =>
          refine leavesList_broken (soundMembers_cons hread trivial ?_)
          exact .broken hc ha rfl (broken_ne_closed _)
    · exact leavesList_broken trivial

theorem leaves_readValue {fuel : Nat} (ih : LeavesAll fuel) {ts : List Token} (h : Ends ts) :
    Leaves (readValue (fuel + 1) ts) := by
  cases ts with
  | nil => exact absurd rfl h.ne_nil
  | cons t ts =>
    unfold readValue
    split
    · next ht => exact ih.read ts (h.tail (by simp [ht]))
    · exact leaves_missing _ _
    · exact leaves_missing _ _

/-- **Reading leaves the tokens after what it reads.** -/
theorem leavesAll (fuel : Nat) : LeavesAll fuel := by
  induction fuel with
  | zero =>
    refine ⟨fun ts _ => ?_, fun turn ts _ => ?_, fun turn ts _ => ?_, fun ts _ => ?_⟩
    · rw [Node.read]
      exact leaves_missing _ _
    · rw [readElements]
      exact leavesList_broken trivial
    · rw [readMembers]
      exact leavesList_broken trivial
    · rw [readValue]
      exact leaves_missing _ _
  | succ fuel ih =>
    exact ⟨fun _ => leaves_read ih, fun turn _ => leaves_readElements ih turn,
      fun turn _ => leaves_readMembers ih turn, fun _ => leaves_readValue ih⟩

/-- **The node of a text is sound**, and if it ends well, the tokens after it follow it. -/
theorem sound_ofText (s : String) :
    (ofText s).Sound ∧ ((ofText s).Ended → (ofText s).following ≠ []) := by
  have h := (leavesAll (2 * (tokens s).length + 2)).read (tokens s)
    (ends_tokensFrom .first s.toList)
  refine ⟨h.sound, fun hended => ?_⟩
  obtain ⟨hfollowing, hne⟩ := h.following hended
  rw [ofText, ofTokens, hfollowing]
  exact hne

/-! ## Nodes that show an outline -/

theorem ended_of_outline? {n : Node} {o : Outline} (h : n.outline? = some o) : n.Ended := by
  cases n with
  | missing => cases h
  | scalar => trivial
  | array start ns ending following =>
    cases ending with
    | closed stop => exact ⟨stop, rfl⟩
    | broken flaw => cases h
  | object start ms ending following =>
    cases ending with
    | closed stop => exact ⟨stop, rfl⟩
    | broken flaw => cases h

/-- In a list that ends well, a comma comes after every value but the last one. -/
theorem GoesOn.next {close : TokenKind} {last : Prop} [Decidable last] {stop : Mark}
    {ts : List Token} (h : GoesOn close last (.closed stop) ts) :
    Next (if last then close else .comma) ts := by
  cases h with
  | @comma t ts kind more =>
    rw [if_neg fun hlast => more hlast stop rfl]
    exact ⟨t, ts, rfl, kind⟩
  | @close t ts stop' kind hlast =>
    rw [if_pos hlast]
    exact ⟨t, ts, rfl, kind⟩
  | broken _ _ _ hbroken => exact absurd rfl (hbroken stop)

theorem outline?_array_iff {start : Mark} {ns : List Node} {ending : Ending}
    {following : List Token} {o : Outline} :
    (array start ns ending following).outline? = some o ↔
      (∃ stop, ending = .closed stop) ∧ ∃ os, outlines? ns = some os ∧ .array os = o := by
  cases ending with
  | closed stop => simp [outline?]
  | broken flaw => simp [outline?]

theorem outline?_object_iff {start : Mark} {ms : List (Name × Node)} {ending : Ending}
    {following : List Token} {o : Outline} :
    (object start ms ending following).outline? = some o ↔
      (∃ stop, ending = .closed stop) ∧ ∃ os, memberOutlines? ms = some os ∧ .object os = o := by
  cases ending with
  | closed stop => simp [outline?]
  | broken flaw => simp [outline?]

theorem outlines?_cons_iff {n : Node} {ns : List Node} {os : List Outline} :
    outlines? (n :: ns) = some os ↔
      ∃ o os', n.outline? = some o ∧ outlines? ns = some os' ∧ o :: os' = os := by
  simp [outlines?, Option.bind_eq_some_iff]

theorem memberOutlines?_cons_iff {name : Name} {n : Node} {ms : List (Name × Node)}
    {os : List (Option String × Outline)} :
    memberOutlines? ((name, n) :: ms) = some os ↔ ∃ o os', n.outline? = some o ∧
      memberOutlines? ms = some os' ∧ (name.value.toOption, o) :: os' = os := by
  simp [memberOutlines?, Option.bind_eq_some_iff]

theorem length_outlines? {ns : List Node} {os : List Outline} (h : outlines? ns = some os) :
    os.length = ns.length := by
  induction ns generalizing os with
  | nil => cases h; rfl
  | cons n ns ih =>
    obtain ⟨o, os, -, hos, rfl⟩ := outlines?_cons_iff.mp h
    rw [List.length_cons, List.length_cons, ih hos]

theorem length_memberOutlines? {ms : List (Name × Node)} {os : List (Option String × Outline)}
    (h : memberOutlines? ms = some os) : os.length = ms.length := by
  induction ms generalizing os with
  | nil => cases h; rfl
  | cons m ms ih =>
    obtain ⟨o, os, -, hos, rfl⟩ := memberOutlines?_cons_iff.mp h
    rw [List.length_cons, List.length_cons, ih hos]

mutual

/-- **A sound node shows its outline.** -/
theorem shows_of_outline? : ∀ (n : Node) (o : Outline), n.Sound → n.outline? = some o → n.Shows o
  | missing flaw stray, o, _, h => by cases h
  | scalar v start stop following, o, _, h => by
    obtain rfl := Option.some.inj h
    exact ⟨v, start, stop, following, rfl, rfl⟩
  | array start ns ending following, o, hs, h => by
    obtain ⟨⟨stop, rfl⟩, os, hos, rfl⟩ := outline?_array_iff.mp h
    exact ⟨start, ns, stop, following, rfl, showsElements_of_outlines? stop ns os hs hos⟩
  | object start ms ending following, o, hs, h => by
    obtain ⟨⟨stop, rfl⟩, os, hos, rfl⟩ := outline?_object_iff.mp h
    exact ⟨start, ms, stop, following, rfl, showsMembers_of_memberOutlines? stop ms os hs hos⟩

theorem showsElements_of_outlines? (stop : Mark) : ∀ (ns : List Node) (os : List Outline),
    SoundElements (.closed stop) ns → outlines? ns = some os → ShowsElements ns os
  | [], os, _, h => by
    obtain rfl := Option.some.inj h
    rfl
  | n :: ns, os, hs, h => by
    obtain ⟨hn, hgoes, hns⟩ := hs
    obtain ⟨o, os, ho, hos, rfl⟩ := outlines?_cons_iff.mp h
    have hnil : ns = [] ↔ os = [] := by
      rw [← List.length_eq_zero_iff, ← length_outlines? hos, List.length_eq_zero_iff]
    have hnext := (hgoes (ended_of_outline? ho)).next
    simp only [hnil] at hnext
    exact ⟨n, ns, rfl, shows_of_outline? n o hn ho, hnext,
      showsElements_of_outlines? stop ns os hns hos⟩

theorem showsMembers_of_memberOutlines? (stop : Mark) :
    ∀ (ms : List (Name × Node)) (os : List (Option String × Outline)),
      SoundMembers (.closed stop) ms → memberOutlines? ms = some os → ShowsMembers ms os
  | [], os, _, h => by
    obtain rfl := Option.some.inj h
    rfl
  | (name, n) :: ms, os, hs, h => by
    obtain ⟨hn, hgoes, hms⟩ := hs
    obtain ⟨o, os, ho, hos, rfl⟩ := memberOutlines?_cons_iff.mp h
    have hnil : ms = [] ↔ os = [] := by
      rw [← List.length_eq_zero_iff, ← length_memberOutlines? hos, List.length_eq_zero_iff]
    have hnext := (hgoes (ended_of_outline? ho)).next
    simp only [hnil] at hnext
    exact ⟨name, n, ms, rfl, rfl, shows_of_outline? n o hn ho, hnext,
      showsMembers_of_memberOutlines? stop ms os hms hos⟩

end

/-- **The node ends well throughout.** -/
def Whole (n : Node) : Prop := ∃ o, n.outline? = some o

theorem Whole.shows {n : Node} (hs : n.Sound) (h : n.Whole) : ∃ o, n.Shows o := by
  obtain ⟨o, ho⟩ := h
  exact ⟨o, shows_of_outline? n o hs ho⟩

theorem exists_outlines? {ns : List Node} (h : ∀ n ∈ ns, n.Whole) :
    ∃ os, outlines? ns = some os := by
  induction ns with
  | nil => exact ⟨[], rfl⟩
  | cons n ns ih =>
    obtain ⟨⟨o, ho⟩, hns⟩ := List.forall_mem_cons.mp h
    obtain ⟨os, hos⟩ := ih hns
    exact ⟨o :: os, outlines?_cons_iff.mpr ⟨o, os, ho, hos, rfl⟩⟩

theorem exists_memberOutlines? {ms : List (Name × Node)} (h : ∀ m ∈ ms, m.2.Whole) :
    ∃ os, memberOutlines? ms = some os := by
  induction ms with
  | nil => exact ⟨[], rfl⟩
  | cons m ms ih =>
    obtain ⟨⟨o, ho⟩, hms⟩ := List.forall_mem_cons.mp h
    obtain ⟨os, hos⟩ := ih hms
    exact ⟨_, memberOutlines?_cons_iff.mpr ⟨o, os, ho, hos, rfl⟩⟩

theorem whole_array {start stop : Mark} {ns : List Node} {following : List Token}
    (h : ∀ n ∈ ns, n.Whole) : (array start ns (.closed stop) following).Whole := by
  obtain ⟨os, hos⟩ := exists_outlines? h
  exact ⟨.array os, outline?_array_iff.mpr ⟨⟨stop, rfl⟩, os, hos, rfl⟩⟩

theorem whole_object {start stop : Mark} {ms : List (Name × Node)} {following : List Token}
    (h : ∀ m ∈ ms, m.2.Whole) : (object start ms (.closed stop) following).Whole := by
  obtain ⟨os, hos⟩ := exists_memberOutlines? h
  exact ⟨.object os, outline?_object_iff.mpr ⟨⟨stop, rfl⟩, os, hos, rfl⟩⟩

theorem endingProblem_eq_ok_iff {f : Flaw → Problem} {ending : Ending} :
    endingProblem f ending = .ok () ↔ ∃ stop, ending = .closed stop := by
  cases ending with
  | closed stop => exact ⟨fun _ => ⟨stop, rfl⟩, fun _ => rfl⟩
  | broken flaw => exact ⟨nofun, nofun⟩

mutual

/-- What is passed over ends well. -/
theorem whole_of_skip : ∀ n : Node, n.skip = .ok () → n.Whole
  | missing flaw stray, h => by cases h
  | scalar v start stop following, _ => ⟨_, rfl⟩
  | array start ns ending following, h => by
    obtain ⟨_, hns, hending⟩ := bind_eq_ok_iff.mp h
    obtain ⟨stop, rfl⟩ := endingProblem_eq_ok_iff.mp hending
    exact whole_array (whole_of_skipElements ns hns)
  | object start ms ending following, h => by
    obtain ⟨_, hms, hending⟩ := bind_eq_ok_iff.mp h
    obtain ⟨stop, rfl⟩ := endingProblem_eq_ok_iff.mp hending
    exact whole_object (whole_of_skipMembers ms hms)

theorem whole_of_skipElements : ∀ ns : List Node, skipElements ns = .ok () → ∀ n ∈ ns, n.Whole
  | [], _ => nofun
  | n :: ns, h => by
    obtain ⟨_, hn, hns⟩ := bind_eq_ok_iff.mp h
    exact List.forall_mem_cons.mpr ⟨whole_of_skip n hn, whole_of_skipElements ns hns⟩

theorem whole_of_skipMembers : ∀ ms : List (Name × Node), skipMembers ms = .ok () →
    ∀ m ∈ ms, m.2.Whole
  | [], _ => nofun
  | (name, n) :: ms, h => by
    obtain ⟨_, hn, hms⟩ := bind_eq_ok_iff.mp h
    exact List.forall_mem_cons.mpr ⟨whole_of_skip n hn, whole_of_skipMembers ms hms⟩

end

mutual

/-- What is taken in ends well. -/
theorem whole_of_check : ∀ (n : Node) (depth : Nat), n.check depth = .ok () → n.Whole
  | missing flaw stray, _, h => by cases h
  | scalar v start stop following, _, _ => ⟨_, rfl⟩
  | array start ns ending following, depth, h => by
    rw [check] at h
    split at h
    · cases h
    · obtain ⟨_, hns, hending⟩ := bind_eq_ok_iff.mp h
      obtain ⟨stop, rfl⟩ := endingProblem_eq_ok_iff.mp hending
      exact whole_array (whole_of_checkElements ns (depth - 1) hns)
  | object start ms ending following, depth, h => by
    rw [check] at h
    split at h
    · cases h
    · obtain ⟨_, hms, hending⟩ := bind_eq_ok_iff.mp h
      obtain ⟨stop, rfl⟩ := endingProblem_eq_ok_iff.mp hending
      exact whole_object (whole_of_checkMembers ms (depth - 1) hms)

theorem whole_of_checkElements : ∀ (ns : List Node) (depth : Nat),
    checkElements depth ns = .ok () → ∀ n ∈ ns, n.Whole
  | [], _, _ => nofun
  | n :: ns, depth, h => by
    obtain ⟨_, hn, hns⟩ := bind_eq_ok_iff.mp h
    exact List.forall_mem_cons.mpr
      ⟨whole_of_check n depth hn, whole_of_checkElements ns depth hns⟩

theorem whole_of_checkMembers : ∀ (ms : List (Name × Node)) (depth : Nat),
    checkMembers depth ms = .ok () → ∀ m ∈ ms, m.2.Whole
  | [], _, _ => nofun
  | (name, n) :: ms, depth, h => by
    obtain ⟨_, _, h⟩ := bind_eq_ok_iff.mp h
    obtain ⟨_, hn, hms⟩ := bind_eq_ok_iff.mp h
    exact List.forall_mem_cons.mpr
      ⟨whole_of_check n depth hn, whole_of_checkMembers ms depth hms⟩

end

/-! ## Every outline is shown -/

mutual

/-- **Every outline is shown by a node**, with any tokens after it. -/
theorem exists_shows : ∀ (o : Outline) (following : List Token),
    ∃ n : Node, n.Shows o ∧ n.following = following
  | .atom a, following => by
    obtain ⟨v, hv⟩ : ∃ v : Scalar, v.atom = a := by
      cases a with
      | null => exact ⟨.null, rfl⟩
      | bool b => exact ⟨.bool b, rfl⟩
      | number n => cases n with
        | none => exact ⟨.number (.error default), rfl⟩
        | some n => exact ⟨.number (.ok n), rfl⟩
      | string s => cases s with
        | none => exact ⟨.string (.error default), rfl⟩
        | some s => exact ⟨.string (.ok s), rfl⟩
    exact ⟨scalar v .first .first following, ⟨v, _, _, _, rfl, hv⟩, rfl⟩
  | .array os, following => by
    obtain ⟨ns, hns⟩ := exists_showsElements os
    exact ⟨array .first ns (.closed .first) following, ⟨_, ns, _, _, rfl, hns⟩, rfl⟩
  | .object os, following => by
    obtain ⟨ms, hms⟩ := exists_showsMembers os
    exact ⟨object .first ms (.closed .first) following, ⟨_, ms, _, _, rfl, hms⟩, rfl⟩

theorem exists_showsElements : ∀ os : List Outline, ∃ ns, ShowsElements ns os
  | [] => ⟨[], rfl⟩
  | o :: os => by
    obtain ⟨ns, hns⟩ := exists_showsElements os
    obtain ⟨n, hn, hfollowing⟩ := exists_shows o
      [⟨.first, .first, if os = [] then .closeArray else .comma, .first⟩]
    exact ⟨n :: ns, n, ns, rfl, hn, ⟨_, [], hfollowing, rfl⟩, hns⟩

theorem exists_showsMembers : ∀ os : List (Option String × Outline), ∃ ms, ShowsMembers ms os
  | [] => ⟨[], rfl⟩
  | (key, o) :: os => by
    obtain ⟨ms, hms⟩ := exists_showsMembers os
    obtain ⟨n, hn, hfollowing⟩ := exists_shows o
      [⟨.first, .first, if os = [] then .closeObject else .comma, .first⟩]
    obtain ⟨value, hvalue⟩ : ∃ v : Except Problem String, v.toOption = key := by
      cases key with
      | none => exact ⟨.error default, rfl⟩
      | some key => exact ⟨.ok key, rfl⟩
    exact ⟨(⟨value, .first, []⟩, n) :: ms, ⟨value, .first, []⟩, n, ms, rfl, hvalue, hn,
      ⟨_, [], hfollowing, rfl⟩, hms⟩

end

end Node

/-! ## The outlines of texts -/

namespace Outline

/-- **The outline of a text**, if it is JSON. -/
def ofText? (s : String) : Option Outline :=
  let node := Node.ofText s
  match node.following with
  | ⟨_, _, .finish, _⟩ :: _ => node.outline?
  | _ => none

theorem ofText?_eq_some_iff {s : String} {o : Outline} : ofText? s = some o ↔
    (Node.ofText s).outline? = some o ∧ Node.Next .finish (Node.ofText s).following := by
  unfold ofText?
  dsimp only
  split
  · next start stop noticed ts h =>
    rw [h]
    exact ⟨fun ho => ⟨ho, ⟨_, ts, rfl, rfl⟩⟩, And.left⟩
  · next hne =>
    refine ⟨nofun, fun ⟨_, t, ts, ht, hkind⟩ => ?_⟩
    exact absurd (ht.trans (by rw [← hkind])) (hne t.start t.stop t.noticed ts)

/-- The node of a text with an outline shows it. -/
theorem ofText?_shows {s : String} {o : Outline} (h : ofText? s = some o) :
    (Node.ofText s).Shows o :=
  Node.shows_of_outline? _ o (Node.sound_ofText s).1 (ofText?_eq_some_iff.mp h).1

mutual

/-- The outline of a value. -/
def ofJson : Json → Outline
  | .null => .atom .null
  | .bool b => .atom (.bool b)
  | .number n => .atom (.number (some n))
  | .string s => .atom (.string (some s))
  | .array js => .array (ofElements js)
  | .object js => .object (ofMembers js)

/-- The outlines of elements. -/
def ofElements : List Json → List Outline
  | [] => []
  | j :: js => ofJson j :: ofElements js

/-- The outlines of members. -/
def ofMembers : List (String × Json) → List (Option String × Outline)
  | [] => []
  | (name, j) :: js => (some name, ofJson j) :: ofMembers js

end

mutual

theorem outline?_of_spells : ∀ (j : Json) (n : Node), n.Spells j → n.outline? = some (ofJson j)
  | .null, _, ⟨_, _, _, rfl⟩ | .bool _, _, ⟨_, _, _, rfl⟩
  | .number _, _, ⟨_, _, _, rfl⟩ | .string _, _, ⟨_, _, _, rfl⟩ => rfl
  | .array js, _, ⟨_, ns, stop, _, rfl, h⟩ => by
    exact Node.outline?_array_iff.mpr ⟨⟨stop, rfl⟩, _, outlines?_of_spells js ns h, rfl⟩
  | .object js, _, ⟨_, ms, stop, _, rfl, h⟩ => by
    exact Node.outline?_object_iff.mpr ⟨⟨stop, rfl⟩, _, memberOutlines?_of_spells js ms h, rfl⟩

theorem outlines?_of_spells : ∀ (js : List Json) (ns : List Node),
    Node.SpellsElements ns js → Node.outlines? ns = some (ofElements js)
  | [], _, rfl => rfl
  | j :: js, _, ⟨n, ns, rfl, hn, h⟩ =>
    Node.outlines?_cons_iff.mpr
      ⟨_, _, outline?_of_spells j n hn, outlines?_of_spells js ns h, rfl⟩

theorem memberOutlines?_of_spells : ∀ (js : List (String × Json)) (ms : List (Name × Node)),
    Node.SpellsMembers ms js → Node.memberOutlines? ms = some (ofMembers js)
  | [], _, rfl => rfl
  | (key, j) :: js, _, ⟨name, n, ms, rfl, hname, hn, _, h⟩ =>
    Node.memberOutlines?_cons_iff.mpr
      ⟨_, _, outline?_of_spells j n hn, memberOutlines?_of_spells js ms h, by rw [hname]; rfl⟩

end

/-- **A text of a value has its outline.** -/
theorem ofText?_of_lexesTo {s : String} {j : Json} (h : LexesTo s.toList j.kinds) :
    ofText? s = some (ofJson j) := by
  obtain ⟨hspells, t, hfollowing, hkind⟩ := Node.ofText_of_lexesTo h
  exact ofText?_eq_some_iff.mpr
    ⟨outline?_of_spells j _ hspells, ⟨t, [], hfollowing, hkind⟩⟩

end Outline

end Json

end DiffContents
