import DiffContents.Proofs.Json.Nodes

/-! # The value of a text

Both layouts of a plain value are texts of the value (`parse?_compact`, `parse?_pretty`): a node
that spells a value has it, whatever its places are.  The compact layout holds no control character,
since it puts in no white space and a string shows its own as escapes (`controlFree_compact`).
-/

namespace DiffContents

namespace Json

/-! ## Parsing -/

namespace Node

mutual

/-- **A node has the value it spells.** -/
theorem json?_of_spells : ∀ (j : Json) (n : Node), n.Spells j → n.json? = some j
  | .null, _, ⟨_, _, _, rfl⟩ | .bool _, _, ⟨_, _, _, rfl⟩
  | .number _, _, ⟨_, _, _, rfl⟩ | .string _, _, ⟨_, _, _, rfl⟩ => rfl
  | .array js, _, ⟨_, ns, _, _, rfl, h⟩ => by
    rw [json?, elementsJson?_of_spells js ns h, Option.map_some]
  | .object js, _, ⟨_, ms, _, _, rfl, h⟩ => by
    rw [json?, membersJson?_of_spells js ms h, Option.map_some]

theorem elementsJson?_of_spells : ∀ (js : List Json) (ns : List Node),
    SpellsElements ns js → elementsJson? ns = some js
  | [], _, rfl => rfl
  | j :: js, _, ⟨n, ns, rfl, hn, h⟩ => by
    rw [elementsJson?, json?_of_spells j n hn, elementsJson?_of_spells js ns h]
    rfl

theorem membersJson?_of_spells : ∀ (js : List (String × Json)) (ms : List (Name × Node)),
    SpellsMembers ms js → membersJson? ms = some js
  | [], _, rfl => rfl
  | (_, j) :: js, _, ⟨_, n, ms, rfl, hname, hn, _, h⟩ => by
    simp only [membersJson?, hname, json?_of_spells j n hn, membersJson?_of_spells js ms h]
    rfl

end

end Node

/-- A text made of the tokens of a value has the value. -/
theorem parse?_of_lexesTo {s : String} {j : Json} (h : LexesTo s.toList j.kinds) :
    parse? s = some j := by
  obtain ⟨hspells, ⟨start, stop, kind, noticed⟩, hfollowing, rfl⟩ := Node.ofText_of_lexesTo h
  simp only [parse?, hfollowing]
  exact Node.json?_of_spells j _ hspells

theorem parse?_compact {j : Json} (h : j.Plain) : parse? j.compact = some j :=
  parse?_of_lexesTo (lexesTo_compact h)

theorem parse?_pretty {j : Json} (h : j.Plain) : parse? j.pretty = some j :=
  parse?_of_lexesTo (lexesTo_pretty h)

/-! ## Control characters -/

/-- There is no character below the space. -/
def ControlFree (cs : List Char) : Prop := ∀ c ∈ cs, 0x20 ≤ c.toNat

instance (cs : List Char) : Decidable (ControlFree cs) :=
  List.decidableBAll (fun c : Char => 0x20 ≤ c.toNat) cs

@[simp] theorem controlFree_nil : ControlFree [] := by simp [ControlFree]

@[simp] theorem controlFree_cons {c : Char} {cs : List Char} :
    ControlFree (c :: cs) ↔ 0x20 ≤ c.toNat ∧ ControlFree cs :=
  List.forall_mem_cons

@[simp] theorem controlFree_append {cs cs' : List Char} :
    ControlFree (cs ++ cs') ↔ ControlFree cs ∧ ControlFree cs' :=
  List.forall_mem_append

theorem le_toNat_hexDigit : ∀ n < 16, 0x20 ≤ (hexDigit n).toNat := by decide

/-- A control character is written as an escape, and no other character needs one. -/
theorem controlFree_escapeChar (c : Char) : ControlFree (escapeChar c) := by
  unfold escapeChar
  iterate 7
    split
    · simp
  split
  · next hc =>
    have h1 := le_toNat_hexDigit (c.toNat / 16) (by omega)
    have h2 := le_toNat_hexDigit (c.toNat % 16) (by omega)
    simp [h1, h2]
  · next hc => simpa using hc

theorem controlFree_stringChars (s : String) : ControlFree (stringChars s) := by
  have h : ControlFree (s.toList.flatMap escapeChar) := by
    intro c hc
    obtain ⟨c', -, hc⟩ := List.mem_flatMap.mp hc
    exact controlFree_escapeChar c' c hc
  simp [stringChars, h]

theorem controlFree_toDigits (n : Nat) : ControlFree (Nat.toDigits 10 n) := by
  intro c hc
  have hdigit := Nat.isDigit_of_mem_toDigits (by decide) (by decide) hc
  simp only [Char.isDigit, Bool.and_eq_true, decide_eq_true_eq] at hdigit
  have hle : 48 ≤ c.toNat := UInt32.le_iff_toNat_le.mp hdigit.1
  omega

theorem controlFree_int (n : Int) : ControlFree (Number.chars (.int n)) := by
  cases n with
  | ofNat n =>
    rw [Int.ofNat_eq_natCast, chars_natCast]
    exact controlFree_toDigits n
  | negSucc n =>
    rw [chars_negSucc, controlFree_cons]
    exact ⟨by decide, controlFree_toDigits _⟩

mutual

/-- **The compact layout holds no control character.** -/
theorem controlFree_compactChars : ∀ j : Json, j.Plain → ControlFree j.compactChars
  | .null, _ | .bool true, _ | .bool false, _ => by simp [compactChars]
  | .number (.int n), _ => controlFree_int n
  | .number (.float _), h => h.elim
  | .string s, _ => controlFree_stringChars s
  | .array es, h => by
    have hes := controlFree_compactElements es h
    simp [compactChars, hes]
  | .object ms, h => by
    have hms := controlFree_compactMembers ms h
    simp [compactChars, hms]

theorem controlFree_compactElements : ∀ es : List Json, PlainElements es →
    ControlFree (compactElements es)
  | [], _ => controlFree_nil
  | [j], h => controlFree_compactChars j h.1
  | j :: j' :: js, h => by
    have hj := controlFree_compactChars j h.1
    have hjs := controlFree_compactElements (j' :: js) h.2
    simp [compactElements, hj, hjs]

theorem controlFree_compactMembers : ∀ ms : List (String × Json), PlainMembers ms →
    ControlFree (compactMembers ms)
  | [], _ => controlFree_nil
  | [(name, j)], h => by
    have hname := controlFree_stringChars name
    have hj := controlFree_compactChars j h.1
    simp [compactMembers, hname, hj]
  | (name, j) :: m :: ms, h => by
    have hname := controlFree_stringChars name
    have hj := controlFree_compactChars j h.1
    have hms := controlFree_compactMembers (m :: ms) h.2
    simp [compactMembers, hname, hj, hms]

end

theorem controlFree_compact {j : Json} (h : j.Plain) : ControlFree j.compact.toList := by
  rw [compact, String.toList_ofList]
  exact controlFree_compactChars j h

end Json

end DiffContents
