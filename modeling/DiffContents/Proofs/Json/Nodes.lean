import DiffContents.Json.Node
import DiffContents.Proofs.Json.Tokens

/-!
# The node of a written value

A node spells a value (`Node.Spells`) when it is the value with places: every array and object in it
is closed, every string and number can be read, and the tokens after the last value of an object
begin with its closing bracket.

The main statement is `ofText_of_lexesTo`: a text that is made of the tokens of a value has a node
that spells the value, and nothing but the end of the text comes after it.  It goes by recursion on
the value: the tokens of a value, of elements and of members are read with two steps for every token
(`read_of_kinds`).
-/

namespace DiffContents

namespace Json

namespace Node

/-! ## Nodes that spell a value -/

/-- The tokens after the last value of an object: its closing bracket comes first. -/
def Closes (ts : List Token) : Prop := ∃ t ∈ ts.head?, t.kind = .closeObject

mutual

/-- **The node is the value with its places**, and everything in it ends well. -/
def Spells : Node → Json → Prop
  | n, .null => ∃ start stop following, n = scalar .null start stop following
  | n, .bool b => ∃ start stop following, n = scalar (.bool b) start stop following
  | n, .number x => ∃ start stop following, n = scalar (.number (.ok x)) start stop following
  | n, .string s => ∃ start stop following, n = scalar (.string (.ok s)) start stop following
  | n, .array js => ∃ start ns stop following,
      n = array start ns (.closed stop) following ∧ SpellsElements ns js
  | n, .object js => ∃ start ms stop following,
      n = object start ms (.closed stop) following ∧ SpellsMembers ms js

/-- The nodes spell the elements one by one. -/
def SpellsElements : List Node → List Json → Prop
  | ns, [] => ns = []
  | ns, j :: js => ∃ n rest, ns = n :: rest ∧ n.Spells j ∧ SpellsElements rest js

/-- The nodes spell the members one by one, and the closing bracket comes after the last one. -/
def SpellsMembers : List (Name × Node) → List (String × Json) → Prop
  | ms, [] => ms = []
  | ms, (key, j) :: js => ∃ name n rest, ms = (name, n) :: rest ∧ name.value = .ok key ∧
      n.Spells j ∧ (js = [] → Closes n.following) ∧ SpellsMembers rest js

end

theorem Spells.ne_missing {n : Node} {j : Json} (h : n.Spells j) (flaw : Flaw)
    (stray : Option Mark) : n ≠ missing flaw stray := by
  rintro rfl
  cases j <;> simp [Spells] at h

/-! ## Reading tokens -/

/-- A value begins with a token that neither closes an array nor ends the text. -/
theorem kinds_eq_cons (j : Json) :
    ∃ k ks, j.kinds = k :: ks ∧ k ≠ .closeArray ∧ k ≠ .finish := by
  cases j <;> exact ⟨_, _, rfl, nofun, nofun⟩

/-- An element before a comma. -/
theorem readElements_comma {fuel : Nat} (turn : Turn) {t t' : Token} {ts rest : List Token}
    {n : Node} {j : Json} (ha : t.kind ≠ .closeArray) (hf : t.kind ≠ .finish)
    (h : read fuel (t :: ts) = (n, t' :: rest)) (hn : n.Spells j) (ht' : t'.kind = .comma) :
    readElements (fuel + 1) turn (t :: ts) =
      (n :: (readElements fuel .afterComma rest).1, (readElements fuel .afterComma rest).2) := by
  rw [readElements, h]
  · cases n with
    | missing => exact absurd rfl (hn.ne_missing _ _)
    | _ => simp [ht']
  all_goals intro _; assumption

/-- The last element. -/
theorem readElements_close {fuel : Nat} (turn : Turn) {t t' : Token} {ts rest : List Token}
    {n : Node} {j : Json} (ha : t.kind ≠ .closeArray) (hf : t.kind ≠ .finish)
    (h : read fuel (t :: ts) = (n, t' :: rest)) (hn : n.Spells j) (ht' : t'.kind = .closeArray) :
    readElements (fuel + 1) turn (t :: ts) = ([n], .closed t'.stop, rest) := by
  rw [readElements, h]
  · cases n with
    | missing => exact absurd rfl (hn.ne_missing _ _)
    | _ => simp [ht']
  all_goals intro _; assumption

/-- The value of a member. -/
theorem readValue_colon {fuel : Nat} {t : Token} {ts : List Token} (ht : t.kind = .colon) :
    readValue (fuel + 1) (t :: ts) = read fuel ts := by
  rw [readValue, ht]

/-- A member before a comma. -/
theorem readMembers_comma {fuel : Nat} (turn : Turn) {t t' : Token} {ts rest : List Token}
    {key : String} {n : Node} {j : Json} (ht : t.kind = .string (.ok key))
    (h : readValue fuel ts = (n, t' :: rest)) (hn : n.Spells j) (ht' : t'.kind = .comma) :
    readMembers (fuel + 1) turn (t :: ts) =
      ((⟨.ok key, t.stop, ts⟩, n) :: (readMembers fuel .afterComma rest).1,
        (readMembers fuel .afterComma rest).2) := by
  simp only [readMembers, ht, h]
  cases n with
  | missing => exact absurd rfl (hn.ne_missing _ _)
  | _ => simp [ht']

/-- The last member. -/
theorem readMembers_close {fuel : Nat} (turn : Turn) {t t' : Token} {ts rest : List Token}
    {key : String} {n : Node} {j : Json} (ht : t.kind = .string (.ok key))
    (h : readValue fuel ts = (n, t' :: rest)) (hn : n.Spells j)
    (ht' : t'.kind = .closeObject) :
    readMembers (fuel + 1) turn (t :: ts) =
      ([(⟨.ok key, t.stop, ts⟩, n)], .closed t'.stop, rest) := by
  simp only [readMembers, ht, h]
  cases n with
  | missing => exact absurd rfl (hn.ne_missing _ _)
  | _ => simp [ht']

/-- The token of a scalar. -/
theorem read_scalar {fuel : Nat} {ts rest : List Token} {k : TokenKind} {v : Scalar}
    (h : ts.map Token.kind = [k])
    (hk : ∀ t : Token, t.kind = k →
      read (fuel + 1) (t :: rest) = (scalar v t.start t.stop rest, rest)) :
    ∃ start stop, read (fuel + 1) (ts ++ rest) = (scalar v start stop rest, rest) := by
  obtain ⟨t, rfl, ht⟩ := List.map_eq_singleton_iff.mp h
  exact ⟨t.start, t.stop, hk t ht⟩

/-- Tokens between brackets. -/
theorem exists_bracketed {ts : List Token} {o c : TokenKind} {ks : List TokenKind}
    (h : ts.map Token.kind = o :: (ks ++ [c])) : ∃ t us t', ts = t :: (us ++ [t']) ∧
      t.kind = o ∧ us.map Token.kind = ks ∧ t'.kind = c := by
  obtain ⟨t, _, rfl, ht, h⟩ := List.map_eq_cons_iff.mp h
  obtain ⟨us, _, rfl, hus, h⟩ := List.map_eq_append_iff.mp h
  obtain ⟨t', rfl, ht'⟩ := List.map_eq_singleton_iff.mp h
  exact ⟨t, us, t', rfl, ht, hus, ht'⟩

mutual

/-- **The tokens of a value are read as the value**, up to whatever follows them.  Two steps for
every token are enough, at every level: one for the value a token begins, and one for its place
among elements or members. -/
theorem read_of_kinds : ∀ (j : Json) (fuel : Nat) (ts rest : List Token),
    ts.map Token.kind = j.kinds → 2 * ts.length ≤ fuel + 1 →
    ∃ n, read (fuel + 1) (ts ++ rest) = (n, rest) ∧ n.following = rest ∧ n.Spells j
  | .null, _, _, _, h, _ => by
    obtain ⟨start, stop, hread⟩ := read_scalar h fun t ht => by rw [read, ht]
    exact ⟨_, hread, rfl, start, stop, _, rfl⟩
  | .bool b, _, _, _, h, _ => by
    obtain ⟨start, stop, hread⟩ := read_scalar h fun t ht => by rw [read, ht]
    exact ⟨_, hread, rfl, start, stop, _, rfl⟩
  | .number n, _, _, _, h, _ => by
    obtain ⟨start, stop, hread⟩ := read_scalar h fun t ht => by rw [read, ht]
    exact ⟨_, hread, rfl, start, stop, _, rfl⟩
  | .string s, _, _, _, h, _ => by
    obtain ⟨start, stop, hread⟩ := read_scalar h fun t ht => by rw [read, ht]
    exact ⟨_, hread, rfl, start, stop, _, rfl⟩
  | .array js, fuel, _, rest, h, hf => by
    obtain ⟨t, ts, t', rfl, ht, hts, ht'⟩ := exists_bracketed h
    simp only [List.length_cons, List.length_append, List.length_nil] at hf
    obtain ⟨fuel, rfl⟩ : ∃ f, fuel = f + 1 := ⟨fuel - 1, by omega⟩
    obtain ⟨ns, hns, hspells⟩ :=
      readElements_of_kinds js fuel .opening ts t' rest hts ht' (fun _ => rfl) (by omega)
    refine ⟨.array t.start ns (.closed t'.stop) rest, ?_, rfl, _, _, _, _, rfl, hspells⟩
    rw [List.cons_append, List.append_assoc, List.singleton_append, read, ht]
    simp only [hns]
  | .object js, fuel, _, rest, h, hf => by
    obtain ⟨t, ts, t', rfl, ht, hts, ht'⟩ := exists_bracketed h
    simp only [List.length_cons, List.length_append, List.length_nil] at hf
    obtain ⟨fuel, rfl⟩ : ∃ f, fuel = f + 1 := ⟨fuel - 1, by omega⟩
    obtain ⟨ms, hms, hspells⟩ :=
      readMembers_of_kinds js fuel .opening ts t' rest hts ht' (fun _ => rfl) (by omega)
    refine ⟨.object t.start ms (.closed t'.stop) rest, ?_, rfl, _, _, _, _, rfl, hspells⟩
    rw [List.cons_append, List.append_assoc, List.singleton_append, read, ht]
    simp only [hms]

theorem readElements_of_kinds : ∀ (js : List Json) (fuel : Nat) (turn : Turn) (ts : List Token)
    (t : Token) (rest : List Token), ts.map Token.kind = elementKinds js →
    t.kind = .closeArray → (js = [] → turn = .opening) → 2 * ts.length ≤ fuel →
    ∃ ns, readElements (fuel + 1) turn (ts ++ t :: rest) = (ns, .closed t.stop, rest) ∧
      SpellsElements ns js
  | [], fuel, turn, ts, t, rest, h, ht, hturn, _ => by
    obtain rfl := List.map_eq_nil_iff.mp h
    obtain rfl := hturn rfl
    exact ⟨[], by simp [readElements, ht], rfl⟩
  | [j], fuel, turn, ts, t, rest, h, ht, _, hf => by
    -- the first token is that of a value, so the list of elements does not end there
    obtain ⟨k, ks, hk, ha, hend⟩ := kinds_eq_cons j
    have h' := h
    rw [elementKinds, hk] at h'
    obtain ⟨u, us, rfl, rfl, -⟩ := List.map_eq_cons_iff.mp h'
    simp only [List.length_cons] at hf
    obtain ⟨fuel, rfl⟩ : ∃ f, fuel = f + 1 := ⟨fuel - 1, by omega⟩
    obtain ⟨n, hn, -, hspells⟩ := read_of_kinds j fuel (u :: us) (t :: rest) h (by simp; omega)
    exact ⟨[n], readElements_close turn ha hend hn hspells ht, n, [], rfl, hspells, rfl⟩
  | j :: j' :: js, fuel, turn, ts, t, rest, h, ht, _, hf => by
    obtain ⟨k, ks, hk, ha, hend⟩ := kinds_eq_cons j
    simp only [elementKinds] at h
    obtain ⟨ts, _, rfl, hts, h⟩ := List.map_eq_append_iff.mp h
    obtain ⟨comma, ts', rfl, hcomma, hts'⟩ := List.map_eq_cons_iff.mp h
    have h' := hts
    rw [hk] at h'
    obtain ⟨u, us, rfl, rfl, -⟩ := List.map_eq_cons_iff.mp h'
    simp only [List.length_cons, List.length_append] at hf
    obtain ⟨fuel, rfl⟩ : ∃ f, fuel = f + 1 := ⟨fuel - 1, by omega⟩
    obtain ⟨n, hn, -, hspells⟩ :=
      read_of_kinds j fuel (u :: us) (comma :: (ts' ++ t :: rest)) hts (by simp; omega)
    obtain ⟨ns, hns, hrest⟩ :=
      readElements_of_kinds (j' :: js) fuel .afterComma ts' t rest hts' ht nofun (by omega)
    have hstep := readElements_comma turn ha hend hn hspells hcomma
    rw [hns] at hstep
    simp only [List.cons_append, List.append_assoc]
    exact ⟨_, hstep, n, ns, rfl, hspells, hrest⟩

theorem readMembers_of_kinds : ∀ (js : List (String × Json)) (fuel : Nat) (turn : Turn)
    (ts : List Token) (t : Token) (rest : List Token), ts.map Token.kind = memberKinds js →
    t.kind = .closeObject → (js = [] → turn = .opening) → 2 * ts.length ≤ fuel →
    ∃ ms, readMembers (fuel + 1) turn (ts ++ t :: rest) = (ms, .closed t.stop, rest) ∧
      SpellsMembers ms js
  | [], fuel, turn, ts, t, rest, h, ht, hturn, _ => by
    obtain rfl := List.map_eq_nil_iff.mp h
    obtain rfl := hturn rfl
    exact ⟨[], by simp [readMembers, ht], rfl⟩
  | [(key, j)], fuel, turn, ts, t, rest, h, ht, _, hf => by
    rw [memberKinds] at h
    obtain ⟨u, _, rfl, hu, h⟩ := List.map_eq_cons_iff.mp h
    obtain ⟨colon, ts, rfl, hcolon, h⟩ := List.map_eq_cons_iff.mp h
    simp only [List.length_cons] at hf
    obtain ⟨fuel, rfl⟩ : ∃ f, fuel = f + 2 := ⟨fuel - 2, by omega⟩
    obtain ⟨n, hn, hfollowing, hspells⟩ := read_of_kinds j fuel ts (t :: rest) h (by omega)
    rw [← readValue_colon hcolon] at hn
    refine ⟨_, readMembers_close turn hu hn hspells ht, _, n, [], rfl, rfl, hspells, ?_, rfl⟩
    exact fun _ => ⟨t, by rw [hfollowing]; rfl, ht⟩
  | (key, j) :: m :: js, fuel, turn, ts, t, rest, h, ht, _, hf => by
    simp only [memberKinds] at h
    obtain ⟨u, _, rfl, hu, h⟩ := List.map_eq_cons_iff.mp h
    obtain ⟨colon, _, rfl, hcolon, h⟩ := List.map_eq_cons_iff.mp h
    obtain ⟨ts, _, rfl, hts, h⟩ := List.map_eq_append_iff.mp h
    obtain ⟨comma, ts', rfl, hcomma, h⟩ := List.map_eq_cons_iff.mp h
    simp only [List.length_cons, List.length_append] at hf
    obtain ⟨fuel, rfl⟩ : ∃ f, fuel = f + 2 := ⟨fuel - 2, by omega⟩
    obtain ⟨n, hn, -, hspells⟩ :=
      read_of_kinds j fuel ts (comma :: (ts' ++ t :: rest)) hts (by omega)
    obtain ⟨ms, hms, hrest⟩ :=
      readMembers_of_kinds (m :: js) (fuel + 1) .afterComma ts' t rest h ht nofun (by omega)
    rw [← readValue_colon hcolon] at hn
    have hstep := readMembers_comma turn hu hn hspells hcomma
    rw [hms] at hstep
    simp only [List.cons_append, List.append_assoc]
    exact ⟨_, hstep, _, n, ms, rfl, rfl, hspells, nofun, hrest⟩

end

/-- **A text made of the tokens of a value is read as the value**, up to its end. -/
theorem ofText_of_lexesTo {s : String} {j : Json} (h : LexesTo s.toList j.kinds) :
    (ofText s).Spells j ∧ ∃ t, (ofText s).following = [t] ∧ t.kind = .finish := by
  obtain ⟨ts, _, hts, hk, hfinish⟩ := List.map_eq_append_iff.mp (kind_tokens h)
  obtain ⟨t, rfl, ht⟩ := List.map_eq_singleton_iff.mp hfinish
  have hf : 2 * ts.length ≤ 2 * (ts ++ [t]).length + 1 + 1 := by simp; omega
  obtain ⟨n, hn, hfollowing, hspells⟩ := read_of_kinds j _ ts [t] hk hf
  have hof : ofText s = n := by rw [ofText, ofTokens, hts, hn]
  rw [hof]
  exact ⟨hspells, t, hfollowing, ht⟩

end Node

end Json

end DiffContents
