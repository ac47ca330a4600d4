import DiffContents.Proofs.Json.Scanning

/-!
# The tokens of a written value

A value has a list of tokens, `Json.kinds`, whatever layout it is written in.  `LexesTo cs ks` says
that a text is made of the tokens `ks`, with any text after it that does not go on with a number;
such texts may be put one after the other (`LexesTo.append`).

A plain value has no numbers but integers of 64 bits.  The main statements say that the text of
a plain value is made of its tokens, without white space (`lexesTo_compact`) and over several lines
(`lexesTo_pretty`).
-/

namespace DiffContents

namespace Json

/-! ## Texts made of tokens -/

/-- **The text is made of tokens of the given kinds**, wherever it stands. -/
def LexesTo (cs : List Char) (ks : List TokenKind) : Prop :=
  ∀ m rest, Stops rest → ∃ ts m',
    tokensFrom m (cs ++ rest) = ts ++ tokensFrom m' rest ∧ ts.map Token.kind = ks

theorem lexesTo_nil : LexesTo [] [] := fun m _ _ => ⟨[], m, rfl, rfl⟩

/-- Two texts one after the other, if the second does not go on with a number. -/
theorem LexesTo.append {cs cs' : List Char} {ks ks' : List TokenKind} (h : LexesTo cs ks)
    (h' : LexesTo cs' ks') (hs : Stops cs') : LexesTo (cs ++ cs') (ks ++ ks') := by
  intro m rest hr
  obtain ⟨ts, m₁, h₁, rfl⟩ := h m (cs' ++ rest) (hs.append hr)
  obtain ⟨ts', m₂, h₂, rfl⟩ := h' m₁ rest hr
  refine ⟨ts ++ ts', m₂, ?_, List.map_append⟩
  rw [List.append_assoc, List.append_assoc, h₁, h₂]

theorem ne_of_isDigit {c c' : Char} (hc : c.isDigit = true) (h : c'.isDigit = false) :
    c ≠ c' := by
  rintro rfl
  simp [h] at hc

theorem punctuation?_of_isDigit {c : Char} (hc : c.isDigit = true) : punctuation? c = none := by
  simp only [punctuation?]
  repeat rw [if_neg (ne_of_isDigit hc (by decide))]

/-- A token of one character ends with it, whatever follows. -/
theorem LexesTo.punctuation {c : Char} {k : TokenKind} (hc : punctuation? c = some k)
    {cs : List Char} {ks : List TokenKind} (h : LexesTo cs ks) :
    LexesTo (c :: cs) (k :: ks) := by
  intro m rest hr
  have hblank : isBlank c = false := by
    cases hb : isBlank c with
    | false => rfl
    | true =>
      simp only [isBlank, Bool.or_eq_true, decide_eq_true_eq] at hb
      rcases hb with ((rfl | rfl) | rfl) | rfl <;> cases hc
  obtain ⟨ts, m', h', rfl⟩ := h (m.plus 1) rest hr
  refine ⟨⟨m, m.plus 1, k, m.plus 1⟩ :: ts, m', ?_, rfl⟩
  rw [List.cons_append, tokensFrom, hblank]
  simp [scan, hc, h']

/-- White space before a text. -/
theorem LexesTo.blanks {bs cs : List Char} {ks : List TokenKind}
    (hb : ∀ c ∈ bs, isBlank c = true) (h : LexesTo cs ks) : LexesTo (bs ++ cs) ks := by
  induction bs with
  | nil => exact h
  | cons b bs ih =>
    intro m rest hr
    have hbs : ∀ c ∈ bs, isBlank c = true := fun c hc => hb c (List.mem_cons_of_mem b hc)
    obtain ⟨ts, m', h', rfl⟩ := ih hbs (m.after b) rest hr
    refine ⟨ts, m', ?_, rfl⟩
    rw [List.cons_append, List.cons_append, tokensFrom, if_pos (hb b List.mem_cons_self), h']

theorem LexesTo.lineBreak {cs : List Char} {ks : List TokenKind} (n : Nat)
    (h : LexesTo cs ks) : LexesTo (lineBreak n ++ cs) ks := by
  refine h.blanks fun c hc => ?_
  rcases List.mem_cons.mp hc with rfl | hc
  · rfl
  · rw [List.eq_of_mem_replicate hc]
    rfl

/-- Two texts with punctuation between them. -/
theorem LexesTo.separated {cs cs' : List Char} {ks ks' : List TokenKind} {c : Char}
    {k : TokenKind} (h : LexesTo cs ks) (hc : punctuation? c = some k) (h' : LexesTo cs' ks') :
    LexesTo (cs ++ c :: cs') (ks ++ k :: ks') := by
  refine h.append (h'.punctuation hc) (stops_cons.mpr ?_)
  rw [Bool.eq_false_iff]
  intro hp
  simp only [prolongs, Bool.or_eq_true, decide_eq_true_eq] at hp
  rcases hp with ((hd | rfl) | rfl) | rfl
  · rw [punctuation?_of_isDigit hd] at hc
    cases hc
  all_goals cases hc

/-- A text between brackets, on lines of its own. -/
theorem LexesTo.bracketed {o c : Char} {ko kc : TokenKind} (ho : punctuation? o = some ko)
    (hc : punctuation? c = some kc) {cs : List Char} {ks : List TokenKind} (n : Nat)
    (h : LexesTo cs ks) :
    LexesTo (o :: (Json.lineBreak (n + 1) ++ cs ++ Json.lineBreak n ++ [c]))
      (ko :: (ks ++ [kc])) := by
  have hclose := (LexesTo.punctuation hc lexesTo_nil).lineBreak n
  have hall := (h.lineBreak (n + 1)).append hclose (stops_cons.mpr rfl)
  rw [← List.append_assoc] at hall
  exact hall.punctuation ho

/-- A token of several characters. -/
theorem lexesTo_token {c : Char} {cs : List Char} {k : TokenKind} (hc : isBlank c = false)
    (h : ∀ m rest, Stops rest →
      ∃ t, scan m c (cs ++ rest) = ⟨t, rest⟩ ∧ t.kind = k) : LexesTo (c :: cs) [k] := by
  intro m rest hr
  obtain ⟨t, ht, rfl⟩ := h m rest hr
  refine ⟨[t], t.stop, ?_, rfl⟩
  rw [List.cons_append, tokensFrom, hc, ht]
  rfl

theorem lexesTo_stringChars (s : String) : LexesTo (stringChars s) [.string (.ok s)] := by
  refine lexesTo_token (by decide) fun m rest _ => ?_
  -- the closing quote ends the token, so nothing is asked of `rest`
  obtain ⟨m', h⟩ := scanString_flatMap (m.plus 1) [] s.toList rest
  have hscan : ∀ cs, scan m '"' cs = .ofString m (scanString (m.plus 1) [] none cs) :=
    fun _ => rfl
  rw [hscan, List.append_eq, List.append_assoc, List.singleton_append, h]
  exact ⟨_, rfl, by simp⟩

/-- A digit begins a number. -/
theorem scan_of_isDigit {c : Char} (hc : c.isDigit = true) (m : Mark) (cs : List Char) :
    scan m c cs = .ofNumber m (scanNumber m false (c :: cs)) := by
  simp only [scan, punctuation?_of_isDigit hc]
  repeat rw [if_neg (ne_of_isDigit hc (by decide))]
  rw [if_pos hc]

theorem lexesTo_toDigits {n : Nat} (hn : n < UInt64.size) :
    LexesTo (Nat.toDigits 10 n) [.number (.ok (.int n))] := by
  cases hd : Nat.toDigits 10 n with
  | nil => exact absurd hd Nat.toDigits_ne_nil
  | cons c cs =>
    have hc : c.isDigit = true :=
      Nat.isDigit_of_mem_toDigits (by decide) (by decide) (hd ▸ List.mem_cons_self)
    have hblank : isBlank c = false := by
      simp [isBlank, ne_of_isDigit hc]
    refine lexesTo_token hblank fun m rest hr => ?_
    obtain ⟨m', h⟩ := scanNumber_toDigits m false hn hr
    rw [scan_of_isDigit hc, ← List.cons_append, ← hd, h]
    exact ⟨_, rfl, rfl⟩

theorem lexesTo_minus {n : Nat} (h0 : 0 < n) (hn : n ≤ 0x8000000000000000) :
    LexesTo ('-' :: Nat.toDigits 10 n) [.number (.ok (.int (-n)))] := by
  refine lexesTo_token (by decide) fun m rest hr => ?_
  have hsize : n < UInt64.size := Nat.lt_of_le_of_lt hn (by decide)
  obtain ⟨m', h⟩ := scanNumber_toDigits (m.plus 1) true hsize hr
  have hscan : ∀ cs, scan m '-' cs = .ofNumber m (scanNumber (m.plus 1) true cs) := fun _ => rfl
  have hint : Numeral.int true n = .int (-n) := by
    simp only [Numeral.int, decide_eq_true h0, decide_eq_true hn, Bool.and_self, if_true]
  rw [hscan, h, hint]
  exact ⟨_, rfl, rfl⟩

/-- A word is read as far as it goes. -/
theorem scanWord_append (m : Mark) (ws rest : List Char) :
    ∃ m', scanWord m ws (ws ++ rest) = .ok (m', rest) := by
  induction ws generalizing m with
  | nil => exact ⟨m, rfl⟩
  | cons w ws ih => simpa [scanWord] using ih (m.plus 1)

theorem lexesTo_word {c : Char} {ws : List Char} {k : TokenKind} (hc : isBlank c = false)
    (h : ∀ m cs, scan m c cs = .ofWord m k (scanWord (m.plus 1) ws cs)) :
    LexesTo (c :: ws) [k] := by
  refine lexesTo_token hc fun m rest _ => ?_
  obtain ⟨m', hw⟩ := scanWord_append (m.plus 1) ws rest
  rw [h, hw]
  exact ⟨_, rfl, rfl⟩

/-! ## The tokens of a value -/

mutual

/-- **The kinds of the tokens of a value.** -/
def kinds : Json → List TokenKind
  | .null => [.null]
  | .bool b => [.bool b]
  | .number n => [.number (.ok n)]
  | .string s => [.string (.ok s)]
  | .array elements => .openArray :: (elementKinds elements ++ [.closeArray])
  | .object members => .openObject :: (memberKinds members ++ [.closeObject])

/-- The tokens of elements, with commas between them. -/
def elementKinds : List Json → List TokenKind
  | [] => []
  | [j] => kinds j
  | j :: js => kinds j ++ .comma :: elementKinds js

/-- The tokens of members, with commas between them. -/
def memberKinds : List (String × Json) → List TokenKind
  | [] => []
  | [(name, j)] => .string (.ok name) :: .colon :: kinds j
  | (name, j) :: ms => .string (.ok name) :: .colon :: (kinds j ++ .comma :: memberKinds ms)

end

mutual

/-- **All numbers of the value are integers of 64 bits**, with or without a sign. -/
def Plain : Json → Prop
  | .number (.int n) => -0x8000000000000000 ≤ n ∧ n < UInt64.size
  | .number (.float _) => False
  | .array elements => PlainElements elements
  | .object members => PlainMembers members
  | .null | .bool _ | .string _ => True

/-- All elements are plain. -/
def PlainElements : List Json → Prop
  | [] => True
  | j :: js => Plain j ∧ PlainElements js

/-- The values of all members are plain. -/
def PlainMembers : List (String × Json) → Prop
  | [] => True
  | (_, j) :: ms => Plain j ∧ PlainMembers ms

end

/-- The digits of a natural number. -/
theorem chars_natCast (n : Nat) : Number.chars (.int n) = Nat.toDigits 10 n := by
  rw [Number.chars, show toString (n : Int) = n.repr from rfl, Nat.toList_repr]

/-- The digits of a negative number. -/
theorem chars_negSucc (n : Nat) :
    Number.chars (.int (.negSucc n)) = '-' :: Nat.toDigits 10 (n + 1) := by
  rw [Number.chars, show toString (Int.negSucc n) = "-" ++ (n + 1).repr from rfl,
    String.toList_append, Nat.toList_repr]
  rfl

/-- An integer of 64 bits is one token. -/
theorem lexesTo_int {n : Int} (h : -0x8000000000000000 ≤ n) (h' : n < UInt64.size) :
    LexesTo (Number.chars (.int n)) [.number (.ok (.int n))] := by
  cases n with
  | ofNat n =>
    rw [Int.ofNat_eq_natCast] at h' ⊢
    rw [chars_natCast]
    exact lexesTo_toDigits (by omega)
  | negSucc n =>
    rw [chars_negSucc]
    exact lexesTo_minus (Nat.succ_pos n) (by omega)

mutual

/-- **A plain value without white space is made of its tokens.** -/
theorem lexesTo_compactChars : ∀ j : Json, j.Plain → LexesTo j.compactChars j.kinds
  | .null, _ => lexesTo_word (by decide) fun _ _ => rfl
  | .bool true, _ => lexesTo_word (by decide) fun _ _ => rfl
  | .bool false, _ => lexesTo_word (by decide) fun _ _ => rfl
  | .number (.int _), h => lexesTo_int h.1 h.2
  | .number (.float _), h => h.elim
  | .string s, _ => lexesTo_stringChars s
  | .array es, h => .punctuation rfl ((lexesTo_compactElements es h).separated rfl lexesTo_nil)
  | .object ms, h => .punctuation rfl ((lexesTo_compactMembers ms h).separated rfl lexesTo_nil)

theorem lexesTo_compactElements : ∀ es : List Json, PlainElements es →
    LexesTo (compactElements es) (elementKinds es)
  | [], _ => lexesTo_nil
  | [j], h => lexesTo_compactChars j h.1
  | j :: j' :: js, h =>
    (lexesTo_compactChars j h.1).separated rfl (lexesTo_compactElements (j' :: js) h.2)

theorem lexesTo_compactMembers : ∀ ms : List (String × Json), PlainMembers ms →
    LexesTo (compactMembers ms) (memberKinds ms)
  | [], _ => lexesTo_nil
  | [(name, j)], h => (lexesTo_stringChars name).separated rfl (lexesTo_compactChars j h.1)
  | (name, j) :: m :: ms, h =>
    (lexesTo_stringChars name).separated rfl
      ((lexesTo_compactChars j h.1).separated rfl (lexesTo_compactMembers (m :: ms) h.2))

end

/-- A member with a space before its value. -/
theorem lexesTo_member (name : String) {j : Json} {cs : List Char} (h : LexesTo cs j.kinds) :
    LexesTo (stringChars name ++ ':' :: ' ' :: cs) (memberKinds [(name, j)]) :=
  (lexesTo_stringChars name).separated rfl
    (show LexesTo ([' '] ++ cs) j.kinds from h.blanks (by simp [isBlank]))

mutual

/-- **A plain value over several lines is made of its tokens.** -/
theorem lexesTo_prettyChars : ∀ (j : Json) (n : Nat), j.Plain → LexesTo (j.prettyChars n) j.kinds
  | .null, _, _ => lexesTo_word (by decide) fun _ _ => rfl
  | .bool true, _, _ => lexesTo_word (by decide) fun _ _ => rfl
  | .bool false, _, _ => lexesTo_word (by decide) fun _ _ => rfl
  | .number x, _, h => lexesTo_compactChars (.number x) h
  | .string s, _, _ => lexesTo_stringChars s
  | .array [], _, _ => .punctuation rfl (.punctuation rfl lexesTo_nil)
  | .array (j :: js), n, h => by
    -- only the elements after the first one are recursed on, so the text of the first is carried
    have hfirst := lexesTo_prettyChars j (n + 1) h.1
    have hall := lexesTo_prettyElements j js (n + 1) _ h.2 hfirst
    simpa [prettyChars, kinds] using hall.bracketed (o := '[') (c := ']') rfl rfl n
  | .object [], _, _ => .punctuation rfl (.punctuation rfl lexesTo_nil)
  | .object ((name, j) :: ms), n, h => by
    have hfirst := lexesTo_member name (lexesTo_prettyChars j (n + 1) h.1)
    have hall := lexesTo_prettyMembers name j ms (n + 1) _ h.2 hfirst
    simpa [prettyChars, kinds] using hall.bracketed (o := '{') (c := '}') rfl rfl n

theorem lexesTo_prettyElements : ∀ (j : Json) (js : List Json) (n : Nat) (cs : List Char),
    PlainElements js → LexesTo cs j.kinds →
    LexesTo (cs ++ prettyElements n js) (elementKinds (j :: js))
  | j, [], _, cs, _, h => by simpa [prettyElements, elementKinds] using h
  | j, j' :: js, n, cs, hp, h => by
    have hnext := lexesTo_prettyElements j' js n _ hp.2 (lexesTo_prettyChars j' n hp.1)
    simpa [prettyElements, elementKinds] using h.separated (c := ',') rfl (hnext.lineBreak n)

theorem lexesTo_prettyMembers : ∀ (name : String) (j : Json) (ms : List (String × Json))
    (n : Nat) (cs : List Char), PlainMembers ms → LexesTo cs (memberKinds [(name, j)]) →
    LexesTo (cs ++ prettyMembers n ms) (memberKinds ((name, j) :: ms))
  | name, j, [], _, cs, _, h => by simpa [prettyMembers] using h
  | name, j, (name', j') :: ms, n, cs, hp, h => by
    have hfirst := lexesTo_member name' (lexesTo_prettyChars j' n hp.1)
    have hnext := lexesTo_prettyMembers name' j' ms n _ hp.2 hfirst
    simpa [prettyMembers, memberKinds] using h.separated (c := ',') rfl (hnext.lineBreak n)

end

/-- The tokens of a text: those it is made of, and the end. -/
theorem kind_tokens {s : String} {ks : List TokenKind} (h : LexesTo s.toList ks) :
    (tokens s).map Token.kind = ks ++ [.finish] := by
  obtain ⟨ts, m', ht, hk⟩ := h .first [] stops_nil
  rw [List.append_nil] at ht
  rw [tokens, ht, List.map_append, hk, tokensFrom, List.map_singleton]

theorem lexesTo_compact {j : Json} (h : j.Plain) : LexesTo j.compact.toList j.kinds := by
  rw [compact, String.toList_ofList]
  exact lexesTo_compactChars j h

theorem lexesTo_pretty {j : Json} (h : j.Plain) : LexesTo j.pretty.toList j.kinds := by
  rw [pretty, String.toList_ofList]
  exact lexesTo_prettyChars j 0 h

end Json

end DiffContents
