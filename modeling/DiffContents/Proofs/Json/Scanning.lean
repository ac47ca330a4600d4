import DiffContents.Json.Text
import DiffContents.Json.Token

/-!
# Strings and numbers read back

A string is written with an escape for every quote, backslash and control character, and scanning
what is written gives the string again, whatever its characters: one character at a time
(`scanString_escapeChar`), then all of them (`scanString_flatMap`).

A number of 64 bits is written in decimal digits.  Scanning them gives the number, provided
that the text after them does not go on with a number (`Stops`): the digits are told from the rest
(`spanDigits_append`), they do not begin with a needless zero (`digitValue_head_toDigits`), and
none of them is left out for want of room (`Numeral.absorb_map_digitValue`).
-/

namespace DiffContents

namespace Json

/-! ## Strings -/

theorem hexValue?_hexDigit : ∀ n < 16, hexValue? (hexDigit n) = some n := by decide

/-- A control character is its number in four hexadecimal digits. -/
theorem hex4?_control {n : Nat} (h : n < 0x20) :
    hex4? '0' '0' (hexDigit (n / 16)) (hexDigit (n % 16)) = some n := by
  have h0 : hexValue? '0' = some 0 := by decide
  have h1 := hexValue?_hexDigit (n / 16) (by omega)
  have h2 := hexValue?_hexDigit (n % 16) (by omega)
  simp only [hex4?, h0, h1, h2, Option.bind_eq_bind, Option.bind_some, Option.pure_def]
  congr 1
  omega

/-- A one-letter escape. -/
theorem scanString_simpleEscape {e c : Char} (h : simpleEscape? e = some c) (m : Mark)
    (done cs : List Char) :
    scanString m done none ('\\' :: e :: cs) = scanString (m.plus 2) (c :: done) none cs := by
  have hu : e ≠ 'u' := by rintro rfl; cases h
  rw [scanString]
  · simp only [h]
  · rintro _ _ _ _ _ rfl
    exact absurd rfl hu
  · rintro rfl
    exact absurd rfl hu

/-- A numeric escape that is no part of a surrogate pair. -/
theorem scanString_numericEscape {a b c d : Char} {n : Nat} (h : hex4? a b c d = some n)
    (hn : n < 0xd800) (m : Mark) (done cs : List Char) :
    scanString m done none ('\\' :: 'u' :: a :: b :: c :: d :: cs) =
      scanString (m.plus 6) (Char.ofNat n :: done) none cs := by
  have ht : isTrailing n = false := by simp [isTrailing]; omega
  have hl : isLeading n = false := by simp [isLeading]; omega
  rw [scanString]
  simp [h, ht, hl]

/-- A character that stands for itself. -/
theorem scanString_plain {c : Char} (hq : c ≠ '"') (hb : c ≠ '\\') (hc : ¬ c.toNat < 0x20)
    (m : Mark) (done cs : List Char) :
    scanString m done none (c :: cs) = scanString (m.after c) (c :: done) none cs := by
  rw [scanString]
  · rw [if_neg hc]
  all_goals intros; subst_vars; contradiction

/-- **What a character is written as is read as the character.** -/
theorem scanString_escapeChar (m : Mark) (done : List Char) (c : Char) (cs : List Char) :
    ∃ m', scanString m done none (escapeChar c ++ cs) = scanString m' (c :: done) none cs := by
  unfold escapeChar
  -- seven characters have an escape of one letter
  iterate 7
    split
    · subst c
      exact ⟨_, scanString_simpleEscape (by decide) m done cs⟩
  next hq hb _ _ _ _ _ =>
  split
  · next hc =>
    have h := scanString_numericEscape (hex4?_control hc) (by omega) m done cs
    rw [Char.ofNat_toNat] at h
    exact ⟨_, h⟩
  · next hc => exact ⟨_, scanString_plain hq hb hc m done cs⟩

/-- **What the characters of a string are written as is read as the string.** -/
theorem scanString_flatMap (m : Mark) (done cs rest : List Char) :
    ∃ m', scanString m done none (cs.flatMap escapeChar ++ '"' :: rest) =
      .closed (.ok (String.ofList (done.reverse ++ cs))) m' rest := by
  induction cs generalizing m done with
  | nil =>
    refine ⟨m.plus 1, ?_⟩
    rw [List.flatMap_nil, List.nil_append, scanString, List.append_nil]
  | cons c cs ih =>
    obtain ⟨m₁, h₁⟩ := scanString_escapeChar m done c (cs.flatMap escapeChar ++ '"' :: rest)
    obtain ⟨m₂, h₂⟩ := ih m₁ (c :: done)
    refine ⟨m₂, ?_⟩
    rw [List.flatMap_cons, List.append_assoc, h₁, h₂, List.reverse_cons, List.append_assoc,
      List.singleton_append]

/-! ## Numbers -/

/-- The character goes on with a number that stands before it. -/
def prolongs (c : Char) : Bool := c.isDigit || c = '.' || c = 'e' || c = 'E'

/-- A text that does not go on with a number. -/
def Stops (cs : List Char) : Prop := ∀ c ∈ cs.head?, prolongs c = false

@[simp] theorem stops_nil : Stops [] := by simp [Stops]

@[simp] theorem stops_cons {c : Char} {cs : List Char} :
    Stops (c :: cs) ↔ prolongs c = false := by
  simp [Stops]

theorem Stops.append {cs cs' : List Char} (h : Stops cs) (h' : Stops cs') :
    Stops (cs ++ cs') := by
  cases cs with
  | nil => exact h'
  | cons c cs => simpa using h

theorem spanDigits_append {ds rest : List Char} (hd : ∀ c ∈ ds, c.isDigit = true)
    (hr : Stops rest) : spanDigits (ds ++ rest) = (ds.map digitValue, rest) := by
  have hrest : rest.takeWhile Char.isDigit = [] ∧ rest.dropWhile Char.isDigit = rest := by
    cases rest with
    | nil => exact ⟨rfl, rfl⟩
    | cons c cs => simp_all [prolongs]
  rw [spanDigits, List.takeWhile_append_of_pos hd, List.dropWhile_append_of_pos hd, hrest.1,
    hrest.2, List.append_nil]

theorem exponentMark?_of_stops {cs : List Char} (h : Stops cs) : exponentMark? cs = none := by
  cases cs with
  | nil => rfl
  | cons c cs => simp_all [exponentMark?, prolongs]

/-- The first digit of a positive number is not zero. -/
theorem digitValue_head_toDigits {n : Nat} (hn : 0 < n) {c : Char} {ds : List Char}
    (h : Nat.toDigits 10 n = c :: ds) : digitValue c ≠ 0 := by
  induction n using Nat.strongRecOn generalizing ds with
  | _ n ih =>
    rcases Nat.lt_or_ge n 10 with hlt | hge
    · rw [Nat.toDigits_of_lt_base hlt] at h
      cases h
      rw [show digitValue n.digitChar = n from Nat.toNat_digitChar_sub_48_of_lt_ten hlt]
      exact Nat.ne_of_gt hn
    · -- the digits of a tenth of the number come first
      rw [Nat.toDigits_of_base_le (by decide) hge] at h
      cases hq : Nat.toDigits 10 (n / 10) with
      | nil => exact absurd hq Nat.toDigits_ne_nil
      | cons c' ds' =>
        rw [hq, List.cons_append] at h
        obtain ⟨rfl, -⟩ := List.cons.inj h
        exact ih (n / 10) (by omega) (by omega) hq

/-- The digits of a number of 64 bits are all taken in. -/
theorem Numeral.absorb_map_digitValue (ds : List Char) (n : Nat)
    (h : Nat.ofDigitChars 10 ds n < UInt64.size) :
    Numeral.absorb n (ds.map digitValue) = (Nat.ofDigitChars 10 ds n, []) := by
  induction ds generalizing n with
  | nil => simp [Numeral.absorb]
  | cons d ds ih =>
    have hd : 10 * n + (d.toNat - '0'.toNat) = n * 10 + digitValue d := by
      rw [Nat.mul_comm, digitValue]
    rw [Nat.ofDigitChars_cons, hd] at h ⊢
    have hn : n * 10 + digitValue d < UInt64.size := by
      rw [Nat.ofDigitChars_eq_ofDigitChars_zero] at h
      have := Nat.le_mul_of_pos_left (n * 10 + digitValue d)
        (Nat.pow_pos (n := ds.length) (by decide : 0 < 10))
      omega
    rw [List.map_cons, Numeral.absorb, if_pos hn, ih _ h]

/-- **The digits of a number of 64 bits are read as the number**, with the sign before them. -/
theorem scanNumber_toDigits (m : Mark) (negative : Bool) {n : Nat} (hn : n < UInt64.size)
    {rest : List Char} (hr : Stops rest) : ∃ m', scanNumber m negative
      (Nat.toDigits 10 n ++ rest) = .closed (.ok (Numeral.int negative n)) m' rest := by
  have hd : ∀ c ∈ Nat.toDigits 10 n, c.isDigit = true :=
    fun c hc => Nat.isDigit_of_mem_toDigits (by decide) (by decide) hc
  have ha := Numeral.absorb_map_digitValue (Nat.toDigits 10 n) 0
  rw [Nat.ofDigitChars_ten_toDigits] at ha
  rw [scanNumber, spanDigits_append hd hr]
  split
  · next h => simp at h
  · -- a zero before other digits: only the number zero begins with zero, and it has one digit
    next h =>
    exfalso
    obtain ⟨h, -⟩ := Prod.mk.inj h
    rcases Nat.eq_zero_or_pos n with rfl | hpos
    · simp [Nat.toDigits_zero] at h
    · obtain ⟨c, ds, hc, h0, -⟩ := List.map_eq_cons_iff.mp h
      exact digitValue_head_toDigits hpos hc h0
  · next whole rest' _ _ h =>
    cases h
    dsimp only
    split
    · simp [prolongs] at hr
    · rw [scanExponent, exponentMark?_of_stops hr]
      exact ⟨_, by simp [closeNumber, Numeral.value, ha hn]; rfl⟩

end Json

end DiffContents
