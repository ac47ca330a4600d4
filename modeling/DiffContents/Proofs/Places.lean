import DiffContents.Naming
import Mathlib.Data.List.DropRight
import Mathlib.Data.String.Basic

/-! # Places in a source

A source is measured in bytes, in characters and in lines, and a span holds a place in all three
measures.  The place of a byte offset is reached by the characters that begin before it
(`Position.reached`), and counting lines and columns along them comes to one more than the line
feeds among them and one more than the characters after the last of these (`Position.IsAfter`): each
character keeps this up (`IsAfter.next`), and so does any run of them (`isAfter_foldl_next`), as
long as the numbers of 32 bits have room.  Offsets in order reach more and more characters
(`reached_mono`), so their places are in order too.

The text between two offsets exists exactly if it stands between two texts of the right numbers of
bytes (`Source.slice?_eq_some_iff`).
-/
namespace DiffContents

open String (utf8Len)

namespace Position

/-! ## The characters before an offset -/

/-- The characters that begin before a byte offset. -/
def reached : Nat → List Char → List Char
  | _, [] => []
  | 0, _ => []
  | n + 1, c :: cs => c :: reached (n + 1 - c.utf8Size) cs

@[simp] theorem reached_nil (n : Nat) : reached n [] = [] := by
  cases n <;> rfl

@[simp] theorem reached_zero (cs : List Char) : reached 0 cs = [] := by
  cases cs <;> rfl

theorem reached_succ (n : Nat) (c : Char) (cs : List Char) :
    reached (n + 1) (c :: cs) = c :: reached (n + 1 - c.utf8Size) cs := rfl

/-- Only the characters before the offset are read. -/
theorem advance_eq_foldl (p : Position) (n : Nat) (cs : List Char) :
    p.advance n cs = (reached n cs).foldl next p := by
  induction cs generalizing p n with
  | nil => simp
  | cons c cs ih =>
    cases n with
    | zero => simp
    | succ n => rw [advance_succ, reached_succ, List.foldl_cons, ih]

theorem reached_isPrefix (n : Nat) (cs : List Char) : reached n cs <+: cs := by
  induction cs generalizing n with
  | nil => simp
  | cons c cs ih =>
    cases n with
    | zero => simp
    | succ n => exact List.cons_prefix_cons.mpr ⟨rfl, ih _⟩

/-- **A later offset** is reached by the same characters and maybe more. -/
theorem reached_mono {m n : Nat} (h : m ≤ n) (cs : List Char) :
    reached m cs <+: reached n cs := by
  induction cs generalizing m n with
  | nil => simp
  | cons c cs ih =>
    cases m with
    | zero => simp
    | succ m =>
      obtain ⟨n, rfl⟩ : ∃ k, n = k + 1 := ⟨n - 1, by omega⟩
      rw [reached_succ, reached_succ]
      exact List.cons_prefix_cons.mpr ⟨rfl, ih (by omega)⟩

/-- Characters that end before the offset are all reached. -/
theorem reached_add (xs ys : List Char) (k : Nat) :
    reached (utf8Len xs + k) (xs ++ ys) = xs ++ reached k ys := by
  induction xs with
  | nil => simp
  | cons c cs ih =>
    have hpos := c.utf8Size_pos
    obtain ⟨n, hn⟩ : ∃ n, utf8Len (c :: cs) + k = n + 1 :=
      ⟨utf8Len (c :: cs) + k - 1, by simp; omega⟩
    have hrest : n + 1 - c.utf8Size = utf8Len cs + k := by
      rw [← hn, String.utf8Len_cons]
      omega
    rw [hn, List.cons_append, reached_succ, hrest, ih, List.cons_append]

/-- Up to a boundary between characters just the characters before it are reached. -/
theorem reached_boundary (xs ys : List Char) : reached (utf8Len xs) (xs ++ ys) = xs := by
  have h := reached_add xs ys 0
  rwa [reached_zero, List.append_nil, Nat.add_zero] at h

/-- A boundary between characters is reached by characters of so many bytes. -/
theorem utf8Len_reached_of_isValid {source : String} {n : Nat}
    (h : String.Pos.Raw.IsValid source ⟨n⟩) : utf8Len (reached n source.toList) = n := by
  obtain ⟨p, s, rfl, hn⟩ := String.Pos.Raw.isValid_iff_exists_append.mp h
  obtain rfl : n = p.utf8ByteSize := congrArg String.Pos.Raw.byteIdx hn
  rw [String.toList_append, ← String.utf8Len_toList, reached_boundary]

/-- From behind its first byte to its end a character is the last one reached. -/
theorem reached_inside (xs ys : List Char) (c : Char) {k : Nat} (h0 : 0 < k)
    (hk : k ≤ c.utf8Size) : reached (utf8Len xs + k) (xs ++ c :: ys) = xs ++ [c] := by
  obtain ⟨k, rfl⟩ : ∃ j, k = j + 1 := ⟨k - 1, by omega⟩
  have hrest : k + 1 - c.utf8Size = 0 := by omega
  rw [reached_add, reached_succ, hrest, reached_zero]

/-- At the end, and past it, all characters are reached. -/
theorem reached_of_le {n : Nat} {cs : List Char} (h : utf8Len cs ≤ n) : reached n cs = cs := by
  have hadd := reached_add cs [] (n - utf8Len cs)
  rwa [Nat.add_sub_cancel' h, List.append_nil, reached_nil, List.append_nil] at hadd

/-! ## Lines and columns -/

/-- The characters of a text after its last line feed. -/
def lastLine (cs : List Char) : List Char := cs.rtakeWhile (· ≠ '\n')

/-- **The position is that after a text**: its line is counted by the line feeds in the text, its
column by the characters after the last of them. -/
structure IsAfter (p : Position) (cs : List Char) : Prop where
  line : p.line.toNat = 1 + cs.count '\n'
  column : p.column.toNat = 1 + (lastLine cs).length

theorem length_lastLine_le (cs : List Char) : (lastLine cs).length ≤ cs.length :=
  (List.rtakeWhile_suffix _ cs).length_le

/-- A text without a line feed goes on with the last line of the text before it. -/
theorem lastLine_append {ys : List Char} (h : '\n' ∉ ys) (xs : List Char) :
    lastLine (xs ++ ys) = lastLine xs ++ ys := by
  have hpos : ∀ c ∈ ys.reverse, (decide (c ≠ '\n')) = true := by
    intro c hc
    rw [decide_eq_true_eq]
    rintro rfl
    exact h (List.mem_reverse.mp hc)
  unfold lastLine List.rtakeWhile
  rw [List.reverse_append, List.takeWhile_append_of_pos hpos, List.reverse_append,
    List.reverse_reverse]

theorem isAfter_first : first.IsAfter [] := ⟨rfl, rfl⟩

/-- **One more character** moves the position on, while there is room for its numbers. -/
theorem IsAfter.next {p : Position} {cs : List Char} (h : p.IsAfter cs) (c : Char)
    (hlen : cs.length + 1 < 2 ^ 32 - 1) : (p.next c).IsAfter (cs ++ [c]) := by
  have hline : cs.count '\n' ≤ cs.length := List.count_le_length
  have hcolumn := length_lastLine_le cs
  obtain ⟨hl, hc⟩ := h
  unfold Position.next
  by_cases hfeed : c = '\n'
  · subst hfeed
    rw [if_pos rfl]
    constructor
    · rw [UInt32.toNat_add, hl, List.count_append]
      show (1 + cs.count '\n' + 1) % 2 ^ 32 = 1 + (cs.count '\n' + 1)
      omega
    · unfold lastLine
      rw [List.rtakeWhile_concat_neg _ _ _ (by simp)]
      rfl
  · rw [if_neg hfeed]
    have hmem : '\n' ∉ [c] := by simpa using Ne.symm hfeed
    constructor
    · rw [List.count_append, List.count_eq_zero.mpr hmem]
      exact hl
    · rw [lastLine_append hmem, List.length_append, UInt32.toNat_add, hc]
      show (1 + (lastLine cs).length + 1) % 2 ^ 32 = 1 + ((lastLine cs).length + 1)
      omega

/-- **Counting along a text** comes to the position after it. -/
theorem isAfter_foldl_next (cs : List Char) (hlen : cs.length < 2 ^ 32 - 1) :
    (cs.foldl Position.next first).IsAfter cs := by
  induction cs using List.reverseRecOn with
  | nil => exact isAfter_first
  | append_singleton cs c ih =>
    rw [List.length_append, List.length_singleton] at hlen
    rw [List.foldl_append, List.foldl_cons, List.foldl_nil]
    exact (ih (by omega)).next c hlen

/-! ## The order of positions -/

/-- Positions are ordered by their lines, and on one line by their columns. -/
instance : LT Position := ⟨fun p q => p.line < q.line ∨ p.line = q.line ∧ p.column < q.column⟩

instance : LE Position := ⟨fun p q => p < q ∨ p = q⟩

/-- **The position after more text** comes later. -/
theorem IsAfter.lt {p q : Position} {xs ys : List Char} (hp : p.IsAfter xs)
    (hq : q.IsAfter (xs ++ ys)) (hne : ys ≠ []) : p < q := by
  have hline := hp.line
  have hline' := hq.line
  rw [List.count_append] at hline'
  by_cases hfeed : '\n' ∈ ys
  · have hpos : 0 < ys.count '\n' := List.count_pos_iff.mpr hfeed
    apply Or.inl
    rw [UInt32.lt_iff_toNat_lt]
    omega
  · have hzero : ys.count '\n' = 0 := List.count_eq_zero.mpr hfeed
    have hcolumn := hp.column
    have hcolumn' := hq.column
    rw [lastLine_append hfeed, List.length_append] at hcolumn'
    have hlen : 0 < ys.length := List.length_pos_iff.mpr hne
    apply Or.inr
    constructor
    · apply UInt32.toNat_inj.mp
      omega
    · rw [UInt32.lt_iff_toNat_lt]
      omega

variable {source : String}

/-- The position of an offset comes after the characters that begin before it. -/
theorem isAfter_ofOffset (hlen : source.length < 2 ^ 32 - 1) (n : Nat) :
    (ofOffset source n).IsAfter (reached n source.toList) := by
  have hle := (reached_isPrefix n source.toList).length_le
  rw [String.length_toList] at hle
  rw [ofOffset, advance_eq_foldl]
  exact isAfter_foldl_next _ (by omega)

/-- Of two offsets in order, one that reaches more characters has a later position. -/
theorem ofOffset_lt_of_reached_ne (hlen : source.length < 2 ^ 32 - 1) {m n : Nat} (h : m ≤ n)
    (hne : reached m source.toList ≠ reached n source.toList) :
    ofOffset source m < ofOffset source n := by
  obtain ⟨ys, hys⟩ := reached_mono h source.toList
  have hn := isAfter_ofOffset hlen n
  rw [← hys] at hn hne
  refine (isAfter_ofOffset hlen m).lt hn ?_
  rintro rfl
  exact hne (List.append_nil _).symm

/-- Offsets that reach the same characters have the same position. -/
theorem ofOffset_congr {m n : Nat} (h : reached m source.toList = reached n source.toList) :
    ofOffset source m = ofOffset source n := by
  rw [ofOffset, ofOffset, advance_eq_foldl, advance_eq_foldl, h]

/-- **Offsets in order have positions in order.** -/
theorem ofOffset_mono (hlen : source.length < 2 ^ 32 - 1) {m n : Nat} (h : m ≤ n) :
    ofOffset source m ≤ ofOffset source n := by
  by_cases hsame : reached m source.toList = reached n source.toList
  · exact Or.inr (ofOffset_congr hsame)
  · exact Or.inl (ofOffset_lt_of_reached_ne hlen h hsame)

end Position

/-! ## The text of a span -/

namespace Source

/-- What begins with a character and takes bytes begins with this character. -/
theorem exists_of_utf8Len_succ {c : Char} {cs xs ys : List Char} {n : Nat}
    (h : c :: cs = xs ++ ys) (hlen : utf8Len xs = n + 1) :
    ∃ xs', xs = c :: xs' ∧ cs = xs' ++ ys ∧ c.utf8Size ≤ n + 1 ∧
      utf8Len xs' = n + 1 - c.utf8Size := by
  cases xs with
  | nil => cases hlen
  | cons d xs =>
    obtain ⟨rfl, rfl⟩ := List.cons.inj h
    rw [String.utf8Len_cons] at hlen
    exact ⟨xs, rfl, rfl, by omega, by omega⟩

theorem dropBytes?_eq_some_iff {n : Nat} {cs ys : List Char} :
    dropBytes? n cs = some ys ↔ ∃ xs, cs = xs ++ ys ∧ utf8Len xs = n := by
  fun_induction dropBytes? n cs with
  | case1 cs =>
    simp only [Option.some.injEq, String.utf8Len_eq_zero]
    exact ⟨fun h => ⟨[], h, rfl⟩, by rintro ⟨_, h, rfl⟩; exact h⟩
  | case2 n => simp
  | case3 n c cs hc ih =>
    rw [ih]
    constructor
    · rintro ⟨xs, rfl, hxs⟩
      exact ⟨c :: xs, rfl, by rw [String.utf8Len_cons, hxs, Nat.sub_add_cancel hc]⟩
    · rintro ⟨xs, hcs, hxs⟩
      obtain ⟨xs, -, hcs, -, hxs⟩ := exists_of_utf8Len_succ hcs hxs
      exact ⟨xs, hcs, hxs⟩
  | case4 n c cs hc =>
    simp only [reduceCtorEq, false_iff]
    rintro ⟨xs, hcs, hxs⟩
    obtain ⟨-, -, -, hle, -⟩ := exists_of_utf8Len_succ hcs hxs
    exact hc hle

theorem takeBytes?_eq_some_iff {n : Nat} {cs xs : List Char} :
    takeBytes? n cs = some xs ↔ ∃ ys, cs = xs ++ ys ∧ utf8Len xs = n := by
  fun_induction takeBytes? n cs generalizing xs with
  | case1 cs =>
    simp only [Option.some.injEq, String.utf8Len_eq_zero]
    exact ⟨fun h => ⟨cs, by rw [← h]; rfl, h.symm⟩, fun ⟨_, _, h⟩ => h.symm⟩
  | case2 n =>
    simp only [reduceCtorEq, false_iff]
    rintro ⟨ys, hnil, hxs⟩
    obtain ⟨rfl, -⟩ := List.append_eq_nil_iff.mp hnil.symm
    cases hxs
  | case3 n c cs hc ih =>
    rw [Option.map_eq_some_iff]
    constructor
    · rintro ⟨xs, hxs, rfl⟩
      obtain ⟨ys, rfl, hlen⟩ := ih.mp hxs
      exact ⟨ys, rfl, by rw [String.utf8Len_cons, hlen, Nat.sub_add_cancel hc]⟩
    · rintro ⟨ys, hcs, hxs⟩
      obtain ⟨xs, rfl, hcs, -, hxs⟩ := exists_of_utf8Len_succ hcs hxs
      exact ⟨xs, ih.mpr ⟨ys, hcs, hxs⟩, rfl⟩
  | case4 n c cs hc =>
    simp only [reduceCtorEq, false_iff]
    rintro ⟨ys, hcs, hxs⟩
    obtain ⟨-, -, -, hle, -⟩ := exists_of_utf8Len_succ hcs hxs
    exact hc hle

/-- **The text between two offsets** is what stands between texts of so many bytes. -/
theorem slice?_eq_some_iff {source t : String} {a b : Nat} : slice? source a b = some t ↔
    ∃ p s, source = p ++ t ++ s ∧ p.utf8ByteSize = a ∧ (p ++ t).utf8ByteSize = b := by
  unfold slice?
  constructor
  · intro h
    split at h
    · next hab =>
      obtain ⟨rest, hrest, h⟩ := Option.bind_eq_some_iff.mp h
      obtain ⟨ts, hts, rfl⟩ := Option.map_eq_some_iff.mp h
      obtain ⟨xs, hxs, hlen⟩ := dropBytes?_eq_some_iff.mp hrest
      obtain ⟨ys, rfl, hlen'⟩ := takeBytes?_eq_some_iff.mp hts
      refine ⟨.ofList xs, .ofList ys, ?_, ?_, ?_⟩
      · rw [← String.ofList_append, ← String.ofList_append, List.append_assoc, ← hxs,
          String.ofList_toList]
      · rw [String.utf8ByteSize_ofList, hlen]
      · rw [String.utf8ByteSize_append, String.utf8ByteSize_ofList, String.utf8ByteSize_ofList]
        omega
    · cases h
  · rintro ⟨p, s, rfl, rfl, rfl⟩
    rw [String.utf8ByteSize_append, if_pos (Nat.le_add_right _ _), Nat.add_sub_cancel_left]
    have hdrop : dropBytes? p.utf8ByteSize (p ++ t ++ s).toList = some (t.toList ++ s.toList) :=
      dropBytes?_eq_some_iff.mpr ⟨p.toList, by simp, String.utf8Len_toList p⟩
    have htake : takeBytes? t.utf8ByteSize (t.toList ++ s.toList) = some t.toList :=
      takeBytes?_eq_some_iff.mpr ⟨s.toList, rfl, String.utf8Len_toList t⟩
    rw [hdrop, Option.bind_some, htake, Option.map_some, String.ofList_toList]

/-- A range that runs backwards, or leaves the source, or cuts a character, has no text. -/
theorem slice?_eq_none {source : String} {a b : Nat} (h : b < a ∨ source.utf8ByteSize < b ∨
    ¬ String.Pos.Raw.IsValid source ⟨a⟩ ∨ ¬ String.Pos.Raw.IsValid source ⟨b⟩) :
    slice? source a b = none := by
  rw [Option.eq_none_iff_forall_ne_some]
  intro t ht
  obtain ⟨p, s, rfl, rfl, rfl⟩ := slice?_eq_some_iff.mp ht
  have hp : String.Pos.Raw.IsValid (p ++ t ++ s) ⟨p.utf8ByteSize⟩ :=
    String.Pos.Raw.isValid_iff_exists_append.mpr ⟨p, t ++ s, String.append_assoc .., rfl⟩
  have hpt : String.Pos.Raw.IsValid (p ++ t ++ s) ⟨(p ++ t).utf8ByteSize⟩ :=
    String.Pos.Raw.isValid_iff_exists_append.mpr ⟨p ++ t, s, rfl, rfl⟩
  rcases h with h | h | h | h
  · rw [String.utf8ByteSize_append] at h
    omega
  · rw [String.utf8ByteSize_append (s := p ++ t)] at h
    omega
  · exact h hp
  · exact h hpt

end Source

/-- **The span is the place of a text** that stands behind another one in the source: it holds the
bytes before the text and up to its end, the positions after both, and the text names a leaf
there. -/
structure Span.Locates (span : Span) (source before text : String) : Prop where
  startByte : span.startByte.toNat = before.utf8ByteSize
  endByte : span.endByte.toNat = (before ++ text).utf8ByteSize
  start : span.start.IsAfter before.toList
  stop : span.stop.IsAfter (before ++ text).toList
  named : ∀ category, (Term.mk category span .leaf).displayName source = text

/-- A source of so few characters has offsets of 64 bits. -/
theorem utf8Len_lt_of_length_lt {cs : List Char} (h : cs.length < 2 ^ 32 - 1) :
    utf8Len cs < UInt64.size := by
  have hle : utf8Len cs ≤ 4 * cs.length := by
    clear h
    induction cs with
    | nil => simp
    | cons c cs ih =>
      have hc := c.utf8Size_le_four
      rw [String.utf8Len_cons, List.length_cons]
      omega
  show utf8Len cs < 2 ^ 64
  omega

theorem Span.locates_ofBytes {p t s : String} (hlen : (p ++ t ++ s).length < 2 ^ 32 - 1) :
    (Span.ofBytes (p ++ t ++ s) (.ofNat p.utf8ByteSize)
      (.ofNat (p ++ t).utf8ByteSize)).Locates (p ++ t ++ s) p t := by
  have hsize : (p ++ t ++ s).utf8ByteSize < UInt64.size := by
    rw [← String.length_toList] at hlen
    have h := utf8Len_lt_of_length_lt hlen
    rwa [String.utf8Len_toList] at h
  rw [String.utf8ByteSize_append] at hsize
  have hend : (UInt64.ofNat (p ++ t).utf8ByteSize).toNat = (p ++ t).utf8ByteSize :=
    UInt64.toNat_ofNat_of_lt' (by omega)
  have hstart : (UInt64.ofNat p.utf8ByteSize).toNat = p.utf8ByteSize := by
    rw [String.utf8ByteSize_append] at hsize
    exact UInt64.toNat_ofNat_of_lt' (by omega)
  constructor
  · exact hstart
  · exact hend
  · have h := Position.isAfter_ofOffset hlen p.utf8ByteSize
    rw [← String.utf8Len_toList, String.toList_append, String.toList_append, List.append_assoc,
      Position.reached_boundary, String.utf8Len_toList] at h
    rwa [← hstart] at h
  · have h := Position.isAfter_ofOffset hlen (p ++ t).utf8ByteSize
    rw [← String.utf8Len_toList, String.toList_append (s := p ++ t),
      Position.reached_boundary, String.utf8Len_toList] at h
    rwa [← hend] at h
  · intro category
    show (Source.slice? (p ++ t ++ s) (UInt64.ofNat p.utf8ByteSize).toNat
      (UInt64.ofNat (p ++ t).utf8ByteSize).toNat).getD "" = t
    rw [hstart, hend, Source.slice?_eq_some_iff.mpr ⟨p, s, rfl, rfl, rfl⟩, Option.getD_some]

/-- **Bytes, characters and lines of a source agree.**  In a source with room for its lines and
columns, the span of the bytes of any text in it is the place of this text; boundaries between
characters have positions in strict order, and all offsets have positions in order.  In every
source, offsets past the end have the position of the end and offsets inside a character the
position after it; and a range that runs backwards, passes the end or does not lie on boundaries
has no text. -/
theorem spans_locate_text (source : String) :
    (source.length < 2 ^ 32 - 1 →
      (∀ p t s, source = p ++ t ++ s →
        (Span.ofBytes source (.ofNat p.utf8ByteSize) (.ofNat (p ++ t).utf8ByteSize)).Locates
          source p t) ∧
      (∀ m n, String.Pos.Raw.IsValid source ⟨m⟩ → String.Pos.Raw.IsValid source ⟨n⟩ → m < n →
        Position.ofOffset source m < Position.ofOffset source n) ∧
      ∀ m n, m ≤ n → Position.ofOffset source m ≤ Position.ofOffset source n) ∧
    (∀ n, source.utf8ByteSize ≤ n →
      Position.ofOffset source n = Position.ofOffset source source.utf8ByteSize) ∧
    (∀ p c s, source = p ++ String.singleton c ++ s → ∀ k, 0 < k → k < c.utf8Size →
      Position.ofOffset source (p.utf8ByteSize + k) =
        Position.ofOffset source (p ++ String.singleton c).utf8ByteSize) ∧
    ∀ a b : UInt64, b < a ∨ source.utf8ByteSize < b.toNat ∨
        ¬ String.Pos.Raw.IsValid source ⟨a.toNat⟩ ∨ ¬ String.Pos.Raw.IsValid source ⟨b.toNat⟩ →
      Source.text source (.ofBytes source a b) = "" := by
  refine ⟨fun hlen => ⟨?_, ?_, ?_⟩, ?_, ?_, ?_⟩
  · rintro p t s rfl
    exact Span.locates_ofBytes hlen
  · intro m n hm hn hmn
    refine Position.ofOffset_lt_of_reached_ne hlen (Nat.le_of_lt hmn) fun hsame => ?_
    have hbytes := congrArg utf8Len hsame
    rw [Position.utf8Len_reached_of_isValid hm, Position.utf8Len_reached_of_isValid hn] at hbytes
    omega
  · intro m n hmn
    exact Position.ofOffset_mono hlen hmn
  · intro n hn
    rw [← String.utf8Len_toList] at hn ⊢
    exact Position.ofOffset_congr (by
      rw [Position.reached_of_le hn, Position.reached_of_le (Nat.le_refl _)])
  · rintro p c s rfl k h0 hk
    apply Position.ofOffset_congr
    have hsize : (p ++ String.singleton c).utf8ByteSize = utf8Len p.toList + c.utf8Size := by
      rw [String.utf8ByteSize_append, String.utf8ByteSize_singleton, String.utf8Len_toList]
    have hlist : (p ++ String.singleton c ++ s).toList = p.toList ++ c :: s.toList := by simp
    rw [hsize, hlist, ← String.utf8Len_toList, Position.reached_inside _ _ _ h0 (by omega),
      Position.reached_inside _ _ _ c.utf8Size_pos (Nat.le_refl _)]
  · intro a b h
    have hnone : Source.slice? source a.toNat b.toNat = none := by
      refine Source.slice?_eq_none (h.imp_left fun hab => ?_)
      exact UInt64.lt_iff_toNat_lt.mp hab
    show (Source.slice? source a.toNat b.toNat).getD "" = ""
    rw [hnone, Option.getD_none]

/-- A character of four bytes on the second line: its span, the order of the boundaries around it,
and an offset inside it, which ends no text. -/
theorem spans_locate_emoji :
    "ä\n😀b".length < 2 ^ 32 - 1 ∧
    (Span.ofBytes "ä\n😀b" (.ofNat "ä\n".utf8ByteSize) (.ofNat ("ä\n" ++ "😀").utf8ByteSize)).Locates
      "ä\n😀b" "ä\n" "😀" ∧
    Position.ofOffset "ä\n😀b" 3 < Position.ofOffset "ä\n😀b" 7 ∧
    Position.ofOffset "ä\n😀b" (3 + 2) = Position.ofOffset "ä\n😀b" 7 ∧
    Position.ofOffset "ä\n😀b" 99 = Position.ofOffset "ä\n😀b" 8 ∧
    Source.text "ä\n😀b" (.ofBytes "ä\n😀b" 3 5) = "" := by
  have hlen : "ä\n😀b".length < 2 ^ 32 - 1 := by decide
  obtain ⟨hplaces, hpast, hinside, hnone⟩ := spans_locate_text "ä\n😀b"
  obtain ⟨hlocates, hlt, -⟩ := hplaces hlen
  have h3 : String.Pos.Raw.IsValid "ä\n😀b" ⟨3⟩ :=
    String.Pos.Raw.isValid_iff_exists_append.mpr ⟨"ä\n", "😀b", rfl, rfl⟩
  have h7 : String.Pos.Raw.IsValid "ä\n😀b" ⟨7⟩ :=
    String.Pos.Raw.isValid_iff_exists_append.mpr ⟨"ä\n😀", "b", rfl, rfl⟩
  have h5 : ¬ String.Pos.Raw.IsValid "ä\n😀b" ⟨5⟩ := by decide
  exact ⟨hlen, hlocates "ä\n" "😀" "b" rfl, hlt 3 7 h3 h7 (by decide),
    hinside "ä\n" '😀' "b" rfl 2 (by decide) (by decide), hpast 99 (by decide),
    hnone 3 5 (.inr (.inr (.inr h5)))⟩

end DiffContents
