import DiffContents.Proofs.Merging

/-! # Code points and bytes

Keys stand in the order of their code points, and that is the order of their UTF-8 bytes as well
(`lt_iff_utf8_lt`).  Of two characters the greater one has the greater bytes, whatever follows:
either more of them, and then the first byte tells, or equally many, and then they are the digits of
the code points to the base 64 (`utf8EncodeChar_append_lt`).
-/
namespace DiffContents

universe u

namespace Text

/-- The bytes of a text in UTF-8. -/
def utf8 (s : String) : List UInt8 := s.toUTF8.data.toList

theorem utf8_eq_flatMap (s : String) : utf8 s = s.toList.flatMap String.utf8EncodeChar := by
  rw [utf8, String.toUTF8_eq_toByteArray, ← String.utf8Encode_toList, List.utf8Encode,
    List.toList_data_toByteArray]

/-- The first byte tells, or the ones behind it if it is the same. -/
theorem cons_lt_cons_of_le {m n : Nat} (hn : n < 256) (hle : m ≤ n) {xs ys : List UInt8}
    (h : m = n → xs < ys) : UInt8.ofNat m :: xs < UInt8.ofNat n :: ys := by
  rw [List.cons_lt_cons_iff]
  rcases Nat.lt_or_eq_of_le hle with hlt | rfl
  · left
    rw [UInt8.lt_iff_toNat_lt, UInt8.toNat_ofNat_of_lt' (Nat.lt_trans hlt hn),
      UInt8.toNat_ofNat_of_lt' hn]
    exact hlt
  · exact .inr ⟨rfl, h rfl⟩

/-- **The greater character has the greater bytes**, whatever follows them. -/
theorem utf8EncodeChar_append_lt {c d : Char} (h : c < d) (xs ys : List UInt8) :
    String.utf8EncodeChar c ++ xs < String.utf8EncodeChar d ++ ys := by
  have hlt : c.val.toNat < d.val.toNat := h
  have hd : d.val.toNat < 0x110000 := by
    have hvalid := d.valid
    simp only [UInt32.isValidChar, Nat.isValidChar] at hvalid
    omega
  unfold String.utf8EncodeChar
  generalize c.val.toNat = m at hlt ⊢
  generalize d.val.toNat = n at hlt hd ⊢
  dsimp only
  split_ifs
  all_goals simp only [List.cons_append, List.nil_append]
  -- where all bytes are the same so are all digits, and then the code points
  all_goals
    repeat refine cons_lt_cons_of_le (by omega) (by omega) fun _ => ?_
    omega

theorem utf8EncodeChar_flatMap_lt {cs ds : List Char} (h : cs < ds) :
    cs.flatMap String.utf8EncodeChar < ds.flatMap String.utf8EncodeChar := by
  induction h with
  | @nil d ds =>
    rw [List.flatMap_nil, List.flatMap_cons]
    obtain ⟨b, bs, hbytes⟩ := List.exists_cons_of_ne_nil (String.utf8EncodeChar_ne_nil (c := d))
    rw [hbytes, List.cons_append]
    exact List.nil_lt_cons b _
  | rel h =>
    rw [List.flatMap_cons, List.flatMap_cons]
    exact utf8EncodeChar_append_lt h _ _
  | cons _ ih =>
    rw [List.flatMap_cons, List.flatMap_cons]
    exact List.append_left_lt ih

/-- **The order of the code points is the order of the bytes.** -/
theorem lt_iff_utf8_lt {s t : String} : s < t ↔ utf8 s < utf8 t := by
  have mono {s t : String} (h : s < t) : utf8 s < utf8 t := by
    rw [utf8_eq_flatMap, utf8_eq_flatMap]
    exact utf8EncodeChar_flatMap_lt h
  refine ⟨mono, fun h => ?_⟩
  by_contra hst
  by_cases hts : t < s
  · exact List.lt_asymm h (mono hts)
  · obtain rfl : s = t := String.le_antisymm (String.not_lt.mp hts) (String.not_lt.mp hst)
    exact List.lt_irrefl _ h

end Text

/-- **The keys stand in the order of their bytes**, each one once. -/
theorem Buckets.pairwise_utf8_keys {α : Type u} (b : Buckets α) :
    b.keys.Pairwise (Text.utf8 · < Text.utf8 ·) :=
  b.pairwise_keys.imp Text.lt_iff_utf8_lt.mp

end DiffContents
