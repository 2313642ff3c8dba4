import Mathlib.Data.List.Lex
import Mathlib.Data.String.Basic

/-!
The order of texts by code points is the order of their UTF-8 bytes: where two
encodings of characters part, the smaller character has the smaller byte, and no
encoding is the beginning of another one.
-/

namespace Lineup.Text

/-- The UTF-8 bytes of a text. -/
def bytes (s : String) : List UInt8 := s.toUTF8.data.toList

theorem bytes_eq_flatMap (s : String) : bytes s = s.toList.flatMap String.utf8EncodeChar := by
  rw [bytes, String.toUTF8_eq_toByteArray, ← String.utf8Encode_toList, List.utf8Encode,
    List.data_toByteArray]

theorem ofNat_lt_ofNat {x y : Nat} (hx : x < y) (hy : y < 256) : UInt8.ofNat x < UInt8.ofNat y := by
  rw [UInt8.lt_iff_toNat_lt, UInt8.toNat_ofNat', UInt8.toNat_ofNat']
  omega

theorem cons_lt_of_lt {x y : Nat} {s t : List UInt8} (hx : x < y) (hy : y < 256) :
    UInt8.ofNat x :: s < UInt8.ofNat y :: t :=
  List.cons_lt_cons_iff.mpr (.inl (ofNat_lt_ofNat hx hy))

theorem cons_lt_of_le {x y : Nat} {s t : List UInt8} (hx : x ≤ y) (hy : y < 256)
    (ht : x = y → s < t) : UInt8.ofNat x :: s < UInt8.ofNat y :: t := by
  rcases Nat.lt_or_eq_of_le hx with h | h
  · exact cons_lt_of_lt h hy
  · exact List.cons_lt_cons_iff.mpr (.inr ⟨by rw [h], ht h⟩)

theorem toNat_lt_of_char (c : Char) : c.val.toNat < 0x110000 := by
  have h := c.valid
  simp only [UInt32.isValidChar, Nat.isValidChar] at h
  omega

/-- Texts that begin with different characters are in the order of these characters. -/
theorem utf8EncodeChar_append_lt {c d : Char} (h : c < d) (s t : List UInt8) :
    String.utf8EncodeChar c ++ s < String.utf8EncodeChar d ++ t := by
  have hlt : c.val.toNat < d.val.toNat := UInt32.lt_iff_toNat_lt.mp h
  have hd := toNat_lt_of_char d
  simp only [String.utf8EncodeChar]
  generalize c.val.toNat = v at *
  generalize d.val.toNat = w at *
  -- Encodings of one length are compared byte by byte, others at the first byte.
  split
  · split
    · exact cons_lt_of_lt hlt (by omega)
    split
    · exact cons_lt_of_lt (by omega) (by omega)
    split
    · exact cons_lt_of_lt (by omega) (by omega)
    · exact cons_lt_of_lt (by omega) (by omega)
  split
  · rw [if_neg (by omega)]
    split
    · refine cons_lt_of_le (by omega) (by omega) fun h₁ => ?_
      exact cons_lt_of_lt (by omega) (by omega)
    split
    · exact cons_lt_of_lt (by omega) (by omega)
    · exact cons_lt_of_lt (by omega) (by omega)
  split
  · rw [if_neg (by omega), if_neg (by omega)]
    split
    · refine cons_lt_of_le (by omega) (by omega) fun h₁ => ?_
      refine cons_lt_of_le (by omega) (by omega) fun h₂ => ?_
      exact cons_lt_of_lt (by omega) (by omega)
    · exact cons_lt_of_lt (by omega) (by omega)
  · rw [if_neg (by omega), if_neg (by omega), if_neg (by omega)]
    refine cons_lt_of_le (by omega) (by omega) fun h₁ => ?_
    refine cons_lt_of_le (by omega) (by omega) fun h₂ => ?_
    refine cons_lt_of_le (by omega) (by omega) fun h₃ => ?_
    exact cons_lt_of_lt (by omega) (by omega)

theorem flatMap_lt_of_lt {l l' : List Char} (h : l < l') :
    l.flatMap String.utf8EncodeChar < l'.flatMap String.utf8EncodeChar := by
  induction l generalizing l' with
  | nil =>
    cases l' with
    | nil => exact absurd h (List.lt_irrefl _)
    | cons d l' =>
      obtain ⟨x, rest, he⟩ := List.exists_cons_of_ne_nil (String.utf8EncodeChar_ne_nil (c := d))
      rw [List.flatMap_cons, he]
      exact List.nil_lt_cons _ _
  | cons c l ih =>
    cases l' with
    | nil => exact absurd h (List.not_lt_nil _)
    | cons d l' =>
      rw [List.flatMap_cons, List.flatMap_cons]
      rcases List.cons_lt_cons_iff.mp h with hcd | ⟨rfl, hl⟩
      · exact utf8EncodeChar_append_lt hcd _ _
      · exact List.append_left_lt (ih hl)

/-- **Byte order.** -/
theorem lt_iff_bytes_lt (s t : String) : s < t ↔ bytes s < bytes t := by
  rw [bytes_eq_flatMap, bytes_eq_flatMap, String.lt_iff_toList_lt]
  constructor
  · exact flatMap_lt_of_lt
  · intro h
    rcases lt_trichotomy s.toList t.toList with hlt | heq | hgt
    · exact hlt
    · rw [heq] at h
      exact absurd h (List.lt_irrefl _)
    · exact absurd (flatMap_lt_of_lt hgt) (List.lt_asymm h)

end Lineup.Text
