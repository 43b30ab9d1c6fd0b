import Acceptance.Text.Utf8
import Mathlib.Data.String.Basic

/-!
# The order of octets

Texts are in the order of their octets exactly if they are in the order of their characters.

Results:
* `utf8EncodeChar_append_lt`: the octets of a character go before those of a later one.
* `encode_lt_iff`: so do the octets of a text before those of a later one, and not otherwise.
-/

namespace Acceptance.Text.Utf8

/-! ## Characters -/

/-- Sequences are ordered by their first octets, and by what follows where these agree. -/
theorem octet_cons_lt {m n : Nat} {xs ys : List UInt8} (hn : n < 256) (hle : m ≤ n)
    (h : m = n → xs < ys) : UInt8.ofNat m :: xs < UInt8.ofNat n :: ys := by
  rw [List.cons_lt_cons_iff]
  rcases Nat.lt_or_eq_of_le hle with hlt | rfl
  · left
    rwa [UInt8.lt_iff_toNat_lt, UInt8.toNat_ofNat_of_lt' (hlt.trans hn),
      UInt8.toNat_ofNat_of_lt' hn]
  · exact Or.inr ⟨rfl, h rfl⟩

theorem val_toNat_lt (c : Char) : c.val.toNat < 0x110000 := by
  have hvalid := c.valid
  simp only [UInt32.isValidChar, Nat.isValidChar] at hvalid
  omega

/-- **The octets of a character go before those of a later one**, whatever follows them. -/
theorem utf8EncodeChar_append_lt {c d : Char} (h : c < d) (us vs : List UInt8) :
    String.utf8EncodeChar c ++ us < String.utf8EncodeChar d ++ vs := by
  have hlt : c.val.toNat < d.val.toNat := h
  have hd := val_toNat_lt d
  simp only [String.utf8EncodeChar]
  generalize c.val.toNat = v at *
  generalize d.val.toNat = w at *
  -- More octets begin with a larger one. Of as many, the first in which the bits differ decides.
  by_cases h1 : w ≤ 0x7f
  · rw [if_pos h1, if_pos (hlt.le.trans h1)]
    exact octet_cons_lt (by omega) (by omega) fun _ => by omega
  rw [if_neg h1]
  by_cases h2 : w ≤ 0x7ff
  · have hv : v ≤ 0x7ff := hlt.le.trans h2
    rw [if_pos h2, if_pos hv]
    split
    · exact octet_cons_lt (by omega) (by omega) fun _ => by omega
    · exact octet_cons_lt (by omega) (by omega) fun _ =>
        octet_cons_lt (by omega) (by omega) fun _ => by omega
  rw [if_neg h2]
  by_cases h3 : w ≤ 0xffff
  · have hv : v ≤ 0xffff := hlt.le.trans h3
    rw [if_pos h3, if_pos hv]
    split
    · exact octet_cons_lt (by omega) (by omega) fun _ => by omega
    split
    · exact octet_cons_lt (by omega) (by omega) fun _ => by omega
    · exact octet_cons_lt (by omega) (by omega) fun _ =>
        octet_cons_lt (by omega) (by omega) fun _ =>
          octet_cons_lt (by omega) (by omega) fun _ => by omega
  rw [if_neg h3]
  split
  · exact octet_cons_lt (by omega) (by omega) fun _ => by omega
  split
  · exact octet_cons_lt (by omega) (by omega) fun _ => by omega
  split
  · exact octet_cons_lt (by omega) (by omega) fun _ => by omega
  · exact octet_cons_lt (by omega) (by omega) fun _ =>
      octet_cons_lt (by omega) (by omega) fun _ =>
        octet_cons_lt (by omega) (by omega) fun _ =>
          octet_cons_lt (by omega) (by omega) fun _ => by omega

/-! ## Texts -/

theorem encode_eq_flatMap (s : String) : encode s = s.toList.flatMap String.utf8EncodeChar := by
  rw [encode, String.toUTF8_eq_toByteArray, ← String.utf8Encode_toList, List.utf8Encode,
    List.toList_data_toByteArray]

theorem flatMap_utf8EncodeChar_lt {s t : List Char} (h : s < t) :
    s.flatMap String.utf8EncodeChar < t.flatMap String.utf8EncodeChar := by
  induction s generalizing t with
  | nil =>
    cases t with
    | nil => exact absurd h (List.lt_irrefl _)
    | cons d t =>
      obtain ⟨b, bs, hb⟩ := List.exists_cons_of_ne_nil (String.utf8EncodeChar_ne_nil (c := d))
      rw [List.flatMap_cons, hb]
      exact List.nil_lt_cons _ _
  | cons c s ih =>
    cases t with
    | nil => exact absurd h (List.not_lt_nil _)
    | cons d t =>
      rw [List.flatMap_cons, List.flatMap_cons]
      rcases List.cons_lt_cons_iff.mp h with hcd | ⟨rfl, hst⟩
      · exact utf8EncodeChar_append_lt hcd _ _
      · exact List.append_left_lt (ih hst)

theorem encode_lt {s t : String} (h : s < t) : encode s < encode t := by
  rw [encode_eq_flatMap, encode_eq_flatMap]
  exact flatMap_utf8EncodeChar_lt (String.lt_iff_toList_lt.mp h)

/-- **The octets of a text go before those of another exactly if the text does.** -/
theorem encode_lt_iff {s t : String} : encode s < encode t ↔ s < t := by
  refine ⟨fun h => ?_, encode_lt⟩
  rcases lt_trichotomy s t with hst | rfl | hts
  · exact hst
  · exact absurd h (List.lt_irrefl _)
  · exact absurd (List.lt_trans h (encode_lt hts)) (List.lt_irrefl _)

end Acceptance.Text.Utf8
