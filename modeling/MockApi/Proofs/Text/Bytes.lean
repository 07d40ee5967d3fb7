import Mathlib.Data.List.Basic

/-! # The order of bytes

A text is stored as bytes, one to four for each character. Texts are compared character by character
in the order of code points, and comparing their bytes gives the same order.
-/

namespace MockApi.Text

/-- The bytes that a text is stored as. -/
def bytes (s : String) : List UInt8 := s.toByteArray.data.toList

theorem bytes_eq_flatMap (s : String) : bytes s = s.toList.flatMap String.utf8EncodeChar := by
  rw [bytes, ← String.utf8Encode_toList, List.utf8Encode, List.toList_data_toByteArray]

theorem cons_lt_cons_of_le {a b : Nat} {l l' : List UInt8} (hle : a ≤ b) (hb : b < 256)
    (h : a = b → l < l') : UInt8.ofNat a :: l < UInt8.ofNat b :: l' := by
  have ha : a < UInt8.size := Nat.lt_of_le_of_lt hle hb
  have hb : b < UInt8.size := hb
  rw [List.cons_lt_cons_iff]
  rcases Nat.lt_or_eq_of_le hle with hlt | rfl
  · left
    rwa [UInt8.lt_iff_toNat_lt, UInt8.toNat_ofNat_of_lt' ha, UInt8.toNat_ofNat_of_lt' hb]
  · exact .inr ⟨rfl, h rfl⟩

/-- A smaller character has smaller bytes, whatever follows. -/
theorem encode_append_lt {c d : Char} (h : c < d) (rest rest' : List UInt8) :
    String.utf8EncodeChar c ++ rest < String.utf8EncodeChar d ++ rest' := by
  have hlt : c.val.toNat < d.val.toNat := h
  have hd : d.val.toNat < 0x110000 := d.valid.elim (Nat.lt_trans · (by decide)) And.right
  -- the first byte grows with the number of bytes, and the others are digits to base 64
  fun_cases String.utf8EncodeChar c with
  | case1 v hv =>
      fun_cases String.utf8EncodeChar d with
      | case1 w _ | case2 w _ _ | case3 w _ _ _ | case4 w _ _ _ =>
          exact cons_lt_cons_of_le (by omega) (by omega) fun _ => by omega
  | case2 v hv hv' =>
      fun_cases String.utf8EncodeChar d with
      | case1 w _ => omega
      | case2 w _ _ =>
          exact cons_lt_cons_of_le (by omega) (by omega) fun _ =>
            cons_lt_cons_of_le (by omega) (by omega) fun _ => by omega
      | case3 w _ _ _ | case4 w _ _ _ =>
          exact cons_lt_cons_of_le (by omega) (by omega) fun _ => by omega
  | case3 v hv hv' hv'' =>
      fun_cases String.utf8EncodeChar d with
      | case1 w _ | case2 w _ _ => omega
      | case3 w _ _ _ =>
          exact cons_lt_cons_of_le (by omega) (by omega) fun _ =>
            cons_lt_cons_of_le (by omega) (by omega) fun _ =>
              cons_lt_cons_of_le (by omega) (by omega) fun _ => by omega
      | case4 w _ _ _ => exact cons_lt_cons_of_le (by omega) (by omega) fun _ => by omega
  | case4 v hv hv' hv'' =>
      fun_cases String.utf8EncodeChar d with
      | case1 w _ | case2 w _ _ | case3 w _ _ _ => omega
      | case4 w _ _ _ =>
          exact cons_lt_cons_of_le (by omega) (by omega) fun _ =>
            cons_lt_cons_of_le (by omega) (by omega) fun _ =>
              cons_lt_cons_of_le (by omega) (by omega) fun _ =>
                cons_lt_cons_of_le (by omega) (by omega) fun _ => by omega

/-- The encodings of characters keep their lexicographic order. -/
theorem flatMap_encode_lt {cs ds : List Char} (h : cs < ds) :
    cs.flatMap String.utf8EncodeChar < ds.flatMap String.utf8EncodeChar := by
  induction cs generalizing ds with
  | nil =>
      cases ds with
      | nil => exact absurd h (List.lt_irrefl _)
      | cons d ds =>
          obtain ⟨byte, rest, hbytes⟩ :=
            List.exists_cons_of_ne_nil (String.utf8EncodeChar_ne_nil (c := d))
          rw [List.flatMap_cons, hbytes]
          exact List.nil_lt_cons _ _
  | cons c cs ih =>
      cases ds with
      | nil => exact absurd h (List.not_lt_nil _)
      | cons d ds =>
          rw [List.flatMap_cons, List.flatMap_cons]
          rcases List.cons_lt_cons_iff.mp h with hlt | ⟨rfl, htail⟩
          · exact encode_append_lt hlt _ _
          · exact List.append_left_lt (ih htail)

/-- Texts are in the order of their bytes. -/
theorem bytes_le_bytes_iff {s t : String} : bytes s ≤ bytes t ↔ s ≤ t := by
  rw [bytes_eq_flatMap, bytes_eq_flatMap]
  constructor
  · intro h hlt
    exact h (flatMap_encode_lt hlt)
  · intro h hlt
    by_cases hst : s < t
    · exact List.lt_asymm hlt (flatMap_encode_lt hst)
    · obtain rfl := String.le_antisymm h (String.not_lt.mp hst)
      exact List.lt_irrefl _ hlt

end MockApi.Text
