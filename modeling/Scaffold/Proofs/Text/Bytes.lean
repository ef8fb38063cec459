import Mathlib.Data.List.Lex
import Mathlib.Data.String.Basic

/-!
# Texts in the order of their bytes

Texts are compared by their characters. Their bytes, compared as numbers one after the other, give
the same order (`bytes_strictMono`): the code of the greater one of two characters is the greater
one, and no code is the start of another one.
-/

namespace Scaffold

namespace Text

/-- The bytes of a character. -/
def charBytes (c : Char) : List Nat := (String.utf8EncodeChar c).map UInt8.toNat

/-- The bytes of a text. -/
def bytes (s : String) : List Nat := s.toUTF8.data.toList.map UInt8.toNat

theorem bytes_eq_flatMap (s : String) : bytes s = s.toList.flatMap charBytes := by
  have hencode : s.toUTF8 = s.toList.utf8Encode := by
    rw [String.toUTF8_eq_toByteArray, ← String.toByteArray_ofList, String.ofList_toList]
  rw [bytes, hencode, List.utf8Encode, List.data_toByteArray, List.map_flatMap]
  rfl

theorem charBytes_ne_nil (c : Char) : charBytes c ≠ [] := by
  simp [charBytes]

/-- The codes of two characters differ at some byte, and the first one that differs decides. -/
theorem charBytes_append_lt {c c' : Char} (h : c < c') (rest rest' : List Nat) :
    charBytes c ++ rest < charBytes c' ++ rest' := by
  have hlt : c.toNat < c'.toNat := h
  have hmax : c'.toNat < 0x110000 := by
    have hvalid := c'.valid
    simp only [UInt32.isValidChar, Nat.isValidChar, Char.toNat_val] at hvalid
    omega
  have hsecond : ∀ v : Nat, v / 4096 = v / 64 / 64 := by omega
  have hthird : ∀ v : Nat, v / 262144 = v / 64 / 64 / 64 := by omega
  simp only [charBytes, String.utf8EncodeChar, Char.toNat_val, hsecond, hthird]
  generalize c.toNat = v at hlt ⊢
  generalize c'.toNat = v' at hlt hmax ⊢
  -- one case for each pair of lengths, and the first byte settles those that differ
  split_ifs <;> simp [List.cons_lt_cons_iff] <;> omega

theorem bytes_strictMono : StrictMono bytes := by
  intro s t h
  rw [String.lt_iff_toList_lt] at h
  rw [bytes_eq_flatMap, bytes_eq_flatMap]
  generalize s.toList = cs at h
  generalize t.toList = cs' at h
  induction h with
  | @nil c cs =>
      rw [List.flatMap_nil, List.flatMap_cons]
      cases hc : charBytes c with
      | nil => exact absurd hc (charBytes_ne_nil c)
      | cons b rest => exact .nil
  | @cons c cs cs' _ ih =>
      rw [List.flatMap_cons, List.flatMap_cons]
      exact List.append_left_lt ih
  | @rel c cs c' cs' hc =>
      rw [List.flatMap_cons, List.flatMap_cons]
      exact charBytes_append_lt hc _ _

end Text

end Scaffold
