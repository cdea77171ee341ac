import Mathlib.Data.List.Basic
import Mathlib.Tactic.SplitIfs

/-! Strings are ordered by code point, and so are their bytes: the encoding of a smaller character comes
before that of a greater one, whatever follows either of them. -/

namespace MeshExport.Text

def bytes (s : String) : List UInt8 := s.toUTF8.data.toList

theorem bytes_eq (s : String) : bytes s = s.toList.flatMap String.utf8EncodeChar := by
  have he : s.toUTF8 = s.toList.utf8Encode := by
    rw [String.toUTF8_eq_toByteArray, ← String.toByteArray_ofList, String.ofList_toList]
  rw [bytes, he, List.utf8Encode, List.toList_data_toByteArray]

/-- Numbers are compared by their last digit in base 64 if the others agree. -/
theorem div_lt_or_mod_lt {m n : Nat} (h : m < n) :
    m / 64 < n / 64 ∨ m / 64 = n / 64 ∧ m % 64 < n % 64 := by
  omega

theorem encode_lt {c c' : Char} (h : c < c') (rest rest' : List UInt8) :
    String.utf8EncodeChar c ++ rest < String.utf8EncodeChar c' ++ rest' := by
  have hlt : c.val.toNat < c'.val.toNat := h
  have hmax : c'.val.toNat < 0x110000 := by
    rcases c'.valid with h | ⟨-, h⟩
    · exact Nat.lt_of_lt_of_le h (by decide)
    · exact h
  unfold String.utf8EncodeChar
  generalize c.val.toNat = v at *
  generalize c'.val.toNat = v' at *
  have hdiv (n : Nat) : n / 4096 = n / 64 / 64 ∧ n / 262144 = n / 64 / 64 / 64 := by
    simp [Nat.div_div_eq_div_mul]
  simp only [hdiv]
  -- the digits that the bytes of either encoding carry, from the last to the first
  have h1 := div_lt_or_mod_lt hlt
  have h2 : v / 64 < v' / 64 → _ := div_lt_or_mod_lt
  have h3 : v / 64 / 64 < v' / 64 / 64 → _ := div_lt_or_mod_lt
  split_ifs <;>
    simp only [List.cons_append, List.nil_append, List.cons_lt_cons_iff, UInt8.lt_iff_toNat_lt,
      UInt8.toNat_ofNat', ← UInt8.toNat_inj] <;>
    simp (disch := omega) only [Nat.mod_eq_of_lt (b := 2 ^ 8)] <;>
    omega

theorem flatMap_encode_lt {l l' : List Char} (h : List.Lex (· < ·) l l') :
    l.flatMap String.utf8EncodeChar < l'.flatMap String.utf8EncodeChar := by
  induction h with
  | @nil c cs =>
    obtain ⟨b, bs, hb⟩ := List.exists_cons_of_ne_nil (@String.utf8EncodeChar_ne_nil c)
    simp [hb]
  | cons _ ih => exact List.append_left_lt ih
  | rel hc => exact encode_lt hc _ _

theorem bytes_lt {s t : String} (h : s < t) : bytes s < bytes t := by
  rw [bytes_eq, bytes_eq]
  exact flatMap_encode_lt h

example : bytes "z" < bytes "é" := by decide

end MeshExport.Text
