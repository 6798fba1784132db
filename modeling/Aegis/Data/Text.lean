/-
  Data.Text — the text tests a Python program makes: `str.isspace` on a character and
  `s.strip()` being empty. `blank` is what `not s.strip()` says. `letters` are the letters of a
  text, read off its bytes, so that a test on them is quick to run.
-/

import Mathlib.Data.String.Basic

namespace Data

/-- The characters `str.strip` removes. -/
def isSpace (c : Char) : Bool :=
  let n := c.toNat
  (9 ≤ n && n ≤ 13) || (28 ≤ n && n ≤ 32) || n == 0x85 || n == 0xa0 || n == 0x1680 ||
    (0x2000 ≤ n && n ≤ 0x200a) || n == 0x2028 || n == 0x2029 || n == 0x202f || n == 0x205f || n == 0x3000

def blank (s : String) : Bool := s.toList.all isSpace

theorem ne_empty_of_not_blank {s : String} (h : blank s = false) : s ≠ "" := by
  rintro rfl
  cases h

/-! ## Letters by their bytes -/

/-- The letters of a text; where every byte is a letter of its own, they are read off the bytes. -/
def letters (s : String) : List Char :=
  let bytes := s.toByteArray.data.toList
  if bytes.all fun b => b.toNat < 128 then bytes.map fun b => Char.ofNat b.toNat else s.toList

theorem encode_ascii {c : Char} (h : ∀ b ∈ String.utf8EncodeChar c, b.toNat < 128) :
    (String.utf8EncodeChar c).map (fun b => Char.ofNat b.toNat) = [c] := by
  unfold String.utf8EncodeChar at h ⊢
  by_cases h1 : c.val.toNat ≤ 0x7f
  · simp only [if_pos h1, List.map_cons, List.map_nil]
    have hb : (UInt8.ofNat c.val.toNat).toNat = c.toNat := Nat.mod_eq_of_lt (by omega)
    rw [hb, Char.ofNat_toNat]
  · have hlead : ∀ {n : Nat} {bs : List UInt8}, 128 ≤ n → n < 256 → ¬ ∀ b ∈ UInt8.ofNat n :: bs, b.toNat < 128 := by
      intro n bs hn hn' hall
      have hlt := hall _ List.mem_cons_self
      have hb : (UInt8.ofNat n).toNat = n := Nat.mod_eq_of_lt (by omega)
      omega
    simp only [if_neg h1] at h
    exfalso
    split at h
    · exact hlead (by omega) (by omega) h
    · split at h
      · exact hlead (by omega) (by omega) h
      · exact hlead (by omega) (by omega) h

theorem letters_eq (s : String) : letters s = s.toList := by
  have hbytes : s.toByteArray.data.toList = s.toList.flatMap String.utf8EncodeChar := by
    rw [← String.utf8Encode_toList, List.utf8Encode]
    exact List.toList_data_toByteArray
  unfold letters
  dsimp only
  split
  · rename_i hall
    rw [hbytes] at hall ⊢
    clear hbytes
    generalize s.toList = cs at hall ⊢
    induction cs with
    | nil => rfl
    | cons c cs ih =>
      rw [List.flatMap_cons, List.all_append, Bool.and_eq_true] at hall
      rw [List.flatMap_cons, List.map_append, ih hall.2, encode_ascii fun b hb => by simpa using List.all_eq_true.mp hall.1 b hb]
      rfl
  · rfl

end Data
