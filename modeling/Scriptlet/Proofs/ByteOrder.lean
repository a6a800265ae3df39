/-
# The order of bytes

Names are sorted by their characters. Sorting them by their bytes in UTF-8 is the same: a character
of a smaller code point has smaller bytes, and no byte of one character has to be compared with a
byte of a later one before the order is settled.
-/

import Mathlib.Data.List.Lex
import Mathlib.Data.String.Basic
import Mathlib.Tactic.SplitIfs

namespace Scriptlet.Text

/-- The bytes of a text in UTF-8. -/
def bytes (text : String) : List UInt8 := text.toByteArray.data.toList

theorem bytes_eq (text : String) : bytes text = text.toList.flatMap String.utf8EncodeChar := by
  rw [bytes, ← String.utf8Encode_toList, List.utf8Encode, List.data_toByteArray]

/-- Whether two runs of bytes differ, and the first is below the second where they first do. -/
def IsBelow : List UInt8 → List UInt8 → Prop
  | b :: first, d :: second => b.toNat < d.toNat ∨ b.toNat = d.toNat ∧ IsBelow first second
  | _, _ => False

/-- Where two runs differ, what follows them does not matter. -/
theorem IsBelow.append_lt {first second : List UInt8} (h : IsBelow first second)
    (more others : List UInt8) : first ++ more < second ++ others := by
  fun_induction IsBelow first second with
  | case1 b first d second ih =>
      rw [List.cons_append, List.cons_append, List.cons_lt_cons_iff]
      rcases h with hlt | ⟨heq, hrest⟩
      · exact .inl hlt
      · exact .inr ⟨UInt8.toNat_inj.1 heq, ih hrest⟩
  | case2 => exact h.elim

theorem div_lt_or_mod_lt {m n : Nat} (h : m < n) (k : Nat) :
    m / k < n / k ∨ m / k = n / k ∧ m % k < n % k := by
  rcases Nat.lt_or_eq_of_le (Nat.div_le_div_right h.le) with hlt | heq
  · exact .inl hlt
  · refine .inr ⟨heq, ?_⟩
    have hm := Nat.div_add_mod m k
    have hn := Nat.div_add_mod n k
    rw [heq] at hm
    omega

/-- A character of a smaller code point has smaller bytes. Among characters of equally many bytes
the first group of bits that differs decides; among others the first byte does. -/
theorem isBelow_utf8EncodeChar {c d : Char} (h : c < d) :
    IsBelow (String.utf8EncodeChar c) (String.utf8EncodeChar d) := by
  have hlt : c.val.toNat < d.val.toNat := h
  have hbound : d.val.toNat < 0x110000 := by
    rcases d.valid with h | ⟨-, h⟩
    · exact h.trans (by decide)
    · exact h
  have hfirst := div_lt_or_mod_lt hlt 64
  have hsecond := fun h => @div_lt_or_mod_lt (c.val.toNat / 64) (d.val.toNat / 64) h 64
  have hthird := fun h => @div_lt_or_mod_lt (c.val.toNat / 4096) (d.val.toNat / 4096) h 64
  simp only [Nat.div_div_eq_div_mul, Nat.reduceMul] at hfirst hsecond hthird
  unfold String.utf8EncodeChar
  dsimp only
  split_ifs <;> simp only [IsBelow, UInt8.toNat_ofNat', Nat.reducePow] <;>
    simp (disch := omega) only [Nat.mod_eq_of_lt] <;> omega

theorem flatMap_utf8EncodeChar_lt {first second : List Char} (h : first < second) :
    first.flatMap String.utf8EncodeChar < second.flatMap String.utf8EncodeChar := by
  induction h with
  | @nil d second =>
      cases hbytes : String.utf8EncodeChar d with
      | nil => exact absurd hbytes String.utf8EncodeChar_ne_nil
      | cons => rw [List.flatMap_cons, hbytes]; exact List.Lex.nil
  | rel h => exact (isBelow_utf8EncodeChar h).append_lt _ _
  | cons _ ih => exact List.append_left_lt ih

theorem bytes_lt {first second : String} (h : first < second) : bytes first < bytes second := by
  rw [bytes_eq, bytes_eq]
  exact flatMap_utf8EncodeChar_lt (String.lt_iff.1 h)

/-- Texts are ordered as their bytes are. -/
theorem bytes_lt_iff {first second : String} : bytes first < bytes second ↔ first < second := by
  refine ⟨fun h => ?_, bytes_lt⟩
  rcases lt_trichotomy first second with hlt | rfl | hgt
  · exact hlt
  · exact absurd h (List.lt_irrefl _)
  · exact absurd h (List.lt_asymm (bytes_lt hgt))

end Scriptlet.Text
