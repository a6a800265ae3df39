/-
# Quoted text is read back

What is written between double quotes can be read back character by character: an escape says where
it ends, and every character that stands for itself is none that an escape or the end of the text
begins with. A quoted text takes one line.
-/

import Mathlib.Tactic.SplitIfs
import Scriptlet.Text.Quoted

namespace Scriptlet.Text

/-! ## Hexadecimal digits -/

/-- The value of a run of hexadecimal digits. -/
def hexValue (digits : List Char) : Nat :=
  digits.foldl (fun n c =>
    16 * n + if c.isDigit then c.toNat - '0'.toNat else c.toNat - 'a'.toNat + 10) 0

theorem exists_digitChar_of_mem_toDigits {n : Nat} {c : Char} (hc : c ∈ Nat.toDigits 16 n) :
    ∃ d < 16, c = d.digitChar := by
  induction n using Nat.base_induction 16 (by decide) with
  | single n hn =>
      rw [Nat.toDigits_of_lt_base hn, List.mem_singleton] at hc
      exact ⟨n, hn, hc⟩
  | digit n d hd hn ih =>
      rw [← Nat.toDigits_append_toDigits (by decide) hn hd, List.mem_append,
        Nat.toDigits_of_lt_base hd, List.mem_singleton] at hc
      exact hc.elim ih fun hlast => ⟨d, hd, hlast⟩

theorem hexValue_toDigits (n : Nat) : hexValue (Nat.toDigits 16 n) = n := by
  have hdigit : ∀ d < 16, hexValue [d.digitChar] = d := by decide
  induction n using Nat.base_induction 16 (by decide) with
  | single n hn => rw [Nat.toDigits_of_lt_base hn, hdigit n hn]
  | digit n d hd hn ih =>
      have hlast := hdigit d hd
      rw [← Nat.toDigits_append_toDigits (by decide) hn hd, Nat.toDigits_of_lt_base hd]
      simp only [hexValue, List.foldl_append, List.foldl_cons, List.foldl_nil] at hlast ih ⊢
      omega

/-! ## Reading back -/

/-- The character that a letter stands for behind a backslash. -/
def unescapeLetter? : Char → Option Char
  | '0' => some '\x00'
  | 't' => some '\t'
  | 'r' => some '\r'
  | 'n' => some '\n'
  | '"' => some '"'
  | '\\' => some '\\'
  | _ => none

/-- The first character of a text with escapes, and what follows it. A double quote stands for
itself only if it is escaped. -/
def unescapeChar? : List Char → Option (Char × List Char)
  | [] => none
  | '\\' :: 'u' :: '{' :: rest =>
    match rest.dropWhile (· ≠ '}') with
    | [] => none
    | _ :: after => some (Char.ofNat (hexValue (rest.takeWhile (· ≠ '}'))), after)
  | '\\' :: c :: rest => (unescapeLetter? c).map fun meant => (meant, rest)
  | c :: rest => if c = '\\' ∨ c = '"' then none else some (c, rest)

theorem length_lt_of_unescapeChar? {text rest : List Char} {c : Char}
    (h : unescapeChar? text = some (c, rest)) : rest.length < text.length := by
  unfold unescapeChar? at h
  split at h
  · cases h
  · next digits =>
      have hdrop := (List.dropWhile_suffix (l := digits) (· ≠ '}')).length_le
      split at h
      · cases h
      · next hclose =>
          cases h
          simp only [hclose, List.length_cons] at hdrop ⊢
          omega
  · obtain ⟨_, _, heq⟩ := Option.map_eq_some_iff.1 h
    cases heq
    simp only [List.length_cons]
    omega
  · split at h
    · cases h
    · cases h
      exact Nat.lt_succ_self _

/-- Takes the escapes of a text back. -/
def unescape? : List Char → Option (List Char)
  | [] => some []
  | c :: rest =>
    match _h : unescapeChar? (c :: rest) with
    | none => none
    | some (meant, after) => (unescape? after).map (meant :: ·)
termination_by text => text.length
decreasing_by exact length_lt_of_unescapeChar? _h

/-- The text that is written between double quotes. -/
def unquote? (quoted : String) : Option String :=
  match quoted.toList with
  | '"' :: rest =>
    if rest.getLast? = some '"' then (unescape? rest.dropLast).map String.ofList else none
  | _ => none

theorem unescapeChar?_codePointEscape (c : Char) (rest : List Char) :
    unescapeChar? (codePointEscape c ++ rest) = some (c, rest) := by
  have hdigits : ∀ d ∈ Nat.toDigits 16 c.toNat, decide (d ≠ '\x7d') = true := by
    intro d hd
    obtain ⟨n, -, rfl⟩ := exists_digitChar_of_mem_toDigits hd
    simp
  have hescape : codePointEscape c ++ rest =
      '\\' :: 'u' :: '\x7b' :: (Nat.toDigits 16 c.toNat ++ '\x7d' :: rest) := by
    simp [codePointEscape]
  rw [hescape, unescapeChar?, List.dropWhile_append_of_pos hdigits,
    List.takeWhile_append_of_pos hdigits]
  simp [hexValue_toDigits]

theorem unescapeChar?_of_ne {c : Char} (hquote : c ≠ '"') (hbackslash : c ≠ '\\')
    (rest : List Char) : unescapeChar? (c :: rest) = some (c, rest) := by
  unfold unescapeChar?
  split <;> simp_all

/-- What stands for a character is read back as this character, whatever follows it. -/
theorem unescapeChar?_quoteChar (c : Char) (rest : List Char) :
    unescapeChar? (quoteChar c ++ rest) = some (c, rest) := by
  unfold quoteChar
  split_ifs with hnul htab hreturn hfeed hquote hbackslash hvisible
  · rw [hnul]
    rfl
  · rw [htab]
    rfl
  · rw [hreturn]
    rfl
  · rw [hfeed]
    rfl
  · rw [hquote]
    rfl
  · rw [hbackslash]
    rfl
  · exact unescapeChar?_of_ne hquote hbackslash rest
  · exact unescapeChar?_codePointEscape c rest

theorem unescape?_of_unescapeChar? {text rest : List Char} {c : Char}
    (h : unescapeChar? text = some (c, rest)) :
    unescape? text = (unescape? rest).map (c :: ·) := by
  cases text with
  | nil => cases h
  | cons first more =>
      rw [unescape?]
      split
      · next hnone => cases hnone.symm.trans h
      · next hsome =>
          cases hsome.symm.trans h
          rfl

theorem unescape?_flatMap (text : List Char) : unescape? (text.flatMap quoteChar) = some text := by
  induction text with
  | nil => rw [List.flatMap_nil, unescape?]
  | cons c rest ih =>
      rw [List.flatMap_cons, unescape?_of_unescapeChar? (unescapeChar?_quoteChar c _), ih]
      rfl

/-- What is quoted is read back. -/
theorem unquote?_quote (text : String) : unquote? (quote text) = some text := by
  simp [unquote?, quote, unescape?_flatMap]

/-! ## Lines -/

theorem newline_notMem_codePointEscape (c : Char) : '\n' ∉ codePointEscape c := by
  have hdigits : '\n' ∉ Nat.toDigits 16 c.toNat := fun hmem => by
    obtain ⟨d, -, hd⟩ := exists_digitChar_of_mem_toDigits hmem
    simp at hd
  simp [codePointEscape, hdigits]

theorem newline_notMem_quoteChar (c : Char) : '\n' ∉ quoteChar c := by
  by_cases hfeed : c = '\n'
  · rw [hfeed]
    decide
  · unfold quoteChar
    split_ifs with hnul htab hreturn hquote hbackslash hvisible
    · decide
    · decide
    · decide
    · decide
    · decide
    · rw [List.mem_singleton]
      exact Ne.symm hfeed
    · exact newline_notMem_codePointEscape c

/-- A quoted text takes one line. -/
theorem newline_notMem_quote (text : String) : '\n' ∉ (quote text).toList := by
  simp [quote, newline_notMem_quoteChar]

end Scriptlet.Text
