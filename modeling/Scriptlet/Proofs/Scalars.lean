/-
# Scalars of structured text

What is written of a boolean, a number or a string can be told from what follows it and read back.
The one thing that is not written is which of the numbers that are not finite it is: all of them
are written as `null`.
-/

import Scriptlet.Json.Value
import Scriptlet.Proofs.Decimals
import Scriptlet.Proofs.Unquoting

namespace Scriptlet

/-- A number as far as structured text shows it: those that are not finite are not told apart. -/
def Binary64.shown : Binary64 → Binary64
  | finite negative rank => finite negative rank
  | _ => notANumber

namespace Json

open Number

/-! ## Numbers -/

/-- Whether a character can stand in a word or a number. -/
def isPlain (c : Char) : Bool := c.isAlphanum || c = '.' || c = '+' || c = '-'

theorem isPlain_of_isDigit {c : Char} (hc : c.isDigit = true) : isPlain c = true := by
  simp [isPlain, Char.isAlphanum, hc]

theorem isPlain_of_mem_toDigits {c : Char} {n : Nat} (hc : c ∈ Nat.toDigits 10 n) :
    isPlain c = true :=
  isPlain_of_isDigit (Nat.isDigit_of_mem_toDigits (by decide) (by decide) hc)

theorem isPlain_of_mem_inPositions {digits : List Char} {place : Int} {c : Char}
    (hdigits : ∀ d ∈ digits, isPlain d = true) (hc : c ∈ numberStyle.inPositions digits place) :
    isPlain c = true := by
  have hzeros : ∀ {k}, ∀ d ∈ List.replicate k '0', isPlain d = true := fun d hd =>
    isPlain_of_isDigit (isDigit_of_mem_replicate hd)
  have hpoint : ∀ d ∈ numberStyle.point, isPlain d = true := List.all_eq_true.1 rfl
  suffices h : ∀ d ∈ numberStyle.inPositions digits place, isPlain d = true from h c hc
  unfold Style.inPositions
  split_ifs
  · refine List.forall_mem_append.2 ⟨List.forall_mem_append.2 ⟨?_, hzeros⟩, hdigits⟩
    exact List.all_eq_true.1 rfl
  · exact List.forall_mem_append.2 ⟨List.forall_mem_append.2 ⟨hdigits, hzeros⟩, hpoint⟩
  · refine List.forall_mem_append.2 ⟨List.forall_mem_append.2 ⟨?_, List.all_eq_true.1 rfl⟩, ?_⟩
    · exact fun d hd => hdigits d (List.mem_of_mem_take hd)
    · exact fun d hd => hdigits d (List.mem_of_mem_drop hd)

theorem isPlain_of_mem_withExponent {digits : List Char} {place : Int} {c : Char}
    (hdigits : ∀ d ∈ digits, isPlain d = true) (hc : c ∈ withExponent digits place) :
    isPlain c = true := by
  suffices h : ∀ d ∈ withExponent digits place, isPlain d = true from h c hc
  unfold withExponent
  dsimp only
  refine List.forall_mem_append.2 ⟨List.forall_mem_append.2 ⟨?_, ?_⟩, ?_⟩
  · split
    · simp only [List.forall_mem_cons] at hdigits ⊢
      exact ⟨hdigits.1, by decide, hdigits.2⟩
    · exact hdigits
  · split <;> exact List.all_eq_true.1 rfl
  · exact fun d hd => isPlain_of_mem_toDigits hd

/-- What is written of a finite number holds nothing but digits, signs, a point and an `e`. -/
theorem isPlain_of_mem_decimal {d : Decimal} {c : Char} (hc : c ∈ numberStyle.decimal d) :
    isPlain c = true := by
  unfold Style.decimal at hc
  dsimp only at hc
  split at hc
  · exact isPlain_of_mem_inPositions (fun _ => isPlain_of_mem_toDigits) hc
  · exact isPlain_of_mem_withExponent (fun _ => isPlain_of_mem_toDigits) hc

/-- What is written of a finite number has a point or an exponent. -/
theorem all_isDigit_decimal (d : Decimal) : (numberStyle.decimal d).all Char.isDigit = false := by
  rw [List.all_eq_false]
  unfold Style.decimal
  dsimp only
  split
  · refine ⟨'.', ?_, by decide⟩
    unfold Style.inPositions
    split_ifs
    · simp
    · simp [Style.point, numberStyle]
    · simp
  · refine ⟨'e', ?_, by decide⟩
    unfold withExponent
    simp

/-- What is written of a finite number, without its sign. -/
def unsigned (rank : Nat) : List Char :=
  if rank = 0 then '0' :: numberStyle.point else numberStyle.decimal (shortest numberStyle.tie rank)

theorem write_finite (negative : Bool) (rank : Fin 0x7FF0000000000000) :
    (numberStyle.write (.finite negative rank)).toList = signed negative (unsigned rank) := by
  unfold Style.write unsigned signed
  rw [String.toList_ofList]

/-- What is written of a finite number is read as a decimal that is rounded to it. -/
theorem exists_readDecimal?_unsigned (rank : Nat) : ∃ n e,
    readDecimal? (unsigned rank) = some (n, e) ∧ Decimal.rank ⟨n, e⟩ = rank := by
  unfold unsigned
  split_ifs with hzero
  · subst hzero
    exact ⟨0, -1, rfl, rfl⟩
  · obtain ⟨n, e, hread, hvalue⟩ :=
      readDecimal?_decimal numberStyle (shortest numberStyle.tie rank)
    exact ⟨n, e, hread, (Decimal.rank_congr hvalue).trans (rank_shortest _ rank)⟩

theorem unsigned_ne_nil (rank : Nat) : unsigned rank ≠ [] := by
  intro hnil
  obtain ⟨n, e, hread, -⟩ := exists_readDecimal?_unsigned rank
  rw [hnil] at hread
  cases hread

theorem all_isDigit_unsigned (rank : Nat) : (unsigned rank).all Char.isDigit = false := by
  unfold unsigned
  split_ifs
  · rfl
  · exact all_isDigit_decimal _

theorem isPlain_of_mem_unsigned {rank : Nat} {c : Char} (hc : c ∈ unsigned rank) :
    isPlain c = true := by
  unfold unsigned at hc
  split_ifs at hc
  · exact List.all_eq_true.1 rfl c hc
  · exact isPlain_of_mem_decimal hc

/-! ## Reading scalars -/

/-- Reads a word or a number. -/
def readScalar? (text : List Char) : Option Value :=
  if text = "true".toList then some (.boolean true)
  else if text = "false".toList then some (.boolean false)
  else if text = "null".toList then some (.float .notANumber)
  else if text.all Char.isDigit then some (.natural (ofDigits text))
  else
    let (negative, digits) := splitSign text
    (readDecimal? digits).map fun (n, e) => .float (.ofRank negative (Decimal.rank ⟨n, e⟩))

theorem readScalar?_boolean (value : Bool) :
    readScalar? (toString value).toList = some (.boolean value) := by
  cases value <;> rfl

theorem readScalar?_natural (value : Nat) :
    readScalar? (toString value).toList = some (.natural value) := by
  have htext : (toString value).toList = Nat.toDigits 10 value := String.toList_ofList
  have hall : (Nat.toDigits 10 value).all Char.isDigit = true :=
    List.all_eq_true.2 fun _ => Nat.isDigit_of_mem_toDigits (by decide) (by decide)
  have hword : ∀ {word : String}, word.toList.all Char.isDigit = false →
      Nat.toDigits 10 value ≠ word.toList := by
    intro word hword heq
    rw [heq, hword] at hall
    cases hall
  rw [htext, readScalar?, if_neg (hword rfl), if_neg (hword rfl), if_neg (hword rfl), if_pos hall,
    ofDigits_toDigits]

theorem readScalar?_float (value : Binary64) :
    readScalar? (numberStyle.write value).toList = some (.float value.shown) := by
  cases value with
  | notANumber => rfl
  | infinite negative => cases negative <;> rfl
  | finite negative rank =>
      obtain ⟨n, e, hread, hrank⟩ := exists_readDecimal?_unsigned rank
      have hsplit := splitSign_signed (Option.isSome_iff_exists.2 ⟨_, hread⟩) negative
      have hword : ∀ {word : String}, readDecimal? (splitSign word.toList).2 = none →
          signed negative (unsigned rank) ≠ word.toList := by
        intro word hword heq
        rw [← heq, hsplit, hread] at hword
        cases hword
      have hdigits : (signed negative (unsigned rank)).all Char.isDigit = false := by
        cases negative <;> simp [signed, all_isDigit_unsigned]
      have hfinite : Binary64.ofRank negative rank = .finite negative rank := dif_pos rank.isLt
      rw [write_finite, readScalar?, if_neg (hword rfl), if_neg (hword rfl), if_neg (hword rfl),
        if_neg (by simp [hdigits]), hsplit]
      simp only [hread, Option.map_some, hrank, hfinite]
      rfl

/-! ## Strings -/

/-- The character that a letter stands for behind a backslash. -/
def unescapeLetter? : Char → Option Char
  | 'n' => some '\n'
  | 't' => some '\t'
  | 'r' => some '\r'
  | 'b' => some '\x08'
  | 'f' => some '\x0c'
  | '"' => some '"'
  | '\\' => some '\\'
  | _ => none

/-- The first character of a string, and what follows it; a double quote ends the string. -/
def unescapeChar? : List Char → Option (Char × List Char)
  | '\\' :: 'u' :: first :: second :: third :: fourth :: rest =>
    some (Char.ofNat (Text.hexValue [first, second, third, fourth]), rest)
  | '\\' :: c :: rest => (unescapeLetter? c).map fun meant => (meant, rest)
  | c :: rest => if c = '"' then none else some (c, rest)
  | [] => none

theorem unescapeChar?_of_ne {c : Char} (hquote : c ≠ '"') (hbackslash : c ≠ '\\')
    (rest : List Char) : unescapeChar? (c :: rest) = some (c, rest) := by
  unfold unescapeChar?
  split <;> simp_all

/-- What stands for a character in a string is read back as this character, whatever follows. -/
theorem unescapeChar?_escapeChar (c : Char) (rest : List Char) :
    unescapeChar? (escapeChar c ++ rest) = some (c, rest) := by
  have hone : ∀ n < 16, (Nat.toDigits 16 n).length = 1 ∧
      Text.hexValue ('0' :: '0' :: '0' :: Nat.toDigits 16 n) = n := by decide
  have htwo : ∀ n < 32, 16 ≤ n → (Nat.toDigits 16 n).length = 2 ∧
      Text.hexValue ('0' :: '0' :: Nat.toDigits 16 n) = n := by decide
  unfold escapeChar
  split_ifs with hquote hbackslash hfeed htab hreturn hback hform hlow hhigh
  · rw [hquote]
    rfl
  · rw [hbackslash]
    rfl
  · rw [hfeed]
    rfl
  · rw [htab]
    rfl
  · rw [hreturn]
    rfl
  · rw [hback]
    rfl
  · rw [hform]
    rfl
  · obtain ⟨hlength, hvalue⟩ := hone _ hlow
    obtain ⟨digit, hdigit⟩ := List.length_eq_one_iff.1 hlength
    rw [hdigit] at hvalue ⊢
    simp only [List.cons_append, List.nil_append, unescapeChar?, hvalue, Char.ofNat_toNat]
  · obtain ⟨hlength, hvalue⟩ := htwo _ hhigh (not_lt.1 hlow)
    obtain ⟨first, second, hdigits⟩ := List.length_eq_two.1 hlength
    rw [hdigits] at hvalue ⊢
    simp only [List.cons_append, List.nil_append, unescapeChar?, hvalue, Char.ofNat_toNat]
  · exact unescapeChar?_of_ne hquote hbackslash rest

end Json

end Scriptlet
