/-
# Whole numbers as programs

Digits with a semicolon behind them are a program in every dialect, with or without a minus in
front. Its one number is the nearest to what the digits denote. There is no limit to the digits, but
there is one to the numbers: from a certain power of two on they are infinite.
-/

import Scriptlet.Proofs.Boundaries
import Scriptlet.Proofs.Decimals
import Scriptlet.Proofs.Parsing
import Scriptlet.Proofs.Scanning

namespace Scriptlet

open Number

/-! ## Numbers that are too great -/

namespace Number

theorem div_le_roundHalfEven (num den : Nat) : num / den ≤ roundHalfEven num den := by
  unfold roundHalfEven
  dsimp only
  split_ifs <;> omega

theorem binaryOrder_whole {n : Nat} (hn : 0 < n) : binaryOrder n 1 = n.log2 := by
  rw [binaryOrder_eq_log hn one_pos, ratio, Nat.cast_one, div_one, Int.log_natCast,
    Nat.log2_eq_log_two]

/-- The ranks end below the 1024th power of two. -/
theorem infinityRank_le_nearestRank {n : Nat} (h : 1024 ≤ n.log2) :
    Binary64.infinityRank ≤ nearestRank n 1 := by
  have hn : n ≠ 0 := by
    rintro rfl
    simp at h
  obtain ⟨k, hk⟩ : ∃ k, n.log2 = k + 52 := ⟨n.log2 - 52, by omega⟩
  have hexponent : max (binaryOrder n 1 - 52) (-1074) = Int.ofNat k := by
    rw [binaryOrder_whole (Nat.pos_of_ne_zero hn), hk, Int.ofNat_eq_natCast]
    omega
  have hsignificand : binadeSize ≤ n / 2 ^ k := by
    rw [Nat.le_div_iff_mul_le (Nat.two_pow_pos k)]
    calc binadeSize * 2 ^ k = 2 ^ (k + 52) := by rw [Nat.pow_add, Nat.mul_comm]; rfl
      _ ≤ n := hk ▸ Nat.log2_self_le hn
  have hrounded := hsignificand.trans (div_le_roundHalfEven n (2 ^ k))
  have hbinade : 2046 * binadeSize ≤ (Int.ofNat k + 1074).toNat * binadeSize :=
    Nat.mul_le_mul_right _ (by rw [Int.ofNat_eq_natCast]; omega)
  rw [nearestRank, if_neg hn, hexponent]
  simp only [unscale, Nat.pow_eq, Nat.one_mul]
  calc Binary64.infinityRank = 2046 * binadeSize + binadeSize := rfl
    _ ≤ _ := Nat.add_le_add hbinade hrounded

end Number

namespace Binary64

/-- A whole number that is too great becomes infinite. -/
theorem ofDecimal_eq_infinite {n : Nat} (h : 1024 ≤ n.log2) (negative : Bool) :
    ofDecimal negative n 0 = .infinite negative := by
  have hn : ¬ (n = 0 ∨ 0 + (n.log2 : Int) < -400) := by
    rintro (rfl | hsmall)
    · simp at h
    · omega
  rw [ofDecimal, if_neg hn, if_neg (by decide)]
  exact dif_neg (not_lt.2 (infinityRank_le_nearestRank h))

end Binary64

/-! ## Reading and scanning digits -/

variable {digits : List Char}

theorem toLower_of_isDigit {c : Char} (hc : c.isDigit = true) : c.toLower = c := by
  simp only [Char.isDigit, Bool.and_eq_true, decide_eq_true_eq, UInt32.le_iff_toNat_le] at hc
  unfold Char.toLower
  refine dif_neg fun hupper => ?_
  simp only [UInt32.le_iff_toNat_le] at hupper
  have hlast : '9'.val.toNat < 'A'.val.toNat := by decide
  omega

/-- Digits denote the number nearest to the whole number they write. -/
theorem Binary64.ofString?_signed (hdigits : ∀ c ∈ digits, c.isDigit = true) (hsome : digits ≠ [])
    (negative : Bool) :
    ofString? (String.ofList (signed negative digits)) =
      some (ofDecimal negative (ofDigits digits) 0) := by
  have hlower : digits.map Char.toLower = digits :=
    (List.map_congr_left fun c hc => toLower_of_isDigit (hdigits c hc)).trans (List.map_id digits)
  have hread : readDecimal? digits = some (ofDigits digits, 0) := by
    simpa using @readDecimal?_whole digits [] 0 hdigits hsome (by simp) rfl
  have hletter : ∀ c word, c.isDigit = false →
      String.ofList digits ≠ String.ofList (c :: word) := by
    intro c word hc h
    have hmem : c ∈ digits := by
      rw [String.ofList_inj.1 h]
      exact List.mem_cons_self
    rw [hdigits c hmem] at hc
    cases hc
  unfold ofString?
  rw [String.toList_ofList, splitSign_signed (Option.isSome_iff_exists.2 ⟨_, hread⟩)]
  dsimp only
  rw [hlower]
  split
  · next h => exact absurd h (hletter 'i' _ rfl)
  · next h => exact absurd h (hletter 'i' _ rfl)
  · next h => exact absurd h (hletter 'n' _ rfl)
  · rw [hread, Option.map_some]

namespace Lexicon

variable {lexicon : Lexicon} {c : Char}

theorem classify_of_isDigit (hc : c.isDigit = true) : lexicon.classify c = .numeric := by
  have hquote : isQuote c = false := by
    by_contra hquote
    simp only [isQuote, Bool.not_eq_false, Bool.or_eq_true, beq_iff_eq] at hquote
    rcases hquote with rfl | rfl <;> cases hc
  have hblank : Text.isBlank c = false := by
    by_contra hblank
    rw [isDigit_of_isBlank (by simpa using hblank)] at hc
    cases hc
  have hpunctuation : Kind.ofPunctuation? c = none := by
    unfold Kind.ofPunctuation?
    split <;> first | rfl | cases hc
  simp [classify, hquote, hblank, hpunctuation, hc]

/-- A whole number is cut off up to the semicolon behind it. -/
theorem scan_signed (hdigits : ∀ c ∈ digits, c.isDigit = true) (hsome : digits ≠ [])
    (negative : Bool) (rest : List Char) :
    ∃ c more, signed negative digits ++ ';' :: rest = c :: more ∧
      lexicon.scan c more = .ok (.plain .number (signed negative digits) (';' :: rest)) := by
  obtain ⟨first, others, rfl⟩ := List.exists_cons_of_ne_nil hsome
  have hsplit : splitNumeral (first :: others ++ ';' :: rest) = (first :: others, ';' :: rest) := by
    have hstop : ∀ d ∈ (';' :: rest).head?, d.isDigit = false := by
      rintro _ ⟨⟩
      rfl
    unfold splitNumeral
    rw [takeWhile_append_of_stop hdigits hstop, dropWhile_append_of_stop hdigits hstop]
    rfl
  have hfirst := hdigits first List.mem_cons_self
  cases negative with
  | true =>
      refine ⟨'-', first :: others ++ ';' :: rest, rfl, ?_⟩
      have hclass : lexicon.classify '-' = .numeric := rfl
      have hdigit : ((first :: others ++ ';' :: rest).head?.map Char.isDigit).getD false = true :=
        hfirst
      rw [scan, hclass]
      dsimp only
      rw [scanNumber, if_pos (.inr rfl), if_pos hdigit, hsplit]
      rfl
  | false =>
      refine ⟨first, others ++ ';' :: rest, rfl, ?_⟩
      have hsign : ¬ (first = '+' ∨ first = '-') := by
        rintro (rfl | rfl) <;> cases hfirst
      rw [scan, classify_of_isDigit hfirst]
      dsimp only
      rw [scanNumber, if_neg hsign, ← List.cons_append, hsplit]
      rfl

end Lexicon

/-! ## The program -/

/-- The program of one number. -/
def Program.ofNumber (value : Binary64) : Program := ⟨[⟨[.number value .start], .start⟩]⟩

/-- Digits with a semicolon behind them are a program of one number. -/
theorem Dialect.parse_signed {dialect : Dialect} (hdigits : ∀ c ∈ digits, c.isDigit = true)
    (hsome : digits ≠ []) (negative : Bool) :
    dialect.parse (String.ofList (signed negative digits ++ [';'])) =
      .ok (.ofNumber (.ofDecimal negative (ofDigits digits) 0)) := by
  have hsemiColon : dialect.lexicon.scan ';' [] = .ok (.plain .semiColon [';'] []) := rfl
  obtain ⟨c, more, hsource, hnumber⟩ :=
    @Lexicon.scan_signed _ dialect.lexicon hdigits hsome negative []
  have hcuts : Cuts dialect.lexicon (c :: more) .start _ none :=
    .lexeme hnumber (.lexeme hsemiColon .done)
  have hcanonical : (Program.ofNumber (.ofDecimal negative (ofDigits digits) 0)).IsCanonical
      dialect.operators := by
    simp only [Program.IsCanonical, Program.ofNumber, List.forall_mem_singleton]
    exact ⟨_, rfl, .expression .number, rfl⟩
  rw [parse, Lexicon.readings, Cursor.ofString, String.toList_ofList, hsource, hcuts.readings_eq]
  refine parseReadings_of_describeAll hcanonical (by simp) ?_
  refine .cons (Mark.describes_add_place.2 ⟨rfl, Mark.describes_numeral.2 ⟨rfl, ?_, rfl⟩⟩)
    (.cons (Mark.describes_sign.2 rfl) .nil)
  exact Binary64.ofString?_signed hdigits hsome negative

end Scriptlet
