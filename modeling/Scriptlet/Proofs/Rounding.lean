/-
# Rounding

The rank that a fraction is rounded to depends on the number that the fraction denotes, and on
nothing else of it. A number of the format is rounded to its own rank.
-/

import Mathlib.Algebra.Order.Field.Power
import Mathlib.Data.Int.Log
import Mathlib.Data.Rat.Floor
import Mathlib.Tactic.GCongr
import Mathlib.Tactic.Positivity
import Mathlib.Tactic.Ring
import Scriptlet.Number.Binary64

namespace Scriptlet.Number

/-- The number that a fraction denotes. -/
def ratio (fraction : Nat × Nat) : ℚ := fraction.1 / fraction.2

variable {base num den : Nat} {exponent : Int}

/-! ## Scaling -/

theorem unscale_snd_pos (hbase : 0 < base) (hden : 0 < den) (exponent : Int) :
    0 < (unscale base num den exponent).2 := by
  cases exponent with
  | ofNat e => exact Nat.mul_pos hden (Nat.pow_pos hbase)
  | negSucc e => exact hden

theorem ratio_unscale (hbase : 0 < base) (num den : Nat) (exponent : Int) :
    ratio (unscale base num den exponent) = ratio (num, den) / (base : ℚ) ^ exponent := by
  have hne : (base : ℚ) ≠ 0 := Nat.cast_ne_zero.2 hbase.ne'
  cases exponent with
  | ofNat e =>
      simp only [unscale, ratio, Nat.pow_eq, Nat.cast_mul, Nat.cast_pow, Int.ofNat_eq_natCast,
        zpow_natCast, div_div]
  | negSucc e =>
      simp only [unscale, ratio, Nat.pow_eq, Nat.cast_mul, Nat.cast_pow, zpow_negSucc,
        div_inv_eq_mul]
      ring

theorem unscale_mul (c base num den : Nat) (exponent : Int) :
    unscale base (c * num) (c * den) exponent =
      (c * (unscale base num den exponent).1, c * (unscale base num den exponent).2) := by
  cases exponent <;> simp only [unscale, Nat.mul_assoc]

/-! ## The order of a fraction -/

theorem log_eq {r : ℚ} (hr : 0 < r) {k : Int} (hlow : (2 : ℚ) ^ k ≤ r) (hhigh : r < 2 ^ (k + 1)) :
    Int.log 2 r = k := by
  have hle : k ≤ Int.log 2 r := (Int.zpow_le_iff_le_log one_lt_two hr).1 (by exact_mod_cast hlow)
  have hlt : Int.log 2 r < k + 1 :=
    (Int.lt_zpow_iff_log_lt one_lt_two hr).1 (by exact_mod_cast hhigh)
  omega

theorem ratio_pos (hnum : 0 < num) (hden : 0 < den) : 0 < ratio (num, den) :=
  div_pos (Nat.cast_pos.2 hnum) (Nat.cast_pos.2 hden)

theorem pow_log2_le {n : Nat} (hn : 0 < n) : (2 : ℚ) ^ (n.log2 : Int) ≤ n := by
  rw [zpow_natCast]
  exact_mod_cast Nat.log2_self_le hn.ne'

theorem lt_pow_log2 {n : Nat} : (n : ℚ) < 2 ^ ((n.log2 : Int) + 1) := by
  rw [← Nat.cast_succ, zpow_natCast]
  exact_mod_cast Nat.lt_log2_self

/-- The quotient of two numbers is known from the quotient of their powers of two, up to a factor
of two. -/
theorem ratio_bounds (hnum : 0 < num) (hden : 0 < den) :
    (2 : ℚ) ^ ((num.log2 : Int) - den.log2 - 1) ≤ ratio (num, den) ∧
      ratio (num, den) < 2 ^ ((num.log2 : Int) - den.log2 + 1) := by
  have hpos : (0 : ℚ) < den := Nat.cast_pos.2 hden
  rw [ratio, le_div_iff₀ hpos, div_lt_iff₀ hpos]
  constructor
  · calc (2 : ℚ) ^ ((num.log2 : Int) - den.log2 - 1) * den
        ≤ 2 ^ ((num.log2 : Int) - den.log2 - 1) * 2 ^ ((den.log2 : Int) + 1) := by
          gcongr
          exact lt_pow_log2.le
      _ = 2 ^ (num.log2 : Int) := by
          rw [← zpow_add₀ two_ne_zero]
          congr 1
          ring
      _ ≤ num := pow_log2_le hnum
  · calc (num : ℚ) < 2 ^ ((num.log2 : Int) + 1) := lt_pow_log2
      _ = 2 ^ ((num.log2 : Int) - den.log2 + 1) * 2 ^ (den.log2 : Int) := by
          rw [← zpow_add₀ two_ne_zero]
          congr 1
          ring
      _ ≤ 2 ^ ((num.log2 : Int) - den.log2 + 1) * den := by
          gcongr
          exact pow_log2_le hden

/-- Whether a fraction reaches a power is seen after dividing by it. -/
theorem unscale_le_iff (hbase : 0 < base) (hden : 0 < den) :
    (unscale base num den exponent).2 ≤ (unscale base num den exponent).1 ↔
      (base : ℚ) ^ exponent ≤ ratio (num, den) := by
  have hpos : (0 : ℚ) < (unscale base num den exponent).2 :=
    Nat.cast_pos.2 (unscale_snd_pos hbase hden exponent)
  have hpow : (0 : ℚ) < (base : ℚ) ^ exponent := zpow_pos (Nat.cast_pos.2 hbase) exponent
  have hratio := ratio_unscale hbase num den exponent
  rw [← Nat.cast_le (α := ℚ), ← one_le_div₀ hpos, ← ratio.eq_1, hratio, one_le_div₀ hpow]

/-- The order is the greatest exponent of a power of two that is at most the fraction. -/
theorem binaryOrder_eq_log (hnum : 0 < num) (hden : 0 < den) :
    binaryOrder num den = Int.log 2 (ratio (num, den)) := by
  obtain ⟨hlow, hhigh⟩ := ratio_bounds hnum hden
  have hreaches := @unscale_le_iff 2 num den (num.log2 - den.log2) two_pos hden
  symm
  apply log_eq (ratio_pos hnum hden)
  · unfold binaryOrder
    dsimp only
    split_ifs with h
    · exact_mod_cast hreaches.1 h
    · exact hlow
  · unfold binaryOrder
    dsimp only
    split_ifs with h
    · exact hhigh
    · rw [sub_add_cancel]
      exact_mod_cast not_le.1 (mt hreaches.2 h)

/-! ## Rounding to a rank -/

theorem roundHalfEven_mul {c : Nat} (hc : 0 < c) (num den : Nat) :
    roundHalfEven (c * num) (c * den) = roundHalfEven num den := by
  have htwice : 2 * (c * num % (c * den)) = c * (2 * (num % den)) := by
    rw [Nat.mul_mod_mul_left]
    ring
  simp only [roundHalfEven, Nat.mul_div_mul_left _ _ hc, htwice, Nat.mul_lt_mul_left hc]

theorem roundHalfEven_whole (hden : 0 < den) (n : Nat) : roundHalfEven (n * den) den = n := by
  rw [roundHalfEven, Nat.mul_div_cancel _ hden, Nat.mul_mod_left, Nat.mul_zero, if_pos hden]

theorem ratio_mul {c : Nat} (hc : 0 < c) (num den : Nat) :
    ratio (c * num, c * den) = ratio (num, den) := by
  simp only [ratio, Nat.cast_mul]
  exact mul_div_mul_left _ _ (Nat.cast_ne_zero.2 hc.ne')

theorem nearestRank_mul {c : Nat} (hc : 0 < c) (num : Nat) (hden : 0 < den) :
    nearestRank (c * num) (c * den) = nearestRank num den := by
  rcases Nat.eq_zero_or_pos num with rfl | hnum
  · rw [Nat.mul_zero, nearestRank, nearestRank, if_pos rfl, if_pos rfl]
  · rw [nearestRank, nearestRank, if_neg (Nat.mul_pos hc hnum).ne', if_neg hnum.ne',
      binaryOrder_eq_log (Nat.mul_pos hc hnum) (Nat.mul_pos hc hden), ratio_mul hc,
      binaryOrder_eq_log hnum hden]
    simp only [unscale_mul, roundHalfEven_mul hc]

/-- Fractions of one number have one rank. -/
theorem nearestRank_congr {num' den' : Nat} (hden : 0 < den) (hden' : 0 < den')
    (h : ratio (num, den) = ratio (num', den')) : nearestRank num den = nearestRank num' den' := by
  have hcross : den' * num = den * num' := by
    rw [ratio, ratio, div_eq_div_iff (Nat.cast_ne_zero.2 hden.ne')
      (Nat.cast_ne_zero.2 hden'.ne')] at h
    have hnat : num * den' = num' * den := by exact_mod_cast h
    rw [Nat.mul_comm, hnat, Nat.mul_comm]
  rw [← nearestRank_mul hden' num hden, hcross, Nat.mul_comm den' den,
    nearestRank_mul hden num' hden']

end Scriptlet.Number

namespace Scriptlet.Binary64

open Number

/-! ## The numbers of the format -/

theorem significand_pos {rank : Nat} (hrank : 0 < rank) : 0 < significand rank := by
  unfold significand
  split
  · exact hrank
  · exact Nat.add_pos_left (by decide) _

theorem significand_lt (rank : Nat) : significand rank < 2 * binadeSize := by
  have hmod : rank % binadeSize < binadeSize := Nat.mod_lt _ (by decide)
  unfold significand
  split <;> omega

/-- A significand is full, or it counts the least power of two. -/
theorem binadeSize_le_significand_or (rank : Nat) :
    binadeSize ≤ significand rank ∨ exponent rank = -1074 := by
  unfold significand exponent
  split
  · next hlt =>
      rw [Nat.div_eq_of_lt hlt]
      exact .inr rfl
  · exact .inl (Nat.le_add_right _ _)

theorem rank_eq (rank : Nat) :
    (exponent rank + 1074).toNat * binadeSize + significand rank = rank := by
  unfold significand exponent
  split
  · next hlt =>
      rw [Nat.div_eq_of_lt hlt]
      exact Nat.zero_add _
  · next hle =>
      have hdiv : 1 ≤ rank / binadeSize := (Nat.one_le_div_iff (by decide)).2 (not_lt.1 hle)
      have hexponent : (((max (rank / binadeSize) 1 : Nat) : Int) - 1075 + 1074).toNat =
          rank / binadeSize - 1 := by omega
      have hmod := Nat.div_add_mod' rank binadeSize
      rw [hexponent, Nat.sub_mul]
      have hle : binadeSize ≤ rank / binadeSize * binadeSize := Nat.le_mul_of_pos_left _ hdiv
      omega

theorem ratio_magnitude (rank : Nat) :
    ratio (magnitude rank) = significand rank * (2 : ℚ) ^ exponent rank := by
  rw [magnitude, ratio_unscale two_pos, ratio, Nat.cast_one, div_one, zpow_neg, div_inv_eq_mul,
    Nat.cast_two]

/-- The power of two that the significand counts is found again from the magnitude. -/
theorem log_magnitude {rank : Nat} (hrank : 0 < rank) :
    max (Int.log 2 (ratio (magnitude rank)) - 52) (-1074) = exponent rank := by
  have hpow : (0 : ℚ) < 2 ^ exponent rank := by positivity
  have hpos : 0 < ratio (magnitude rank) := by
    rw [ratio_magnitude]
    exact mul_pos (Nat.cast_pos.2 (significand_pos hrank)) hpow
  have hle : -1074 ≤ exponent rank := by
    unfold exponent
    omega
  have hhigh : Int.log 2 (ratio (magnitude rank)) < 53 + exponent rank := by
    refine (Int.lt_zpow_iff_log_lt one_lt_two hpos).1 ?_
    rw [ratio_magnitude, Nat.cast_two, zpow_add₀ two_ne_zero]
    gcongr
    exact_mod_cast significand_lt rank
  rcases binadeSize_le_significand_or rank with hfull | hleast
  · have hlow : 52 + exponent rank ≤ Int.log 2 (ratio (magnitude rank)) := by
      refine (Int.zpow_le_iff_le_log one_lt_two hpos).1 ?_
      rw [ratio_magnitude, Nat.cast_two, zpow_add₀ two_ne_zero]
      gcongr
      exact_mod_cast hfull
    omega
  · omega

/-- A number of the format is rounded to itself. -/
theorem nearestRank_magnitude (rank : Nat) :
    nearestRank (magnitude rank).1 (magnitude rank).2 = rank := by
  have hden : 0 < (magnitude rank).2 := unscale_snd_pos two_pos one_pos _
  rcases Nat.eq_zero_or_pos rank with rfl | hrank
  · rfl
  have hpow : (2 : ℚ) ^ exponent rank ≠ 0 := zpow_ne_zero _ two_ne_zero
  have hnum : 0 < (magnitude rank).1 := by
    by_contra hzero
    have hratio := ratio_magnitude rank
    rw [ratio, Nat.eq_zero_of_not_pos hzero, Nat.cast_zero, zero_div] at hratio
    exact mul_ne_zero (Nat.cast_ne_zero.2 (significand_pos hrank).ne') hpow hratio.symm
  -- Divided by its power of two the magnitude is the significand, and there is nothing to round.
  have hunscaled : 0 < (unscale 2 (magnitude rank).1 (magnitude rank).2 (exponent rank)).2 :=
    unscale_snd_pos two_pos hden _
  have hwhole : (unscale 2 (magnitude rank).1 (magnitude rank).2 (exponent rank)).1 =
      significand rank *
        (unscale 2 (magnitude rank).1 (magnitude rank).2 (exponent rank)).2 := by
    have hratio := ratio_unscale two_pos (magnitude rank).1 (magnitude rank).2 (exponent rank)
    rw [Prod.mk.eta, ratio_magnitude, Nat.cast_two, mul_div_cancel_right₀ _ hpow, ratio,
      div_eq_iff (Nat.cast_ne_zero.2 hunscaled.ne')] at hratio
    exact_mod_cast hratio
  rw [nearestRank, if_neg hnum.ne', binaryOrder_eq_log hnum hden, log_magnitude hrank]
  dsimp only
  rw [hwhole, roundHalfEven_whole hunscaled, rank_eq]

end Scriptlet.Binary64
