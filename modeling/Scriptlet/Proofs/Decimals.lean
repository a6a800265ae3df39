/-
# Decimals read back

The decimal that is chosen for a number is one that is rounded to the number, however few digits it
has. Neither zeros at its end nor the way in which it is laid out change what it denotes, so the
number can be read off what is written.
-/

import Mathlib.Tactic.FieldSimp
import Scriptlet.Number.Read
import Scriptlet.Number.Style
import Scriptlet.Proofs.Boundaries
import Scriptlet.Proofs.Rounding

namespace Scriptlet.Number

namespace Decimal

/-- The number that a decimal denotes. -/
def value (d : Decimal) : ℚ := d.digits * (10 : ℚ) ^ d.exponent

theorem toFraction_snd_pos (d : Decimal) : 0 < d.toFraction.2 :=
  unscale_snd_pos (by decide) one_pos _

theorem ratio_toFraction (d : Decimal) : ratio d.toFraction = d.value := by
  rw [toFraction, ratio_unscale (by decide), ratio, Nat.cast_one, div_one, zpow_neg, div_inv_eq_mul]
  rfl

/-- Decimals of one value read back as one number. -/
theorem rank_congr {d other : Decimal} (h : d.value = other.value) : d.rank = other.rank :=
  nearestRank_congr d.toFraction_snd_pos other.toFraction_snd_pos
    (by rw [Prod.mk.eta, Prod.mk.eta, ratio_toFraction, ratio_toFraction, h])

theorem value_mul_pow (digits k : Nat) (exponent : Int) :
    value ⟨digits * 10 ^ k, exponent⟩ = value ⟨digits, exponent + k⟩ := by
  rw [value, value, zpow_add₀ (by norm_num), zpow_natCast]
  push_cast
  ring

theorem value_trim (d : Decimal) : d.trim.value = d.value := by
  fun_induction trim d with
  | case1 d hzero ih =>
      have hdigits : d.digits / 10 * 10 ^ 1 = d.digits := by omega
      have h := value_mul_pow (d.digits / 10) 1 d.exponent
      rw [hdigits] at h
      exact ih.trans h.symm
  | case2 => rfl

end Decimal

/-! ## The decimal of a number -/

theorem value_exactDecimal (rank : Nat) :
    (exactDecimal rank).value = ratio (Binary64.magnitude rank) := by
  rw [Binary64.ratio_magnitude, exactDecimal]
  cases Binary64.exponent rank with
  | ofNat e => simp [Decimal.value]
  | negSucc e =>
      have hten : (10 : ℚ) ^ (e + 1) = 2 ^ (e + 1) * 5 ^ (e + 1) := by
        rw [← mul_pow]
        norm_num
      simp only [Decimal.value, Nat.pow_eq, Nat.cast_mul, Nat.cast_pow, zpow_negSucc, hten]
      push_cast
      field_simp

theorem rank_exactDecimal (rank : Nat) : (exactDecimal rank).rank = rank := by
  have hden : 0 < (Binary64.magnitude rank).2 := unscale_snd_pos two_pos one_pos _
  refine Eq.trans ?_ (Binary64.nearestRank_magnitude rank)
  refine nearestRank_congr (Decimal.toFraction_snd_pos _) hden ?_
  rw [Prod.mk.eta, Prod.mk.eta, Decimal.ratio_toFraction, value_exactDecimal]

variable {tie : Tie} {rank num den count : Nat} {d : Decimal}

theorem rank_of_onGrid? (h : onGrid? tie rank num den count = some d) : d.rank = rank := by
  unfold onGrid? at h
  dsimp only at h
  split_ifs at h <;> cases h <;> assumption

/-- The decimal that is chosen for a number reads back as the number. -/
theorem rank_shortest (tie : Tie) (rank : Nat) : (shortest tie rank).rank = rank := by
  rw [shortest, Decimal.rank_congr (Decimal.value_trim _)]
  cases hfound : (List.range' 1 17).findSome?
      (onGrid? tie rank (Binary64.magnitude rank).1 (Binary64.magnitude rank).2) with
  | none => exact rank_exactDecimal rank
  | some d =>
      obtain ⟨count, -, hcount⟩ := List.exists_of_findSome?_eq_some hfound
      exact rank_of_onGrid? hcount

/-! ## The layouts of a decimal -/

theorem ofDigits_eq (digits : List Char) : ofDigits digits = Nat.ofDigitChars 10 digits 0 := rfl

theorem ofDigits_append (digits more : List Char) :
    ofDigits (digits ++ more) = Nat.ofDigitChars 10 more (ofDigits digits) := by
  rw [ofDigits_eq, ofDigits_eq, Nat.ofDigitChars_append]

theorem ofDigits_toDigits (n : Nat) : ofDigits (Nat.toDigits 10 n) = n :=
  Nat.ofDigitChars_ten_toDigits

theorem ofDigits_zeros (k : Nat) (digits : List Char) :
    ofDigits (List.replicate k '0' ++ digits) = ofDigits digits := by
  rw [ofDigits_append, ofDigits_eq, Nat.ofDigitChars_replicate_zero, Nat.mul_zero, ofDigits_eq]

theorem ofDigits_append_zeros (digits : List Char) (k : Nat) :
    ofDigits (digits ++ List.replicate k '0') = ofDigits digits * 10 ^ k := by
  rw [ofDigits_append, Nat.ofDigitChars_replicate_zero, Nat.mul_comm]

theorem isDigit_of_mem_replicate {k : Nat} {c : Char} (hc : c ∈ List.replicate k '0') :
    c.isDigit = true := List.eq_of_mem_replicate hc ▸ rfl

variable {whole fraction after digits : List Char} {e place : Int}

/-- Digits, a point and more digits are read as one run of digits. -/
theorem readDecimal?_point (hwhole : ∀ c ∈ whole, c.isDigit = true) (hsome : whole ≠ [])
    (hfraction : ∀ c ∈ fraction, c.isDigit = true)
    (hafter : ∀ c ∈ after.head?, c.isDigit = false) (hexponent : readExponent? after = some e) :
    readDecimal? (whole ++ '.' :: (fraction ++ after)) =
      some (ofDigits (whole ++ fraction), e - fraction.length) := by
  have hpoint : ∀ c ∈ ('.' :: (fraction ++ after)).head?, c.isDigit = false := by
    rintro _ ⟨⟩
    rfl
  simp only [readDecimal?, takeWhile_append_of_stop hwhole hpoint,
    dropWhile_append_of_stop hwhole hpoint, takeWhile_append_of_stop hfraction hafter,
    dropWhile_append_of_stop hfraction hafter, hsome, hexponent, false_and, if_false,
    Option.map_some]

/-- Digits without a point are read as they stand. -/
theorem readDecimal?_whole (hwhole : ∀ c ∈ whole, c.isDigit = true) (hsome : whole ≠ [])
    (hafter : ∀ c ∈ after.head?, c.isDigit = false ∧ c ≠ '.')
    (hexponent : readExponent? after = some e) :
    readDecimal? (whole ++ after) = some (ofDigits whole, e) := by
  have hstop : ∀ c ∈ after.head?, c.isDigit = false := fun c hc => (hafter c hc).1
  unfold readDecimal?
  rw [takeWhile_append_of_stop hwhole hstop, dropWhile_append_of_stop hwhole hstop]
  dsimp only
  split
  · exact absurd rfl (hafter '.' rfl).2
  · simp only [hsome, hexponent, false_and, if_false, Option.map_some, List.append_nil,
      List.length_nil, Nat.cast_zero, sub_zero]

/-- What is read as an unsigned number starts with no sign. -/
theorem splitSign_of_readDecimal? {text : List Char} (h : (readDecimal? text).isSome) :
    splitSign text = (false, text) := by
  unfold splitSign
  split
  · simp [readDecimal?] at h
  · simp [readDecimal?] at h
  · rfl

/-- A number as it is written: a minus in front, if it is negative. -/
def signed (negative : Bool) (text : List Char) : List Char :=
  if negative then '-' :: text else text

theorem splitSign_signed {text : List Char} (h : (readDecimal? text).isSome) (negative : Bool) :
    splitSign (signed negative text) = (negative, text) := by
  cases negative with
  | true => rfl
  | false => exact splitSign_of_readDecimal? h

theorem readExponent?_signed (e : Int) :
    readExponent? (['e', if e < 0 then '-' else '+'] ++ Nat.toDigits 10 e.natAbs) = some e := by
  have hdigits : (Nat.toDigits 10 e.natAbs).all Char.isDigit = true :=
    List.all_eq_true.2 fun c hc => Nat.isDigit_of_mem_toDigits (by decide) (by decide) hc
  have hsome : Nat.toDigits 10 e.natAbs ≠ [] := Nat.toDigits_ne_nil
  rw [List.cons_append, List.singleton_append, readExponent?, if_pos (.inl rfl)]
  by_cases hneg : e < 0
  · rw [if_pos hneg]
    simp only [splitSign, hsome, hdigits, ofDigits_toDigits, ne_eq, not_false_eq_true, and_self,
      if_true]
    rw [Int.ofNat_natAbs_of_nonpos hneg.le, neg_neg]
  · rw [if_neg hneg]
    simp only [splitSign, hsome, hdigits, ofDigits_toDigits, ne_eq, not_false_eq_true, and_self,
      if_true]
    rw [if_neg Bool.false_ne_true, Int.natAbs_of_nonneg (not_lt.1 hneg)]

section Layouts

variable (hdigits : ∀ c ∈ digits, c.isDigit = true) (hsome : digits ≠ [])
include hdigits hsome

/-- Digits in positions are read as a decimal of the same value. -/
theorem readDecimal?_inPositions (style : Style) (place : Int) : ∃ n e,
    readDecimal? (style.inPositions digits place) = some (n, e) ∧
      Decimal.value ⟨n, e⟩ = Decimal.value ⟨ofDigits digits, place - digits.length⟩ := by
  unfold Style.inPositions
  split_ifs with hsmall hwhole
  · have h := @readDecimal?_point ['0'] (List.replicate (-place).toNat '0' ++ digits) [] 0
      (List.forall_mem_singleton.2 rfl) (List.cons_ne_nil _ _)
      (List.forall_mem_append.2 ⟨fun _ => isDigit_of_mem_replicate, hdigits⟩)
      (by rintro _ ⟨⟩) rfl
    rw [List.append_nil] at h
    refine ⟨_, _, h, ?_⟩
    have hzeros : ofDigits (['0'] ++ (List.replicate (-place).toNat '0' ++ digits)) =
        ofDigits digits := by
      rw [← List.append_assoc]
      exact ofDigits_zeros ((-place).toNat + 1) digits
    have hexponent : (0 : Int) - (List.replicate (-place).toNat '0' ++ digits).length =
        place - digits.length := by
      rw [List.length_append, List.length_replicate]
      omega
    rw [hzeros, hexponent]
  · have hrun : ∀ c ∈ digits ++ List.replicate (place - digits.length).toNat '0',
        c.isDigit = true :=
      List.forall_mem_append.2 ⟨hdigits, fun _ => isDigit_of_mem_replicate⟩
    have hcount : (((place - digits.length).toNat : Nat) : Int) = place - digits.length := by omega
    unfold Style.point
    split
    · have h := @readDecimal?_point _ ['0'] [] 0 hrun (List.append_ne_nil_of_left_ne_nil hsome _)
        (List.forall_mem_singleton.2 rfl) (by rintro _ ⟨⟩) rfl
      refine ⟨_, _, h, ?_⟩
      rw [List.append_assoc, ← List.replicate_succ', ofDigits_append_zeros, Decimal.value_mul_pow]
      refine congrArg Decimal.value (congrArg (Decimal.mk _) ?_)
      rw [List.length_singleton]
      omega
    · have h := @readDecimal?_whole _ [] 0 hrun (List.append_ne_nil_of_left_ne_nil hsome _)
        (by rintro _ ⟨⟩) rfl
      refine ⟨_, _, h, ?_⟩
      rw [ofDigits_append_zeros, Decimal.value_mul_pow, hcount, zero_add]
  · have htake : digits.take place.toNat ≠ [] := by
      have hplace : place.toNat ≠ 0 := by omega
      rw [ne_eq, List.take_eq_nil_iff, not_or]
      exact ⟨hplace, hsome⟩
    have h := @readDecimal?_point (digits.take place.toNat) (digits.drop place.toNat) [] 0
      (fun c hc => hdigits c (List.mem_of_mem_take hc)) htake
      (fun c hc => hdigits c (List.mem_of_mem_drop hc)) (by rintro _ ⟨⟩) rfl
    have hexponent : (0 : Int) - (digits.drop place.toNat).length = place - digits.length := by
      rw [List.length_drop]
      omega
    rw [List.append_nil, List.take_append_drop, hexponent] at h
    rw [List.append_assoc, List.singleton_append]
    exact ⟨_, _, h, rfl⟩

/-- Digits with an exponent are read as a decimal of the same value. -/
theorem readDecimal?_withExponent (place : Int) :
    readDecimal? (withExponent digits place) = some (ofDigits digits, place - digits.length) := by
  have hexponent := readExponent?_signed (place - 1)
  have hafter : ∀ c ∈ (['e', if place - 1 < 0 then '-' else '+'] ++
      Nat.toDigits 10 (place - 1).natAbs).head?, c.isDigit = false ∧ c ≠ '.' := by
    rintro _ ⟨⟩
    decide
  unfold withExponent
  rcases digits with - | ⟨first, - | ⟨second, rest⟩⟩
  · exact absurd rfl hsome
  · exact readDecimal?_whole hdigits hsome hafter hexponent
  · have h := @readDecimal?_point [first] (second :: rest) _ _
      (List.forall_mem_singleton.2 (hdigits _ List.mem_cons_self)) (List.cons_ne_nil _ _)
      (fun c hc => hdigits c (List.mem_cons_of_mem _ hc)) (fun c hc => (hafter c hc).1) hexponent
    dsimp only
    rw [List.append_assoc]
    refine Eq.trans h (congrArg (fun e => some (_, e)) ?_)
    rw [List.length_cons, List.length_cons, List.length_cons]
    push_cast
    ring

end Layouts

/-- What is written of a decimal is read as a decimal of the same value. -/
theorem readDecimal?_decimal (style : Style) (d : Decimal) : ∃ n e,
    readDecimal? (style.decimal d) = some (n, e) ∧ (Decimal.mk n e).value = d.value := by
  have hdigits : ∀ c ∈ Nat.toDigits 10 d.digits, c.isDigit = true :=
    fun c hc => Nat.isDigit_of_mem_toDigits (by decide) (by decide) hc
  have hplace : ((Nat.toDigits 10 d.digits).length : Int) + d.exponent -
      (Nat.toDigits 10 d.digits).length = d.exponent := add_sub_cancel_left _ _
  unfold Style.decimal
  dsimp only
  split
  · obtain ⟨n, e, hread, hvalue⟩ := readDecimal?_inPositions hdigits Nat.toDigits_ne_nil style
      ((Nat.toDigits 10 d.digits).length + d.exponent)
    rw [hplace, ofDigits_toDigits] at hvalue
    exact ⟨n, e, hread, hvalue⟩
  · have hread := readDecimal?_withExponent hdigits Nat.toDigits_ne_nil
      ((Nat.toDigits 10 d.digits).length + d.exponent)
    rw [hplace, ofDigits_toDigits] at hread
    exact ⟨_, _, hread, rfl⟩

end Scriptlet.Number
