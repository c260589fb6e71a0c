import ChatMemory.Proofs.Number.Order

/-!
Rounding to single precision. Main statement: rounding keeps the order, that is, of two values the
greater is rounded to a number that is not less.
-/

namespace ChatMemory.Number

open Float.Model Float.Model.UnpackedFloat

/-! ## Whole numbers -/

/-- The whole number nearest to a value; of two that are equally near, the even one. -/
structure IsNearest (value : ℚ) (whole : ℕ) : Prop where
  lower : (whole : ℚ) - 1 / 2 ≤ value
  upper : value ≤ whole + 1 / 2
  tie : value = whole - 1 / 2 ∨ value = whole + 1 / 2 → whole % 2 = 0

private theorem isNearest_self (whole : ℕ) : IsNearest whole whole := by
  refine ⟨by linarith, by linarith, ?_⟩
  rintro (below | above)
  · linarith
  · linarith

theorem IsNearest.mono {value greater : ℚ} {whole other : ℕ} (nearest : IsNearest value whole)
    (otherNearest : IsNearest greater other) (ordered : value ≤ greater) : whole ≤ other := by
  by_contra exceeds
  have gap : (other : ℚ) + 1 ≤ whole := by exact_mod_cast Nat.lt_of_not_le exceeds
  -- Both values can only stand in the middle between two neighbours.
  have lower := nearest.lower
  have upper := otherNearest.upper
  have neighbours : whole = other + 1 := by
    have equal : (whole : ℚ) = other + 1 := by linarith
    exact_mod_cast equal
  have even := nearest.tie (.inl (by linarith))
  have otherEven := otherNearest.tie (.inr (by linarith))
  omega

/-- What a significand tells of an exact value together with the two bits after it: whether the rest
is nothing, less than one half, one half, or more. -/
def Tells : ExtendedMantissa → ℚ → Prop
  | ⟨whole, false, false⟩, value => value = whole
  | ⟨whole, false, true⟩, value => whole < value ∧ value < whole + 1 / 2
  | ⟨whole, true, false⟩, value => value = whole + 1 / 2
  | ⟨whole, true, true⟩, value => whole + 1 / 2 < value ∧ value < whole + 1

private theorem Tells.isNearest {extended : ExtendedMantissa} {value : ℚ}
    (tells : Tells extended value) :
    IsNearest value extended.roundedMantissa := by
  rcases extended with ⟨whole, _ | _, _ | _⟩ <;> simp only [Tells] at tells
  · rw [tells]
    exact isNearest_self whole
  · change IsNearest value whole
    refine ⟨by linarith, by linarith, ?_⟩
    rintro (below | above) <;> linarith
  · change IsNearest value (whole + whole % 2)
    rcases Nat.mod_two_eq_zero_or_one whole with even | odd
    · rw [even, Nat.add_zero]
      exact ⟨by linarith, by linarith, fun _ => even⟩
    · rw [odd]
      refine ⟨by push_cast; linarith, by push_cast; linarith, fun _ => by omega⟩
  · change IsNearest value (whole + 1)
    refine ⟨by push_cast; linarith, by push_cast; linarith, ?_⟩
    push_cast
    rintro (below | above) <;> linarith

private theorem Tells.shiftRightOne {extended : ExtendedMantissa} {value : ℚ}
    (tells : Tells extended value) : Tells extended.shiftRightOne (value / 2) := by
  rcases extended with ⟨whole, roundBit, stickyBit⟩
  have halves : ((whole % 2 : ℕ) : ℚ) + 2 * ((whole / 2 : ℕ) : ℚ) = whole := by
    exact_mod_cast Nat.mod_add_div whole 2
  rcases Nat.mod_two_eq_zero_or_one whole with parity | parity <;> rw [parity] at halves <;>
    push_cast at halves <;> cases roundBit <;> cases stickyBit <;>
    simp only [Tells, ExtendedMantissa.shiftRightOne, parity, Bool.or_false, Bool.or_true, bne,
      Nat.reduceBEq, Bool.not_false, Bool.not_true] at tells ⊢ <;>
    grind

private theorem Tells.shiftRight {extended : ExtendedMantissa} {value : ℚ}
    (tells : Tells extended value)
    (count : ℕ) : Tells (extended >>> count) (value / 2 ^ count) := by
  change Tells (count.repeat ExtendedMantissa.shiftRightOne extended) _
  induction count with
  | zero => simpa [Nat.repeat] using tells
  | succ count induction =>
      rw [Nat.repeat, pow_succ, ← div_div]
      exact induction.shiftRightOne

theorem Tells.bounds {extended : ExtendedMantissa} {value : ℚ} (tells : Tells extended value) :
    (extended.mantissa : ℚ) ≤ value ∧ value < extended.mantissa + 1 := by
  rcases extended with ⟨whole, _ | _, _ | _⟩ <;> simp only [Tells] at tells <;>
    constructor <;> linarith

/-! ## Significands of 24 bits -/

/-- A value that is rounded to 24 bits from its first one on. If rounding carries over, the
significand is halved. -/
structure IsRounded (value : ℚ) (significand : ℕ) (exponent : ℤ) : Prop where
  lower : 2 ^ 23 ≤ significand
  upper : significand < 2 ^ 24
  nearest : ∃ (unit : ℤ) (whole : ℕ), 2 ^ 23 * (2 : ℚ) ^ unit ≤ value ∧
    value < 2 ^ 24 * (2 : ℚ) ^ unit ∧ IsNearest (value / 2 ^ unit) whole ∧
    unit * 2 ^ 23 + whole = exponent * 2 ^ 23 + significand

theorem isRounded_self {significand : ℕ} (lower : 2 ^ 23 ≤ significand)
    (upper : significand < 2 ^ 24) (exponent : ℤ) :
    IsRounded (significand * 2 ^ exponent) significand exponent := by
  have positive : (0 : ℚ) < 2 ^ exponent := zpow_pos two_pos exponent
  refine ⟨lower, upper, exponent, significand, ?_, ?_, ?_, rfl⟩
  · exact mul_le_mul_of_nonneg_right (by exact_mod_cast lower) positive.le
  · exact mul_lt_mul_of_pos_right (by exact_mod_cast upper) positive
  · rw [mul_div_cancel_right₀ _ positive.ne']
    exact isNearest_self significand

theorem IsRounded.mono {value greater : ℚ} {significand other : ℕ} {exponent otherExponent : ℤ}
    (rounded : IsRounded value significand exponent)
    (otherRounded : IsRounded greater other otherExponent) (ordered : value ≤ greater) :
    exponent * 2 ^ 23 + significand ≤ otherExponent * 2 ^ 23 + other := by
  rcases rounded.nearest with ⟨unit, whole, lower, upper, nearest, total⟩
  rcases otherRounded.nearest with ⟨otherUnit, otherWhole, otherLower, otherUpper, otherNearest,
    otherTotal⟩
  have positive : (0 : ℚ) < 2 ^ unit := zpow_pos two_pos unit
  have otherPositive : (0 : ℚ) < 2 ^ otherUnit := zpow_pos two_pos otherUnit
  have units : unit ≤ otherUnit := by
    have below : (2 : ℚ) ^ unit < 2 ^ (otherUnit + 1) := by
      rw [zpow_add_one₀ two_ne_zero]
      linarith
    exact Int.lt_add_one_iff.mp ((zpow_lt_zpow_iff_right₀ one_lt_two).mp below)
  rcases units.eq_or_lt with rfl | less
  · have wholes := nearest.mono otherNearest (div_le_div_of_nonneg_right ordered positive.le)
    omega
  · -- The smaller value is rounded up to the next power of two at most.
    have carried : whole ≤ 2 ^ 24 := by
      refine nearest.mono (isNearest_self (2 ^ 24)) ?_
      rw [div_le_iff₀ positive]
      exact_mod_cast upper.le
    have full : 2 ^ 23 ≤ otherWhole := by
      refine (isNearest_self (2 ^ 23)).mono otherNearest ?_
      rw [le_div_iff₀ otherPositive]
      exact_mod_cast otherLower
    omega

theorem IsRounded.value_le {value greater : ℚ} {significand other : ℕ}
    {exponent otherExponent : ℤ} (rounded : IsRounded value significand exponent)
    (otherRounded : IsRounded greater other otherExponent) (ordered : value ≤ greater) :
    (significand * 2 ^ exponent : ℚ) ≤ other * 2 ^ otherExponent := by
  have places := rounded.mono otherRounded ordered
  have upper := rounded.upper
  have otherLower := otherRounded.lower
  have positive : (0 : ℚ) < 2 ^ exponent := zpow_pos two_pos exponent
  rcases lt_trichotomy exponent otherExponent with less | rfl | greater
  · have next : (2 : ℚ) ^ (exponent + 1) ≤ 2 ^ otherExponent :=
      zpow_le_zpow_right₀ one_le_two (Int.add_one_le_iff.mpr less)
    calc (significand * 2 ^ exponent : ℚ) ≤ 2 ^ 24 * 2 ^ exponent :=
          mul_le_mul_of_nonneg_right (by exact_mod_cast upper.le) positive.le
      _ = 2 ^ 23 * 2 ^ (exponent + 1) := by rw [zpow_add_one₀ two_ne_zero]; ring
      _ ≤ 2 ^ 23 * 2 ^ otherExponent := mul_le_mul_of_nonneg_left next (by norm_num)
      _ ≤ other * 2 ^ otherExponent :=
          mul_le_mul_of_nonneg_right (by exact_mod_cast otherLower) (zpow_pos two_pos _).le
  · have significands : significand ≤ other := by omega
    exact mul_le_mul_of_nonneg_right (by exact_mod_cast significands) positive.le
  · have lower := rounded.lower
    have otherUpper := otherRounded.upper
    omega

theorem IsRounded.eq_of_exact {significand rounded : ℕ} {exponent roundedExponent : ℤ}
    (isRounded : IsRounded (significand * 2 ^ exponent) rounded roundedExponent)
    (lower : 2 ^ 23 ≤ significand) (upper : significand < 2 ^ 24) :
    rounded = significand ∧ roundedExponent = exponent := by
  have self := isRounded_self lower upper exponent
  have atMost := isRounded.mono self le_rfl
  have atLeast := self.mono isRounded le_rfl
  have roundedLower := isRounded.lower
  have roundedUpper := isRounded.upper
  omega

private theorem shiftToTargetExponent_eq {significand : ℕ} {exponent : ℤ}
    (wide : 2 ^ 23 ≤ significand) (low : -149 ≤ exponent) (accuracy : Accuracy) :
    shiftToTargetExponent Format.binary32 significand exponent accuracy =
      (ExtendedMantissa.ofMantissaAndAccuracy significand accuracy >>> (significand.log2 - 23),
        exponent + (significand.log2 - 23 : ℕ)) := by
  have bits : 23 ≤ significand.log2 := (Nat.le_log2 (by omega)).mpr wide
  have target : Format.binary32.targetExponent (totalExponent significand exponent) =
      exponent + (significand.log2 - 23 : ℕ) := by
    simp only [Format.targetExponent, totalExponent, Format.mantissaBits, Format.minExponent]
    omega
  have amount : (exponent + (significand.log2 - 23 : ℕ) - exponent).toNat =
      significand.log2 - 23 := by
    omega
  simp only [shiftToTargetExponent, shiftToExponent, target, amount]

private theorem mantissa_ofMantissaAndAccuracy (significand : ℕ) (accuracy : Accuracy) :
    (ExtendedMantissa.ofMantissaAndAccuracy significand accuracy).mantissa = significand := by
  rcases accuracy with _ | ⟨_ | _ | _⟩ <;> rfl

private theorem log2_bounds {significand : ℕ} (wide : 2 ^ 23 ≤ significand) :
    2 ^ 23 * 2 ^ (significand.log2 - 23) ≤ significand ∧
      significand + 1 ≤ 2 ^ 24 * 2 ^ (significand.log2 - 23) := by
  have nonzero : significand ≠ 0 := by omega
  have bits : 23 ≤ significand.log2 := (Nat.le_log2 nonzero).mpr wide
  rw [← pow_add, ← pow_add]
  have first : 23 + (significand.log2 - 23) = significand.log2 := by omega
  have second : 24 + (significand.log2 - 23) = significand.log2 + 1 := by omega
  rw [first, second]
  exact ⟨Nat.log2_self_le nonzero, Nat.lt_log2_self⟩

private theorem exists_carried {whole : ℕ} (exponent : ℤ) (lower : 2 ^ 23 ≤ whole)
    (upper : whole ≤ 2 ^ 24) (low : -149 ≤ exponent) :
    ∃ (significand : ℕ) (carriedExponent : ℤ), 2 ^ 23 ≤ significand ∧ significand < 2 ^ 24 ∧
      exponent * 2 ^ 23 + whole = carriedExponent * 2 ^ 23 + significand ∧
      (shiftToTargetExponent Format.binary32 whole exponent .exact).1.mantissa = significand ∧
      (shiftToTargetExponent Format.binary32 whole exponent .exact).2 = carriedExponent := by
  rw [shiftToTargetExponent_eq lower low]
  rcases upper.lt_or_eq with fits | rfl
  · have bits : whole.log2 = 23 := (Nat.log2_eq_iff (by omega)).mpr ⟨lower, fits⟩
    rw [bits]
    exact ⟨whole, exponent, lower, fits, rfl, rfl, Int.add_zero exponent⟩
  · rw [Nat.log2_two_pow]
    refine ⟨2 ^ 23, exponent + 1, le_rfl, by norm_num, ?_, rfl, rfl⟩
    push_cast
    ring

theorem roundWithAccuracy_eq {significand : ℕ} {accuracy : Accuracy} {value : ℚ} (exponent : ℤ)
    (tells : Tells (.ofMantissaAndAccuracy significand accuracy) value)
    (wide : 2 ^ 23 ≤ significand) (low : -149 ≤ exponent) :
    ∃ rounded roundedExponent positive,
      roundWithAccuracy Format.binary32 .positive significand exponent accuracy =
        .finite .positive rounded roundedExponent positive ∧
      IsRounded (value * 2 ^ exponent) rounded roundedExponent := by
  have bounds := tells.bounds
  rw [mantissa_ofMantissaAndAccuracy] at bounds
  have first := shiftToTargetExponent_eq wide low accuracy
  have nearest := (tells.shiftRight (significand.log2 - 23)).isNearest
  have powers := log2_bounds wide
  generalize significand.log2 - 23 = cut at first nearest powers
  generalize ExtendedMantissa.ofMantissaAndAccuracy significand accuracy >>> cut = shifted
    at first nearest
  have positive : (0 : ℚ) < 2 ^ cut := pow_pos two_pos cut
  have atLeast : (2 : ℚ) ^ 23 * 2 ^ cut ≤ value :=
    le_trans (by exact_mod_cast powers.1) bounds.1
  have below : value < 2 ^ 24 * (2 : ℚ) ^ cut :=
    lt_of_lt_of_le bounds.2 (by exact_mod_cast powers.2)
  have lower : 2 ^ 23 ≤ shifted.roundedMantissa := by
    refine (isNearest_self (2 ^ 23)).mono nearest ?_
    rw [le_div_iff₀ positive]
    exact_mod_cast atLeast
  have upper : shifted.roundedMantissa ≤ 2 ^ 24 := by
    refine nearest.mono (isNearest_self (2 ^ 24)) ?_
    rw [div_le_iff₀ positive]
    exact_mod_cast below.le
  rcases exists_carried (exponent + cut) lower upper (by omega)
    with ⟨rounded, carriedExponent, roundedLower, roundedUpper, total, carried, carriedTo⟩
  have positiveRounded : 0 < rounded := by omega
  have unitPositive : (0 : ℚ) < 2 ^ exponent := zpow_pos two_pos exponent
  refine ⟨rounded, carriedExponent, positiveRounded, ?_, roundedLower, roundedUpper,
    exponent + cut, shifted.roundedMantissa, ?_, ?_, ?_, total⟩
  · simp only [roundWithAccuracy, first, carried, carriedTo, positiveRounded.ne', dite_false]
  all_goals rw [zpow_add₀ two_ne_zero, zpow_natCast]
  · have scaled := mul_le_mul_of_nonneg_right atLeast unitPositive.le
    linarith
  · have scaled := mul_lt_mul_of_pos_right below unitPositive
    linarith
  · rw [mul_comm value, mul_div_mul_left _ _ unitPositive.ne']
    exact nearest

end ChatMemory.Number
