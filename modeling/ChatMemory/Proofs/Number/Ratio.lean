import ChatMemory.Proofs.Number.Rounding

/-!
Shares of counts in single precision. Main statements: a share of counts that are not too large is
rounded to the number nearest to it, so shares keep their order, and the share of something is more
than nothing.
-/

namespace ChatMemory

namespace Number

open Float.Model Float.Model.UnpackedFloat

/-! ## Packed numbers -/

private theorem unpack_packComponents {biased significand : ℕ} (first : 0 < biased)
    (last : biased < 255)
    (positive : 0 < significand) (lower : 2 ^ 23 ≤ significand) (upper : significand < 2 ^ 24) :
    UnpackedFloat.unpack Format.binary32
        (packComponents Format.binary32 .positive (BitVec.ofNat 8 biased)
          (BitVec.ofNat 23 significand)) =
      .finite .positive significand (biased - 150) positive := by
  have small : (BitVec.ofNat 8 biased).toNat = biased := by
    rw [BitVec.toNat_ofNat, Nat.mod_eq_of_lt (by omega)]
  have notLast : BitVec.ofNat 8 biased ≠ -1#8 := fun equal => by
    have value : (BitVec.ofNat 8 biased).toNat = 255 := congrArg BitVec.toNat equal
    omega
  have notFirst : BitVec.ofNat 8 biased ≠ 0#8 := fun equal => by
    have value : (BitVec.ofNat 8 biased).toNat = 0 := congrArg BitVec.toNat equal
    omega
  have restored : (1#1 ++ BitVec.ofNat 23 significand).toNat = significand := by
    rw [toNat_implicit_append, BitVec.toNat_ofNat]
    omega
  rw [UnpackedFloat.unpack]
  simp only [unpackExponent_packComponents, unpackMantissa_packComponents,
    unpackSign_packComponents, small, restored, if_neg notLast, if_neg notFirst]
  rfl

private theorem pack_eq {significand : ℕ} {exponent : ℤ} (positive : 0 < significand)
    (lower : 2 ^ 23 ≤ significand) (upper : significand < 2 ^ 24) (high : exponent ≤ 104) :
    UnpackedFloat.pack Format.binary32 (.finite .positive significand exponent positive) =
      packComponents Format.binary32 .positive (BitVec.ofNat 8 (exponent + 150).toNat)
        (BitVec.ofNat 23 significand) := by
  have bits : significand.log2 = 23 := (Nat.log2_eq_iff (by omega)).mpr ⟨lower, upper⟩
  have biased : (exponent + Format.binary32.exponentBias +
      Format.binary32.mantissaBitsWithoutImplicit).toNat = (exponent + 150).toNat :=
    congrArg Int.toNat (Int.add_assoc exponent 127 23)
  have fits : ¬2 ^ Format.binary32.exponentBits ≤ (exponent + 150).toNat + 1 := by
    change ¬2 ^ 8 ≤ _
    omega
  rw [UnpackedFloat.pack]
  simp only [biased, bits, if_neg fits]
  rfl

private theorem unpack_pack {significand : ℕ} {exponent : ℤ} (positive : 0 < significand)
    (lower : 2 ^ 23 ≤ significand) (upper : significand < 2 ^ 24) (low : -149 ≤ exponent)
    (high : exponent ≤ 104) :
    (Float32.Model.pack (.finite .positive significand exponent positive)).unpack =
      .finite .positive significand exponent positive := by
  change UnpackedFloat.unpack Format.binary32 (UnpackedFloat.pack Format.binary32 _) = _
  rw [pack_eq positive lower upper high,
    unpack_packComponents (by omega) (by omega) positive lower upper]
  congr 1
  omega

/-! ## Numbers that hold a value -/

def Holds (number : Float32) (value : ℚ) : Prop :=
  ∃ significand exponent positive,
    number.toModel.unpack = .finite .positive significand exponent positive ∧
    IsRounded value significand exponent

def IsValue (number : Float32) (value : ℚ) : Prop :=
  ∃ significand exponent positive,
    number.toModel.unpack = .finite .positive significand exponent positive ∧
    2 ^ 23 ≤ significand ∧ significand < 2 ^ 24 ∧ -60 ≤ exponent ∧ exponent ≤ 60 ∧
    significand * 2 ^ exponent = value

theorem holds_one : Holds 1 1 := by
  have rounded := isRounded_self (le_refl (2 ^ 23)) (by norm_num) (-23)
  have value : ((2 ^ 23 : ℕ) : ℚ) * 2 ^ (-23 : ℤ) = 1 := by norm_num
  rw [value] at rounded
  exact ⟨2 ^ 23, -23, by norm_num, rfl, rounded⟩

theorem Holds.isNumber {number : Float32} {value : ℚ} (holds : Holds number value) :
    number.isNaN = false := by
  rcases holds with ⟨_, _, _, unpacked, -⟩
  rw [isNaN_eq_false_iff, unpacked]
  exact UnpackedFloat.noConfusion

theorem Holds.numberPlace_pos {number : Float32} {value : ℚ} (holds : Holds number value) :
    0 < numberPlace number := by
  rcases holds with ⟨_, _, _, unpacked, -⟩
  have canonical := isCanonical_unpack number.toModel
  rw [numberPlace, unpacked] at *
  exact place_pos canonical

theorem Holds.le {first second : Float32} {value greater : ℚ} (holds : Holds first value)
    (secondHolds : Holds second greater) (ordered : value ≤ greater) : first ≤ second := by
  rw [le_iff_numberPlace holds.isNumber secondHolds.isNumber]
  rcases holds with ⟨_, _, _, unpacked, rounded⟩
  rcases secondHolds with ⟨_, _, _, secondUnpacked, secondRounded⟩
  have places := rounded.mono secondRounded ordered
  simp only [numberPlace, unpacked, secondUnpacked, place, Sign.apply]
  omega

/-! ## Counts -/

private theorem mul_pow_mul_zpow_neg (count places : ℕ) :
    ((count * 2 ^ places : ℕ) : ℚ) * 2 ^ (-(places : ℤ)) = count := by
  rw [Nat.cast_mul, Nat.cast_pow, Nat.cast_ofNat, zpow_neg, zpow_natCast, mul_assoc,
    mul_inv_cancel₀ (pow_ne_zero _ two_ne_zero), mul_one]

private theorem le_shiftLeft {count : ℕ} (some : 0 < count) : 2 ^ 23 ≤ count <<< (23 - count.log2)
    := by
  rw [Nat.shiftLeft_eq]
  calc 2 ^ 23 ≤ 2 ^ (count.log2 + (23 - count.log2)) := Nat.pow_le_pow_right two_pos (by omega)
    _ = 2 ^ count.log2 * 2 ^ (23 - count.log2) := pow_add _ _ _
    _ ≤ count * 2 ^ (23 - count.log2) := Nat.mul_le_mul_right _ (Nat.log2_self_le some.ne')

private theorem round_eq {count : ℕ} (some : 0 < count) :
    ∃ significand exponent positive,
      UnpackedFloat.round Format.binary32 .positive count 0 =
        .finite .positive significand exponent positive ∧
      IsRounded count significand exponent := by
  have target : (0 - Format.binary32.targetExponent (totalExponent count 0)).toNat =
      23 - count.log2 := by
    simp only [Format.targetExponent, totalExponent, Format.mantissaBits, Format.minExponent]
    omega
  have tells : Tells (.ofMantissaAndAccuracy (count <<< (23 - count.log2)) .exact)
      ((count <<< (23 - count.log2) : ℕ) : ℚ) := rfl
  rcases roundWithAccuracy_eq (0 - (23 - count.log2 : ℕ)) tells
      (le_shiftLeft some) (by omega)
    with ⟨significand, exponent, positive, rounds, rounded⟩
  refine ⟨significand, exponent, positive, ?_, ?_⟩
  · rw [UnpackedFloat.round]
    simp only [decreaseExponent, target]
    exact rounds
  · rw [Nat.shiftLeft_eq, zero_sub, mul_pow_mul_zpow_neg] at rounded
    exact rounded

private theorem IsRounded.exponent_bounds {value : ℚ} {significand : ℕ} {exponent low high : ℤ}
    (rounded : IsRounded value significand exponent) (atLeast : 2 ^ 23 * 2 ^ low ≤ value)
    (atMost : value ≤ 2 ^ 23 * 2 ^ high) : low ≤ exponent ∧ exponent ≤ high := by
  have above := (isRounded_self (le_refl (2 ^ 23)) (by norm_num) low).mono rounded
    (by exact_mod_cast atLeast)
  have below := rounded.mono (isRounded_self (le_refl (2 ^ 23)) (by norm_num) high)
    (by exact_mod_cast atMost)
  have lower := rounded.lower
  have upper := rounded.upper
  constructor <;> omega

private theorem ofNat_eq_round {count : ℕ} (some : 0 < count) :
    UnpackedFloat.ofNat Format.binary32 count =
      UnpackedFloat.round Format.binary32 .positive count 0 := by
  rw [UnpackedFloat.ofNat, UnpackedFloat.ofInt, UnpackedFloat.normalize,
    Int.compare_eq_gt.mpr (by exact_mod_cast some)]
  rfl

private theorem toModel_ofCount {count : ℕ} (counted : count < 2 ^ 64) :
    (Text.ofCount count).toModel = .pack (UnpackedFloat.ofNat Format.binary32 count) := by
  have kept : count.toUInt64.toNat = count := UInt64.toNat_ofNat_of_lt' counted
  change Float32.Model.pack (UnpackedFloat.ofNat Format.binary32 count.toUInt64.toNat) = _
  rw [kept]

private theorem unpack_ofCount {count : ℕ} (some : 0 < count) (counted : count < 2 ^ 64) :
    ∃ significand exponent positive,
      (Text.ofCount count).toModel.unpack = .finite .positive significand exponent positive ∧
      IsRounded count significand exponent ∧ -23 ≤ exponent ∧ exponent ≤ 41 := by
  rcases round_eq some with ⟨significand, exponent, positive, rounds, rounded⟩
  have bounds : -23 ≤ exponent ∧ exponent ≤ 41 := by
    apply rounded.exponent_bounds
    · have least : (1 : ℚ) ≤ count := by exact_mod_cast some
      calc (2 : ℚ) ^ 23 * 2 ^ (-23 : ℤ) = 1 := by norm_num
        _ ≤ count := least
    · have most : (count : ℚ) ≤ 2 ^ 64 := by exact_mod_cast counted.le
      calc (count : ℚ) ≤ 2 ^ 64 := most
        _ = 2 ^ 23 * 2 ^ (41 : ℤ) := by norm_num
  refine ⟨significand, exponent, positive, ?_, rounded, bounds⟩
  rw [toModel_ofCount counted, ofNat_eq_round some, rounds]
  exact unpack_pack positive rounded.lower rounded.upper (by omega) (by omega)

private theorem exists_isValue_ofCount {count : ℕ} (some : 0 < count) (counted : count < 2 ^ 64) :
    ∃ value, IsValue (Text.ofCount count) value := by
  rcases unpack_ofCount some counted
    with ⟨significand, exponent, positive, unpacked, rounded, low, high⟩
  exact ⟨_, significand, exponent, positive, unpacked, rounded.lower, rounded.upper, by omega,
    by omega, rfl⟩

private theorem exists_isValue_ofCount_le {part whole : ℕ} (some : 0 < part) (atMost : part ≤ whole)
    (counted : whole < 2 ^ 64) :
    ∃ value greater, IsValue (Text.ofCount part) value ∧ IsValue (Text.ofCount whole) greater ∧
      0 < value ∧ value ≤ greater := by
  rcases unpack_ofCount some (atMost.trans_lt counted)
    with ⟨significand, exponent, positive, unpacked, rounded, low, high⟩
  rcases unpack_ofCount (some.trans_le atMost) counted
    with ⟨other, otherExponent, otherPositive, otherUnpacked, otherRounded, otherLow, otherHigh⟩
  refine ⟨_, _, ⟨significand, exponent, positive, unpacked, rounded.lower, rounded.upper,
    by omega, by omega, rfl⟩, ⟨other, otherExponent, otherPositive, otherUnpacked,
    otherRounded.lower, otherRounded.upper, by omega, by omega, rfl⟩, ?_, ?_⟩
  · exact mul_pos (by exact_mod_cast positive) (zpow_pos two_pos _)
  · exact rounded.value_le otherRounded (by exact_mod_cast atMost)

private theorem exists_significand {count : ℕ} (some : 0 < count) (small : count ≤ 2 ^ 24) :
    ∃ (significand : ℕ) (exponent : ℤ), 2 ^ 23 ≤ significand ∧ significand < 2 ^ 24 ∧
      (count : ℚ) = significand * 2 ^ exponent := by
  rcases small.lt_or_eq with less | rfl
  · have bits : count.log2 < 24 := (Nat.log2_lt some.ne').mpr less
    refine ⟨count * 2 ^ (23 - count.log2), -(23 - count.log2 : ℕ), ?_, ?_, ?_⟩
    · rw [← Nat.shiftLeft_eq]
      exact le_shiftLeft some
    · calc count * 2 ^ (23 - count.log2) < 2 ^ (count.log2 + 1) * 2 ^ (23 - count.log2) :=
            Nat.mul_lt_mul_of_pos_right Nat.lt_log2_self (pow_pos two_pos _)
        _ = 2 ^ (count.log2 + 1 + (23 - count.log2)) := (pow_add _ _ _).symm
        _ = 2 ^ 24 := congrArg (2 ^ ·) (by omega)
    · exact (mul_pow_mul_zpow_neg count _).symm
  · exact ⟨2 ^ 23, 1, le_rfl, by norm_num, by norm_num⟩

theorem isValue_ofCount {count : ℕ} (some : 0 < count) (small : count ≤ 2 ^ 24) :
    IsValue (Text.ofCount count) count := by
  rcases unpack_ofCount some (by omega)
    with ⟨significand, exponent, positive, unpacked, rounded, low, high⟩
  rcases exists_significand some small with ⟨digits, unit, lower, upper, equal⟩
  rw [equal] at rounded ⊢
  rcases rounded.eq_of_exact lower upper with ⟨rfl, rfl⟩
  exact ⟨significand, exponent, positive, unpacked, lower, upper, by omega, by omega, rfl⟩

/-! ## Products and quotients -/

private theorem unpack_two :
    (2 : Float32).toModel.unpack = .finite .positive (2 ^ 23) (-22) (by norm_num) :=
  rfl

private theorem unpack_mul (number factor : Float32) :
    (number * factor).toModel.unpack = (Float32.Model.pack (UnpackedFloat.mul Format.binary32
      number.toModel.unpack factor.toModel.unpack)).unpack :=
  rfl

private theorem unpack_div (number divisor : Float32) :
    (number / divisor).toModel.unpack = (Float32.Model.pack (UnpackedFloat.div Format.binary32
      number.toModel.unpack divisor.toModel.unpack)).unpack :=
  rfl

private theorem pow_mul_zpow (places : ℕ) (exponent : ℤ) :
    (2 : ℚ) ^ places * 2 ^ exponent = 2 ^ (places + exponent) := by
  rw [← zpow_natCast, ← zpow_add₀ two_ne_zero]

theorem IsValue.double {number : Float32} {value : ℚ} (isValue : IsValue number value)
    (small : value ≤ 2 ^ 24) : IsValue (2 * number) (2 * value) := by
  rcases isValue with ⟨significand, exponent, positive, unpacked, lower, upper, low, high, rfl⟩
  have atMost : exponent ≤ 1 := by
    have self := (isRounded_self lower upper exponent).mono
      (isRounded_self (le_refl (2 ^ 23)) (by norm_num) 1) (small.trans_eq (by norm_num))
    omega
  have exact : ((2 ^ 23 * significand : ℕ) : ℚ) * 2 ^ (-22 + exponent) =
      significand * 2 ^ (exponent + 1) := by
    have total : exponent + 1 = (23 : ℕ) + (-22 + exponent) := by omega
    rw [total, ← pow_mul_zpow]
    push_cast
    ring
  have tells : Tells (.ofMantissaAndAccuracy (2 ^ 23 * significand) .exact)
      ((2 ^ 23 * significand : ℕ) : ℚ) := rfl
  rcases roundWithAccuracy_eq (-22 + exponent) tells (by omega) (by omega)
    with ⟨rounded, roundedExponent, roundedPositive, rounds, isRounded⟩
  rw [exact] at isRounded
  rcases isRounded.eq_of_exact lower upper with ⟨rfl, rfl⟩
  refine ⟨rounded, exponent + 1, roundedPositive, ?_, lower, upper, by omega, by omega, ?_⟩
  · have signs : Sign.positive * Sign.positive = .positive := rfl
    rw [unpack_mul, unpack_two, unpacked, UnpackedFloat.mul, signs, rounds]
    exact unpack_pack roundedPositive lower upper (by omega) (by omega)
  · rw [zpow_add_one₀ two_ne_zero]
    ring

private theorem tells_quotient (dividend : ℕ) {divisor : ℕ} (nonzero : 0 < divisor) :
    Tells (.ofMantissaAndAccuracy (dividend / divisor)
      (accuracyOfFraction (dividend % divisor) divisor)) (dividend / divisor : ℚ) := by
  have positive : (0 : ℚ) < divisor := by exact_mod_cast nonzero
  have parts : (dividend / divisor : ℚ) =
      ((dividend / divisor : ℕ) : ℚ) + ((dividend % divisor : ℕ) : ℚ) / divisor := by
    rw [div_eq_iff positive.ne', add_mul, div_mul_cancel₀ _ positive.ne']
    exact_mod_cast (Nat.div_add_mod' dividend divisor).symm
  have less : dividend % divisor < divisor := Nat.mod_lt dividend nonzero
  rw [parts]
  generalize dividend / divisor = whole
  generalize dividend % divisor = rest at less ⊢
  rw [accuracyOfFraction]
  split
  case isTrue none =>
    subst none
    simp [ExtendedMantissa.ofMantissaAndAccuracy, Tells]
  case isFalse some =>
    have more : (0 : ℚ) < rest / divisor :=
      div_pos (by exact_mod_cast Nat.pos_of_ne_zero some) positive
    rcases lt_trichotomy (2 * rest) divisor with below | half | above
    · have part : (rest : ℚ) / divisor < 1 / 2 := by
        rw [div_lt_div_iff₀ positive two_pos]
        exact_mod_cast (by omega : rest * 2 < 1 * divisor)
      rw [compare_lt_iff_lt.mpr below]
      exact ⟨by linarith, by linarith⟩
    · have part : (rest : ℚ) / divisor = 1 / 2 := by
        rw [div_eq_div_iff positive.ne' two_ne_zero]
        exact_mod_cast (by omega : rest * 2 = 1 * divisor)
      rw [compare_eq_iff_eq.mpr half, part]
      rfl
    · have part : 1 / 2 < (rest : ℚ) / divisor := by
        rw [div_lt_div_iff₀ two_pos positive]
        exact_mod_cast (by omega : 1 * divisor < rest * 2)
      have notWhole : (rest : ℚ) / divisor < 1 := by
        rw [div_lt_one positive]
        exact_mod_cast less
      rw [compare_gt_iff_gt.mpr above]
      exact ⟨by linarith, by linarith⟩

private theorem divCore_eq {dividend divider : ℕ} {exponent unit : ℤ} (lower : 2 ^ 23 ≤ dividend)
    (upper : dividend < 2 ^ 24) (dividerLower : 2 ^ 23 ≤ divider) (dividerUpper : divider < 2 ^ 24)
    (high : -125 ≤ exponent - unit) :
    divCore Format.binary32 dividend exponent divider unit =
      (dividend * 2 ^ 24 / divider, exponent - unit - 24,
        accuracyOfFraction (dividend * 2 ^ 24 % divider) divider) := by
  have bits : dividend.log2 = 23 := (Nat.log2_eq_iff (by omega)).mpr ⟨lower, upper⟩
  have dividerBits : divider.log2 = 23 :=
    (Nat.log2_eq_iff (by omega)).mpr ⟨dividerLower, dividerUpper⟩
  have target : min (exponent - unit) (Format.binary32.targetExponent
      (totalExponent dividend exponent - totalExponent divider unit)) = exponent - unit - 24 := by
    simp only [Format.targetExponent, totalExponent, Format.mantissaBits, Format.minExponent, bits,
      dividerBits]
    omega
  have amount : (exponent - unit - (exponent - unit - 24)).toNat = 24 := by omega
  simp only [divCore, target, amount, Nat.shiftLeft_eq]

private theorem quotient_bounds {dividend divider : ℕ} (lower : 2 ^ 23 ≤ dividend)
    (upper : dividend < 2 ^ 24) (dividerLower : 2 ^ 23 ≤ divider)
    (dividerUpper : divider < 2 ^ 24) :
    (2 : ℚ) ^ 23 ≤ ((dividend * 2 ^ 24 : ℕ) : ℚ) / divider ∧
      ((dividend * 2 ^ 24 : ℕ) : ℚ) / divider ≤ 2 ^ 23 * 2 ^ 2 := by
  have positive : (0 : ℚ) < divider := by exact_mod_cast (by omega : 0 < divider)
  have atLeast : 2 ^ 23 * divider ≤ dividend * 2 ^ 24 := by omega
  have atMost : dividend * 2 ^ 24 ≤ 2 ^ 23 * 2 ^ 2 * divider := by omega
  rw [le_div_iff₀ positive, div_le_iff₀ positive]
  exact ⟨by exact_mod_cast atLeast, by exact_mod_cast atMost⟩

private theorem quotient_mul_zpow (dividend : ℕ) {divider : ℕ} (positive : 0 < divider)
    (exponent unit : ℤ) :
    ((dividend * 2 ^ 24 : ℕ) : ℚ) / divider * 2 ^ (exponent - unit - 24) =
      dividend * 2 ^ exponent / (divider * 2 ^ unit) := by
  have unitPower : (2 : ℚ) ^ unit ≠ 0 := zpow_ne_zero _ two_ne_zero
  have nonzero : (divider : ℚ) ≠ 0 := by exact_mod_cast positive.ne'
  rw [zpow_sub₀ two_ne_zero, zpow_sub₀ two_ne_zero]
  push_cast
  field_simp

theorem IsValue.div {number divisor : Float32} {value other : ℚ} (isValue : IsValue number value)
    (divisorIsValue : IsValue divisor other) : Holds (number / divisor) (value / other) := by
  rcases isValue with ⟨dividend, exponent, positive, unpacked, lower, upper, low, high, rfl⟩
  rcases divisorIsValue
    with ⟨divider, unit, dividerPositive, dividerUnpacked, dividerLower, dividerUpper, unitLow,
      unitHigh, rfl⟩
  have wide : 2 ^ 23 ≤ dividend * 2 ^ 24 / divider := by
    rw [Nat.le_div_iff_mul_le dividerPositive]
    exact Nat.mul_le_mul lower dividerUpper.le
  rcases roundWithAccuracy_eq (exponent - unit - 24)
    (tells_quotient (dividend * 2 ^ 24) dividerPositive) wide (by omega)
    with ⟨significand, roundedExponent, roundedPositive, rounds, rounded⟩
  have bounds : exponent - unit - 24 ≤ roundedExponent ∧
      roundedExponent ≤ exponent - unit - 22 := by
    rcases quotient_bounds lower upper dividerLower dividerUpper with ⟨atLeast, atMost⟩
    have scale : (0 : ℚ) ≤ 2 ^ (exponent - unit - 24) := (zpow_pos two_pos _).le
    have next : exponent - unit - 22 = (2 : ℕ) + (exponent - unit - 24) := by omega
    apply rounded.exponent_bounds
    · exact mul_le_mul_of_nonneg_right atLeast scale
    · rw [next, ← pow_mul_zpow, ← mul_assoc]
      exact mul_le_mul_of_nonneg_right atMost scale
  rw [quotient_mul_zpow dividend dividerPositive] at rounded
  refine ⟨significand, roundedExponent, roundedPositive, ?_, rounded⟩
  have signs : Sign.positive / Sign.positive = .positive := rfl
  rw [unpack_div, unpacked, dividerUnpacked, UnpackedFloat.div,
    divCore_eq lower upper dividerLower dividerUpper (by omega)]
  simp only [signs, rounds]
  exact unpack_pack roundedPositive rounded.lower rounded.upper (by omega) (by omega)

/-! ## Shares -/

theorem holds_ratio {part whole : ℕ} (somePart : 0 < part) (smallPart : part ≤ 2 ^ 24)
    (someWhole : 0 < whole) (smallWhole : whole ≤ 2 ^ 24) :
    Holds (Text.ratio part whole) (part / whole) :=
  (isValue_ofCount somePart smallPart).div (isValue_ofCount someWhole smallWhole)

theorem ratio_zero {whole : ℕ} (some : 0 < whole) (counted : whole < 2 ^ 64) :
    (Text.ratio 0 whole).isNaN = false ∧ numberPlace (Text.ratio 0 whole) = 0 := by
  rcases exists_isValue_ofCount some counted with ⟨_, _, _, _, unpacked, -⟩
  have none : (Text.ofCount 0).toModel.unpack = .zero .positive := rfl
  have packed : Float32.Model.unpack (.pack (.zero .positive)) = .zero .positive := rfl
  have zero : (Text.ratio 0 whole).toModel.unpack = .zero .positive := by
    rw [Text.ratio, unpack_div, none, unpacked, UnpackedFloat.div]
    exact packed
  rw [isNaN_eq_false_iff, numberPlace, zero]
  exact ⟨UnpackedFloat.noConfusion, rfl⟩

end Number

open Number

theorem ratio_pos_iff {part whole : ℕ} (countedPart : part < 2 ^ 64) (some : 0 < whole)
    (counted : whole < 2 ^ 64) : 0 < Text.ratio part whole ↔ 0 < part := by
  rcases Nat.eq_zero_or_pos part with rfl | somePart
  · rcases ratio_zero some counted with ⟨number, zero⟩
    rw [lt_iff_numberPlace rfl number, zero]
    exact iff_of_false (lt_irrefl 0) (lt_irrefl 0)
  · rcases exists_isValue_ofCount somePart countedPart with ⟨value, isValue⟩
    rcases exists_isValue_ofCount some counted with ⟨other, otherIsValue⟩
    have holds : Holds (Text.ratio part whole) (value / other) := isValue.div otherIsValue
    refine iff_of_true ?_ somePart
    rw [lt_iff_numberPlace rfl holds.isNumber]
    exact holds.numberPlace_pos

theorem one_le_ratio {part whole : ℕ} (some : 0 < part) (atMost : part ≤ whole)
    (counted : whole < 2 ^ 64) : 1 ≤ Text.ratio whole part := by
  rcases exists_isValue_ofCount_le some atMost counted
    with ⟨value, greater, isValue, greaterIsValue, positive, ordered⟩
  have holds : Holds (Text.ratio whole part) (greater / value) := greaterIsValue.div isValue
  exact holds_one.le holds ((one_le_div positive).mpr ordered)

end ChatMemory
