import ChatMemory.Relevance.Ranking
import Mathlib

/-!
The order of single precision numbers. Main statements: numbers compare as their places do, which
are whole numbers, so the order is total on all that are numbers; the keys that scores are sorted by
keep it.
-/

namespace ChatMemory

namespace Number

open Float.Model Float.Model.UnpackedFloat

/-- A finite number has a significand of 24 bits, unless its exponent is the smallest. -/
def IsCanonical : UnpackedFloat → Prop
  | .finite _ significand exponent _ =>
    significand < 2 ^ 24 ∧ -149 ≤ exponent ∧ exponent ≤ 104 ∧
      (2 ^ 23 ≤ significand ∨ exponent = -149)
  | _ => True

/-- Where a number stands, counted in single precision numbers from zero. -/
def place : UnpackedFloat → Int
  | .infinity sign => sign.apply (255 * 2 ^ 23)
  | .finite sign significand exponent _ => sign.apply ((exponent + 149) * 2 ^ 23 + significand)
  | .zero _ | .notANumber => 0

@[simp] theorem toNat_implicit_append {significand : BitVec 23} :
    (1#1 ++ significand).toNat = 2 ^ 23 + significand.toNat := by
  rw [BitVec.toNat_append, ← Nat.shiftLeft_add_eq_or_of_lt significand.isLt]
  rfl

theorem isCanonical_unpack (number : Float32.Model) : IsCanonical number.unpack := by
  rw [Float32.Model.unpack, UnpackedFloat.unpack]
  dsimp only
  have narrow : (@unpackMantissa Format.binary32 number.toBits.toBitVec).toNat < 2 ^ 23 :=
    BitVec.isLt _
  have small : (@unpackExponent Format.binary32 number.toBits.toBitVec).toNat < 2 ^ 8 :=
    BitVec.isLt _
  split
  · split <;> trivial
  · rename_i notLast
    split
    · split
      · trivial
      · rename_i first _
        simp only [IsCanonical, Format.exponentBias, first, BitVec.toNat_zero]
        omega
    · rename_i notFirst
      have below : (@unpackExponent Format.binary32 number.toBits.toBitVec).toNat ≠ 255 :=
        fun last => notLast (BitVec.eq_of_toNat_eq last)
      have above : (@unpackExponent Format.binary32 number.toBits.toBitVec).toNat ≠ 0 :=
        fun zero => notFirst (BitVec.eq_of_toNat_eq zero)
      simp only [IsCanonical, Format.exponentBias, toNat_implicit_append]
      omega

theorem place_pos {significand : Nat} {exponent : Int} {positive : 0 < significand}
    (canonical : IsCanonical (.finite .positive significand exponent positive)) :
    0 < place (.finite .positive significand exponent positive) := by
  simp only [IsCanonical] at canonical
  simp only [place, Sign.apply]
  omega

private theorem compare_significands {first second : Nat} {firstExponent secondExponent : Int}
    {firstPos : 0 < first} {secondPos : 0 < second}
    (firstCanonical : IsCanonical (.finite .positive first firstExponent firstPos))
    (secondCanonical : IsCanonical (.finite .positive second secondExponent secondPos)) :
    (compare firstExponent secondExponent).then (compare first second) =
      compare ((firstExponent + 149) * 2 ^ 23 + first : Int)
        ((secondExponent + 149) * 2 ^ 23 + second) := by
  simp only [IsCanonical] at firstCanonical secondCanonical
  rcases Int.lt_trichotomy firstExponent secondExponent with less | rfl | greater
  · rw [Int.compare_eq_lt.mpr less, Ordering.lt_then, eq_comm, Int.compare_eq_lt]
    omega
  · rw [Int.compare_eq_eq.mpr rfl, Ordering.eq_then]
    rcases Nat.lt_trichotomy first second with less | rfl | greater
    · rw [Nat.compare_eq_lt.mpr less, eq_comm, Int.compare_eq_lt]
      omega
    · simp
    · rw [Nat.compare_eq_gt.mpr greater, eq_comm, Int.compare_eq_gt]
      omega
  · rw [Int.compare_eq_gt.mpr greater, Ordering.gt_then, eq_comm, Int.compare_eq_gt]
    omega

private theorem compare_neg_neg (first second : Int) :
    compare second first = compare (-first) (-second) := by
  simp [compare, compareOfLessAndEq, eq_comm]

private theorem toNat_unpackSign (bits : BitVec 32) :
    (@unpackSign Format.binary32 bits).toNat = bits.toNat / 2 ^ 31 % 2 := by
  rw [unpackSign, BitVec.toNat_cast, BitVec.extractLsb_toNat, Nat.shiftRight_eq_div_pow]
  rfl

private theorem toNat_unpackExponent (bits : BitVec 32) :
    (@unpackExponent Format.binary32 bits).toNat = bits.toNat / 2 ^ 23 % 2 ^ 8 := by
  rw [unpackExponent, BitVec.toNat_cast, BitVec.extractLsb_toNat, Nat.shiftRight_eq_div_pow]
  rfl

private theorem toNat_unpackMantissa (bits : BitVec 32) :
    (@unpackMantissa Format.binary32 bits).toNat = bits.toNat % 2 ^ 23 := by
  rw [unpackMantissa, BitVec.toNat_cast, BitVec.extractLsb_toNat, Nat.shiftRight_zero]
  rfl

private theorem place_unpack {bits : BitVec 32}
    (number : UnpackedFloat.unpack Format.binary32 bits ≠ .notANumber) :
    place (UnpackedFloat.unpack Format.binary32 bits) =
      (Sign.ofBitVec (@unpackSign Format.binary32 bits)).apply
        (bits.toNat % 2 ^ 31 : Nat) := by
  have exponent := toNat_unpackExponent bits
  have significand := toNat_unpackMantissa bits
  rw [UnpackedFloat.unpack] at number ⊢
  dsimp only at number ⊢
  split
  · rename_i last
    rw [if_pos last] at number
    have lastExponent : bits.toNat / 2 ^ 23 % 2 ^ 8 = 255 :=
      exponent.symm.trans (congrArg BitVec.toNat last)
    split
    · rename_i none
      have nothing : bits.toNat % 2 ^ 23 = 0 :=
        significand.symm.trans (congrArg BitVec.toNat none)
      rw [place]
      congr 1
      omega
    · rename_i some
      exact absurd (if_neg some) number
  · split
    · rename_i first
      have firstExponent : bits.toNat / 2 ^ 23 % 2 ^ 8 = 0 :=
        exponent.symm.trans (congrArg BitVec.toNat first)
      split
      · rename_i none
        have nothing : bits.toNat % 2 ^ 23 = 0 :=
          significand.symm.trans (congrArg BitVec.toNat none)
        have zero : bits.toNat % 2 ^ 31 = 0 := by omega
        rw [place, zero]
        cases Sign.ofBitVec _ <;> rfl
      · rw [place]
        congr 1
        simp only [exponent, significand, Format.exponentBias]
        omega
    · rw [place]
      congr 1
      simp only [exponent, significand, Format.exponentBias, toNat_implicit_append]
      omega

private theorem compare_eq {first second : UnpackedFloat} (firstCanonical : IsCanonical first)
    (secondCanonical : IsCanonical second) (firstNumber : first ≠ .notANumber)
    (secondNumber : second ≠ .notANumber) :
    first.compare second = some (compare (place first) (place second)) := by
  rcases first with ⟨_ | _⟩ | _ | _ | ⟨_ | _, firstSignificand, firstExponent, firstPos⟩ <;>
    rcases second with ⟨_ | _⟩ | _ | _ | ⟨_ | _, secondSignificand, secondExponent, secondPos⟩ <;>
    simp only [UnpackedFloat.compare, place, Sign.apply, Option.some.injEq, ne_eq,
      not_true_eq_false] at firstNumber secondNumber ⊢
  case finite.negative.finite.negative =>
    rw [@compare_significands _ _ _ _ firstPos secondPos firstCanonical secondCanonical,
      Int.compare_swap]
    exact compare_neg_neg _ _
  case finite.positive.finite.positive =>
    exact compare_significands firstCanonical secondCanonical
  case zero.zero => rfl
  case infinity.negative.infinity.negative => decide
  case infinity.negative.infinity.positive => decide
  case infinity.positive.infinity.negative => decide
  case infinity.positive.infinity.positive => decide
  all_goals
    simp only [IsCanonical] at firstCanonical secondCanonical
    simp only [eq_comm (b := compare _ _), Int.compare_eq_lt, Int.compare_eq_gt]
    omega

private theorem ne_notANumber_of_compare {first second : UnpackedFloat} {order : Ordering}
    (compared : first.compare second = some order) :
    first ≠ .notANumber ∧ second ≠ .notANumber := by
  constructor
  · rintro rfl
    cases compared
  · rintro rfl
    cases first <;> cases compared

end Number

open Number Float.Model

/-- Where a single precision number stands. Both zeros stand in the same place. -/
def numberPlace (number : Float32) : Int :=
  place number.toModel.unpack

section

variable {first second third : Float32}

private theorem isNaN_iff {number : Float32} :
    number.isNaN = true ↔ number.toModel.unpack = .notANumber := by
  rw [Float32.isNaN, Float32.Model.isNaN, UnpackedFloat.isNaN_iff]

theorem isNaN_eq_false_iff {number : Float32} :
    number.isNaN = false ↔ number.toModel.unpack ≠ .notANumber := by
  rw [Ne, ← isNaN_iff, Bool.not_eq_true]

private theorem compare_eq_numberPlace (firstNumber : first.isNaN = false)
    (secondNumber : second.isNaN = false) :
    first.toModel.unpack.compare second.toModel.unpack =
      some (compare (numberPlace first) (numberPlace second)) :=
  compare_eq (isCanonical_unpack _) (isCanonical_unpack _) (isNaN_eq_false_iff.mp firstNumber)
    (isNaN_eq_false_iff.mp secondNumber)

private theorem lt_iff_compare :
    first < second ↔ first.toModel.unpack.compare second.toModel.unpack = some .lt := by
  have unfolded : first < second ↔ first.toModel.unpack.lt second.toModel.unpack = true :=
    decide_eq_true_iff
  rw [unfolded, UnpackedFloat.lt, beq_iff_eq]

private theorem le_iff_compare :
    first ≤ second ↔
      (first.toModel.unpack.compare second.toModel.unpack).any (·.isLE) = true :=
  decide_eq_true_iff

theorem lt_iff_numberPlace (firstNumber : first.isNaN = false)
    (secondNumber : second.isNaN = false) :
    first < second ↔ numberPlace first < numberPlace second := by
  rw [lt_iff_compare, compare_eq_numberPlace firstNumber secondNumber, Option.some.injEq,
    Int.compare_eq_lt]

theorem le_iff_numberPlace (firstNumber : first.isNaN = false)
    (secondNumber : second.isNaN = false) :
    first ≤ second ↔ numberPlace first ≤ numberPlace second := by
  rw [le_iff_compare, compare_eq_numberPlace firstNumber secondNumber, Option.any_some,
    Int.isLE_compare]

theorem numbers_of_lt (less : first < second) : first.isNaN = false ∧ second.isNaN = false := by
  rw [isNaN_eq_false_iff, isNaN_eq_false_iff]
  exact ne_notANumber_of_compare (lt_iff_compare.mp less)

private theorem numbers_of_le (atMost : first ≤ second) :
    first.isNaN = false ∧ second.isNaN = false := by
  rw [le_iff_compare, Option.any_eq_true] at atMost
  rcases atMost with ⟨order, compared, -⟩
  rw [isNaN_eq_false_iff, isNaN_eq_false_iff]
  exact ne_notANumber_of_compare compared

theorem lt_of_le_of_lt_float (atMost : first ≤ second) (less : second < third) : first < third := by
  have numbers := numbers_of_le atMost
  have number := (numbers_of_lt less).2
  rw [le_iff_numberPlace numbers.1 numbers.2] at atMost
  rw [lt_iff_numberPlace numbers.2 number] at less
  rw [lt_iff_numberPlace numbers.1 number]
  omega

theorem not_lt_iff_le (firstNumber : first.isNaN = false) (secondNumber : second.isNaN = false) :
    ¬first < second ↔ second ≤ first := by
  rw [lt_iff_numberPlace firstNumber secondNumber, le_iff_numberPlace secondNumber firstNumber,
    Int.not_lt]

end

/-! ## Scores -/

namespace Score

variable {score first second : Score}

private theorem unpack_eq_notANumber_iff (bits : BitVec 32) :
    UnpackedFloat.unpack Format.binary32 bits = .notANumber ↔
      255 * 2 ^ 23 < bits.toNat % 2 ^ 31 := by
  have exponent := toNat_unpackExponent bits
  have significand := toNat_unpackMantissa bits
  rw [UnpackedFloat.unpack]
  dsimp only
  split
  · rename_i last
    have all : bits.toNat / 2 ^ 23 % 2 ^ 8 = 255 :=
      exponent.symm.trans (congrArg BitVec.toNat last)
    split
    · rename_i none
      have nothing : bits.toNat % 2 ^ 23 = 0 :=
        significand.symm.trans (congrArg BitVec.toNat none)
      exact iff_of_false UnpackedFloat.noConfusion (by omega)
    · rename_i some
      have something : bits.toNat % 2 ^ 23 ≠ 0 := fun nothing =>
        some (BitVec.eq_of_toNat_eq (significand.trans nothing))
      exact iff_of_true rfl (by omega)
  · rename_i notLast
    have notAll : bits.toNat / 2 ^ 23 % 2 ^ 8 ≠ 255 := fun all =>
      notLast (BitVec.eq_of_toNat_eq (exponent.trans all))
    have number : ¬255 * 2 ^ 23 < bits.toNat % 2 ^ 31 := by omega
    split
    · split <;> exact iff_of_false UnpackedFloat.noConfusion number
    · exact iff_of_false UnpackedFloat.noConfusion number

private theorem unpack_toFloat (score : Score) :
    score.toFloat.toModel.unpack = UnpackedFloat.unpack Format.binary32 score.bits.toBitVec := by
  change UnpackedFloat.unpack Format.binary32
    (UnpackedFloat.pack Format.binary32
      (UnpackedFloat.unpack Format.binary32 score.bits.toBitVec)) = _
  rw [UnpackedFloat.pack_unpack]
  split
  · rename_i missing
    have parts := of_decide_eq_true missing
    rw [UnpackedFloat.unpack_packedNaN, UnpackedFloat.unpack]
    dsimp only
    rw [if_pos parts.1, if_neg parts.2]
  · rfl

private theorem isNaN_toFloat_iff :
    score.toFloat.isNaN = true ↔ 255 * 2 ^ 23 < score.bits.toNat % 2 ^ 31 := by
  rw [isNaN_iff, unpack_toFloat, unpack_eq_notANumber_iff]
  rfl

private theorem numberPlace_toFloat (number : score.toFloat.isNaN = false) :
    numberPlace score.toFloat =
      if score.bits.toNat < 2 ^ 31 then (score.bits.toNat : Int)
      else 2 ^ 31 - score.bits.toNat := by
  have fits : score.bits.toNat < 2 ^ 32 := UInt32.toNat_lt _
  have sign := toNat_unpackSign score.bits.toBitVec
  rw [isNaN_eq_false_iff, unpack_toFloat] at number
  rw [numberPlace, unpack_toFloat, place_unpack number, UnpackedFloat.Sign.ofBitVec]
  rw [UInt32.toNat_toBitVec] at sign ⊢
  split
  case isTrue positive =>
    have clear := sign.symm.trans (congrArg BitVec.toNat positive)
    rw [BitVec.toNat_zero] at clear
    rw [UnpackedFloat.Sign.apply, if_pos (by omega)]
    omega
  case isFalse negative =>
    have set : score.bits.toNat / 2 ^ 31 % 2 ≠ 0 := fun clear =>
      negative (BitVec.eq_of_toNat_eq (sign.trans clear))
    rw [UnpackedFloat.Sign.apply, if_neg (by omega)]
    omega

@[simp] theorem toFloat_ofFloat (value : Float32) : (ofFloat value).toFloat = value := by
  rw [ofFloat, toFloat]
  split
  · rename_i missing
    rw [Float32.isNaN_eq_decide_eq_nan, decide_eq_true_eq] at missing
    rw [missing]
    decide
  · exact Float32.ofBits_toBits value

def IsNegativeNaN (score : Score) : Prop :=
  score.toFloat.isNaN = true ∧ 2 ^ 31 ≤ score.bits.toNat

def IsPositiveNaN (score : Score) : Prop :=
  score.toFloat.isNaN = true ∧ score.bits.toNat < 2 ^ 31

/-- The order that the standard for floating point numbers puts all of them into. -/
inductive Below (first second : Score) : Prop
  | number (less : first.toFloat < second.toFloat)
  | zero (negative : first = ⟨0x80000000⟩) (positive : second = ⟨0⟩)
  | negativeNaN (missing : first.IsNegativeNaN) (other : ¬second.IsNegativeNaN)
  | positiveNaN (other : ¬first.IsPositiveNaN) (missing : second.IsPositiveNaN)
  | negativePayload (firstMissing : first.IsNegativeNaN) (secondMissing : second.IsNegativeNaN)
      (greater : second.bits < first.bits)
  | positivePayload (firstMissing : first.IsPositiveNaN) (secondMissing : second.IsPositiveNaN)
      (less : first.bits < second.bits)

private theorem eq_iff_toNat_bits {number : Nat} (fits : number < 2 ^ 32) :
    score = ⟨.ofNat number⟩ ↔ score.bits.toNat = number := by
  rcases score with ⟨bits⟩
  rw [mk.injEq, ← UInt32.toNat_inj, UInt32.toNat_ofNat_of_lt' fits]

private theorem scoreKey_lt_iff_of_numbers (firstNumber : first.toFloat.isNaN = false)
    (secondNumber : second.toFloat.isNaN = false) :
    scoreKey first < scoreKey second ↔
      first.toFloat < second.toFloat ∨ first = ⟨0x80000000⟩ ∧ second = ⟨0⟩ := by
  have firstFits : first.bits.toNat < 2 ^ 32 := UInt32.toNat_lt _
  have secondFits : second.bits.toNat < 2 ^ 32 := UInt32.toNat_lt _
  have zeros : first = ⟨0x80000000⟩ ∧ second = ⟨0⟩ ↔
      first.bits.toNat = 2 ^ 31 ∧ second.bits.toNat = 0 :=
    and_congr (eq_iff_toNat_bits (by decide)) (eq_iff_toNat_bits (by decide))
  rw [zeros, lt_iff_numberPlace firstNumber secondNumber, numberPlace_toFloat firstNumber,
    numberPlace_toFloat secondNumber]
  dsimp only [scoreKey]
  split <;> split <;> omega

private theorem isNegativeNaN_iff :
    score.IsNegativeNaN ↔ 2 ^ 31 + 255 * 2 ^ 23 < score.bits.toNat := by
  have fits : score.bits.toNat < 2 ^ 32 := UInt32.toNat_lt _
  rw [IsNegativeNaN, isNaN_toFloat_iff]
  omega

private theorem isPositiveNaN_iff :
    score.IsPositiveNaN ↔ 255 * 2 ^ 23 < score.bits.toNat ∧ score.bits.toNat < 2 ^ 31 := by
  rw [IsPositiveNaN, isNaN_toFloat_iff]
  omega

private theorem below_of_scoreKey_lt (less : scoreKey first < scoreKey second) :
    first.Below second := by
  have firstFits : first.bits.toNat < 2 ^ 32 := UInt32.toNat_lt _
  have secondFits : second.bits.toNat < 2 ^ 32 := UInt32.toNat_lt _
  have keys := less
  simp only [scoreKey] at keys
  -- Where the sign is set, what has the greater bits comes first.
  by_cases firstNegative : first.IsNegativeNaN
  · by_cases secondNegative : second.IsNegativeNaN
    · refine .negativePayload firstNegative secondNegative (UInt32.lt_iff_toNat_lt.mpr ?_)
      rw [isNegativeNaN_iff] at firstNegative secondNegative
      omega
    · exact .negativeNaN firstNegative secondNegative
  · by_cases secondPositive : second.IsPositiveNaN
    · by_cases firstPositive : first.IsPositiveNaN
      · refine .positivePayload firstPositive secondPositive (UInt32.lt_iff_toNat_lt.mpr ?_)
        rw [isPositiveNaN_iff] at firstPositive secondPositive
        omega
      · exact .positiveNaN firstPositive secondPositive
    · rw [isNegativeNaN_iff] at firstNegative
      rw [isPositiveNaN_iff] at secondPositive
      have firstNumber : first.toFloat.isNaN = false := by
        rw [Bool.eq_false_iff, ne_eq, isNaN_toFloat_iff]
        omega
      have secondNumber : second.toFloat.isNaN = false := by
        rw [Bool.eq_false_iff, ne_eq, isNaN_toFloat_iff]
        omega
      rcases (scoreKey_lt_iff_of_numbers firstNumber secondNumber).mp less with lower | zeros
      · exact .number lower
      · exact .zero zeros.1 zeros.2

private theorem scoreKey_lt_of_below (below : first.Below second) :
    scoreKey first < scoreKey second := by
  have firstFits : first.bits.toNat < 2 ^ 32 := UInt32.toNat_lt _
  have secondFits : second.bits.toNat < 2 ^ 32 := UInt32.toNat_lt _
  cases below with
  | number less =>
    have numbers := numbers_of_lt less
    exact (scoreKey_lt_iff_of_numbers numbers.1 numbers.2).mpr (.inl less)
  | zero negative positive =>
    subst negative positive
    decide
  | negativeNaN missing other =>
    rw [isNegativeNaN_iff] at missing other
    simp only [scoreKey]
    omega
  | positiveNaN other missing =>
    rw [isPositiveNaN_iff] at missing other
    simp only [scoreKey]
    omega
  | negativePayload firstMissing secondMissing greater =>
    rw [isNegativeNaN_iff] at firstMissing secondMissing
    rw [UInt32.lt_iff_toNat_lt] at greater
    simp only [scoreKey]
    omega
  | positivePayload firstMissing secondMissing less =>
    rw [isPositiveNaN_iff] at firstMissing secondMissing
    rw [UInt32.lt_iff_toNat_lt] at less
    simp only [scoreKey]
    omega

theorem scoreKey_lt_iff : scoreKey first < scoreKey second ↔ first.Below second :=
  ⟨below_of_scoreKey_lt, scoreKey_lt_of_below⟩

@[simp] theorem scoreKey_inj : scoreKey first = scoreKey second ↔ first = second := by
  have firstFits : first.bits.toNat < 2 ^ 32 := UInt32.toNat_lt _
  have secondFits : second.bits.toNat < 2 ^ 32 := UInt32.toNat_lt _
  refine ⟨fun equal => ?_, fun equal => equal ▸ rfl⟩
  rcases first with ⟨first⟩
  rcases second with ⟨second⟩
  rw [mk.injEq, ← UInt32.toNat_inj]
  dsimp only [scoreKey] at equal firstFits secondFits
  split at equal <;> split at equal <;> omega

end Score

end ChatMemory
