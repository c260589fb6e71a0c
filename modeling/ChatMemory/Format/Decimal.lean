/-!
Numbers in decimal notation and the binary numbers nearest to them.
-/

namespace ChatMemory

structure Decimal where
  negative : Bool
  digits : Nat
  exponent : Int
  deriving Repr, DecidableEq

def digitsValue (digits : List Char) : Nat :=
  digits.foldl (fun value digit => 10 * value + (digit.toNat - '0'.toNat)) 0

example : digitsValue "1905".toList = 1905 := by decide

namespace Decimal

/-- The place of the number's first digit: it is below ten to this power. -/
def magnitude (decimal : Decimal) : Int :=
  decimal.exponent + (Nat.toDigits 10 decimal.digits).length

/-- The nearest double precision number without the sign. Past the range of double precision this is
infinity or zero, and the power of ten is not computed. -/
def toDoubleUnsigned (decimal : Decimal) : Float :=
  if decimal.digits = 0 then 0
  else if 400 < decimal.magnitude then 1 / 0
  else if decimal.magnitude < -400 then 0
  else .ofScientific decimal.digits (decide (decimal.exponent < 0)) decimal.exponent.natAbs

def toDouble (decimal : Decimal) : Float :=
  if decimal.negative then -decimal.toDoubleUnsigned else decimal.toDoubleUnsigned

def powerOfTen (power : Nat) : Float :=
  .ofScientific 1 false power

def highestPower : Nat := 308

/-- A number of at most 64 bits in double precision, by rounding its digits and scaling what they
give. Digits that are divided twice are too small to be told from zero after that. -/
def scaledUnsigned (digits : Nat) (exponent : Int) : Float :=
  let start := digits.toUInt64.toFloat
  let power := exponent.natAbs
  if digits = 0 then 0
  else if 0 ≤ exponent then if power ≤ highestPower then start * powerOfTen power else 1 / 0
  else if power ≤ highestPower then start / powerOfTen power
  else if power ≤ 2 * highestPower then
    start / powerOfTen highestPower / powerOfTen (power - highestPower)
  else 0

/-- The number in double precision, with a rounding for its digits and one for each scaling. -/
def toDoubleInSteps (decimal : Decimal) : Float :=
  let value := scaledUnsigned decimal.digits decimal.exponent
  if decimal.negative then -value else value

end Decimal

def singleOfInt (value : Int) : Float32 :=
  if value < 0 then -value.natAbs.toUInt64.toFloat32 else value.natAbs.toUInt64.toFloat32

def countLimit : Nat := 0x10000000000000000

end ChatMemory
