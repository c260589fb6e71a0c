import ChatMemory.Format.Decimal

/-!
Numbers in JSON documents. A whole number is kept as it is; any number can be taken to double
precision.
-/

namespace ChatMemory.Json

/-- A number as it is written. The tail holds the digits of the fraction and the exponent, if the
number has either. -/
structure Number where
  negative : Bool
  whole : Nat
  tail : Option (List Char × Int)
  deriving Repr, DecidableEq

def isDecimalDigit (character : Char) : Bool :=
  character.isDigit

def splitSign : List Char → Bool × List Char
  | '-' :: rest => (true, rest)
  | rest => (false, rest)

/-- The digits of a whole part: no more than one if the first is zero. -/
def wholeDigits? (digits : List Char) : Option (List Char) :=
  match digits with
  | [] => none
  | ['0'] => some digits
  | '0' :: _ => none
  | _ => some digits

def exponentValue? (text : List Char) : Option Int :=
  let (negative, digits) :=
    match text with
    | '-' :: rest => (true, rest)
    | '+' :: rest => (false, rest)
    | rest => (false, rest)
  if digits.isEmpty || !digits.all isDecimalDigit then none
  else some (if negative then -(digitsValue digits : Int) else digitsValue digits)

/-- What follows the whole part: the digits of a fraction and an exponent. -/
def tail? (text : List Char) : Option (List Char × Int) :=
  let (digits, rest) :=
    match text with
    | '.' :: rest => (some (rest.takeWhile isDecimalDigit), rest.dropWhile isDecimalDigit)
    | rest => (none, rest)
  if digits == some [] then none
  else
    let digits := digits.getD []
    match rest with
    | [] => some (digits, 0)
    | mark :: rest =>
      if mark == 'e' || mark == 'E' then (exponentValue? rest).map (digits, ·) else none

namespace Number

def ofLiteral? (literal : List Char) : Option Number :=
  let (negative, rest) := splitSign literal
  match wholeDigits? (rest.takeWhile isDecimalDigit) with
  | none => none
  | some digits =>
    let rest := rest.dropWhile isDecimalDigit
    if rest.isEmpty then some ⟨negative, digitsValue digits, none⟩
    else (tail? rest).map fun tail => ⟨negative, digitsValue digits, some tail⟩

example : ofLiteral? "-12.50e1".toList = some ⟨true, 12, some (['5', '0'], 1)⟩ := by decide

example : ofLiteral? "012".toList = none := by decide

/-- Appends digits to a number as long as it fits 64 bits. The answer has the digits that are
left. -/
def appendDigits (value : Nat) : List Char → Nat × List Char
  | [] => (value, [])
  | digit :: rest =>
    let appended := 10 * value + digitsValue [digit]
    if appended < countLimit then appendDigits appended rest else (value, digit :: rest)

/-- The number in as many digits as fit 64 bits. Digits past them are cut off. -/
def leading (number : Number) : Decimal :=
  let (fraction, exponent) := number.tail.getD ([], 0)
  let (value, left) := appendDigits 0 (Nat.toDigits 10 number.whole)
  let (value, cut) := appendDigits value fraction
  ⟨number.negative, value, exponent + left.length - (fraction.length - cut.length : Nat)⟩

example : leading ⟨false, 12, some (['5', '0'], 1)⟩ = ⟨false, 1250, -1⟩ := by decide

example : leading ⟨true, 184467440737095516160, none⟩ = ⟨true, 18446744073709551616 / 10, 2⟩ := by
  decide

/-- The number in double precision. Its leading digits are rounded first and then scaled, so that it
can lie one place beside the nearest double precision number. -/
def toDouble (number : Number) : Float :=
  number.leading.toDoubleInSteps

example : (Number.toDouble ⟨false, 997, some ("2615051269531".toList, 0)⟩).toBits =
    (997.2615051269532 : Float).toBits := by
  decide

end Number

end ChatMemory.Json
