import ChatMemory.Format.Decimal
import ChatMemory.Format.Hexadecimal

/-!
The numbers of TOML. Digits can be grouped by single underscores between them.
-/

namespace ChatMemory.Toml

def moreDigits (isDigit : Char → Bool) : List Char → List Char × List Char
  | [] => ([], [])
  | '_' :: digit :: rest =>
    if isDigit digit then
      let (digits, rest) := moreDigits isDigit rest
      (digit :: digits, rest)
    else ([], '_' :: digit :: rest)
  | digit :: rest =>
    if isDigit digit then
      let (digits, rest) := moreDigits isDigit rest
      (digit :: digits, rest)
    else ([], digit :: rest)

def digits? (isDigit : Char → Bool) : List Char → Option (List Char × List Char)
  | [] => none
  | digit :: rest =>
    if isDigit digit then
      let (digits, rest) := moreDigits isDigit rest
      some (digit :: digits, rest)
    else none

/-- The digits of a whole number. A zero at the beginning stands alone. -/
def wholeDigits? : List Char → Option (List Char × List Char)
  | '0' :: rest => some (['0'], rest)
  | text => digits? Char.isDigit text

def splitSign : List Char → Bool × List Char
  | '-' :: rest => (true, rest)
  | '+' :: rest => (false, rest)
  | rest => (false, rest)

def fraction? : List Char → Option (List Char × List Char)
  | '.' :: rest => digits? Char.isDigit rest
  | rest => some ([], rest)

def exponent? : List Char → Option (Int × List Char)
  | mark :: rest =>
    if mark == 'e' || mark == 'E' then
      let (negative, rest) := splitSign rest
      (digits? Char.isDigit rest).map fun (digits, rest) =>
        (if negative then -(digitsValue digits : Int) else digitsValue digits, rest)
    else some (0, mark :: rest)
  | [] => some (0, [])

def goesOn : List Char → Bool
  | mark :: _ => mark == '.' || mark == 'e' || mark == 'E'
  | [] => false

/-- A number with a fraction or an exponent, or one of the names for what is not finite. A positive
number past the range of double precision is refused. -/
def float? (text : List Char) : Option (Float × List Char) :=
  let (negative, rest) := splitSign text
  if rest.take 3 == "inf".toList then some (if negative then -1 / 0 else 1 / 0, rest.drop 3)
  else if rest.take 3 == "nan".toList then some (if negative then -(0 / 0) else 0 / 0, rest.drop 3)
  else do
    let (whole, rest) ← wholeDigits? rest
    if !goesOn rest then none
    else
      let (fraction, rest) ← fraction? rest
      let (exponent, rest) ← exponent? rest
      let digits := digitsValue (whole ++ fraction)
      let value := (Decimal.mk negative digits (exponent - fraction.length)).toDouble
      if value.isInf && !negative then none else some (value, rest)

def withinRange? (value : Int) : Option Int :=
  if -0x8000000000000000 ≤ value && value < 0x8000000000000000 then some value else none

def basedInteger? (base : Nat) (text : List Char) : Option (Int × List Char) := do
  let (digits, rest) ← digits? (fun digit => (hexDigit? digit).any (· < base)) text
  let value := digits.foldl (fun value digit => base * value + (hexDigit? digit).getD 0) 0
  (withinRange? value).map fun value => (value, rest)

/-- A whole number. Those of another base than ten have no sign. -/
def integer? : List Char → Option (Int × List Char)
  | '0' :: 'x' :: rest => basedInteger? 16 rest
  | '0' :: 'o' :: rest => basedInteger? 8 rest
  | '0' :: 'b' :: rest => basedInteger? 2 rest
  | text => do
    let (negative, rest) := splitSign text
    let (digits, rest) ← wholeDigits? rest
    let value : Int := if negative then -(digitsValue digits : Int) else digitsValue digits
    (withinRange? value).map fun value => (value, rest)

example : integer? "-1_000,".toList = some (-1000, [',']) := by decide

example : integer? "0xfF_0".toList = some (0xFF0, []) := by decide

example : integer? "9223372036854775808".toList = none := by decide

example : (float? "6_1.5e-1".toList).map (·.1 == 6.15) = some true := by decide

example : (float? "1e400".toList).isNone = true := by decide

end ChatMemory.Toml
