import ChatMemory.Format.Decimal
import ChatMemory.Time.Calendar

/-!
Dates and times in TOML documents. Nothing is read from them, so it is only known where they end.
-/

namespace ChatMemory.Toml

def fixedDigits? (count : Nat) (text : List Char) : Option (Nat × List Char) :=
  let digits := (text.take count).takeWhile Char.isDigit
  if digits.length = count then some (digitsValue digits, text.drop count) else none

def after? (mark : Char) : List Char → Option (List Char)
  | character :: rest => if character == mark then some rest else none
  | [] => none

def clockPart? (highest : Nat) (text : List Char) : Option (List Char) :=
  (fixedDigits? 2 text).bind fun (value, rest) => if value ≤ highest then some rest else none

def date? (text : List Char) : Option (List Char) := do
  let (year, rest) ← fixedDigits? 4 text
  let (month, rest) ← fixedDigits? 2 (← after? '-' rest)
  let (day, rest) ← fixedDigits? 2 (← after? '-' rest)
  if Date.isValid ⟨year, month, day⟩ then some rest else none

/-- A fraction of a second, or nothing. A point without digits is not a part of the time. -/
def afterFraction : List Char → List Char
  | '.' :: rest =>
    if rest.head?.any Char.isDigit then rest.dropWhile Char.isDigit else '.' :: rest
  | rest => rest

def time? (text : List Char) : Option (List Char) := do
  let rest ← clockPart? 23 text
  let rest ← clockPart? 59 (← after? ':' rest)
  let rest ← clockPart? 60 (← after? ':' rest)
  some (afterFraction rest)

def offset? : List Char → Option (List Char)
  | 'Z' :: rest => some rest
  | 'z' :: rest => some rest
  | '+' :: rest => do clockPart? 59 (← after? ':' (← clockPart? 23 rest))
  | '-' :: rest => do clockPart? 59 (← after? ':' (← clockPart? 23 rest))
  | rest => some rest

def afterTime (text : List Char) : List Char :=
  match text with
  | mark :: rest =>
    if mark == 'T' || mark == 't' || mark == ' ' then ((time? rest).bind offset?).getD text
    else text
  | [] => text

def moment? (text : List Char) : Option (List Char) :=
  match date? text with
  | some rest => some (afterTime rest)
  | none => time? text

example : moment? "1979-05-27 07:32:00.999-07:00 # x".toList = some " # x".toList := by
  decide

example : moment? "1979-05-27 # x".toList = some " # x".toList := by decide

example : moment? "2023-02-29".toList = none := by decide

end ChatMemory.Toml
