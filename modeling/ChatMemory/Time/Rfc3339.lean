import ChatMemory.Format.Decimal
import ChatMemory.Time.Calendar
import ChatMemory.Unicode.Blank

/-!
Instants as text. They are written in UTC with as few digits as are exact. Reading is more liberal:
blanks may stand between the parts, numbers may be short, and any offset will do.
-/

namespace ChatMemory.Rfc3339

open Unicode

def nanosecondsPerSecond : Nat := 1000000000

def skipBlanks (text : List Char) : List Char :=
  text.dropWhile isBlank

def digitsUpTo (limit : Nat) (text : List Char) : List Char :=
  (text.take limit).takeWhile Char.isDigit

def number? (limit : Nat) (text : List Char) : Option (Nat × List Char) :=
  let text := skipBlanks text
  let digits := digitsUpTo limit text
  if digits.isEmpty then none else some (digitsValue digits, text.drop digits.length)

/-- A year. With a sign it may have any number of digits. -/
def year? (text : List Char) : Option (Int × List Char) :=
  match skipBlanks text with
  | '-' :: rest =>
    if rest.head?.any isBlank then none
    else (number? rest.length rest).map fun (value, rest) => (-value, rest)
  | '+' :: rest =>
    if rest.head?.any isBlank then none
    else (number? rest.length rest).map fun (value, rest) => (value, rest)
  | rest => (number? 4 rest).map fun (value, rest) => (value, rest)

def separator? (separator : Char) (text : List Char) : Option (List Char) :=
  match skipBlanks text with
  | character :: rest => if character == separator then some rest else none
  | [] => none

def firstYear : Int := -262143

def lastYear : Int := 262142

def isWithinReach (date : Date) : Bool :=
  decide (firstYear ≤ date.year) && decide (date.year ≤ lastYear)

def date? (text : List Char) : Option (Date × List Char) := do
  let (year, text) ← year? text
  let (month, text) ← number? 2 (← separator? '-' text)
  let (day, text) ← number? 2 (← separator? '-' text)
  let date : Date := ⟨year, month, day⟩
  if date.isValid && isWithinReach date then some (date, text) else none

/-- The fraction of a second in nanoseconds. Digits past the ninth are passed over. -/
def fraction? : List Char → Option (Nat × List Char)
  | '.' :: rest =>
    let digits := digitsUpTo 9 rest
    if digits.isEmpty then none
    else
      some (digitsValue digits * Nat.pow 10 (9 - digits.length),
        (rest.drop digits.length).dropWhile Char.isDigit)
  | rest => some (0, rest)

/-- Seconds since midnight and nanoseconds. Second 60 repeats second 59. -/
def timeOfDay? (text : List Char) : Option ((Nat × Nat) × List Char) := do
  let (hour, text) ← number? 2 text
  let (minute, text) ← number? 2 (← separator? ':' text)
  let (second, text) ← number? 2 (← separator? ':' text)
  let (nanoseconds, text) ← fraction? text
  if hour < 24 && minute < 60 && second < 61 then
    let start := hour * 3600 + minute * 60
    if second = 60 then some ((start + 59, nanoseconds + nanosecondsPerSecond), text)
    else some ((start + second, nanoseconds), text)
  else none

def twoDigits? : List Char → Option (Nat × List Char)
  | tens :: ones :: rest =>
    if tens.isDigit && ones.isDigit then some (digitsValue [tens, ones], rest) else none
  | _ => none

def offsetValue? (text : List Char) : Option (Int × List Char) := do
  let (hours, text) ← twoDigits? text
  let (minutes, text) ←
    twoDigits? (text.dropWhile fun character => character == ':' || isBlank character)
  if minutes < 60 && hours < 24 then some (hours * 3600 + minutes * 60, text) else none

def offset? (text : List Char) : Option (Int × List Char) :=
  let text := skipBlanks text
  if (text.take 3).map Char.toUpper = "UTC".toList then some (0, text.drop 3)
  else
    match text with
    | 'Z' :: rest => some (0, rest)
    | 'z' :: rest => some (0, rest)
    | '+' :: rest => offsetValue? rest
    | '-' :: rest => (offsetValue? rest).map fun (value, rest) => (-value, rest)
    | '−' :: rest => (offsetValue? rest).map fun (value, rest) => (-value, rest)
    | _ => none

def timeMark? : List Char → Option (List Char)
  | mark :: rest => if mark == 'T' || mark == 't' || mark == ' ' then some rest else none
  | [] => none

def dateOf (instant : Instant) : Date :=
  .ofDayNumber (instant.seconds / 86400 + Date.epochDay)

def readFrom? (text : List Char) : Option Instant := do
  let (date, text) ← date? text
  let ((second, nanoseconds), text) ← timeOfDay? (← timeMark? text)
  let (offset, text) ← offset? text
  let instant : Instant :=
    ⟨(date.dayNumber - Date.epochDay) * 86400 + second - offset, nanoseconds⟩
  if text.all isBlank && isWithinReach (dateOf instant) then some instant else none

def read? (text : String) : Option Instant :=
  readFrom? text.toList

def padded (width : Nat) (value : Nat) : List Char :=
  let digits := Nat.toDigits 10 value
  List.replicate (width - digits.length) '0' ++ digits

/-- A year has four digits. One that does not fit has a sign. -/
def writeYear (year : Int) : List Char :=
  if 0 ≤ year && year ≤ 9999 then padded 4 year.toNat
  else (if year < 0 then '-' else '+') :: padded 4 year.natAbs

def writeFraction (nanoseconds : Nat) : List Char :=
  if nanoseconds = 0 then []
  else if nanoseconds % 1000000 = 0 then '.' :: padded 3 (nanoseconds / 1000000)
  else if nanoseconds % 1000 = 0 then '.' :: padded 6 (nanoseconds / 1000)
  else '.' :: padded 9 nanoseconds

def writeChars (instant : Instant) : List Char :=
  let date := dateOf instant
  let second := (instant.seconds % 86400).toNat
  let isLeap := decide (nanosecondsPerSecond ≤ instant.nanoseconds)
  writeYear date.year ++ '-' :: padded 2 date.month ++ '-' :: padded 2 date.day ++
    'T' :: padded 2 (second / 3600) ++ ':' :: padded 2 (second / 60 % 60) ++
    ':' :: padded 2 (second % 60 + if isLeap then 1 else 0) ++
    writeFraction (instant.nanoseconds % nanosecondsPerSecond) ++ ['Z']

def write (instant : Instant) : String :=
  String.ofList (writeChars instant)

example : (read? "2002-03-04T07:06:07.8+02:00").map write = some "2002-03-04T05:06:07.800Z" := by
  decide

example : (read? "2016-12-31 23:59:60 UTC").map write = some "2016-12-31T23:59:60Z" := by
  decide

example : read? "2001-02-30T00:00:00Z" = none := by decide

example : read? "+262142-12-31T23:59:59-00:01" = none := by decide

end ChatMemory.Rfc3339
