/-!
The spelling of numbers in filters.
-/

namespace ChatMemory.LogFilter

def unsigned : List Char → List Char
  | '+' :: rest => rest
  | '-' :: rest => rest
  | rest => rest

def isExponent : List Char → Bool
  | [] => true
  | mark :: rest =>
    (mark == 'e' || mark == 'E') && !(unsigned rest).isEmpty && (unsigned rest).all Char.isDigit

def isDecimal (text : List Char) : Bool :=
  let (whole, rest) := text.span Char.isDigit
  let (fraction, rest) :=
    match rest with
    | '.' :: rest => rest.span Char.isDigit
    | rest => ([], rest)
  !(whole.isEmpty && fraction.isEmpty) && isExponent rest

/-- Whether a text spells a number. Names of what is not finite count as numbers. -/
def isNumeral (text : List Char) : Bool :=
  let rest := unsigned text
  ["inf", "infinity", "nan"].contains (String.ofList (rest.map Char.toLower)) || isDecimal rest

example : isNumeral "+.5e-3".toList = true ∧ isNumeral "-Inf".toList = true := by decide

example : isNumeral "+".toList = false ∧ isNumeral "1e".toList = false := by decide

end ChatMemory.LogFilter
