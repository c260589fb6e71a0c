import ChatMemory.Format.Hexadecimal
import ChatMemory.Format.Json.Number

/-!
The tokens of JSON documents. A document is read character by character, so that any length of
string and any depth of nesting will do.
-/

namespace ChatMemory.Json

/-- The text of a string. An escape can name half of a surrogate pair; such a string has no text. -/
abbrev Text := Option String

inductive Token
  | beginArray
  | endArray
  | beginObject
  | endObject
  | colon
  | comma
  | null
  | bool (value : Bool)
  | number (value : Number)
  | string (text : Text)
  deriving Repr, DecidableEq

def atom? (characters : List Char) : Option Token :=
  if characters = "null".toList then some .null
  else if characters = "true".toList then some (.bool true)
  else if characters = "false".toList then some (.bool false)
  else (Number.ofLiteral? characters).map .number

def mark? : Char → Option Token
  | '[' => some .beginArray
  | ']' => some .endArray
  | '\x7b' => some .beginObject
  | '\x7d' => some .endObject
  | ':' => some .colon
  | ',' => some .comma
  | _ => none

def isJsonBlank (character : Char) : Bool :=
  character == ' ' || character == '\t' || character == '\n' || character == '\r'

def isAtomic (character : Char) : Bool :=
  character.isAlphanum || character == '-' || character == '+' || character == '.'

/-- What is being read. Texts and literals are kept last character first. `high` is the first half
of a surrogate pair whose second half has to come next. -/
inductive Mode
  | between
  | atom (characters : List Char)
  | string (text : Option (List Char)) (high : Option Nat)
  | escape (text : Option (List Char)) (high : Option Nat)
  | hex (text : Option (List Char)) (high : Option Nat) (digits : List Nat)
  deriving Repr, DecidableEq

def shortEscape? : Char → Option Char
  | '\x22' => some '\x22'
  | '\\' => some '\\'
  | '/' => some '/'
  | 'b' => some '\x08'
  | 'f' => some '\x0c'
  | 'n' => some '\n'
  | 'r' => some '\r'
  | 't' => some '\t'
  | _ => none

def isHighHalf (unit : Nat) : Bool :=
  decide (0xD800 ≤ unit) && decide (unit < 0xDC00)

def isLowHalf (unit : Nat) : Bool :=
  decide (0xDC00 ≤ unit) && decide (unit < 0xE000)

def afterUnit (text : Option (List Char)) (high : Option Nat) (unit : Nat) : Mode :=
  match high with
  | some first =>
    if isLowHalf unit then
      .string (text.map (Char.ofNat (0x10000 + (first - 0xD800) * 0x400 + (unit - 0xDC00)) :: ·))
        none
    else .string none none
  | none =>
    if isHighHalf unit then .string text (some unit)
    else if isLowHalf unit then .string none none
    else .string (text.map (Char.ofNat unit :: ·)) none

def settled (text : Option (List Char)) (high : Option Nat) : Option (List Char) :=
  if high.isSome then none else text

def stringToken (text : Option (List Char)) : Token :=
  .string (text.map fun characters => String.ofList characters.reverse)

def stepBetween (done : List Token) (character : Char) : Option (Mode × List Token) :=
  if isJsonBlank character then some (.between, done)
  else if character == '\x22' then some (.string (some []) none, done)
  else if isAtomic character then some (.atom [character], done)
  else (mark? character).map fun token => (.between, token :: done)

/-- Reads one character. The tokens read so far are kept latest first. -/
def step : Mode × List Token → Char → Option (Mode × List Token)
  | (.between, done), character => stepBetween done character
  | (.atom characters, done), character =>
    if isAtomic character then some (.atom (character :: characters), done)
    else
      match atom? characters.reverse with
      | some token => stepBetween (token :: done) character
      | none => none
  | (.string text high, done), character =>
    if character == '\\' then some (.escape text high, done)
    else if character == '\x22' then some (.between, stringToken (settled text high) :: done)
    else if character.toNat < 0x20 then none
    else some (.string ((settled text high).map (character :: ·)) none, done)
  | (.escape text high, done), character =>
    if character == 'u' then some (.hex text high [], done)
    else
      (shortEscape? character).map fun meant =>
        (.string ((settled text high).map (meant :: ·)) none, done)
  | (.hex text high digits, done), character =>
    match hexDigit? character, digits with
    | some fourth, [third, second, first] =>
      some (afterUnit text high (((first * 16 + second) * 16 + third) * 16 + fourth), done)
    | some digit, digits => some (.hex text high (digit :: digits), done)
    | none, _ => none

def finish? : Mode × List Token → Option (List Token)
  | (.between, done) => some done.reverse
  | (.atom characters, done) => (atom? characters.reverse).map fun token => (token :: done).reverse
  | _ => none

def tokens? (document : List Char) : Option (List Token) :=
  (document.foldlM step (.between, [])).bind finish?

example : tokens? "[1, \"a\\u0062\"]".toList =
    some [.beginArray, .number ⟨false, 1, none⟩, .comma, .string (some "ab"), .endArray] := by
  decide

example : tokens? "\"\\ud83d\\ude00\\ud83d\"".toList = some [.string none] := by decide

end ChatMemory.Json
