import ChatMemory.Format.Hexadecimal
import ChatMemory.Logging.Pattern.Mode

/-!
The smallest parts of patterns: characters, and what a backslash makes of them.
-/

namespace ChatMemory.Pattern

inductive Atom
  /-- A character that stands for itself. `isByte` says that it is given as two hexadecimal
  digits. -/
  | literal (character : Char) (isByte : Bool)
  /-- The digits, the blanks or the word characters, or all others. -/
  | kind (negated : Bool)
  /-- The beginning or the end of the text. -/
  | edge
  /-- The beginning or the end of a word, or a place that is neither. -/
  | wordEdge
  deriving Repr, DecidableEq

def hexNumber? (mode : Mode) (value : Nat) : Nat → List Char → Option (Nat × List Char)
  | 0, text => some (value, text)
  | count + 1, text =>
    match mode.skip text with
    | [] => none
    | digit :: rest =>
      (hexDigit? digit).bind fun digit => hexNumber? mode (16 * value + digit) count rest

def codePoint? (mode : Mode) (count : Nat) (text : List Char) : Option (Atom × List Char) :=
  (hexNumber? mode 0 count text).bind fun (value, rest) =>
    if value.isValidChar then some (.literal (Char.ofNat value) (count == 2), rest) else none

def controlLetters : List (Char × Char) :=
  [('a', '\x07'), ('f', '\x0c'), ('t', '\t'), ('n', '\n'), ('r', '\r'), ('v', '\x0b')]

/-- What a backslash and one letter stand for. Other characters than letters and digits stand for
themselves. -/
def escapedAtom? (character : Char) : Option Atom :=
  if "dsw".toList.contains character then some (.kind false)
  else if "DSW".toList.contains character then some (.kind true)
  else if "Az".toList.contains character then some .edge
  else if "bB<>".toList.contains character then some .wordEdge
  else if character.isAlphanum then (controlLetters.lookup character).map (.literal · false)
  else if character.toNat < 0x80 then some (.literal character false)
  else none

/-- What stands after a backslash. Groups that have matched before cannot be referred to. -/
def escape? (mode : Mode) : List Char → Option (Atom × List Char)
  | [] => none
  | 'x' :: rest => codePoint? mode 2 rest
  | 'u' :: rest => codePoint? mode 4 rest
  | 'U' :: rest => codePoint? mode 8 rest
  | character :: rest => (escapedAtom? character).map (·, rest)

example : escape? {} "x41b".toList = some (.literal 'A' true, ['b']) := by decide

example : escape? {} "1".toList = none := by decide

end ChatMemory.Pattern
