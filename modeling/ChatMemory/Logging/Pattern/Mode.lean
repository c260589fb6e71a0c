import ChatMemory.Unicode.Blank

/-!
The switches inside patterns, and what a pattern may hold under them.
-/

namespace ChatMemory.Pattern

structure Mode where
  /-- Whether letters match in either case. -/
  caseless : Bool := false
  /-- Whether a pattern matches characters, and not bytes. -/
  unicode : Bool := true
  /-- Whether blanks and comments may stand between the parts. -/
  spaced : Bool := false
  deriving Repr, DecidableEq

/-- Passes over blanks and comments. A comment begins at `#` and ends with its line. -/
def skipSpacing (isComment : Bool) : List Char → List Char
  | [] => []
  | character :: rest =>
    if isComment then skipSpacing (character != '\n') rest
    else if Unicode.isBlank character then skipSpacing false rest
    else if character == '#' then skipSpacing true rest
    else character :: rest

namespace Mode

def skip (mode : Mode) (text : List Char) : List Char :=
  if mode.spaced then skipSpacing false text else text

/-- The character that comes next, be it after blanks. What is in a comment comes next too. -/
def next? (mode : Mode) (text : List Char) : Option Char :=
  if mode.spaced then
    match text.dropWhile Unicode.isBlank with
    | [] => text.head?
    | '#' :: comment => ((comment.dropWhile Unicode.isBlank).head?).or text.head?
    | character :: _ => some character
  else text.head?

/-- A setting after switches: those before the dash turn it on, those after it turn it off. -/
def switched (switches : List Char) (name : Char) (setting : Bool) : Bool :=
  let (on, off) := switches.span (· != '-')
  on.contains name || (setting && !off.contains name)

/-- The mode after switches. Some switches change what a pattern matches, but not how it is read. -/
def change (mode : Mode) (switches : List Char) : Mode where
  caseless := switched switches 'i' mode.caseless
  unicode := switched switches 'u' mode.unicode
  spaced := switched switches 'x' mode.spaced

/-- Whether a character may stand for itself. Nothing is known about the two cases of characters,
and bytes past ASCII would not be UTF-8. -/
def allowsLiteral (mode : Mode) (character : Char) (isByte : Bool) : Bool :=
  if mode.unicode then !mode.caseless else !isByte || decide (character.toNat < 0x80)

/-- Whether a character may be in a set. Sets of bytes have no characters past ASCII. -/
def allowsInSet (mode : Mode) (character : Char) : Bool :=
  if mode.unicode then !mode.caseless else decide (character.toNat < 0x80)

/-- Whether the digits, the blanks or the word characters can be named, or all others. There are no
tables of such characters. -/
def allowsKind (mode : Mode) (negated : Bool) : Bool :=
  !mode.unicode && !negated

def allowsNamedSet (mode : Mode) (negated : Bool) : Bool :=
  if mode.unicode then !mode.caseless else !negated

/-- Whether a set may have all characters but the given ones. All other bytes would not be UTF-8. -/
def allowsNegation (mode : Mode) : Bool :=
  mode.unicode

def allowsWordEdge (mode : Mode) : Bool :=
  !mode.unicode

/-- Whether a dot can stand for any character. Any byte would not be UTF-8. -/
def allowsDot (mode : Mode) : Bool :=
  mode.unicode

end Mode

example : Mode.change {} "x-u".toList = ⟨false, false, true⟩ := by decide

example : Mode.skip ⟨false, true, true⟩ " # a\n b".toList = ['b'] := by decide

end ChatMemory.Pattern
