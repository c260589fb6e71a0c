import ChatMemory.Format.Decimal
import ChatMemory.Logging.Numeral
import ChatMemory.Logging.Pattern
import ChatMemory.Text.Cut

/-!
Filters for log events. A filter is a list of directives with commas between them. A directive names
a target, a span with one of its fields, or both, and can end in the level from which on events
pass: `store[load{id=7}]=debug`. A level alone is a directive too. The value of a field is a number
or a pattern.
-/

namespace ChatMemory

namespace LogFilter

def levelNames : List String :=
  ["off", "error", "warn", "info", "debug", "trace"]

/-- A level is named, in letters of either case, or numbered from zero to five. It may be left out
after its mark. -/
def isLevel (text : List Char) : Bool :=
  let digits :=
    match text with
    | '+' :: rest => rest
    | rest => rest
  text.isEmpty || levelNames.contains (String.ofList (text.map Char.toLower)) ||
    (!digits.isEmpty && digits.all Char.isDigit && decide (digitsValue digits ≤ 5))

/-- A field with its value, if it has one. What follows a second mark is passed over. -/
def isField (text : List Char) : Bool :=
  match text.dropWhile (· != '=') with
  | [] => !text.isEmpty
  | _ :: rest =>
    let value := rest.takeWhile (· != '=')
    isNumeral value || Pattern.isPattern value

def canBeginTarget (character : Char) : Bool :=
  Unicode.isAlphanumeric character || character == '-' || character == ':' || character == '_'

end LogFilter

inductive LogFilterFault
  /-- A directive is not as it should be. -/
  | malformed
  /-- A part of a directive would begin or end inside a character. -/
  | splitCharacter
  deriving Repr, DecidableEq

namespace LogFilter

/-- A directive on its way of being read. Its parts are found in the text without the blanks around
it, but their places count from the beginning of the whole text, so that blanks there move each part
towards the beginning by as many bytes. -/
structure Directive where
  whole : List Char
  deriving Repr, DecidableEq

namespace Directive

def trimmed (directive : Directive) : List Char :=
  Unicode.trimBlanks directive.whole

/-- The place where so much of the text without blanks is left. -/
def place (directive : Directive) (left : List Char) : Nat :=
  Text.byteLength directive.trimmed - Text.byteLength left

def onwards (directive : Directive) (start : List Char) : Except LogFilterFault (List Char) :=
  match Text.dropBytes? (directive.place start) directive.whole with
  | none => .error .splitCharacter
  | some text => .ok text

def between (directive : Directive) (start stop : List Char) :
    Except LogFilterFault (List Char) := do
  let text ← directive.onwards start
  match Text.takeBytes? (directive.place stop - directive.place start) text with
  | none => .error .splitCharacter
  | some text => .ok text

def expect (holds : Bool) : Except LogFilterFault Unit :=
  if holds then .ok () else .error .malformed

def checkLevel (directive : Directive) (text : List Char) : Except LogFilterFault Unit := do
  expect (isLevel (← directive.onwards text))

def checkEnding (directive : Directive) : List Char → Except LogFilterFault Unit
  | [] => .ok ()
  | '=' :: level => directive.checkLevel level
  | _ => .error .malformed

def checkField (directive : Directive) (text : List Char) : Except LogFilterFault Unit :=
  match text.dropWhile (· != '\x7d') with
  | [] => .error .malformed
  | brace :: rest => do
    expect (isField (← directive.between text (brace :: rest)))
    match rest with
    | ']' :: ending => directive.checkEnding ending
    | _ => .error .malformed

/-- Checks a span after its opening bracket. It can name one field in braces. -/
def checkSpan (directive : Directive) (text : List Char) : Except LogFilterFault Unit :=
  match text.dropWhile fun character => character != ']' && character != '\x7b' with
  | [] => .error .malformed
  | mark :: rest => do
    let _ ← directive.between text (mark :: rest)
    if mark == ']' then directive.checkEnding rest else directive.checkField rest

def check (directive : Directive) : Except LogFilterFault Unit :=
  match directive.trimmed with
  | [] => .error .malformed
  | '[' :: rest => directive.checkSpan rest
  | first :: others => do
    expect (canBeginTarget first)
    match others.dropWhile fun character => character != '=' && character != '[' with
    | [] => .ok ()
    | mark :: rest =>
      let _ ← directive.between directive.trimmed (mark :: rest)
      if mark == '[' then directive.checkSpan rest else directive.checkLevel rest

end Directive

/-- Checks whether a text is a filter. Empty places between commas are passed over. -/
def check (text : String) : Except LogFilterFault Unit :=
  ((text.toList.splitOn ',').filter (!·.isEmpty)).forM fun directive =>
    Directive.check ⟨directive⟩

example : (check "info,store[load\x7bid=7\x7d]=debug, net ,").isOk = true := by decide

example : (check "[\x7bid=(\x7d]").isOk = false ∧ (check " [\x7bid=(\x7d]").isOk = true := by
  decide

example : (check "store=loud").isOk = false ∧ (check " store=debug").isOk = false := by
  decide

example : (check "\u00a0store").isOk = true := by decide

example : (check "\u00a0[store]" matches .error .splitCharacter) = true := by decide

end LogFilter

end ChatMemory
