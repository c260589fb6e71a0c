import ChatMemory.Format.Hexadecimal

/-!
The smallest parts of a TOML document: blanks, line endings, comments, keys and strings. Every
reader takes the characters that are left and gives what follows the part it read.
-/

namespace ChatMemory.Toml

def isBlank (character : Char) : Bool :=
  character == ' ' || character == '\t'

def skipBlanks (text : List Char) : List Char :=
  text.dropWhile isBlank

/-- Characters that comments and strings can hold: all but the control characters of ASCII, of which
there is only the tab. -/
def isTextChar (character : Char) : Bool :=
  character == '\t' || (decide (0x20 ≤ character.toNat) && character.toNat != 0x7F)

/-- What follows the end of a line. The end of the document ends its last line. -/
def afterLineEnd? : List Char → Option (List Char)
  | [] => some []
  | '\n' :: rest => some rest
  | '\r' :: '\n' :: rest => some rest
  | _ => none

def afterLine? (text : List Char) : Option (List Char) :=
  match skipBlanks text with
  | '#' :: comment => afterLineEnd? (comment.dropWhile isTextChar)
  | rest => afterLineEnd? rest

def skipLines (inComment : Bool) : List Char → List Char
  | [] => []
  | '\n' :: rest => skipLines false rest
  | '\r' :: '\n' :: rest => skipLines false rest
  | character :: rest =>
    if inComment then
      if isTextChar character then skipLines true rest else character :: rest
    else if character == '#' then skipLines true rest
    else if isBlank character then skipLines false rest
    else character :: rest

def unifyLines : List Char → List Char
  | [] => []
  | '\r' :: '\n' :: rest => '\n' :: unifyLines rest
  | character :: rest => character :: unifyLines rest

/-- Splits a string of one line at its closing quote. Where there are escapes, the character after a
backslash does not close the string. -/
def splitLine? (quote : Char) (escaping : Bool) : List Char → Option (List Char × List Char)
  | [] => none
  | character :: rest =>
    if character == quote then some ([], rest)
    else if escaping && character == '\\' then
      match rest with
      | [] => none
      | escaped :: rest =>
        (splitLine? quote escaping rest).map fun (body, rest) =>
          (character :: escaped :: body, rest)
    else (splitLine? quote escaping rest).map fun (body, rest) => (character :: body, rest)

/-- Splits a string of many lines at its three closing quotes. One or two quotes that stand right
before them belong to the string. -/
def splitBlock? (quote : Char) (escaping : Bool) : List Char → Option (List Char × List Char)
  | [] => none
  | character :: rest =>
    if character == quote && rest.take 2 == [quote, quote] then
      let inside := ((rest.drop 2).take 2).takeWhile (· == quote)
      some (inside, rest.drop (2 + inside.length))
    else if escaping && character == '\\' then
      match rest with
      | [] => none
      | escaped :: rest =>
        (splitBlock? quote escaping rest).map fun (body, rest) =>
          (character :: escaped :: body, rest)
    else (splitBlock? quote escaping rest).map fun (body, rest) => (character :: body, rest)

def shortEscape? : Char → Option Char
  | '\x22' => some '\x22'
  | '\\' => some '\\'
  | 'b' => some '\x08'
  | 'f' => some '\x0c'
  | 'n' => some '\n'
  | 'r' => some '\r'
  | 't' => some '\t'
  | _ => none

def numberedChar? (digits : List Char) : Option Char :=
  match digits.mapM hexDigit? with
  | none => none
  | some values =>
    let number := values.foldl (fun number digit => 16 * number + digit) 0
    if number.isValidChar then some (.ofNat number) else none

/-- What the body of a string with escapes means. A backslash at the end of a line takes away all
white space up to the next text; while that is skipped, `joining` holds. -/
def meaning? (joining : Bool) : List Char → Option (List Char)
  | [] => some []
  | character :: rest =>
    if joining && (isBlank character || character == '\n') then meaning? true rest
    else if character == '\\' then
      if (skipBlanks rest).head? == some '\n' then meaning? true rest
      else
        match rest with
        | 'u' :: a :: b :: c :: d :: rest =>
          (numberedChar? [a, b, c, d]).bind fun meant => (meaning? false rest).map (meant :: ·)
        | 'U' :: a :: b :: c :: d :: e :: f :: g :: h :: rest =>
          (numberedChar? [a, b, c, d, e, f, g, h]).bind fun meant =>
            (meaning? false rest).map (meant :: ·)
        | escaped :: rest =>
          (shortEscape? escaped).bind fun meant => (meaning? false rest).map (meant :: ·)
        | [] => none
    else (meaning? false rest).map (character :: ·)

def bodyText? (escaping : Bool) (body : List Char) : Option String :=
  (if escaping then meaning? false body else some body).map String.ofList

def lineString? (quote : Char) (escaping : Bool) (text : List Char) :
    Option (String × List Char) := do
  let (body, rest) ← splitLine? quote escaping text
  if body.all isTextChar then some (← bodyText? escaping body, rest) else none

/-- A string of many lines after its opening quotes. A line ending right after them is not part of
it. -/
def blockString? (quote : Char) (escaping : Bool) (text : List Char) :
    Option (String × List Char) := do
  let (body, rest) ← splitBlock? quote escaping text
  let lines := unifyLines body
  let lines := if lines.head? == some '\n' then lines.drop 1 else lines
  if lines.all fun character => isTextChar character || character == '\n' then
    some (← bodyText? escaping lines, rest)
  else none

def string? : List Char → Option (String × List Char)
  | '\x22' :: '\x22' :: '\x22' :: rest => blockString? '\x22' true rest
  | '\x22' :: rest => lineString? '\x22' true rest
  | '\x27' :: '\x27' :: '\x27' :: rest => blockString? '\x27' false rest
  | '\x27' :: rest => lineString? '\x27' false rest
  | _ => none

def isBareKeyChar (character : Char) : Bool :=
  character.isAlphanum || character == '_' || character == '-'

def keyPart? : List Char → Option (String × List Char)
  | '\x22' :: rest => lineString? '\x22' true rest
  | '\x27' :: rest => lineString? '\x27' false rest
  | text =>
    let bare := text.takeWhile isBareKeyChar
    if bare.isEmpty then none else some (.ofList bare, text.drop bare.length)

def keyParts? : Nat → List Char → Option (List String × List Char)
  | 0, _ => none
  | limit + 1, text => do
    let (part, rest) ← keyPart? (skipBlanks text)
    match skipBlanks rest with
    | '.' :: rest => (keyParts? limit rest).map fun (parts, rest) => (part :: parts, rest)
    | rest => some ([part], rest)

def depthLimit : Nat := 79

def key? (text : List Char) : Option (List String × List Char) :=
  keyParts? depthLimit text

example : key? "a . \"b c\".'d' = 1".toList = some (["a", "b c", "d"], "= 1".toList) := by
  decide +kernel

example : string? "\"\"\"\n\"a\\u00e9\\  \n\n b\"\"\"\"\" x".toList =
    some ("\"aéb\"\"", " x".toList) := by
  decide +kernel

example : string? "'''it''s''''".toList = some ("it''s'", []) := by decide +kernel

example : string? "\"a\nb\"".toList = none := by decide +kernel

end ChatMemory.Toml
