import ChatMemory.Format.Json.Value

/-!
Writing JSON: on one line, or with one item a line, each indented by two spaces for every array and
object around it. Only quotes, backslashes and control characters are escaped.
-/

namespace ChatMemory.Json

def escapeChar (character : Char) : List Char :=
  if character == '\x22' then ['\\', '\x22']
  else if character == '\\' then ['\\', '\\']
  else if character == '\x08' then ['\\', 'b']
  else if character == '\x0c' then ['\\', 'f']
  else if character == '\n' then ['\\', 'n']
  else if character == '\r' then ['\\', 'r']
  else if character == '\t' then ['\\', 't']
  else if character.toNat < 0x20 then
    ['\\', 'u', '0', '0', hexLetter (character.toNat / 16), hexLetter (character.toNat % 16)]
  else [character]

def quote (text : String) : List Char :=
  '\x22' :: text.toList.flatMap escapeChar ++ ['\x22']

/-- A string without text has nothing that could be written, so it is written as an empty one. -/
def quoteText (text : Text) : List Char :=
  quote (text.getD "")

def Number.writeTail : Option (List Char × Int) → List Char
  | none => []
  | some (fraction, exponent) =>
    (if fraction.isEmpty then [] else '.' :: fraction) ++ 'e' :: (toString exponent).toList

def Number.write (number : Number) : List Char :=
  (if number.negative then ['-'] else []) ++ (toString number.whole).toList ++
    Number.writeTail number.tail

def ofNat (value : Nat) : Json :=
  .number ⟨false, value, none⟩

def ofString (text : String) : Json :=
  .string (some text)

def ofOption {α : Type _} (convert : α → Json) : Option α → Json
  | none => .null
  | some value => convert value

def ofMembers (members : List (String × Json)) : Json :=
  .object (members.map fun (name, value) => (some name, value))

mutual
def compact : Json → List Char
  | .null => "null".toList
  | .bool value => (toString value).toList
  | .number written => written.write
  | .string text => quoteText text
  | .array items => '[' :: compactItems items ++ [']']
  | .object members => '\x7b' :: compactMembers members ++ ['\x7d']

def compactItems : List Json → List Char
  | [] => []
  | [item] => item.compact
  | item :: rest => item.compact ++ ',' :: compactItems rest

def compactMembers : List (Text × Json) → List Char
  | [] => []
  | [(key, value)] => quoteText key ++ ':' :: value.compact
  | (key, value) :: rest => quoteText key ++ ':' :: value.compact ++ ',' :: compactMembers rest
end

def newLine (depth : Nat) : List Char :=
  '\n' :: List.replicate (2 * depth) ' '

mutual
def pretty (depth : Nat) : Json → List Char
  | .null => "null".toList
  | .bool value => (toString value).toList
  | .number written => written.write
  | .string text => quoteText text
  | .array [] => ['[', ']']
  | .array (item :: rest) => '[' :: prettyItems (depth + 1) (item :: rest) ++ newLine depth ++ [']']
  | .object [] => ['\x7b', '\x7d']
  | .object (member :: rest) =>
    '\x7b' :: prettyMembers (depth + 1) (member :: rest) ++ newLine depth ++ ['\x7d']

def prettyItems (depth : Nat) : List Json → List Char
  | [] => []
  | [item] => newLine depth ++ item.pretty depth
  | item :: rest => newLine depth ++ item.pretty depth ++ ',' :: prettyItems depth rest

def prettyMembers (depth : Nat) : List (Text × Json) → List Char
  | [] => []
  | [(key, value)] => newLine depth ++ quoteText key ++ ':' :: ' ' :: value.pretty depth
  | (key, value) :: rest =>
    newLine depth ++ quoteText key ++ ':' :: ' ' :: value.pretty depth ++
      ',' :: prettyMembers depth rest
end

def toCompactString (value : Json) : String :=
  String.ofList value.compact

def toPrettyString (value : Json) : String :=
  String.ofList (value.pretty 0)

example :
    toCompactString (.array [.null, ofNat 5, ofString "a\"\n"]) = "[null,5,\"a\\\"\\n\"]" := by
  decide

example : toPrettyString (ofMembers [("a", .array [])]) = "\x7b\n  \"a\": []\n\x7d" := by
  decide

end ChatMemory.Json
