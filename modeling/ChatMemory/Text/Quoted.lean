import ChatMemory.Unicode.Shown

/-!
Texts in quotes, so that every character can be told: those that cannot be shown are written as
their code point.
-/

namespace ChatMemory.Text

def hexOf (value : Nat) : List Char :=
  Nat.toDigits 16 value

def quoteChar (character : Char) : List Char :=
  if character == '\x00' then ['\\', '0']
  else if character == '\t' then ['\\', 't']
  else if character == '\r' then ['\\', 'r']
  else if character == '\n' then ['\\', 'n']
  else if character == '\x22' then ['\\', '\x22']
  else if character == '\\' then ['\\', '\\']
  else if Unicode.isShown character then [character]
  else '\\' :: 'u' :: '\x7b' :: hexOf character.toNat ++ ['\x7d']

def quoted (text : String) : String :=
  String.ofList ('\x22' :: text.toList.flatMap quoteChar ++ ['\x22'])

example : quoted "a\"b\u200b" = "\"a\\\"b\\u\x7b200b\x7d\"" := by decide +kernel

end ChatMemory.Text
