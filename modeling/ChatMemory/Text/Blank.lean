import ChatMemory.Unicode.Blank

/-!
Texts with their white space in order, and the size of a text in tokens.
-/

namespace ChatMemory.Text

open Unicode

def joinWithSpaces : List (List Char) → List Char
  | [] => []
  | [piece] => piece
  | piece :: rest => piece ++ ' ' :: joinWithSpaces rest

def collapseBlanks (text : String) : String :=
  String.ofList (joinWithSpaces (blankFreePieces text.toList))

example : collapseBlanks "  a \n\t b  " = "a b" := by decide

/-- An estimate of the tokens in a text: one for every four characters, the last ones rounded up. -/
def tokenEstimate (text : String) : Nat :=
  (text.length + 3) / 4

example : tokenEstimate "abcde" = 2 := by decide

def tokenTotal (texts : List String) : Nat :=
  (texts.map tokenEstimate).foldr (· + ·) 0

end ChatMemory.Text
