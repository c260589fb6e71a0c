import ChatMemory.Unicode.Alphanumeric
import ChatMemory.Unicode.LetterCase

/-!
The words of a text: its runs of letters and digits, in lower case.
-/

namespace ChatMemory.Text

open Unicode

/-- Apostrophes, straight and curly. Inside a word they are dropped. -/
def isApostrophe (character : Char) : Bool :=
  character == '\x27' || character == '\u2019'

/-- Reads on from the middle of a text. `pending` is the word read so far, last character first. -/
def wordsFrom (pending : List Char) : List Char → List (List Char)
  | [] => if pending.isEmpty then [] else [pending.reverse]
  | character :: rest =>
    if isAlphanumeric character then
      wordsFrom ((toLowercase character).reverse ++ pending) rest
    else if isApostrophe character && !pending.isEmpty then wordsFrom pending rest
    else if pending.isEmpty then wordsFrom [] rest
    else pending.reverse :: wordsFrom [] rest

def words (text : String) : List String :=
  (wordsFrom [] text.toList).map String.ofList

example : words "What's its population?" = ["whats", "its", "population"] := by decide

example : words "'Größe' 'MÜNCHEN'" = ["größe", "münchen"] := by decide

def hasSubstance (text : String) : Bool :=
  text.toList.any isAlphanumeric

end ChatMemory.Text
