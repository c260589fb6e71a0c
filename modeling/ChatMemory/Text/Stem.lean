/-!
Stems: a term without its ending. The inflections of a word should share one stem, as `cities` and
`city` do; the stem itself need not be a word.
-/

namespace ChatMemory.Text

/-- Endings that a stem goes without, longest first. -/
def endings : List (List Char) :=
  ["ations", "ation", "ness", "ment", "ings", "ing", "ies", "ied", "ers", "est", "ed", "es",
    "er", "ly", "s"].map String.toList

def shortestStem : Nat := 3

def sibilants : List (List Char) :=
  ["s", "x", "z", "ch", "sh"].map String.toList

def endsInSibilant (text : List Char) : Bool :=
  sibilants.any (·.isSuffixOf text)

def lastingDoubles : List Char :=
  "aeiouls".toList

/-- Takes one of two equal letters from the end: `runn` becomes `run`. -/
def undouble (text : List Char) : List Char :=
  match text.reverse with
  | last :: second :: _ =>
    if last == second && !lastingDoubles.contains last then text.dropLast else text
  | _ => text

/-- Cuts off one ending, if the term has it and enough is left. After `es` a sibilant must be left;
`ies` and `ied` give way to `y`. -/
def cutEnding? (term ending : List Char) : Option (List Char) :=
  if ending.isSuffixOf term && decide (ending.length + shortestStem ≤ term.length) then
    let left := term.take (term.length - ending.length)
    if ending == ['e', 's'] && !endsInSibilant left then none
    else if ending == ['i', 'e', 's'] || ending == ['i', 'e', 'd'] then
      some (undouble (left ++ ['y']))
    else some (undouble left)
  else none

/-- The stem of a term: the longest ending that can be cut off is. -/
def stemOf (term : List Char) : List Char :=
  (endings.findSome? (cutEnding? term)).getD term

def stem (term : String) : String :=
  String.ofList (stemOf term.toList)

example : stem "cities" = "city" := by decide

example : stem "running" = "run" := by decide

example : stem "types" = "type" := by decide

example : stem "boxes" = "box" := by decide

end ChatMemory.Text
