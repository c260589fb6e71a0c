import ChatMemory.Text.Term

/-!
Likeness of two terms by the runs of three characters that they share.
-/

namespace ChatMemory.Text

def triples : List Char → List (List Char)
  | first :: second :: third :: rest =>
    [first, second, third] :: triples (second :: third :: rest)
  | _ => []

/-- The distinct trigrams of a term. It is padded with two spaces before and one after, so that
short terms have trigrams too and a common beginning counts more. -/
def trigrams (term : String) : Std.ExtTreeSet String :=
  .ofList ((triples (' ' :: ' ' :: term.toList ++ [' '])).map String.ofList)

def ofCount (count : Nat) : Float32 :=
  count.toUInt64.toFloat32

def ratio (part whole : Nat) : Float32 :=
  ofCount part / ofCount whole

def trigramSimilarity (first second : String) : Float32 :=
  if first.isEmpty || second.isEmpty then 0
  else if first == second then 1
  else
    let firstTrigrams := trigrams first
    let secondTrigrams := trigrams second
    let shared := (firstTrigrams.filter secondTrigrams.contains).size
    ratio (2 * shared) (firstTrigrams.size + secondTrigrams.size)

example : trigramSimilarity "paris" "paris" = 1 := by decide

example : trigramSimilarity "ab" "ba" < 0.01 := by decide +kernel

end ChatMemory.Text
