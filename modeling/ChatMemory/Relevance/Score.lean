import ChatMemory.Relevance.Frequency
import ChatMemory.Text.Trigram
import ChatMemory.Settings

/-!
How relevant a message is to a probe. The score blends two parts between 0 and 1: how much of the
probe is found again in the message, rare terms weighing more, and how recent the message is.
-/

namespace ChatMemory

inductive TermMatch
  | exact
  | sharedStem
  | related (similarity : Float32)

def TermMatch.strength : TermMatch → Float32
  | .exact => 1
  | .sharedStem => 0.85
  | .related similarity => similarity * 0.7

def shortestRelated : Nat := 4

def similarityBound (first second : Nat) : Float32 :=
  2 * Text.ofCount (min first second + 1) / Text.ofCount (first + second + 2)

def largest? : List Float32 → Option Float32
  | [] => none
  | first :: rest =>
    some (rest.foldl (fun best value => if best < value then value else best) first)

namespace ScoringSettings

/-- Whether two terms are related by their trigrams. Pairs whose lengths alone rule it out are not
compared. -/
def areRelated (scoring : ScoringSettings) (term other : String) : Bool :=
  if other.length < shortestRelated then false
  else if similarityBound term.length other.length < scoring.trigramThreshold then false
  else
    let similarity := Text.trigramSimilarity term other
    decide (scoring.trigramThreshold ≤ similarity) && decide (0 < similarity)

def relatedSimilarities (scoring : ScoringSettings) (term : String) (candidate : Analysis) :
    List Float32 :=
  if term.length < shortestRelated then []
  else
    (candidate.terms.toList.filter (scoring.areRelated term)).map (Text.trigramSimilarity term)

def findTerm? (scoring : ScoringSettings) (candidate : Analysis) (probeTerm : ProbeTerm) :
    Option TermMatch :=
  if candidate.terms.contains probeTerm.term then some .exact
  else if candidate.stems.contains probeTerm.stem then some .sharedStem
  else (largest? (scoring.relatedSimilarities probeTerm.term candidate)).map .related

def termStrength (scoring : ScoringSettings) (candidate : Analysis) (probeTerm : ProbeTerm) :
    Float32 :=
  ((scoring.findTerm? candidate probeTerm).map TermMatch.strength).getD 0

def clampToUnit (value : Float32) : Float32 :=
  if value < 0 then 0 else if 1 < value then 1 else value

def lexical (scoring : ScoringSettings) (probe : Probe) (candidate : Analysis)
    (corpus : Frequencies) : Float32 :=
  if probe.isEmpty || candidate.isEmpty then 0
  else
    let sums := probe.terms.foldl
      (fun (sums : Float32 × Float32) probeTerm =>
        let rarity := corpus.rarity probeTerm.term
        (sums.1 + rarity * scoring.termStrength candidate probeTerm, sums.2 + rarity))
      (0, 0)
    clampToUnit (sums.1 / sums.2)

def foundTerms (scoring : ScoringSettings) (probe : Probe) (candidate : Analysis) : Nat :=
  probe.terms.countP fun probeTerm => (scoring.findTerm? candidate probeTerm).isSome

def coverage (scoring : ScoringSettings) (probe : Probe) (candidate : Analysis) : Float32 :=
  if probe.isEmpty || candidate.isEmpty then 0
  else Text.ratio (scoring.foundTerms probe candidate) probe.terms.length

def logOfTwo : Float32 := .ofBits 0x3F317218

def recency (scoring : ScoringSettings) (position total : Nat) : Float32 :=
  if total ≤ position then 0
  else (-logOfTwo * Text.ofCount (total - 1 - position) / scoring.recencyHalfLife).exp

def relevance (scoring : ScoringSettings) (probe : Probe) (candidate : Analysis)
    (position total : Nat) (corpus : Frequencies) : Float32 :=
  if probe.isEmpty || candidate.isEmpty then 0
  else
    let lexical := scoring.lexical probe candidate corpus
    let recency := scoring.recency position total
    clampToUnit
      ((scoring.lexicalWeight * lexical + scoring.recencyWeight * recency) /
        (scoring.lexicalWeight + scoring.recencyWeight))

end ScoringSettings

example : ({} : ScoringSettings).coverage (.ofText "cities") (.ofText "the largest city") = 1 := by
  decide

end ChatMemory
