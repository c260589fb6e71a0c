import ChatMemory.Relevance.Score
import ChatMemory.Text.Blank
import ChatMemory.Text.Containment
import ChatMemory.Text.Word

/-!
Queries, and which messages match them. A message matches by keyword if it holds the whole query as
a phrase, or a term of it, or a longer term of it inside another word. Failing that it matches by
meaning, if enough of the query's terms are related to its own.
-/

namespace ChatMemory

structure Query where
  /-- The words of the query in a row, with a space before and after each. -/
  phrase : List Char
  terms : List String
  /-- The terms long enough to be looked for inside other words. -/
  fragments : List String
  probe : Probe

/-- Words in a row, with a space before and after each, so that a phrase is only found between
words. -/
def phraseOf (words : List String) : List Char :=
  ' ' :: Text.joinWithSpaces (words.map String.toList) ++ [' ']

inductive HitSource
  | keyword
  | semantic
  deriving Repr, DecidableEq

def HitSource.name : HitSource → String
  | .keyword => "keyword"
  | .semantic => "semantic"

namespace Query

/-- Prepares a query. Without any word there is nothing to look for. -/
def ofText? (text : String) : Option Query :=
  let words := Text.words text
  if words.isEmpty then none
  else
    let terms := (Text.termSet text).toList
    some
      { phrase := phraseOf words
        terms
        fragments := terms.filter Text.isFragment
        probe := .ofText text }

def matchesPhrase (query : Query) (content : String) : Bool :=
  Text.occursIn query.phrase (phraseOf (Text.words content))

def exactTerms (query : Query) (analysis : Analysis) : Nat :=
  query.terms.countP analysis.terms.contains

def insideTerms (query : Query) (analysis : Analysis) : Nat :=
  query.fragments.countP fun fragment => analysis.terms.toList.any (Text.contains · fragment)

def insideWeight : Float32 := 0.8

def share (accepted : Nat) (all : List String) : Float32 :=
  if all.isEmpty then 0 else Text.ratio accepted all.length

def keywordScore? (query : Query) (content : String) (analysis : Analysis) : Option Float32 :=
  if query.matchesPhrase content then some 1
  else
    let exact := query.exactTerms analysis
    let inside := query.insideTerms analysis
    if exact = 0 && inside = 0 then none
    else
      let exactShare := share exact query.terms
      let insideShare := share inside query.fragments * insideWeight
      some (if exactShare < insideShare then insideShare else exactShare)

def matchesMeaning (query : Query) (search : SearchSettings) (scoring : ScoringSettings)
    (analysis : Analysis) : Bool :=
  search.semantic && decide (0 < scoring.foundTerms query.probe analysis) &&
    !decide (scoring.coverage query.probe analysis < search.semanticThreshold)

def source? (query : Query) (search : SearchSettings) (scoring : ScoringSettings)
    (content : String) (analysis : Analysis) : Option HitSource :=
  if (query.keywordScore? content analysis).isSome then some .keyword
  else if query.matchesMeaning search scoring analysis then some .semantic
  else none

end Query

end ChatMemory
