import ChatMemory.Search.Query
import ChatMemory.Relevance.Ranking
import ChatMemory.Session.State

/-!
The messages that a search finds, and their order.
-/

namespace ChatMemory

structure Hit where
  session : SessionId
  position : Nat
  message : Message
  score : Score
  source : HitSource
  sequence : Nat

inductive SearchType
  | keyword
  | semantic
  | hybrid
  | none
  deriving Repr, DecidableEq

def SearchType.name : SearchType → String
  | .keyword => "keyword"
  | .semantic => "semantic"
  | .hybrid => "hybrid"
  | .none => "none"

structure Findings where
  /-- How many messages match. -/
  total : Nat
  type : SearchType
  /-- The best of them, up to the limit that the search was given. -/
  hits : List Hit

namespace Findings

def nothing : Findings := ⟨0, .none, []⟩

def countKeywords (hits : List Hit) : Nat :=
  hits.countP (·.source == .keyword)

def typeOf (hits : List Hit) : SearchType :=
  if hits.isEmpty then .none
  else if countKeywords hits = 0 then .semantic
  else if countKeywords hits = hits.length then .keyword
  else .hybrid

/-- Whether one hit may stand before another. Higher scores come first, then later messages. If
keywords go first, they do so whatever the score. -/
def mayPrecede (keywordsFirst : Bool) (first second : Hit) : Bool :=
  if keywordsFirst && first.source != second.source then first.source == .keyword
  else if scoreKey first.score = scoreKey second.score then
    decide (second.sequence ≤ first.sequence)
  else decide (scoreKey second.score < scoreKey first.score)

def ofHits (search : SearchSettings) (hits : List Hit) (limit : Nat) : Findings :=
  let keywordsFirst := decide (search.keywordsFirstFrom ≤ countKeywords hits)
  ⟨hits.length, typeOf hits, (hits.mergeSort (mayPrecede keywordsFirst)).take limit⟩

end Findings

namespace Session

def searchedTurns (session : Session) (search : SearchSettings) : List Turn :=
  session.turns.drop (session.turns.length - search.maxScanMessages)

def hit? (session : Session) (query : Query) (search : SearchSettings) (scoring : ScoringSettings)
    (turn : Turn) : Option Hit :=
  let hit (score : Float32) (source : HitSource) : Hit :=
    { session := session.id
      position := turn.entry.position
      message := turn.message
      score
      source
      sequence := turn.entry.sequence }
  match query.keywordScore? turn.message.content turn.analysis with
  | some score => some (hit score .keyword)
  | none =>
    if query.matchesMeaning search scoring turn.analysis then
      let score := scoring.relevance query.probe turn.analysis turn.entry.position
        session.turns.length session.corpus
      some (hit score .semantic)
    else none

def hits (session : Session) (query : Query) (search : SearchSettings)
    (scoring : ScoringSettings) : List Hit :=
  (session.searchedTurns search).filterMap (session.hit? query search scoring)

def find (session : Session) (text : String) (search : SearchSettings) (scoring : ScoringSettings)
    (limit : Nat) : Findings :=
  match Query.ofText? text with
  | none => .nothing
  | some query => .ofHits search (session.hits query search scoring) limit

end Session

end ChatMemory
