import ChatMemory.Session.Alignment
import ChatMemory.Session.Record
import ChatMemory.Relevance.Frequency
import ChatMemory.Text.Blank

/-!
Sessions as a running memory holds them. Beside the messages a session keeps what can be computed
from them and is needed often: their analyses, the frequencies of their terms and their size. These
are brought up to date by what changes, and never computed anew.
-/

namespace ChatMemory

structure Turn where
  entry : Entry
  analysis : Analysis

namespace Turn

def ofEntry (entry : Entry) : Turn :=
  ⟨entry, .ofText entry.message.content⟩

def message (turn : Turn) : Message :=
  turn.entry.message

end Turn

structure Session where
  id : SessionId
  turns : List Turn
  corpus : Frequencies
  tokens : Nat
  title : Option String
  pinned : Bool
  /-- Set when the session is given up. Later changes must not bring it back. -/
  evicted : Bool
  createdAt : Instant
  updatedAt : Instant
  accessedAt : Instant

structure Reconciliation where
  /-- How many messages were added. -/
  appended : Nat
  /-- How many stored messages were given up for others. -/
  replaced : Nat
  /-- Terms that the session did not hold before. -/
  addedTerms : List String
  /-- Terms that the session does not hold any more. -/
  removedTerms : List String
  deriving Repr, DecidableEq

namespace Reconciliation

def none : Reconciliation := ⟨0, 0, [], []⟩

def changed (reconciliation : Reconciliation) : Bool :=
  decide (0 < reconciliation.appended) || decide (0 < reconciliation.replaced)

end Reconciliation

namespace Session

def new (id : SessionId) (now : Instant) : Session where
  id := id
  turns := []
  corpus := .empty
  tokens := 0
  title := none
  pinned := false
  evicted := false
  createdAt := now
  updatedAt := now
  accessedAt := now

def tokensOf (turns : List Turn) : Nat :=
  Text.tokenTotal (turns.map (·.message.content))

def entries (session : Session) : List Entry :=
  session.turns.map (·.entry)

def history (session : Session) : List Message :=
  session.turns.map Turn.message

def size (session : Session) : Nat :=
  session.turns.length

def toRecord (session : Session) : SessionRecord where
  id := session.id
  entries := session.entries
  title := session.title
  pinned := session.pinned
  createdAt := session.createdAt
  updatedAt := session.updatedAt

def ofRecord (record : SessionRecord) : Except Failure Session :=
  match record.misplaced? with
  | some (position, index) => .error (.misplacedMessage record.id position index)
  | none =>
    let turns := record.entries.map Turn.ofEntry
    .ok
      { id := record.id
        turns
        corpus := .ofDocuments (turns.map (·.analysis))
        tokens := tokensOf turns
        title := record.title
        pinned := record.pinned
        evicted := false
        createdAt := record.createdAt
        updatedAt := record.updatedAt
        accessedAt := record.updatedAt }

def vocabulary (session : Session) : Text.TermSet :=
  .ofList (session.turns.flatMap (·.analysis.terms.toList))

def newestSequence? (session : Session) : Option Nat :=
  (session.turns.map (·.entry.sequence)).max?

def setTitle (session : Session) (title : String) (now : Instant) : Session :=
  { session with title := some title, updatedAt := now }

def setPinned (session : Session) (pinned : Bool) (now : Instant) : Session :=
  { session with pinned, updatedAt := now }

def touch (session : Session) (now : Instant) : Session :=
  { session with accessedAt := now }

def evict (session : Session) : Session :=
  { session with evicted := true }

/-- The turns for new messages, which take the places from `position` on and the sequence numbers
from `sequence` on. -/
def turnsFrom (position sequence : Nat) : List Message → List Turn
  | [] => []
  | message :: rest =>
    .ofEntry ⟨message, position, sequence % sequenceLimit⟩ ::
      turnsFrom (position + 1) (sequence + 1) rest

def replaceTail (session : Session) (kept : Nat) (added : List Turn) : Session :=
  let removed := session.turns.drop kept
  { session with
    turns := session.turns.take kept ++ added
    corpus :=
      (added.map (·.analysis)).foldl .add
        ((removed.map (·.analysis)).foldl .remove session.corpus)
    tokens := session.tokens - tokensOf removed + tokensOf added }

def termsOf (turns : List Turn) : List String :=
  (Std.ExtTreeSet.ofList (turns.flatMap (·.analysis.terms.toList)) compare).toList

/-- Brings the session up to date with a history that the caller supplies. New messages get sequence
numbers from `nextSequence` on. -/
def reconcile (session : Session) (supplied : List Message) (nextSequence : Nat) (now : Instant) :
    Session × Reconciliation :=
  match align? session.history supplied with
  | none => (session, .none)
  | some alignment =>
    let removed := session.turns.drop alignment.kept
    let added := turnsFrom alignment.kept nextSequence (supplied.drop alignment.taken)
    let after := session.replaceTail alignment.kept added
    let touched := termsOf (removed ++ added)
    let reconciliation : Reconciliation :=
      { appended := added.length
        replaced := removed.length
        addedTerms := touched.filter fun term =>
          after.corpus.holds term && !session.corpus.holds term
        removedTerms := touched.filter fun term =>
          session.corpus.holds term && !after.corpus.holds term }
    if reconciliation.changed then
      ({ after with updatedAt := now, accessedAt := now }, reconciliation)
    else (after, reconciliation)

end Session

structure SessionStatistics where
  id : SessionId
  messageCount : Nat
  tokens : Nat
  /-- For each role, how many messages it has. -/
  roleCounts : Std.ExtTreeMap String Nat
  title : Option String
  pinned : Bool
  topics : List String
  createdAt : Instant
  updatedAt : Instant

def Session.statistics (session : Session) (topics : List String) : SessionStatistics where
  id := session.id
  messageCount := session.size
  tokens := session.tokens
  roleCounts := (session.history.map (·.role.tag)).foldl Frequencies.raise ∅
  title := session.title
  pinned := session.pinned
  topics := topics
  createdAt := session.createdAt
  updatedAt := session.updatedAt

end ChatMemory
