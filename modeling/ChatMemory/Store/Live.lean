import ChatMemory.Search.Postings
import ChatMemory.Session.State
import ChatMemory.Store.Backend

/-!
The sessions of a running memory with the postings of their terms. Every change says which writes a
backend should get; whether these succeed does not matter here.
-/

namespace ChatMemory

structure Live where
  sessions : Std.ExtTreeMap SessionId Session
  postings : Postings
  /-- The number that the next message gets. -/
  nextSequence : UInt64

namespace Live

def empty : Live := ⟨∅, .empty, 1⟩

def ids (live : Live) : List SessionId :=
  live.sessions.keys

def toList (live : Live) : List Session :=
  live.sessions.toList.map (·.2)

def messageCount (live : Live) : Nat :=
  (live.toList.flatMap Session.history).length

def restore (live : Live) (session : Session) : Live :=
  { live with
    sessions := live.sessions.insert session.id session
    postings := live.postings.update session.id session.vocabulary.toList [] }

/-- Takes up the session of a record. An inconsistent record is left out. -/
def restoreRecord (live : Live) (record : SessionRecord) : Live :=
  match Session.ofRecord record with
  | .ok session => live.restore session
  | .error _ => live

/-- The highest number of a message in the records that are not left out. -/
def newestSequence (records : List SessionRecord) : Nat :=
  let placed := records.filter (·.misplaced?.isNone)
  (placed.flatMap fun record => record.entries.map (·.sequence)).max?.getD 0

/-- Takes up all records in order. New messages are counted on from theirs, and from zero where
these have the last number. -/
def ofRecords (records : List SessionRecord) : Live :=
  { records.foldl restoreRecord empty with nextSequence := .ofNat (newestSequence records) + 1 }

def sessionFor (live : Live) (id : SessionId) (now : Instant) : Session :=
  live.sessions[id]?.getD (.new id now)

def put (live : Live) (session : Session) : Live :=
  { live with sessions := live.sessions.insert session.id session }

def ensure (live : Live) (id : SessionId) (now : Instant) : Live :=
  live.put (live.sessionFor id now)

def reconcile (live : Live) (id : SessionId) (supplied : List Message) (now : Instant) :
    Reconciliation × Live × List Write :=
  let session := live.sessionFor id now
  if session.evicted then (.none, live.put session, [])
  else
    let (reconciled, reconciliation) := session.reconcile supplied live.nextSequence.toNat now
    let reconciled := reconciled.touch now
    let nextSequence := live.nextSequence + .ofNat reconciliation.appended
    let live := { live.put reconciled with nextSequence }
    if reconciliation.changed then
      let postings :=
        live.postings.update id reconciliation.addedTerms reconciliation.removedTerms
      (reconciliation, { live with postings }, [.save reconciled.toRecord])
    else (reconciliation, live, [])

/-- Lets messages follow the history of a session, whatever it is. The answer is the new length of
the history, or zero if the session was given up. -/
def append (live : Live) (id : SessionId) (messages : List Message) (now : Instant) :
    Nat × Live × List Write :=
  let session := live.sessionFor id now
  if session.evicted then (0, live.put session, [])
  else
    let (_, after, writes) := live.reconcile id (session.history ++ messages) now
    ((after.sessionFor id now).size, after, writes)

/-- Changes what is noted about an existing session. The answer is whether there is one. -/
def amend (live : Live) (id : SessionId) (change : Session → Session) :
    Bool × Live × List Write :=
  match live.sessions[id]? with
  | none => (false, live, [])
  | some session =>
    if session.evicted then (false, live, [])
    else
      let changed := change session
      (true, { live with sessions := live.sessions.insert id changed }, [.save changed.toRecord])

def setTitle (live : Live) (id : SessionId) (title : String) (now : Instant) :
    Bool × Live × List Write :=
  live.amend id (·.setTitle title now)

def setPinned (live : Live) (id : SessionId) (pinned : Bool) (now : Instant) :
    Bool × Live × List Write :=
  live.amend id (·.setPinned pinned now)

def touch (live : Live) (id : SessionId) (now : Instant) : Live :=
  { live with sessions := live.sessions.alter id (·.map (·.touch now)) }

def markEvicted (live : Live) (id : SessionId) : Live :=
  { live with sessions := live.sessions.alter id (·.map (·.evict)) }

/-- Gives up a session if the condition holds for it. The answer is whether that was so. -/
def removeIf (live : Live) (id : SessionId) (condition : Session → Bool) :
    Bool × Live × List Write :=
  match live.sessions[id]? with
  | none => (false, live, [])
  | some session =>
    if condition session then
      (true,
        { live with
          sessions := live.sessions.erase id
          postings := live.postings.removeSession id },
        [.delete id])
    else (false, live, [])

def remove (live : Live) (id : SessionId) : Bool × Live × List Write :=
  live.removeIf id fun _ => true

/-- A session is idle if it is not pinned and was not looked at since the cutoff. -/
def isIdle (cutoff : Instant) (session : Session) : Bool :=
  !session.pinned && session.accessedAt.isBefore cutoff

/-- Gives up the idle ones among the given sessions, one after the other. The answer is how many
there were. -/
def removeIdleOf (cutoff : Instant) (live : Live) : List SessionId → Nat × Live × List Write
  | [] => (0, live, [])
  | id :: rest =>
    let (removed, live, writes) := live.removeIf id (isIdle cutoff)
    let (count, live, laterWrites) := removeIdleOf cutoff live rest
    (removed.toNat + count, live, writes ++ laterWrites)

def removeIdle (live : Live) (cutoff : Instant) : Nat × Live × List Write :=
  removeIdleOf cutoff live live.ids

def saves (live : Live) : List Write :=
  (live.toList.filter (!·.evicted)).map fun session => .save session.toRecord

end Live

end ChatMemory
