import ChatMemory.Conversation.Condensing
import ChatMemory.Conversation.Title
import ChatMemory.Conversation.Topic
import ChatMemory.Search.Finding
import ChatMemory.Store

/-!
A conversation memory: sessions in a store, and all that can be asked of them under one set of
settings. Operations that depend on the time are given the reading of a clock.
-/

namespace ChatMemory

structure Activity where
  condensings : Nat := 0
  searches : Nat := 0
  titles : Nat := 0
  /-- How often a supplied history took the place of a stored one. -/
  divergences : Nat := 0
  deriving Repr, DecidableEq

structure Engine (β : Type _) where
  settings : Settings
  store : Store β
  activity : Activity

namespace Engine

variable {β : Type _} [Backend β]

def start (settings : Settings) (backend : β) : Except Failure (Engine β) × β :=
  match settings.validate with
  | .error failure => (.error failure, backend)
  | .ok _ =>
    match Store.load backend with
    | (.error failure, backend) => (.error failure, backend)
    | (.ok store, backend) => (.ok ⟨settings, store, {}⟩, backend)

/-- Condenses a history to a budget. The history is first taken up into the session. -/
def condenseTo (engine : Engine β) (id : String) (messages : List Message) (query : Option String)
    (budget : Budget) (now : Instant) : Except Failure Condensed × Engine β :=
  match SessionId.ofText id with
  | .error failure => (.error failure, engine)
  | .ok id =>
    let (reconciliation, store) := engine.store.reconcile id messages now
    let activity :=
      { engine.activity with
        condensings := engine.activity.condensings + 1
        divergences :=
          engine.activity.divergences + if 0 < reconciliation.replaced then 1 else 0 }
    (.ok (condense engine.settings.condensing engine.settings.scoring messages query budget),
      { engine with store, activity })

def condense (engine : Engine β) (id : String) (messages : List Message) (query : Option String)
    (now : Instant) : Except Failure Condensed × Engine β :=
  engine.condenseTo id messages query engine.settings.condensing.budget now

def searchedSessions (engine : Engine β) (query : Query) : List Session :=
  let live := engine.store.live
  if query.terms.isEmpty then live.toList
  else
    (live.postings.candidates query.probe engine.settings.scoring.trigramThreshold).toList.filterMap
      fun id => live.sessions[id]?

/-- The sessions that a search goes over: one, or all if that is allowed. -/
def searchScope (engine : Engine β) (query : Query) : Option String → List Session
  | some id => engine.store.live.sessions[id]?.toList
  | none => if engine.settings.search.crossSession then engine.searchedSessions query else []

def find (engine : Engine β) (text : String) (id : Option String) (limit : Nat) : Findings :=
  match Query.ofText? text with
  | none => .nothing
  | some query =>
    let settings := engine.settings
    .ofHits settings.search
      ((engine.searchScope query id).flatMap (·.hits query settings.search settings.scoring)) limit

def search (engine : Engine β) (text : String) (id : Option String) (limit : Nat) :
    Findings × Engine β :=
  (engine.find text id limit,
    { engine with activity := { engine.activity with searches := engine.activity.searches + 1 } })

def title (engine : Engine β) (messages : List Message) : String × Engine β :=
  (Title.ofMessages engine.settings.title messages,
    { engine with activity := { engine.activity with titles := engine.activity.titles + 1 } })

/-- The history of a session. Asking for it counts as an access. -/
def history (engine : Engine β) (id : String) (now : Instant) :
    Option (List Message) × Engine β :=
  let store := engine.store
  (store.live.sessions[id]?.map Session.history,
    { engine with store := { store with live := store.live.touch id now } })

def titleSession (engine : Engine β) (id : String) (now : Instant) :
    Except Failure String × Engine β :=
  match SessionId.ofText id with
  | .error failure => (.error failure, engine)
  | .ok id =>
    match engine.history id now with
    | (none, engine) => (.error (.unknownSession id), engine)
    | (some messages, engine) =>
      let (title, engine) := engine.title messages
      let (_, store) := engine.store.setTitle id title now
      (.ok title, { engine with store })

def setTitle (engine : Engine β) (id title : String) (now : Instant) :
    Except Failure Unit × Engine β :=
  match SessionId.ofText id with
  | .error failure => (.error failure, engine)
  | .ok id =>
    let title := Unicode.trim title
    if title.isEmpty then (.error .blankTitle, engine)
    else
      let (found, store) := engine.store.setTitle id title now
      (if found then .ok () else .error (.unknownSession id), { engine with store })

def topics (engine : Engine β) (messages : List Message) : List String :=
  Topic.ofMessages engine.settings.topics messages

def sessionTopics (engine : Engine β) (id : String) : Option (List String) :=
  engine.store.live.sessions[id]?.map fun session => engine.topics session.history

/-- Adds messages to a session. The answer is the new length of its history. -/
def append (engine : Engine β) (id : String) (messages : List Message) (now : Instant) :
    Except Failure Nat × Engine β :=
  match SessionId.ofText id with
  | .error failure => (.error failure, engine)
  | .ok id =>
    let (size, store) := engine.store.append id messages now
    (.ok size, { engine with store })

def sessionStatistics (engine : Engine β) (id : String) : Option SessionStatistics :=
  engine.store.live.sessions[id]?.map fun session =>
    session.statistics (engine.topics session.history)

/-- Pins a session, or takes the pin away. Pinned sessions are never given up for being idle. -/
def setPinned (engine : Engine β) (id : String) (pinned : Bool) (now : Instant) :
    Except Failure Unit × Engine β :=
  match SessionId.ofText id with
  | .error failure => (.error failure, engine)
  | .ok id =>
    let (found, store) := engine.store.setPinned id pinned now
    (if found then .ok () else .error (.unknownSession id), { engine with store })

/-- Forgets a session. The answer is whether there was one. -/
def evict (engine : Engine β) (id : String) : Bool × Engine β :=
  let (removed, store) := engine.store.remove id
  (removed, { engine with store })

def evictIdle (engine : Engine β) (seconds : Int) (now : Instant) : Nat × Engine β :=
  let (count, store) := engine.store.removeIdle (now.minusSeconds seconds)
  (count, { engine with store })

def sessionIds (engine : Engine β) : List SessionId :=
  engine.store.live.ids

def shutDown (engine : Engine β) : Except Failure Unit × β :=
  let (answer, store) := engine.store.flush
  (answer, store.backend)

end Engine

end ChatMemory
