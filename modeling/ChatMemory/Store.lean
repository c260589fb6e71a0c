import ChatMemory.Store.Live

/-!
The sessions of a running memory together with the backend that outlives it. Every change goes
through to the backend at once, and a backend that refuses it does not undo it.
-/

namespace ChatMemory

structure Store (β : Type _) where
  live : Live
  backend : β

namespace Store

variable {β : Type _} [Backend β]

def load (backend : β) : Except Failure (Store β) × β :=
  match Backend.load backend with
  | (.ok records, backend) => (.ok ⟨.ofRecords records, backend⟩, backend)
  | (.error failure, backend) => (.error failure, backend)

/-- Opens a store in a build that checks its sums. Such a build stops, and gives nothing, where the
backend holds a message with the last number. -/
def loadChecked? (backend : β) : Option (Except Failure (Store β) × β) :=
  match Backend.load backend with
  | (.ok records, _) =>
    if Live.newestSequence records + 1 < sequenceLimit then some (load backend) else none
  | (.error _, _) => some (load backend)

def perform {α : Type _} (store : Store β) (change : Live → α × Live × List Write) : α × Store β :=
  let (answer, live, writes) := change store.live
  (answer, ⟨live, Backend.writeAll writes store.backend⟩)

def reconcile (store : Store β) (id : SessionId) (supplied : List Message) (now : Instant) :
    Reconciliation × Store β :=
  store.perform (·.reconcile id supplied now)

def append (store : Store β) (id : SessionId) (messages : List Message) (now : Instant) :
    Nat × Store β :=
  store.perform (·.append id messages now)

def setTitle (store : Store β) (id : SessionId) (title : String) (now : Instant) :
    Bool × Store β :=
  store.perform (·.setTitle id title now)

def setPinned (store : Store β) (id : SessionId) (pinned : Bool) (now : Instant) :
    Bool × Store β :=
  store.perform (·.setPinned id pinned now)

def remove (store : Store β) (id : SessionId) : Bool × Store β :=
  store.perform (·.remove id)

def removeIdle (store : Store β) (cutoff : Instant) : Nat × Store β :=
  store.perform (·.removeIdle cutoff)

def flush (store : Store β) : Except Failure Unit × Store β :=
  match Backend.writeUntilRefused store.live.saves store.backend with
  | (.error failure, backend) => (.error failure, { store with backend })
  | (.ok _, backend) =>
    let (answer, backend) := Backend.flush backend
    (answer, { store with backend })

end Store

end ChatMemory
