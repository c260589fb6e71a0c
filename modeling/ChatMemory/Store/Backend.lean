import ChatMemory.Session.Record
import Std.Data.ExtTreeMap

/-!
Where session records outlive the running memory. A backend can refuse any request; what it holds
afterwards is its own affair.
-/

namespace ChatMemory

inductive Write
  | save (record : SessionRecord)
  | delete (id : SessionId)
  deriving Repr, DecidableEq

/-- Keeps session records. Every request gives an answer and the backend as it is afterwards. -/
class Backend (β : Type _) where
  load : β → Except Failure (List SessionRecord) × β
  write : Write → β → Except Failure Unit × β
  /-- Makes earlier writes lasting. -/
  flush : β → Except Failure Unit × β

namespace Backend

variable {β : Type _} [Backend β]

/-- Sends writes to the backend. A refused write is passed over. -/
def writeAll (writes : List Write) (backend : β) : β :=
  writes.foldl (fun backend request => (write request backend).2) backend

def writeUntilRefused : List Write → β → Except Failure Unit × β
  | [], backend => (.ok (), backend)
  | request :: rest, backend =>
    match write request backend with
    | (.ok _, backend) => writeUntilRefused rest backend
    | (.error failure, backend) => (.error failure, backend)

end Backend

structure Archive where
  records : Std.ExtTreeMap SessionId SessionRecord

namespace Archive

def empty : Archive := ⟨∅⟩

def toList (archive : Archive) : List SessionRecord :=
  archive.records.toList.map (·.2)

def size (archive : Archive) : Nat :=
  archive.records.size

def apply (archive : Archive) : Write → Archive
  | .save record => ⟨archive.records.insert record.id record⟩
  | .delete id => ⟨archive.records.erase id⟩

instance : Backend Archive where
  load archive := (.ok archive.toList, archive)
  write request archive := (.ok (), archive.apply request)
  flush archive := (.ok (), archive)

end Archive

inductive Request
  | save
  | load
  | delete
  | flush
  deriving Repr, DecidableEq

def Request.name : Request → String
  | .save => "save"
  | .load => "load"
  | .delete => "delete"
  | .flush => "flush"

def Request.ofName? (name : String) : Option Request :=
  [save, load, delete, flush].find? (·.name == name)

/-- A backend in front of another. It refuses chosen requests and notes the ones it lets through. -/
structure Watched (β : Type _) where
  inner : β
  refused : List Request
  /-- The requests let through, latest first. -/
  notes : List String

namespace Watched

variable {β : Type _}

def of (inner : β) : Watched β := ⟨inner, [], []⟩

def refusal (request : Request) : Failure :=
  ⟨.storage, request.name ++ " refused"⟩

def pass {α : Type _} (watched : Watched β) (request : Request) (note : String)
    (action : β → Except Failure α × β) : Except Failure α × Watched β :=
  if watched.refused.contains request then (.error (refusal request), watched)
  else
    let (answer, inner) := action watched.inner
    (answer, { watched with inner, notes := note :: watched.notes })

instance [Backend β] : Backend (Watched β) where
  load watched := watched.pass .load "load" Backend.load
  write request watched :=
    match request with
    | .save record =>
      watched.pass .save
        ("save " ++ record.id ++ " " ++ toString record.entries.length) (Backend.write request)
    | .delete id => watched.pass .delete ("delete " ++ id) (Backend.write request)
  flush watched := watched.pass .flush "flush" Backend.flush

end Watched

end ChatMemory
