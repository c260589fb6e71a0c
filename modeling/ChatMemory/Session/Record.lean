import ChatMemory.Conversation.Message
import ChatMemory.Time.Instant
import ChatMemory.Failure

/-!
Session ids, and sessions in the form in which they are kept on disk.
-/

namespace ChatMemory

/-- Names a session. Callers choose it. -/
abbrev SessionId := String

def SessionId.ofText (text : String) : Except Failure SessionId :=
  if Unicode.isAllBlank text then .error .blankSessionId else .ok text

theorem SessionId.ofText_of_nonblank {text : String} (nonblank : Unicode.isAllBlank text = false) :
    ofText text = .ok text := by
  rw [ofText, nonblank, if_neg Bool.false_ne_true]

theorem SessionId.nonblank_of_ofText {text : String} {id : SessionId}
    (accepted : ofText text = .ok id) : Unicode.isAllBlank id = false := by
  rw [ofText] at accepted
  split at accepted
  · cases accepted
  · rename_i nonblank
    cases accepted
    exact Bool.eq_false_iff.mpr nonblank

structure Entry where
  message : Message
  /-- The place in the session, counted from zero. -/
  position : Nat
  /-- Counts the messages of all sessions in the order of their arrival. -/
  sequence : Nat
  deriving Repr, DecidableEq

def sequenceLimit : Nat := 0x10000000000000000

structure SessionRecord where
  id : SessionId
  entries : List Entry
  title : Option String := none
  pinned : Bool := false
  createdAt : Instant
  updatedAt : Instant
  deriving Repr, DecidableEq

namespace SessionRecord

/-- The first entry whose position is not its place in the list, as its position and its place. -/
def misplacedFrom? (index : Nat) : List Entry → Option (Nat × Nat)
  | [] => none
  | entry :: rest =>
    if entry.position = index then misplacedFrom? (index + 1) rest
    else some (entry.position, index)

def misplaced? (record : SessionRecord) : Option (Nat × Nat) :=
  misplacedFrom? 0 record.entries

end SessionRecord

end ChatMemory
