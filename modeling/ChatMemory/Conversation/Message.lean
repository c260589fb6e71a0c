import ChatMemory.Text.Word
import ChatMemory.Unicode.Blank

/-!
Messages: one turn of a conversation, with the role of its sender.
-/

namespace ChatMemory

/-- Who a message is from. Tags other than the three known ones are kept as they are. -/
inductive Role
  | system
  | user
  | assistant
  | other (tag : String)
  deriving Repr, DecidableEq

namespace Role

/-- Reads a tag. The known ones are recognised in any case and with white space around them. -/
def ofTag (tag : String) : Role :=
  let known := (Unicode.trimBlanks tag.toList).map Char.toLower
  if known = "system".toList then system
  else if known = "user".toList then user
  else if known = "assistant".toList then assistant
  else other tag

def tag : Role → String
  | system => "system"
  | user => "user"
  | assistant => "assistant"
  | other tag => tag

def isKnown : Role → Bool
  | other _ => false
  | _ => true

def isSystem : Role → Bool
  | system => true
  | _ => false

def isUser : Role → Bool
  | user => true
  | _ => false

example : ofTag " Assistant\t" = assistant := by decide

example : ofTag " Tool" = other " Tool" := by decide

end Role

structure Message where
  role : Role
  content : String
  deriving Repr, DecidableEq

namespace Message

def ofTag (tag content : String) : Message :=
  ⟨.ofTag tag, content⟩

def hasSubstance (message : Message) : Bool :=
  Text.hasSubstance message.content

end Message

end ChatMemory
