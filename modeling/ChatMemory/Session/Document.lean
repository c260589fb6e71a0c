import ChatMemory.Format.Json.Fields
import ChatMemory.Format.Json.Writer
import ChatMemory.Session.Record
import ChatMemory.Time.Rfc3339

/-!
Messages and session records as JSON.
-/

namespace ChatMemory

namespace Message

def toJson (message : Message) : Json :=
  .ofMembers [("role", .ofString message.role.tag), ("content", .ofString message.content)]

def ofJson? (value : Json) : Option Message :=
  match value.fields? ["role", "content"] with
  | some [role, content] => do
    some (.ofTag (← Json.required? Json.text? role) (← Json.required? Json.text? content))
  | _ => none

def ofDocument? (document : String) : Option Message :=
  (Json.ofText? document).bind ofJson?

example : ofDocument? "[\"User\", \"x\"]" = some ⟨.user, "x"⟩ := by decide

end Message

namespace Entry

def toJson (entry : Entry) : Json :=
  .ofMembers
    [("message", entry.message.toJson), ("position", .ofNat entry.position),
      ("seq", .ofNat entry.sequence)]

def ofJson? (value : Json) : Option Entry :=
  match value.fields? ["message", "position", "seq"] with
  | some [message, position, sequence] => do
    some
      { message := ← Json.required? Message.ofJson? message
        position := ← Json.required? Json.count? position
        sequence := ← Json.required? Json.count? sequence }
  | _ => none

end Entry

def Instant.toJson (instant : Instant) : Json :=
  .ofString (Rfc3339.write instant)

def Instant.ofJson? (value : Json) : Option Instant :=
  value.text?.bind Rfc3339.read?

namespace SessionRecord

def toJson (record : SessionRecord) : Json :=
  .ofMembers
    [("session_id", .ofString record.id),
      ("messages", .array (record.entries.map Entry.toJson)),
      ("title", .ofOption .ofString record.title),
      ("pinned", .bool record.pinned),
      ("created_at", record.createdAt.toJson),
      ("updated_at", record.updatedAt.toJson)]

def ofJson? (value : Json) : Option SessionRecord :=
  match value.fields? ["session_id", "messages", "title", "pinned", "created_at", "updated_at"] with
  | some [id, messages, title, pinned, createdAt, updatedAt] => do
    some
      { id := ← Json.required? Json.text? id
        entries := ← Json.required? (Json.list? Entry.ofJson?) messages
        title := ← Json.withDefault? none (Json.optional? Json.text?) title
        pinned := ← Json.withDefault? false Json.bool? pinned
        createdAt := ← Json.required? Instant.ofJson? createdAt
        updatedAt := ← Json.required? Instant.ofJson? updatedAt }
  | _ => none

def toDocument (record : SessionRecord) : String :=
  record.toJson.toPrettyString

def ofDocument? (document : String) : Option SessionRecord :=
  (Json.ofText? document).bind ofJson?

end SessionRecord

end ChatMemory
