import ChatMemory.Proofs.Format.Json.Reading
import ChatMemory.Proofs.Time.Rfc3339
import ChatMemory.Session.Document

/-!
Session records as documents. Main statement: a record whose parts can be told is read back from the
document that is written for it. Whatever is read from a record's document has the record's id.
-/

namespace ChatMemory

private theorem Role.ofTag_tag_ofTag (tag : String) :
    Role.ofTag (Role.ofTag tag).tag = Role.ofTag tag := by
  cases read : Role.ofTag tag with
  | system => decide
  | user => decide
  | assistant => decide
  | other kept =>
      have same : kept = tag := by
        simp only [Role.ofTag] at read
        split_ifs at read
        exact (Role.other.inj read).symm
      rw [Role.tag, same, read, same]

namespace Message

private theorem isPlain_toJson (message : Message) : message.toJson.IsPlain := by
  apply Json.isPlain_ofMembers
  simp only [List.forall_mem_cons]
  exact ⟨Json.isPlain_ofString _, Json.isPlain_ofString _, by simp⟩

private theorem ofJson?_toJson {message : Message} (tagged : ∃ tag, message.role = .ofTag tag) :
    ofJson? message.toJson = some message := by
  rcases tagged with ⟨tag, role⟩
  have fields : message.toJson.fields? ["role", "content"] =
      some [some (.ofString message.role.tag), some (.ofString message.content)] :=
    Json.fields?_ofMembers (by simp)
  have same : Role.ofTag message.role.tag = message.role := by rw [role, Role.ofTag_tag_ofTag]
  simp [ofJson?, fields, Json.required?, Json.ofString, Json.text?, ofTag, same]

end Message

namespace Entry

private theorem isPlain_toJson (entry : Entry) : entry.toJson.IsPlain := by
  apply Json.isPlain_ofMembers
  simp only [List.forall_mem_cons]
  exact ⟨entry.message.isPlain_toJson, Json.isPlain_ofNat _, Json.isPlain_ofNat _, by simp⟩

/-- Whether an entry has a role that a tag is read as, and numbers within 64 bits. -/
structure Storable (entry : Entry) : Prop where
  tagged : ∃ tag, entry.message.role = .ofTag tag
  position : entry.position < countLimit
  sequence : entry.sequence < countLimit

private theorem ofJson?_toJson {entry : Entry} (storable : entry.Storable) :
    ofJson? entry.toJson = some entry := by
  have fields : entry.toJson.fields? ["message", "position", "seq"] =
      some [some entry.message.toJson, some (.ofNat entry.position),
        some (.ofNat entry.sequence)] :=
    Json.fields?_ofMembers (by simp)
  simp [ofJson?, fields, Json.required?, Message.ofJson?_toJson storable.tagged,
    Json.count?_ofNat storable.position, Json.count?_ofNat storable.sequence]

end Entry

private theorem Instant.ofJson?_toJson {instant : Instant} (told : Rfc3339.IsTold instant) :
    Instant.ofJson? instant.toJson = some instant := by
  rw [Instant.ofJson?, Instant.toJson, Json.ofString, Json.text?, Option.bind_some,
    Rfc3339.read?_write told]

namespace SessionRecord

/-- Whether a record has nothing but entries that can be stored and times that can be told. -/
structure Storable (record : SessionRecord) : Prop where
  entries : ∀ entry ∈ record.entries, entry.Storable
  created : Rfc3339.IsTold record.createdAt
  updated : Rfc3339.IsTold record.updatedAt

private theorem isPlain_toJson (record : SessionRecord) : record.toJson.IsPlain := by
  apply Json.isPlain_ofMembers
  simp only [List.forall_mem_cons]
  refine ⟨Json.isPlain_ofString _, .array ?_, Json.isPlain_ofOption Json.isPlain_ofString _,
    .bool _, Json.isPlain_ofString _, Json.isPlain_ofString _, by simp⟩
  intro item member
  rcases List.mem_map.mp member with ⟨entry, -, rfl⟩
  exact entry.isPlain_toJson

private theorem fields?_toJson (record : SessionRecord) :
    record.toJson.fields?
        ["session_id", "messages", "title", "pinned", "created_at", "updated_at"] =
      some
        [some (.ofString record.id), some (.array (record.entries.map Entry.toJson)),
          some (.ofOption .ofString record.title), some (.bool record.pinned),
          some record.createdAt.toJson, some record.updatedAt.toJson] :=
  Json.fields?_ofMembers (by simp)

private theorem ofDocument?_eq_ofJson? (record : SessionRecord) :
    ofDocument? record.toDocument = ofJson? record.toJson := by
  rw [ofDocument?, toDocument, record.isPlain_toJson.ofText?_toPrettyString, Option.bind_some]

private theorem ofJson?_toJson {record : SessionRecord} (storable : record.Storable) :
    ofJson? record.toJson = some record := by
  have entries : Json.list? Entry.ofJson? (.array (record.entries.map Entry.toJson)) =
      some record.entries :=
    Json.list?_array fun entry member => Entry.ofJson?_toJson (storable.entries entry member)
  have title : Json.optional? Json.text? (.ofOption .ofString record.title) =
      some record.title := by
    cases record.title <;> rfl
  simp only [ofJson?, fields?_toJson, Json.required?, Json.withDefault?, Option.bind_some,
    Option.bind_eq_bind, entries, title, Instant.ofJson?_toJson storable.created,
    Instant.ofJson?_toJson storable.updated]
  rfl

theorem ofDocument?_toDocument {record : SessionRecord} (storable : record.Storable) :
    ofDocument? record.toDocument = some record := by
  rw [ofDocument?_eq_ofJson?, ofJson?_toJson storable]

theorem id_of_ofDocument?_toDocument {record read : SessionRecord}
    (found : ofDocument? record.toDocument = some read) : read.id = record.id := by
  rw [ofDocument?_eq_ofJson?] at found
  simp only [ofJson?, fields?_toJson, Json.required?, Option.bind_some, Option.bind_eq_bind,
    Option.bind_eq_some_iff] at found
  rcases found with ⟨id, named, _, -, _, -, _, -, _, -, _, -, made⟩
  cases made
  exact (Option.some.inj named).symm

end SessionRecord

end ChatMemory
