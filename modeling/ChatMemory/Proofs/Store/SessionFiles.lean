import ChatMemory.Proofs.Session.Document
import ChatMemory.Proofs.Store.Listing
import ChatMemory.Store.SessionFiles

/-!
The directory of the session files, told by what stands under each name. Main statements: a write
changes no document but that of its session, and what is listed is what the documents hold.
-/

namespace ChatMemory

@[simp] private theorem Blake3.length_hash (bytes : List UInt8) : (hash bytes).length = 32 := by
  have bytesOfWord : ∀ word : UInt32, (wordBytes word).length = 4 := fun _ => rfl
  simp [hash, List.length_flatMap, bytesOfWord]

namespace SessionFiles

/-! ### Names -/

def hashPrefix (id : SessionId) : List UInt8 :=
  (Blake3.hash id.toUTF8.toList).take 16

private theorem toList_fileName (id : SessionId) :
    (fileName id).toList = hexDigits (hashPrefix id) ++ ".json".toList := by
  simp only [fileName, stemOf, String.toList_append, String.toList_ofList]
  rfl

private theorem toList_temporaryName (id : SessionId) :
    (temporaryName id).toList = hexDigits (hashPrefix id) ++ ".json.tmp".toList := by
  simp only [temporaryName, stemOf, String.toList_append, String.toList_ofList]
  rfl

theorem hashPrefix_of_fileName {first second : SessionId}
    (same : fileName first = fileName second) : hashPrefix first = hashPrefix second := by
  have digits : hexDigits (hashPrefix first) = hexDigits (hashPrefix second) := by
    have texts := congrArg String.toList same
    rwa [toList_fileName, toList_fileName, List.append_cancel_right_eq] at texts
  have bytes := congrArg hexBytes? digits
  rw [hexBytes?_hexDigits, hexBytes?_hexDigits] at bytes
  exact Option.some.inj bytes

@[simp] private theorem length_hexDigits_hashPrefix (id : SessionId) :
    (hexDigits (hashPrefix id)).length = 32 := by
  have length : (hashPrefix id).length = 16 := by
    rw [hashPrefix, List.length_take, Blake3.length_hash]
    rfl
  simp [hexDigits, List.length_flatMap, length]

@[simp] theorem isDocumentName_fileName (id : SessionId) : isDocumentName (fileName id) = true := by
  rw [isDocumentName, Bool.and_eq_true, decide_eq_true_eq]
  constructor
  · rw [toList_fileName, List.isSuffixOf_iff_suffix]
    exact List.suffix_append _ _
  · rw [← String.length_toList, toList_fileName, List.length_append, length_hexDigits_hashPrefix]
    decide

@[simp] private theorem isDocumentName_temporaryName (id : SessionId) :
    isDocumentName (temporaryName id) = false := by
  rw [isDocumentName, Bool.and_eq_false_iff]
  left
  rw [Bool.eq_false_iff, ne_eq, List.isSuffixOf_iff_suffix, toList_temporaryName]
  intro ending
  have last := List.IsSuffix.getLast ending (by decide)
  rw [List.getLast_append_of_right_ne_nil _ _ (by decide)] at last
  revert last
  decide

theorem ne_temporaryName {name : String} (document : isDocumentName name = true)
    (id : SessionId) : temporaryName id ≠ name := by
  rintro rfl
  rw [isDocumentName_temporaryName] at document
  cases document

/-! ### Items -/

def item? (files : SessionFiles) (name : String) : Option FileTree :=
  match files.place with
  | .directory items => items[name]?
  | _ => none

def IsDirectory (files : SessionFiles) : Prop :=
  ∃ items, files.place = .directory items

def documentOf (record : SessionRecord) : FileTree :=
  .file record.toDocument.toUTF8

variable {files : SessionFiles} {items : Std.ExtTreeMap String FileTree}

theorem item?_of_place (directory : files.place = .directory items) (name : String) :
    files.item? name = items[name]? := by
  rw [item?, directory]

def IsFlat (items : Std.ExtTreeMap String FileTree) : Prop :=
  ∀ (name : String) (item : FileTree), items[name]? = some item → ∃ content, item = .file content

def isBlocked : Option FileTree → Bool
  | some (.directory _ _) => true
  | _ => false

theorem isBlocked_of_isFlat (flat : IsFlat items) (name : String) :
    isBlocked items[name]? = false := by
  cases found : items[name]? with
  | none => rfl
  | some item =>
      rcases flat name item found with ⟨content, rfl⟩
      rfl

theorem writeFile_eq (items : Std.ExtTreeMap String FileTree) (name : String)
    (content : ByteArray) :
    writeFile items name content =
      if isBlocked items[name]? then .error .isDirectory
      else .ok (items.insert name (.file content)) := by
  rw [writeFile]
  split
  · rename_i found
    rw [found]
    rfl
  · rename_i free
    cases found : items[name]? with
    | none => rfl
    | some item =>
        cases item with
        | file other => rfl
        | directory isOpen entries => exact absurd found (free isOpen entries)

theorem writeFile_of_isFlat (flat : IsFlat items) (name : String) (content : ByteArray) :
    writeFile items name content = .ok (items.insert name (.file content)) := by
  rw [writeFile_eq, isBlocked_of_isFlat flat, if_neg Bool.false_ne_true]

private theorem moveFile_eq {source target : String} {item : FileTree}
    (found : items[source]? = some item) :
    moveFile items source target =
      if isBlocked items[target]? then .error .isDirectory
      else .ok ((items.erase source).insert target item) := by
  rw [moveFile, found]
  cases items[target]? with
  | none => rfl
  | some other => cases other <;> rfl

theorem save_eq (directory : files.place = .directory items) (record : SessionRecord) :
    files.save record =
      if isBlocked items[temporaryName record.id]? then
        (.error FileFault.isDirectory.failure, files)
      else if isBlocked items[fileName record.id]? then
        (.error ⟨.storage, files.path ++ "/" ++ fileName record.id ++ ": " ++
            FileFault.isDirectory.describe⟩,
          { files with
            place := .directory (items.insert (temporaryName record.id) (documentOf record)) })
      else
        (.ok (),
          { files with
            place := .directory
              (((items.insert (temporaryName record.id) (documentOf record)).erase
                (temporaryName record.id)).insert (fileName record.id) (documentOf record)) }) := by
  have beside : temporaryName record.id ≠ fileName record.id :=
    ne_temporaryName (isDocumentName_fileName record.id) record.id
  have source : (items.insert (temporaryName record.id) (documentOf record))[
      temporaryName record.id]? = some (documentOf record) :=
    Std.ExtTreeMap.getElem?_insert_self
  have target : (items.insert (temporaryName record.id) (documentOf record))[
      fileName record.id]? = items[fileName record.id]? := by
    simp [beside]
  rw [save, directory]
  dsimp only
  rw [writeFile_eq, ← documentOf]
  cases isBlocked items[temporaryName record.id]? with
  | true => rfl
  | false =>
      simp only [Bool.false_eq_true, if_false]
      rw [moveFile_eq source, target]
      cases isBlocked items[fileName record.id]? with
      | true => rfl
      | false => rfl

theorem delete_cases (directory : files.place = .directory items) (id : SessionId) :
    (∃ isOpen entries, items[fileName id]? = some (.directory isOpen entries) ∧
      ∃ failure, files.delete id = (.error failure, files)) ∨
      files.delete id =
        (.ok (), { files with place := .directory (items.erase (fileName id)) }) := by
  rw [delete, directory]
  dsimp only
  split
  · rename_i isOpen entries found
    exact .inl ⟨isOpen, entries, found, _, rfl⟩
  · exact .inr rfl

/-! ### Writes -/

theorem isDirectory_write (directory : files.IsDirectory) (request : Write) :
    (Backend.write request files).2.IsDirectory := by
  rcases directory with ⟨items, directory⟩
  cases request with
  | save record =>
      change (files.save record).2.IsDirectory
      rw [save_eq directory record]
      split
      · exact ⟨_, directory⟩
      · split
        · exact ⟨_, rfl⟩
        · exact ⟨_, rfl⟩
  | delete id =>
      change (files.delete id).2.IsDirectory
      rcases delete_cases directory id with ⟨_, _, -, _, deleted⟩ | deleted
      · rw [deleted]
        exact ⟨_, directory⟩
      · rw [deleted]
        exact ⟨_, rfl⟩

private theorem item?_save (directory : files.place = .directory items) (record : SessionRecord)
    {name : String} (document : isDocumentName name = true) :
    (files.save record).2.item? name = items[name]? ∨
      fileName record.id = name ∧ (files.save record).2.item? name = some (documentOf record) := by
  have beside := ne_temporaryName document record.id
  rw [save_eq directory record]
  split
  · exact .inl (item?_of_place directory name)
  · split
    · rw [item?_of_place rfl]
      simp [beside]
    · rw [item?_of_place rfl]
      by_cases own : fileName record.id = name
      · simp [own]
      · simp [own, beside]

private theorem item?_delete (directory : files.place = .directory items) (id : SessionId)
    (name : String) :
    (files.delete id).2.item? name = items[name]? ∨
      fileName id = name ∧ (files.delete id).2.item? name = none := by
  rcases delete_cases directory id with ⟨_, _, -, _, deleted⟩ | deleted
  · rw [deleted]
    exact .inl (item?_of_place directory name)
  · rw [deleted, item?_of_place rfl]
    by_cases own : fileName id = name
    · simp [own]
    · simp [own]

private theorem item?_write (directory : files.IsDirectory) (request : Write) {name : String}
    (document : isDocumentName name = true) :
    (Backend.write request files).2.item? name = files.item? name ∨
      fileName request.subject = name ∧
        (Backend.write request files).2.item? name = request.record?.map documentOf := by
  rcases directory with ⟨items, directory⟩
  rw [item?_of_place directory]
  cases request with
  | save record => exact item?_save directory record document
  | delete id => exact item?_delete directory id name

theorem item?_write_of_ne (directory : files.IsDirectory) {request : Write} {name : String}
    (document : isDocumentName name = true) (different : fileName request.subject ≠ name) :
    (Backend.write request files).2.item? name = files.item? name := by
  rcases item?_write directory request document with same | ⟨own, -⟩
  · exact same
  · exact absurd own different

/-! ### Listing -/

def recordIn? (entry : String × FileTree) : Option SessionRecord :=
  if isDocumentName entry.1 then (readItem entry.2).toOption.join else none

def Readable (files : SessionFiles) : Prop :=
  ∀ (name : String) (item : FileTree), files.item? name = some item → isDocumentName name = true →
    ∃ found, readItem item = .ok found

def Holds (files : SessionFiles) (name : String) (record : SessionRecord) : Prop :=
  isDocumentName name = true ∧
    ∃ item, files.item? name = some item ∧ readItem item = .ok (some record)

private theorem fromUTF8?_eq_some_iff {content : ByteArray} {text : String} :
    String.fromUTF8? content = some text ↔ content = text.toUTF8 := by
  rw [String.fromUTF8?]
  constructor
  · intro decoded
    split at decoded
    · cases decoded
      rfl
    · cases decoded
  · rintro rfl
    exact dif_pos text.isValidUTF8

private theorem readItem_eq_ok_iff {item : FileTree} {found : Option SessionRecord} :
    readItem item = .ok found ↔
      ∃ text : String, item = .file text.toUTF8 ∧ SessionRecord.ofDocument? text = found := by
  cases item with
  | directory isOpen entries => simp [readItem]
  | file content =>
      constructor
      · intro read
        rw [readItem] at read
        split at read
        · cases read
        · rename_i document decoded
          cases read
          exact ⟨document, by rw [fromUTF8?_eq_some_iff.mp decoded], rfl⟩
      · rintro ⟨text, equal, rfl⟩
        cases equal
        rw [readItem, fromUTF8?_eq_some_iff.mpr rfl]

theorem exists_readItem_iff {item : FileTree} :
    (∃ found, readItem item = .ok found) ↔ ∃ text : String, item = .file text.toUTF8 := by
  simp only [readItem_eq_ok_iff]
  constructor
  · rintro ⟨found, text, equal, -⟩
    exact ⟨text, equal⟩
  · rintro ⟨text, equal⟩
    exact ⟨_, text, equal, rfl⟩

theorem readItem_documentOf (record : SessionRecord) :
    readItem (documentOf record) = .ok (SessionRecord.ofDocument? record.toDocument) :=
  readItem_eq_ok_iff.mpr ⟨_, rfl, rfl⟩

private theorem kind_of_readItem {item : FileTree} {failure : Failure}
    (refused : readItem item = .error failure) : failure.kind = .file := by
  cases item with
  | directory isOpen entries =>
      cases refused
      rfl
  | file content =>
      rw [readItem] at refused
      split at refused
      · cases refused
        rfl
      · cases refused

private theorem readItems_eq_ok {entries : List (String × FileTree)}
    (readable : ∀ entry ∈ entries, isDocumentName entry.1 = true →
      ∃ found, readItem entry.2 = .ok found) :
    readItems entries = .ok (entries.filterMap recordIn?) := by
  induction entries with
  | nil => rfl
  | cons entry rest ih =>
      rw [List.forall_mem_cons] at readable
      rw [readItems, ih readable.2, List.filterMap_cons, recordIn?]
      split
      · rename_i document
        rcases readable.1 document with ⟨_ | record, found⟩ <;> rw [found] <;> rfl
      · rfl

private theorem kind_of_readItems {entries : List (String × FileTree)} {failure : Failure}
    (refused : readItems entries = .error failure) : failure.kind = .file := by
  induction entries with
  | nil => cases refused
  | cons entry rest ih =>
      rw [readItems] at refused
      split at refused
      · split at refused
        · rename_i unread
          cases refused
          exact kind_of_readItem unread
        · cases later : readItems rest with
          | error laterFailure =>
              rw [later] at refused
              cases refused
              exact ih later
          | ok others =>
              rw [later] at refused
              cases refused
      · exact ih refused

private theorem readable_of_readItems {entries : List (String × FileTree)}
    {records : List SessionRecord} (read : readItems entries = .ok records) :
    ∀ entry ∈ entries, isDocumentName entry.1 = true → ∃ found, readItem entry.2 = .ok found := by
  induction entries generalizing records with
  | nil => simp
  | cons entry rest ih =>
      rw [readItems] at read
      rw [List.forall_mem_cons]
      split at read
      · split at read
        · cases read
        · rename_i found readEntry
          cases later : readItems rest with
          | error failure =>
              rw [later] at read
              cases read
          | ok others => exact ⟨fun _ => ⟨found, readEntry⟩, ih later⟩
      · rename_i other
        exact ⟨fun document => absurd document other, ih read⟩

theorem pairwise_mergeSort_id (records : List SessionRecord) :
    (records.mergeSort fun first second => decide (first.id ≤ second.id)).Pairwise
      fun first second => first.id ≤ second.id := by
  have transitive : ∀ first second third : SessionRecord, decide (first.id ≤ second.id) = true →
      decide (second.id ≤ third.id) = true → decide (first.id ≤ third.id) = true := by
    simpa using fun _ _ _ => String.le_trans
  have total : ∀ first second : SessionRecord,
      (decide (first.id ≤ second.id) || decide (second.id ≤ first.id)) = true := by
    simpa using fun _ _ => String.le_total _ _
  exact (List.pairwise_mergeSort transitive total records).imp of_decide_eq_true

private theorem readable_iff (directory : files.place = .directory items) :
    files.Readable ↔ ∀ entry ∈ items.toList, isDocumentName entry.1 = true →
      ∃ found, readItem entry.2 = .ok found := by
  simp only [Readable, item?_of_place directory, Prod.forall,
    Std.ExtTreeMap.mem_toList_iff_getElem?_eq_some]

theorem records_of_readable (directory : files.place = .directory items)
    (readable : files.Readable) :
    files.records = .ok ((items.toList.filterMap recordIn?).mergeSort
      fun first second => decide (first.id ≤ second.id)) := by
  rw [records, directory]
  dsimp only
  rw [readItems_eq_ok ((readable_iff directory).mp readable)]
  rfl

theorem exists_records_iff :
    (∃ records, files.records = .ok records) ↔ files.IsDirectory ∧ files.Readable := by
  constructor
  · rintro ⟨found, listed⟩
    rw [records] at listed
    split at listed
    · cases listed
    · cases listed
    · rename_i items directory
      refine ⟨⟨items, directory⟩, (readable_iff directory).mpr ?_⟩
      cases read : readItems items.toList with
      | error failure =>
          rw [read] at listed
          cases listed
      | ok others => exact readable_of_readItems read
  · rintro ⟨⟨items, directory⟩, readable⟩
    exact ⟨_, records_of_readable directory readable⟩

theorem records_perm_and_ordered {records : List SessionRecord}
    (directory : files.place = .directory items) (listed : files.records = .ok records) :
    records.Perm (items.toList.filterMap recordIn?) ∧
      records.Pairwise fun first second => first.id ≤ second.id := by
  have readable : files.Readable := (exists_records_iff.mp ⟨records, listed⟩).2
  rw [records_of_readable directory readable] at listed
  cases listed
  exact ⟨List.mergeSort_perm _ _, pairwise_mergeSort_id _⟩

theorem records_of_unreadable (directory : files.place = .directory items)
    (unreadable : ¬files.Readable) :
    ∃ failure, failure.kind = .file ∧ files.records = .error failure := by
  cases listed : files.records with
  | ok records => exact absurd (exists_records_iff.mp ⟨records, listed⟩).2 unreadable
  | error failure =>
      refine ⟨failure, ?_, rfl⟩
      rw [records, directory] at listed
      dsimp only at listed
      cases read : readItems items.toList with
      | ok others =>
          rw [read] at listed
          cases listed
      | error readFailure =>
          rw [read] at listed
          cases listed
          exact kind_of_readItems read

theorem recordIn?_eq_some {entry : String × FileTree} {record : SessionRecord} :
    recordIn? entry = some record ↔
      isDocumentName entry.1 = true ∧ readItem entry.2 = .ok (some record) := by
  rw [recordIn?]
  split
  · rename_i document
    cases readItem entry.2 with
    | error failure => simp [Except.toOption]
    | ok found => simp [Except.toOption, document]
  · rename_i other
    simp [other]

theorem recordIn?_text {name : String} (document : isDocumentName name = true) (text : String) :
    recordIn? (name, .file text.toUTF8) = SessionRecord.ofDocument? text := by
  have read : readItem (.file text.toUTF8) = .ok (SessionRecord.ofDocument? text) :=
    readItem_eq_ok_iff.mpr ⟨text, rfl, rfl⟩
  rw [recordIn?, if_pos document, read]
  rfl

theorem mem_records {records : List SessionRecord} (listed : files.records = .ok records)
    (record : SessionRecord) : record ∈ records ↔ ∃ name, files.Holds name record := by
  rcases exists_records_iff.mp ⟨records, listed⟩ with ⟨⟨items, directory⟩, -⟩
  rw [(records_perm_and_ordered directory listed).1.mem_iff]
  simp only [List.mem_filterMap, recordIn?_eq_some, Prod.exists, Holds,
    item?_of_place directory, Std.ExtTreeMap.mem_toList_iff_getElem?_eq_some]
  constructor
  · rintro ⟨name, item, found, document, read⟩
    exact ⟨name, document, item, found, read⟩
  · rintro ⟨name, document, item, found, read⟩
    exact ⟨name, item, found, document, read⟩

theorem records_of_documents (documents : List (String × SessionRecord))
    (directory : files.place = .directory items)
    (there : items.toList = documents.map fun document => (document.1, documentOf document.2))
    (named : ∀ document ∈ documents, isDocumentName document.1 = true)
    (storable : ∀ document ∈ documents, document.2.Storable)
    (ordered : (documents.map (·.2)).Pairwise fun first second => first.id ≤ second.id) :
    files.records = .ok (documents.map (·.2)) := by
  have read : items.toList.filterMap recordIn? = documents.map (·.2) := by
    rw [there, List.filterMap_map, ← List.filterMap_eq_map]
    apply List.filterMap_congr
    intro document member
    exact (recordIn?_text (named document member) _).trans
      (SessionRecord.ofDocument?_toDocument (storable document member))
  have readable : files.Readable := by
    rw [readable_iff directory, there]
    intro entry member _
    rcases List.mem_map.mp member with ⟨document, -, rfl⟩
    exact ⟨_, readItem_documentOf document.2⟩
  rw [records_of_readable directory readable, read, List.mergeSort_of_pairwise]
  exact ordered.imp decide_eq_true

/-! ### What writes leave in documents -/

theorem Readable.write (readable : files.Readable) (directory : files.IsDirectory)
    (request : Write) : (Backend.write request files).2.Readable := by
  intro name item found document
  rcases item?_write directory request document with same | ⟨-, written⟩
  · rw [same] at found
    exact readable name item found document
  · rw [written, Option.map_eq_some_iff] at found
    rcases found with ⟨record, -, rfl⟩
    exact ⟨_, readItem_documentOf record⟩

theorem Holds.of_write {request : Write} {name : String} {record : SessionRecord}
    (holds : (Backend.write request files).2.Holds name record) (directory : files.IsDirectory) :
    files.Holds name record ∨
      fileName request.subject = name ∧ record.id = request.subject := by
  rcases holds with ⟨document, item, found, read⟩
  rcases item?_write directory request document with same | ⟨own, written⟩
  · rw [same] at found
    exact .inl ⟨document, item, found, read⟩
  · rw [written, Option.map_eq_some_iff] at found
    rcases found with ⟨saved, asked, rfl⟩
    cases request with
    | save record =>
        cases asked
        rw [readItem_documentOf, Except.ok.injEq] at read
        exact .inr ⟨own, SessionRecord.id_of_ofDocument?_toDocument read⟩
    | delete id => cases asked

/-- A directory cannot stand under the name of a document that can be read, so that the document of
a session can be deleted. -/
theorem item?_write_delete (directory : files.IsDirectory) (readable : files.Readable)
    (id : SessionId) : (Backend.write (.delete id) files).2.item? (fileName id) = none := by
  rcases directory with ⟨items, directory⟩
  change (files.delete id).2.item? (fileName id) = none
  rcases delete_cases directory id with ⟨isOpen, entries, found, -⟩ | deleted
  · rw [← item?_of_place directory] at found
    rcases readable _ _ found (isDocumentName_fileName id) with ⟨_, read⟩
    cases read
  · rw [deleted, item?_of_place rfl]
    exact Std.ExtTreeMap.getElem?_erase_self

end SessionFiles

end ChatMemory
