import ChatMemory.Proofs.Store.Filing
import ChatMemory.Proofs.Store.Forgetting
import Mathlib.Logic.Relation

/-!
Saves that stop before they are done. Main statement: whatever they leave beside the documents,
the same is listed as before, and the next save takes place as if they had not been.
-/

namespace ChatMemory

namespace SessionFiles

variable {files left after : SessionFiles} {items others : Std.ExtTreeMap String FileTree}
  {record : SessionRecord}

/-! ### Saves that stop -/

/-- What there is when saving a record has stopped on its way. -/
inductive Stopped (files : SessionFiles) (record : SessionRecord) : SessionFiles → Prop
  /-- There is no document to write, or no file to write it to. -/
  | unwritten : Stopped files record files
  /-- A beginning of the document is written beside its place. It can be empty, and it is all of
  the document if only the move is refused. -/
  | partly {items written : Std.ExtTreeMap String FileTree} {part rest : ByteArray}
      (directory : files.place = .directory items)
      (document : part ++ rest = record.toDocument.toUTF8)
      (writing : writeFile items (temporaryName record.id) part = .ok written) :
      Stopped files record { files with place := .directory written }
  /-- The file beside the place is missing when it should be moved. -/
  | lost {items written : Std.ExtTreeMap String FileTree}
      (directory : files.place = .directory items)
      (writing : writeFile items (temporaryName record.id) record.toDocument.toUTF8 = .ok written) :
      Stopped files record
        { files with place := .directory (written.erase (temporaryName record.id)) }

abbrev StoppedSaves : SessionFiles → SessionFiles → Prop :=
  Relation.ReflTransGen fun files left => ∃ record, Stopped files record left

private theorem stopped_of_failure {failure : Failure}
    (failed : (files.save record).1 = .error failure) :
    Stopped files record (files.save record).2 := by
  cases place : files.place with
  | missing =>
      rw [save, place]
      exact .unwritten
  | file content =>
      rw [save, place]
      exact .unwritten
  | directory items =>
      rw [save_eq place] at failed ⊢
      cases way : isBlocked items[temporaryName record.id]? with
      | true => exact .unwritten
      | false =>
          rw [way] at failed
          cases target : isBlocked items[fileName record.id]? with
          | false =>
              rw [target] at failed
              cases failed
          | true =>
              apply Stopped.partly place ByteArray.append_empty
              rw [writeFile_eq, way]
              rfl

private theorem isDirectory_of_save (saved : (files.save record).1 = .ok ()) : files.IsDirectory :=
    by
  cases place : files.place with
  | missing =>
      rw [save, place] at saved
      cases saved
  | file content =>
      rw [save, place] at saved
      cases saved
  | directory items => exact ⟨items, place⟩

/-- A save that takes place is a move away from one that has stopped. -/
theorem exists_stopped_of_save (saved : (files.save record).1 = .ok ()) :
    ∃ written moved, Stopped files record { files with place := .directory written } ∧
      moveFile written (temporaryName record.id) (fileName record.id) = .ok moved ∧
      (files.save record).2 = { files with place := .directory moved } := by
  rcases isDirectory_of_save saved with ⟨items, place⟩
  rw [save, place] at saved ⊢
  dsimp only at saved ⊢
  split at saved
  · cases saved
  · rename_i written writing
    split at saved
    · cases saved
    · rename_i moved moving
      exact ⟨written, moved, .partly place ByteArray.append_empty writing, moving, rfl⟩

/-! ### What they leave -/

/-- The documents are the same, and so is what makes way for no file. -/
structure OnlyBeside (items others : Std.ExtTreeMap String FileTree) : Prop where
  documents : ∀ name, isDocumentName name = true → others[name]? = items[name]?
  blocked : ∀ name : String, isBlocked others[name]? = isBlocked items[name]?

theorem OnlyBeside.trans {later : Std.ExtTreeMap String FileTree} (first : OnlyBeside items others)
    (second : OnlyBeside others later) : OnlyBeside items later where
  documents name document := (second.documents name document).trans (first.documents name document)
  blocked name := (second.blocked name).trans (first.blocked name)

private theorem onlyBeside_of_ne {id : SessionId} (way : isBlocked items[temporaryName id]? = false)
    (wayLeft : isBlocked others[temporaryName id]? = false)
    (elsewhere : ∀ name, temporaryName id ≠ name → others[name]? = items[name]?) :
    OnlyBeside items others where
  documents name document := elsewhere name (ne_temporaryName document id)
  blocked name := by
    by_cases own : temporaryName id = name
    · rw [← own, way, wayLeft]
    · rw [elsewhere name own]

private theorem onlyBeside_writeFile {id : SessionId} {content : ByteArray}
    {written : Std.ExtTreeMap String FileTree}
    (writing : writeFile items (temporaryName id) content = .ok written) :
    OnlyBeside items written ∧ OnlyBeside items (written.erase (temporaryName id)) := by
  rw [writeFile_eq] at writing
  cases way : isBlocked items[temporaryName id]? with
  | true =>
      rw [way] at writing
      cases writing
  | false =>
      rw [way] at writing
      cases writing
      constructor
      · apply onlyBeside_of_ne way
        · rw [Std.ExtTreeMap.getElem?_insert_self]
          rfl
        · intro name other
          simp [other]
      · apply onlyBeside_of_ne way
        · rw [Std.ExtTreeMap.getElem?_erase_self]
          rfl
        · intro name other
          simp [other]

/-- There is nothing new but what may stand beside the documents. -/
inductive LeftBeside (files : SessionFiles) : SessionFiles → Prop
  | same : LeftBeside files files
  | beside {items others : Std.ExtTreeMap String FileTree}
      (directory : files.place = .directory items) (beside : OnlyBeside items others) :
      LeftBeside files { files with place := .directory others }

theorem LeftBeside.trans {between : SessionFiles} (first : LeftBeside files between)
    (second : LeftBeside between left) : LeftBeside files left := by
  cases first with
  | same => exact second
  | beside directory before =>
      cases second with
      | same => exact .beside directory before
      | beside sameDirectory later =>
          cases sameDirectory
          exact .beside directory (before.trans later)

private theorem Stopped.leftBeside (stopped : Stopped files record left) : LeftBeside files left :=
    by
  cases stopped with
  | unwritten => exact .same
  | partly directory document writing => exact .beside directory (onlyBeside_writeFile writing).1
  | lost directory writing => exact .beside directory (onlyBeside_writeFile writing).2

private theorem StoppedSaves.leftBeside (stopped : StoppedSaves files left) :
    LeftBeside files left := by
  induction stopped with
  | refl => exact .same
  | tail _ last before =>
      rcases last with ⟨_, last⟩
      exact before.trans last.leftBeside

/-! ### What is listed of it -/

private theorem readItems_eq_filter (entries : List (String × FileTree)) :
    readItems entries = readItems (entries.filter fun entry => isDocumentName entry.1) := by
  induction entries with
  | nil => rfl
  | cons entry rest ih =>
      rw [readItems, List.filter_cons]
      split
      · rename_i document
        rw [readItems, if_pos document, ih]
      · exact ih

private theorem records_congr (directory : files.place = .directory items)
    (directoryLeft : left.place = .directory others)
    (documents : ∀ name, isDocumentName name = true → others[name]? = items[name]?) :
    left.records = files.records := by
  have ordered : ∀ items : Std.ExtTreeMap String FileTree,
      (items.toList.filter fun entry => isDocumentName entry.1).Pairwise
        fun entry other => compare entry.1 other.1 = .lt :=
    fun items => items.ordered_keys_toList.filter _
  have same : (others.toList.filter fun entry => isDocumentName entry.1) =
      items.toList.filter fun entry => isDocumentName entry.1 := by
    refine eq_of_ordered_by (ordered others) (ordered items) ?_
    rintro ⟨name, item⟩
    simp only [List.mem_filter, Std.ExtTreeMap.mem_toList_iff_getElem?_eq_some]
    exact and_congr_left fun document => by rw [documents name document]
  rw [records, records, directory, directoryLeft]
  dsimp only
  rw [readItems_eq_filter, same, ← readItems_eq_filter]

theorem LeftBeside.records_eq (leftovers : LeftBeside files left) :
    left.records = files.records := by
  cases leftovers with
  | same => rfl
  | beside directory beside => exact records_congr directory rfl beside.documents

/-! ### The next save -/

/-- The record is in its place and nothing of it beside, with all other documents as they were. -/
structure InPlace (files : SessionFiles) (record : SessionRecord) (after : SessionFiles) :
    Prop where
  document : after.item? (fileName record.id) = some (documentOf record)
  beside : after.item? (temporaryName record.id) = none
  others : ∀ name, isDocumentName name = true → fileName record.id ≠ name →
    after.item? name = files.item? name

private theorem place_of_save (directory : files.place = .directory items)
    (saved : (files.save record).1 = .ok ()) :
    (files.save record).2.place = .directory
      (((items.insert (temporaryName record.id) (documentOf record)).erase
        (temporaryName record.id)).insert (fileName record.id) (documentOf record)) := by
  rw [save_eq directory] at saved ⊢
  split at saved
  · cases saved
  · rename_i way
    split at saved
    · cases saved
    · rename_i target
      rw [if_neg way, if_neg target]

private theorem inPlace_of_save (saved : (files.save record).1 = .ok ()) :
    InPlace files record (files.save record).2 := by
  rcases isDirectory_of_save saved with ⟨items, directory⟩
  have place := place_of_save directory saved
  have away : fileName record.id ≠ temporaryName record.id :=
    (ne_temporaryName (isDocumentName_fileName record.id) record.id).symm
  constructor
  · rw [item?_of_place place, Std.ExtTreeMap.getElem?_insert_self]
  · rw [item?_of_place place]
    simp [away]
  · intro name document other
    have beside := ne_temporaryName document record.id
    rw [item?_of_place place, item?_of_place directory]
    simp [other, beside]

theorem InPlace.readable (inPlace : InPlace files record after) (readable : files.Readable) :
    after.Readable := by
  intro name item found document
  by_cases own : fileName record.id = name
  · rw [← own, inPlace.document] at found
    cases found
    exact ⟨_, readItem_documentOf record⟩
  · rw [inPlace.others name document own] at found
    exact readable name item found document

theorem InPlace.holds_iff (inPlace : InPlace files record after) (storable : record.Storable)
    {name : String} {other : SessionRecord} :
    after.Holds name other ↔
      (fileName record.id = name ∧ other = record) ∨
        (fileName record.id ≠ name ∧ files.Holds name other) := by
  by_cases own : fileName record.id = name
  · subst own
    simp [Holds, isDocumentName_fileName, inPlace.document, readItem_documentOf,
      SessionRecord.ofDocument?_toDocument storable, eq_comm]
  · simp only [Holds, own, ne_eq, not_false_eq_true, true_and, false_and, false_or]
    exact and_congr_right fun document => by rw [inPlace.others name document own]

theorem InPlace.mem_records (inPlace : InPlace files record after) (storable : record.Storable)
    {listed : List SessionRecord} (listing : after.records = .ok listed) (other : SessionRecord) :
    other ∈ listed ↔
      other = record ∨ ∃ name, fileName record.id ≠ name ∧ files.Holds name other := by
  rw [SessionFiles.mem_records listing]
  simp only [inPlace.holds_iff storable, exists_or, exists_and_right, exists_eq', true_and]

theorem LeftBeside.save_eq (leftovers : LeftBeside files left) (record : SessionRecord) :
    (left.save record).1 = (files.save record).1 := by
  cases leftovers with
  | same => rfl
  | beside directory beside =>
      rw [SessionFiles.save_eq directory, SessionFiles.save_eq rfl, beside.blocked, beside.blocked]
      split
      · rfl
      · split <;> rfl

private theorem LeftBeside.inPlace (leftovers : LeftBeside files left)
    (inPlace : InPlace left record after) : InPlace files record after where
  document := inPlace.document
  beside := inPlace.beside
  others name document other := by
    rw [inPlace.others name document other]
    cases leftovers with
    | same => rfl
    | beside directory beside =>
        rw [item?_of_place directory, item?_of_place rfl, beside.documents name document]

/-- Saves that stop on their way, at whatever step and however many of them, change nothing that is
listed. A save that fails is one of them. A save of any record is then answered as if they had not
been, and if it takes place, its record is listed beside what the other documents held before. -/
theorem stopped_saves_change_nothing_listed (files left : SessionFiles)
    (stopped : StoppedSaves files left) :
    left.records = files.records ∧
      (∀ record failure, (left.save record).1 = .error failure →
        StoppedSaves files (left.save record).2 ∧
          (left.save record).2.records = files.records) ∧
      ∀ record, (left.save record).1 = (files.save record).1 ∧
        ((left.save record).1 = .ok () →
          InPlace files record (left.save record).2 ∧
            (∀ before, files.records = .ok before →
              ∃ listed, (left.save record).2.records = .ok listed) ∧
            ∀ listed, (left.save record).2.records = .ok listed → record.Storable →
              ∀ other, other ∈ listed ↔
                other = record ∨ ∃ name, fileName record.id ≠ name ∧ files.Holds name other) := by
  have leftovers := stopped.leftBeside
  refine ⟨leftovers.records_eq, ?_, ?_⟩
  · intro record failure failed
    have failure := stopped_of_failure failed
    exact ⟨stopped.tail ⟨record, failure⟩, (leftovers.trans failure.leftBeside).records_eq⟩
  · intro record
    refine ⟨leftovers.save_eq record, fun saved => ?_⟩
    have inPlace := leftovers.inPlace (inPlace_of_save saved)
    refine ⟨inPlace, ?_, fun listed listing storable => inPlace.mem_records storable listing⟩
    intro before listing
    have readable : files.Readable := (exists_records_iff.mp ⟨before, listing⟩).2
    have directory := isDirectory_write (isDirectory_of_save saved) (.save record)
    exact exists_records_iff.mpr ⟨directory, inPlace.readable readable⟩

/-- Saves of two sessions that stop beside a document, before its own session is saved again. -/
theorem stopped_saves_beside_document_change_nothing_listed :
    let record : SessionRecord := { Store.greeting "a" with title := some "again" }
    let files : SessionFiles := .ofRecord "data" (fileName "a") (Store.greeting "a")
    let items := (∅ : Std.ExtTreeMap String FileTree).insert (fileName "a")
      (documentOf (Store.greeting "a"))
    let written := items.insert (temporaryName "a") (.file (record.toDocument.toUTF8.extract 0 12))
    let left : SessionFiles :=
      { files with
        place := .directory
          ((written.insert (temporaryName "b") (documentOf (Store.greeting "b"))).erase
            (temporaryName "b")) }
    StoppedSaves files left ∧
      left.records = .ok [Store.greeting "a"] ∧
      (left.save record).1 = .ok () ∧
      ∃ listed, (left.save record).2.records = .ok listed ∧
        ∀ other, other ∈ listed ↔ other = record := by
  intro record files items written left
  have flat : IsFlat items := by
    apply IsFlat.insert
    intro name item found
    simp at found
  have parts : ∀ content : ByteArray,
      content.extract 0 12 ++ content.extract 12 content.size = content := by
    simp
  have first : Stopped files record { files with place := .directory written } :=
    .partly rfl (parts _) (writeFile_of_isFlat flat _ _)
  have second : Stopped { files with place := .directory written } (Store.greeting "b") left :=
    .lost rfl (writeFile_of_isFlat (flat.insert _ _) _ _)
  have stopped : StoppedSaves files left :=
    (Relation.ReflTransGen.single ⟨_, first⟩).tail ⟨_, second⟩
  rcases stopped_saves_change_nothing_listed files left stopped with ⟨same, -, saves⟩
  have listed : files.records = .ok [Store.greeting "a"] :=
    records_ofRecord "data" (isDocumentName_fileName "a") (Store.storable_greeting "a")
  have saved : (left.save record).1 = .ok () :=
    (saves record).1.trans (write_of_isFlat rfl flat (.save record)).1
  rcases (saves record).2 saved with ⟨-, relisted, members⟩
  rcases relisted _ listed with ⟨relisted, listing⟩
  have greeting := Store.storable_greeting "a"
  have storable : record.Storable := ⟨greeting.entries, greeting.created, greeting.updated⟩
  refine ⟨stopped, same.trans listed, saved, relisted, listing, fun other => ?_⟩
  rw [members relisted listing storable other, or_iff_left]
  rintro ⟨name, different, -, item, found, -⟩
  have alone : files.item? name = none := by
    change items[name]? = none
    have other : fileName "a" ≠ name := different
    simp [items, other]
  rw [alone] at found
  cases found

end SessionFiles

end ChatMemory
