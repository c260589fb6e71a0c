import ChatMemory.Proofs.Store.SessionFiles
import Mathlib.Data.String.Basic

/-!
Session files in place of an archive. Main statement: whatever is saved and deleted, session files
list just what an archive would, as long as no two sessions share the name of their file.
-/

namespace ChatMemory

namespace SessionFiles

variable {files : SessionFiles} {items : Std.ExtTreeMap String FileTree} {archive : Archive}
  {used : SessionId → Prop}

theorem IsFlat.insert (flat : IsFlat items) (name : String) (content : ByteArray) :
    IsFlat (items.insert name (.file content)) := by
  intro other item found
  rw [lookup_insert] at found
  split at found
  · cases found
    exact ⟨content, rfl⟩
  · exact flat other item found

theorem IsFlat.erase (flat : IsFlat items) (name : String) : IsFlat (items.erase name) := by
  intro other item found
  rw [lookup_erase] at found
  split at found
  · cases found
  · exact flat other item found

theorem write_of_isFlat (directory : files.place = .directory items) (flat : IsFlat items)
    (request : Write) :
    (Backend.write request files).1 = .ok () ∧
      (∃ after, (Backend.write request files).2.place = .directory after ∧ IsFlat after) ∧
      (Backend.write request files).2.item? (fileName request.subject) =
        request.record?.map documentOf := by
  cases request with
  | save record =>
      change (files.save record).1 = _ ∧ (∃ after, (files.save record).2.place = _ ∧ _) ∧
        (files.save record).2.item? (fileName record.id) = _
      have saved := save_eq directory record
      rw [isBlocked_of_isFlat flat, isBlocked_of_isFlat flat, if_neg Bool.false_ne_true,
        if_neg Bool.false_ne_true] at saved
      rw [saved]
      have after := ((flat.insert (temporaryName record.id) record.toDocument.toUTF8).erase
        (temporaryName record.id)).insert (fileName record.id) record.toDocument.toUTF8
      exact ⟨rfl, ⟨_, rfl, after⟩, Std.ExtTreeMap.getElem?_insert_self⟩
  | delete id =>
      change (files.delete id).1 = _ ∧ (∃ after, (files.delete id).2.place = _ ∧ _) ∧
        (files.delete id).2.item? (fileName id) = _
      rcases delete_cases directory id with ⟨isOpen, entries, found, -⟩ | deleted
      · rcases flat _ _ found with ⟨content, equal⟩
        cases equal
      · rw [deleted]
        exact ⟨rfl, ⟨_, rfl, flat.erase _⟩, Std.ExtTreeMap.getElem?_erase_self⟩

/-- The documents are those of the archive's records, which are of sessions in use. -/
structure Mirrors (used : SessionId → Prop) (files : SessionFiles) (archive : Archive) : Prop where
  flat : ∃ items, files.place = .directory items ∧ IsFlat items
  named : archive.Named
  known : ∀ (id : SessionId) (record : SessionRecord),
    archive.records[id]? = some record → used id ∧ record.Storable
  documents : ∀ id, used id → files.item? (fileName id) = archive.records[id]?.map documentOf
  others : ∀ name, isDocumentName name = true → (∀ id, used id → fileName id ≠ name) →
    files.item? name = none

private theorem mirrors_empty (path : String) (around : FileSystem) :
    Mirrors used ⟨path, .directory ∅, around⟩ .empty where
  flat := ⟨∅, rfl, fun name item found => by simp at found⟩
  named := Archive.named_empty
  known id record found := by simp [Archive.empty] at found
  documents id _ := by simp [item?, Archive.empty]
  others name _ _ := by simp [item?]

theorem Mirrors.isDirectory (mirrors : Mirrors used files archive) : files.IsDirectory := by
  rcases mirrors.flat with ⟨items, directory, -⟩
  exact ⟨items, directory⟩

section

variable (distinct : ∀ first second, used first → used second →
  fileName first = fileName second → first = second)

include distinct

theorem Mirrors.write (mirrors : Mirrors used files archive) {request : Write}
    (inUse : used request.subject)
    (storable : ∀ record, request = .save record → record.Storable) :
    (Backend.write request files).1 = .ok () ∧
      Mirrors used (Backend.write request files).2 (archive.apply request) := by
  rcases mirrors.flat with ⟨items, directory, flat⟩
  rcases write_of_isFlat directory flat request with ⟨accepted, flatAfter, written⟩
  refine ⟨accepted, flatAfter, mirrors.named.apply request, ?_, ?_, ?_⟩
  · intro id record found
    by_cases same : request.subject = id
    · subst same
      rw [archive.getElem?_apply_self] at found
      cases request with
      | save saved =>
          cases found
          exact ⟨inUse, storable record rfl⟩
      | delete deleted => cases found
    · rw [Archive.getElem?_apply_of_ne same] at found
      exact mirrors.known id record found
  · intro id idInUse
    by_cases same : request.subject = id
    · subst same
      rw [written, archive.getElem?_apply_self]
    · have differentNames : fileName request.subject ≠ fileName id :=
        fun equal => same (distinct _ _ inUse idInUse equal)
      rw [item?_write_of_ne mirrors.isDirectory (isDocumentName_fileName id) differentNames,
        Archive.getElem?_apply_of_ne same, mirrors.documents id idInUse]
  · intro name document other
    rw [item?_write_of_ne mirrors.isDirectory document (other _ inUse),
      mirrors.others name document other]

theorem Mirrors.writeAll (mirrors : Mirrors used files archive) {requests : List Write}
    (inUse : ∀ request ∈ requests, used request.subject)
    (storable : ∀ record, .save record ∈ requests → record.Storable) :
    Backend.writeUntilRefused requests files = (.ok (), Backend.writeAll requests files) ∧
      Mirrors used (Backend.writeAll requests files) (Backend.writeAll requests archive) := by
  induction requests generalizing files archive with
  | nil => exact ⟨rfl, mirrors⟩
  | cons request rest ih =>
      rw [List.forall_mem_cons] at inUse
      have first := mirrors.write distinct inUse.1 fun record same =>
        storable record (same ▸ List.mem_cons_self)
      have later := ih first.2 inUse.2 fun record member =>
        storable record (List.mem_cons_of_mem _ member)
      refine ⟨?_, later.2⟩
      rcases answered : Backend.write request files with ⟨answer, after⟩
      rw [answered] at first later
      cases first.1
      have same : Backend.writeAll (request :: rest) files = Backend.writeAll rest after := by
        rw [Backend.writeAll, List.foldl_cons, answered]
        rfl
      rw [Backend.writeUntilRefused, answered, same]
      exact later.1

end

theorem Mirrors.holds_iff (mirrors : Mirrors used files archive) {name : String}
    {record : SessionRecord} :
    files.Holds name record ↔
      archive.records[record.id]? = some record ∧ fileName record.id = name := by
  constructor
  · rintro ⟨document, item, found, read⟩
    by_cases known : ∃ id, used id ∧ fileName id = name
    · rcases known with ⟨id, inUse, rfl⟩
      rw [mirrors.documents id inUse, Option.map_eq_some_iff] at found
      rcases found with ⟨kept, there, rfl⟩
      rw [readItem_documentOf,
        SessionRecord.ofDocument?_toDocument (mirrors.known id kept there).2] at read
      cases read
      rw [mirrors.named id record there]
      exact ⟨there, rfl⟩
    · rw [mirrors.others name document fun id inUse same => known ⟨id, inUse, same⟩] at found
      cases found
  · rintro ⟨there, rfl⟩
    rcases mirrors.known record.id record there with ⟨inUse, storable⟩
    refine ⟨isDocumentName_fileName _, documentOf record, ?_, ?_⟩
    · rw [mirrors.documents record.id inUse, there, Option.map_some]
    · rw [readItem_documentOf, SessionRecord.ofDocument?_toDocument storable]

theorem Mirrors.readable (mirrors : Mirrors used files archive) : files.Readable := by
  intro name item found document
  by_cases known : ∃ id, used id ∧ fileName id = name
  · rcases known with ⟨id, inUse, rfl⟩
    rw [mirrors.documents id inUse, Option.map_eq_some_iff] at found
    rcases found with ⟨record, -, rfl⟩
    exact ⟨_, readItem_documentOf record⟩
  · rw [mirrors.others name document fun id inUse same => known ⟨id, inUse, same⟩] at found
    cases found

private theorem Mirrors.nodup_filterMap_recordIn? (mirrors : Mirrors used files archive)
    (directory : files.place = .directory items) : (items.toList.filterMap recordIn?).Nodup := by
  rw [List.Nodup, List.pairwise_filterMap]
  refine items.distinct_keys_toList.imp_of_mem ?_
  rintro ⟨name, item⟩ ⟨otherName, otherItem⟩ member otherMember different record found other
    otherFound rfl
  have nameOf : ∀ entry ∈ items.toList, recordIn? entry = some record →
      fileName record.id = entry.1 := by
    intro entry member found
    rw [recordIn?_eq_some] at found
    rw [Std.ExtTreeMap.mem_toList_iff_getElem?_eq_some, ← item?_of_place directory] at member
    exact (mirrors.holds_iff.mp ⟨found.1, _, member, found.2⟩).2
  apply different
  rw [← nameOf _ member found, ← nameOf _ otherMember otherFound]
  exact Std.ReflCmp.compare_self

private theorem pairwise_le_toList (named : archive.Named) :
    archive.toList.Pairwise fun first second => first.id ≤ second.id :=
  named.pairwise_toList.imp fun before => le_of_lt (compare_lt_iff_lt.mp before)

theorem Mirrors.records_eq (mirrors : Mirrors used files archive) :
    files.records = .ok archive.toList := by
  rcases mirrors.isDirectory with ⟨items, directory⟩
  have listed := records_of_readable directory mirrors.readable
  rw [listed]
  congr 1
  have members : ∀ record, record ∈ items.toList.filterMap recordIn? ↔ record ∈ archive.toList := by
    intro record
    rw [← List.mem_mergeSort, mem_records listed, mirrors.named.mem_toList]
    simp only [mirrors.holds_iff, exists_and_left, exists_eq', and_true]
  have nodup : archive.toList.Nodup := List.Nodup.of_map _ mirrors.named.nodup_ids
  have same : (items.toList.filterMap recordIn?).Perm archive.toList :=
    (List.perm_ext_iff_of_nodup (mirrors.nodup_filterMap_recordIn? directory) nodup).mpr members
  refine List.Perm.eq_of_pairwise ?_ (pairwise_mergeSort_id _) (pairwise_le_toList mirrors.named)
    ((List.mergeSort_perm _ _).trans same)
  -- Sorting only compares ids, and no two records of the archive share one.
  intro record other member otherMember before after
  rw [List.mem_mergeSort, members, mirrors.named.mem_toList] at member
  rw [mirrors.named.mem_toList, String.le_antisymm after before, member] at otherMember
  exact Option.some.inj otherMember

/-- Whatever is saved and deleted, session files and an archive list the same records, as long as
no two of the sessions share the hash that names their file. Every write takes place. A record is
read back from its document. -/
theorem load_eq_load_archive {requests : List Write} (path : String) (around : FileSystem)
    (storable : ∀ record, .save record ∈ requests → record.Storable)
    (distinct : ∀ first ∈ requests, ∀ second ∈ requests,
      hashPrefix first.subject = hashPrefix second.subject → first.subject = second.subject) :
    let files : SessionFiles := ⟨path, .directory ∅, around⟩
    Backend.writeUntilRefused requests files = (.ok (), Backend.writeAll requests files) ∧
      (Backend.load (Backend.writeAll requests files)).1 =
        (Backend.load (Backend.writeAll requests Archive.empty)).1 ∧
      ∀ record : SessionRecord, record.Storable →
        SessionRecord.ofDocument? record.toDocument = some record := by
  intro files
  let used : SessionId → Prop := fun id => ∃ request ∈ requests, request.subject = id
  have distinctNames : ∀ first second, used first → used second →
      fileName first = fileName second → first = second := by
    rintro _ _ ⟨first, member, rfl⟩ ⟨second, otherMember, rfl⟩ same
    exact distinct first member second otherMember (hashPrefix_of_fileName same)
  have start : Mirrors used files .empty := mirrors_empty path around
  have written :=
    start.writeAll distinctNames (fun request member => ⟨request, member, rfl⟩) storable
  refine ⟨written.1, ?_, fun record storable => SessionRecord.ofDocument?_toDocument storable⟩
  exact written.2.records_eq

/-- A run in which one of two sessions is deleted. The records have characters to be escaped, a role
that is not known and a leap second. -/
theorem load_eq_load_archive_after_deletion :
    let record : SessionId → SessionRecord := fun id =>
      { id, entries := [⟨⟨.ofTag " Tool", "\"\\\x01\n"⟩, 0, 1⟩], title := some "\u00fc"
        createdAt := ⟨0, 500⟩, updatedAt := ⟨1483228799, 1000000000⟩ }
    let requests : List Write := [.save (record "b"), .save (record "a"), .delete "b"]
    let files : SessionFiles := ⟨"data", .directory ∅, ⟨.empty, []⟩⟩
    (∀ record, .save record ∈ requests → record.Storable) ∧
      (∀ first ∈ requests, ∀ second ∈ requests,
        hashPrefix first.subject = hashPrefix second.subject → first.subject = second.subject) ∧
      (Backend.load (Backend.writeAll requests files)).1 =
        (Backend.load (Backend.writeAll requests Archive.empty)).1 ∧
      (Backend.writeAll requests Archive.empty).toList = [record "a"] := by
  intro record requests files
  have created : Rfc3339.IsTold ⟨0, 500⟩ := ⟨by decide, .inl (by decide)⟩
  have updated : Rfc3339.IsTold ⟨1483228799, 1000000000⟩ :=
    ⟨by decide, .inr (by decide)⟩
  have told : ∀ id, (record id).Storable := by
    refine fun id => ⟨?_, created, updated⟩
    intro entry member
    rw [List.mem_singleton.mp member]
    exact ⟨⟨" Tool", rfl⟩, by decide, by decide⟩
  have storable : ∀ record, .save record ∈ requests → record.Storable := by
    intro saved member
    simp only [requests, List.mem_cons, Write.save.injEq, reduceCtorEq, List.not_mem_nil,
      or_false] at member
    rcases member with rfl | rfl <;> exact told _
  have distinct : ∀ first ∈ requests, ∀ second ∈ requests,
      hashPrefix first.subject = hashPrefix second.subject → first.subject = second.subject := by
    have differ : hashPrefix "a" ≠ hashPrefix "b" := by decide +kernel
    simp [requests, record, Write.subject, differ, differ.symm]
  exact ⟨storable, distinct, (load_eq_load_archive "data" ⟨.empty, []⟩ storable distinct).2.1,
    by decide⟩

end SessionFiles

end ChatMemory
