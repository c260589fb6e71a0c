import ChatMemory.Proofs.Store.Forgetting
import ChatMemory.Proofs.Store.RepeatedRecords

/-!
What a store has when it is opened. Main statements: session files that hold no record are skipped
if they hold text, and block all the others if they do not; and the postings agree with the sessions
just if the latest record of each session has the terms of all its records.
-/

namespace ChatMemory

namespace SessionFiles

def ofItems (path : String) (items : List (String × FileTree)) : SessionFiles where
  path
  place := .directory (.ofList items)
  around := ⟨.empty, []⟩

end SessionFiles

namespace Store

open SessionFiles

/-! ### Documents that hold no record -/

/-- The store opens with the records in the documents, whatever other text documents hold and
whatever else is in the directory; a build that checks its sums stops where one of the records has
the message with the last number. It does not open if one of the documents is a directory or holds
no text, whatever the others hold. -/
theorem opens_just_if_documents_hold_text {files : SessionFiles}
    {items : Std.ExtTreeMap String FileTree} (directory : files.place = .directory items) :
    ((∀ name item, items[name]? = some item → isDocumentName name = true →
        ∃ text : String, item = FileTree.file text.toUTF8) →
      ∃ records, files.records = .ok records ∧
        records.Perm (items.toList.filterMap recordIn?) ∧
        (records.Pairwise fun first second => first.id ≤ second.id) ∧
        load files = (.ok ⟨.ofRecords records, files⟩, files) ∧
        (∀ id, (Live.ofRecords records).sessions[id]?.map Session.toRecord = latest? records id) ∧
        (loadChecked? files = some (load files) ↔ Live.NumbersLeft records)) ∧
    ((∃ name item, items[name]? = some item ∧ isDocumentName name = true ∧
        ∀ text : String, item ≠ FileTree.file text.toUTF8) →
      ∃ failure, failure.kind = .file ∧ files.records = .error failure ∧
        load files = (.error failure, files)) := by
  constructor
  · intro text
    have readable : files.Readable := by
      intro name item found document
      rw [item?_of_place directory] at found
      exact exists_readItem_iff.mpr (text name item found document)
    rcases exists_records_iff.mpr ⟨⟨items, directory⟩, readable⟩ with ⟨records, listed⟩
    have contents := records_perm_and_ordered directory listed
    exact ⟨records, listed, contents.1, contents.2, load_files listed,
      Live.map_toRecord_ofRecords_eq_latest? records, loadChecked?_eq_some_iff listed⟩
  · rintro ⟨name, item, found, document, noText⟩
    have unreadable : ¬files.Readable := by
      intro readable
      rw [← item?_of_place directory] at found
      rcases exists_readItem_iff.mp (readable name item found document) with ⟨text, equal⟩
      exact noText text equal
    rcases records_of_unreadable directory unreadable with ⟨failure, kind, refused⟩
    refine ⟨failure, kind, refused, ?_⟩
    have answered : Backend.load files = (.error failure, files) := by
      rw [← refused]
      rfl
    rw [load, answered]

/-- A directory with a document that is no JSON, a directory of another name and a record. -/
theorem opens_beside_spoilt_document :
    let record := greeting "a"
    let spoilt := FileTree.file "\x7bnot json".toUTF8
    let files : SessionFiles := .ofItems "data"
      [("bad.json", spoilt), ("good.json", documentOf record), ("notes", .directory true [])]
    recordIn? ("bad.json", spoilt) = none ∧
      load files = (.ok ⟨.ofRecords [record], files⟩, files) ∧
      loadChecked? files = some (load files) ∧
      (Live.ofRecords [record]).sessions["a"]?.map Session.toRecord = some record := by
  intro record spoilt files
  let items : Std.ExtTreeMap String FileTree := .ofList
    [("bad.json", spoilt), ("good.json", documentOf record), ("notes", .directory true [])]
  have there : items.toList =
      [("bad.json", spoilt), ("good.json", documentOf record), ("notes", .directory true [])] := rfl
  have text : ∀ name item, items[name]? = some item → isDocumentName name = true →
      ∃ text : String, item = .file text.toUTF8 := by
    intro name item found document
    have member := Std.ExtTreeMap.mem_toList_iff_getElem?_eq_some.mpr found
    rw [there] at member
    simp only [List.mem_cons, Prod.mk.injEq, List.not_mem_nil, or_false] at member
    rcases member with ⟨rfl, rfl⟩ | ⟨rfl, rfl⟩ | ⟨rfl, rfl⟩
    · exact ⟨_, rfl⟩
    · exact ⟨_, rfl⟩
    · exact absurd document (by decide)
  have skipped : recordIn? ("bad.json", spoilt) = none := by
    rw [recordIn?_text (by decide)]
    decide
  have taken : recordIn? ("good.json", documentOf record) = some record :=
    (recordIn?_text (by decide) _).trans
      (SessionRecord.ofDocument?_toDocument (storable_greeting "a"))
  have directory : files.place = .directory items := rfl
  rcases (opens_just_if_documents_hold_text directory).1 text
    with ⟨records, -, contents, -, opened, latest, checked⟩
  have other : recordIn? ("notes", .directory true []) = none := rfl
  rw [there, List.filterMap_cons, skipped, List.filterMap_cons, taken, List.filterMap_cons, other,
    List.filterMap_nil, List.perm_singleton] at contents
  subst contents
  have left : Live.NumbersLeft [record] := Live.newestSequence_lt_iff.mp (by decide)
  exact ⟨skipped, opened, checked.mpr left, latest "a"⟩

/-- One document whose bytes are no text, or a directory that is named like a document, keeps the
store from opening with the record beside it. -/
theorem one_document_may_block_the_others :
    let record := greeting "a"
    let good := documentOf record
    let garbled : SessionFiles :=
      .ofItems "data" [("bad.json", FileTree.file ⟨#[0xff]⟩), ("good.json", good)]
    let nested : SessionFiles :=
      .ofItems "data" [("bad.json", .directory true []), ("good.json", good)]
    recordIn? ("good.json", good) = some record ∧
      garbled.records = .error FileFault.notText.failure ∧
      load garbled = (.error FileFault.notText.failure, garbled) ∧
      nested.records = .error FileFault.isDirectory.failure ∧
      load nested = (.error FileFault.isDirectory.failure, nested) := by
  intro record good garbled nested
  have held : recordIn? ("good.json", good) = some record :=
    (recordIn?_text (by decide) _).trans
      (SessionRecord.ofDocument?_toDocument (storable_greeting "a"))
  exact ⟨held, rfl, rfl, rfl, rfl⟩

/-! ### Several records of a session -/

def remark (id : SessionId) (text : String) (position : Nat) : SessionRecord :=
  { greeting id with entries := [⟨⟨.user, text⟩, position, 1⟩] }

private theorem storable_remark (id : SessionId) (text : String) {position : Nat}
    (position_lt : position < countLimit) : (remark id text position).Storable where
  entries entry member := by
    rw [List.mem_singleton.mp member]
    exact ⟨⟨"user", rfl⟩, position_lt, (by decide : 1 < countLimit)⟩
  created := (storable_greeting id).created
  updated := (storable_greeting id).updated

variable {β : Type _} [Backend β]

/-- Whatever records a backend lists, each session is that of its latest record, and is listed
under the terms of all its records. So the postings agree with the sessions, and count their terms,
just if no session has lost a term from one of its records to the latest. A build that checks its
sums opens the store as well, unless a record has the message with the last number. -/
theorem postings_agree_after_opening_iff {backend after : β} {records : List SessionRecord}
    (listed : Backend.load backend = (.ok records, after)) :
    ∃ opened, load backend = (.ok opened, after) ∧
      (loadChecked? backend = some (load backend) ↔ Live.NumbersLeft records) ∧
      (∀ id, opened.live.sessions[id]?.map Session.toRecord = latest? records id) ∧
      (∀ id term, id ∈ opened.live.postings.sessionsFor term ↔
        ∃ record ∈ records, record.misplaced? = none ∧ record.id = id ∧ term ∈ record.terms) ∧
      opened.live.postings.NoneEmpty ∧
      (KeepTerms records ↔
        (∀ id term, id ∈ opened.live.postings.sessionsFor term ↔ opened.live.Holds id term) ∧
          opened.live.postings.termCount = opened.live.terms.dedup.length) := by
  refine ⟨⟨.ofRecords records, after⟩, by rw [load, listed],
    loadChecked?_eq_some_iff (congrArg Prod.fst listed),
    Live.map_toRecord_ofRecords_eq_latest? records, fun id term => Live.mem_sessionsFor_ofRecords,
    Live.noneEmpty_ofRecords records, ?_⟩
  rw [← Live.indexed_ofRecords_iff]
  constructor
  · intro indexed
    exact ⟨indexed.listed_iff, indexed.termCount_eq (Live.soundAndCovered_ofRecords records).1⟩
  · exact fun agree => ⟨agree.1, Live.noneEmpty_ofRecords records⟩

/-- A directory with a copy of a session from before its last message, and a record whose only
message is out of place. -/
theorem postings_agree_after_opening_on_outdated_copy :
    let outdated := remark "a" "paris" 0
    let current := remark "a" "paris weather" 0
    let misplaced := remark "b" "tokyo" 1
    let records := [outdated, current, misplaced]
    let files : SessionFiles := .ofItems "data"
      [("1.json", documentOf outdated), ("2.json", documentOf current),
        ("3.json", documentOf misplaced)]
    Backend.load files = (.ok records, files) ∧ KeepTerms records ∧
      ∃ opened, load files = (.ok opened, files) ∧ opened.live.ids = ["a"] ∧
        (∀ id term, id ∈ opened.live.postings.sessionsFor term ↔ opened.live.Holds id term) ∧
        opened.live.postings.termCount = 2 := by
  intro outdated current misplaced records files
  have listed : files.records = .ok records := by
    refine records_of_documents
      [("1.json", outdated), ("2.json", current), ("3.json", misplaced)] rfl rfl ?_ ?_ (by decide)
    · decide
    · rw [List.forall_mem_cons, List.forall_mem_cons, List.forall_mem_singleton]
      exact ⟨storable_remark "a" "paris" (by decide),
        storable_remark "a" "paris weather" (by decide), storable_remark "b" "tokyo" (by decide)⟩
  have answered : Backend.load files = (.ok records, files) := by
    rw [← listed]
    rfl
  have keep : KeepTerms records := by
    have latest : latest? records "a" = some current := by decide
    intro record member placed term held
    simp only [records, List.mem_cons, List.not_mem_nil, or_false] at member
    rcases member with rfl | rfl | rfl
    · have subset : outdated.terms ⊆ current.terms := by decide
      exact ⟨current, latest, subset held⟩
    · exact ⟨current, latest, held⟩
    · exact absurd placed (by decide)
  rcases postings_agree_after_opening_iff answered with ⟨opened, opening, -, -, -, -, agree⟩
  have known : opened = ⟨.ofRecords records, files⟩ := by
    rw [load_files listed] at opening
    cases opening
    rfl
  subst known
  exact ⟨answered, keep, _, opening, by decide, (agree.mp keep).1, by decide⟩

/-- Several documents can hold records of one session. The earlier records leave their terms in the
postings when the latest takes their place. -/
theorem earlier_record_may_leave_postings :
    let earlier := remark "a" "paris" 0
    let latest := remark "a" "tokyo" 0
    let files : SessionFiles :=
      .ofItems "data" [("1.json", documentOf earlier), ("2.json", documentOf latest)]
    let opened : Store SessionFiles := ⟨.ofRecords [earlier, latest], files⟩
    load files = (.ok opened, files) ∧
      "a" ∈ opened.live.postings.sessionsFor "paris" ∧ ¬opened.live.Holds "a" "paris" ∧
      opened.live.postings.termCount = 2 ∧ opened.live.terms.dedup.length = 1 := by
  intro earlier latest files opened
  have listed : files.records = .ok [earlier, latest] := by
    refine records_of_documents [("1.json", earlier), ("2.json", latest)] rfl rfl ?_ ?_ (by decide)
    · decide
    · rw [List.forall_mem_cons, List.forall_mem_singleton]
      exact ⟨storable_remark "a" "paris" (by decide), storable_remark "a" "tokyo" (by decide)⟩
  refine ⟨load_files listed, by decide, ?_, by decide, by decide⟩
  have isLatest : latest? [earlier, latest] "a" = some latest := by decide
  rw [Live.holds_ofRecords_iff, isLatest]
  rintro ⟨found, equal, held⟩
  cases equal
  exact absurd held (by decide)

end Store

end ChatMemory
