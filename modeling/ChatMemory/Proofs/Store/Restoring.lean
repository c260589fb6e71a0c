import ChatMemory.Proofs.Session.Rebuilding
import ChatMemory.Proofs.Store.Listing
import ChatMemory.Store.Live

/-!
Sessions taken up from records. Main statements: each session is that of its latest consistent
record, so that however a sound archive lists its records, the sessions have just these; and new
messages are numbered past all of theirs.
-/

namespace ChatMemory

/-! ## The latest record -/

section

variable {records : List SessionRecord} {id : SessionId}

def latest? (records : List SessionRecord) (id : SessionId) : Option SessionRecord :=
  (records.filter fun record => record.misplaced?.isNone && record.id == id).getLast?

private theorem of_latest?_eq_some {record : SessionRecord}
    (found : latest? records id = some record) :
    record ∈ records ∧ record.misplaced? = none ∧ record.id = id := by
  have member := List.mem_filter.mp (List.mem_of_getLast? found)
  simpa using member

private theorem exists_latest? {record : SessionRecord} (member : record ∈ records)
    (placed : record.misplaced? = none) :
    ∃ latest, latest? records record.id = some latest := by
  apply Option.isSome_iff_exists.mp
  rw [latest?, List.getLast?_isSome]
  apply List.ne_nil_of_mem (a := record)
  simp [member, placed]

theorem latest?_of_distinct {record : SessionRecord} (distinct : (records.map (·.id)).Nodup)
    (member : record ∈ records) (placed : record.misplaced? = none) :
    latest? records record.id = some record := by
  rcases exists_latest? member placed with ⟨latest, found⟩
  rcases of_latest?_eq_some found with ⟨latestMember, -, sameId⟩
  rw [found, List.inj_on_of_nodup_map distinct latestMember member sameId]

end

namespace Live

variable {live : Live} {records : List SessionRecord} {id : SessionId} {session : Session}

/-! ## One more record -/

/-- What holds at first and is kept by taking up any one of the records, and by setting the number,
holds after all of them. -/
theorem ofRecords_invariant (Kept : Live → Prop) (start : Kept empty)
    (onRestore : ∀ live record session, record ∈ records → Session.ofRecord record = .ok session →
      Kept live → Kept (live.restore session))
    (onNumber : ∀ live nextSequence, Kept live → Kept { live with nextSequence }) :
    Kept (ofRecords records) := by
  rw [ofRecords]
  refine onNumber _ _ (List.foldlRecOn records restoreRecord start ?_)
  intro live kept record member
  rw [restoreRecord]
  split
  · rename_i session accepted
    exact onRestore live record session member accepted kept
  · exact kept

theorem restoreRecord_of_placed (live : Live) {record : SessionRecord}
    (placed : record.misplaced? = none) :
    ∃ session, Session.ofRecord record = .ok session ∧
      live.restoreRecord record = live.restore session := by
  rcases Session.exists_ofRecord placed with ⟨session, accepted⟩
  refine ⟨session, accepted, ?_⟩
  rw [restoreRecord, accepted]

theorem restoreRecord_of_misplaced {record : SessionRecord}
    (misplaced : record.misplaced? ≠ none) : live.restoreRecord record = live := by
  rw [restoreRecord]
  split
  · rename_i session accepted
    exact absurd (Session.ofRecord_eq_ok accepted).1 misplaced
  · rfl

private theorem getElem?_restore (live : Live) (session : Session) (id : SessionId) :
    (live.restore session).sessions[id]? =
      if session.id = id then some session else live.sessions[id]? := by
  simp only [restore, lookup_insert]

private theorem getElem?_restoreRecord (live : Live) (record : SessionRecord) (id : SessionId) :
    (live.restoreRecord record).sessions[id]? =
      if record.misplaced? = none ∧ record.id = id then (Session.ofRecord record).toOption
      else live.sessions[id]? := by
  by_cases placed : record.misplaced? = none
  · rcases restoreRecord_of_placed live placed with ⟨session, accepted, restored⟩
    have sameId := (Session.ofRecord_eq_ok accepted).2.2.2.2
    rw [restored, getElem?_restore, sameId, accepted]
    simp only [placed, true_and]
    rfl
  · rw [restoreRecord_of_misplaced placed, if_neg fun taken => placed taken.1]

/-! ## Sessions and their records -/

private theorem getElem?_ofRecords_eq_latest? (records : List SessionRecord) (id : SessionId) :
    (ofRecords records).sessions[id]? =
      (latest? records id).bind fun record => (Session.ofRecord record).toOption := by
  rw [ofRecords]
  induction records using List.reverseRecOn with
  | nil => simp [empty, latest?]
  | append_singleton earlier record induction =>
      rw [latest?] at induction ⊢
      rw [List.foldl_concat, getElem?_restoreRecord, induction, List.filter_append,
        List.getLast?_append]
      by_cases taken : record.misplaced? = none ∧ record.id = id
      · simp [taken]
      · simp [taken]

theorem map_toRecord_ofRecords_eq_latest? (records : List SessionRecord) (id : SessionId) :
    (ofRecords records).sessions[id]?.map Session.toRecord = latest? records id := by
  rw [getElem?_ofRecords_eq_latest?]
  cases found : latest? records id with
  | none => rfl
  | some record =>
      rcases Session.exists_ofRecord (of_latest?_eq_some found).2.1 with ⟨session, accepted⟩
      rw [Option.bind_some, accepted]
      exact congrArg some (Session.toRecord_of_ofRecord accepted)

theorem exists_record_of_ofRecords (found : (ofRecords records).sessions[id]? = some session) :
    ∃ record ∈ records, record.id = id ∧ Session.ofRecord record = .ok session := by
  rw [getElem?_ofRecords_eq_latest?] at found
  rcases Option.bind_eq_some_iff.mp found with ⟨record, latest, accepted⟩
  rcases of_latest?_eq_some latest with ⟨member, -, sameId⟩
  refine ⟨record, member, sameId, ?_⟩
  cases taken : Session.ofRecord record with
  | error failure =>
      rw [taken] at accepted
      cases accepted
  | ok other =>
      rw [taken] at accepted
      cases accepted
      rfl

theorem exists_session_ofRecords {record : SessionRecord} (member : record ∈ records)
    (placed : record.misplaced? = none) :
    ∃ session, (ofRecords records).sessions[record.id]? = some session := by
  rcases exists_latest? member placed with ⟨latest, found⟩
  rcases Session.exists_ofRecord (of_latest?_eq_some found).2.1 with ⟨session, accepted⟩
  refine ⟨session, ?_⟩
  rw [getElem?_ofRecords_eq_latest?, found, Option.bind_some, accepted]
  rfl

theorem getElem?_ofRecords_of_perm {archive : Archive} (named : archive.Named)
    (listed : records.Perm archive.toList) (id : SessionId) :
    (ofRecords records).sessions[id]? =
      archive.records[id]?.bind fun record => (Session.ofRecord record).toOption := by
  have mem_records (record : SessionRecord) :
      record ∈ records ↔ archive.records[record.id]? = some record := by
    rw [listed.mem_iff, named.mem_toList]
  rw [getElem?_ofRecords_eq_latest?]
  cases found : latest? records id with
  | some record =>
      rcases of_latest?_eq_some found with ⟨member, -, rfl⟩
      rw [(mem_records record).mp member]
  | none =>
      rw [Option.bind_none, eq_comm, Option.bind_eq_none_iff]
      intro record kept
      have sameId := named id record kept
      subst sameId
      cases accepted : Session.ofRecord record with
      | error failure => rfl
      | ok session =>
          have placed := (Session.ofRecord_eq_ok accepted).1
          rcases exists_latest? ((mem_records record).mpr kept) placed with ⟨latest, isLatest⟩
          rw [found] at isLatest
          cases isLatest

theorem map_toRecord_ofRecords {archive : Archive} (sound : archive.Sound)
    (listed : records.Perm archive.toList) (id : SessionId) :
    (ofRecords records).sessions[id]?.map Session.toRecord = archive.records[id]? := by
  rw [getElem?_ofRecords_of_perm sound.named listed]
  cases found : archive.records[id]? with
  | none => rfl
  | some record =>
      rcases Session.exists_ofRecord (sound.placed id record found) with ⟨session, accepted⟩
      rw [Option.bind_some, accepted]
      exact congrArg some (Session.toRecord_of_ofRecord accepted)

/-! ## Numbers -/

private theorem le_newestSequence {record : SessionRecord} (member : record ∈ records)
    (placed : record.misplaced? = none) {entry : Entry} (stored : entry ∈ record.entries) :
    entry.sequence ≤ newestSequence records := by
  apply List.le_max?_getD_of_mem
  apply List.mem_flatMap_of_mem (List.mem_filter.mpr ⟨member, by rw [placed]; rfl⟩)
  exact List.mem_map_of_mem stored

/-- No message of a consistent record has the last number. -/
def NumbersLeft (records : List SessionRecord) : Prop :=
  ∀ record ∈ records, record.misplaced? = none →
    ∀ entry ∈ record.entries, entry.sequence + 1 < sequenceLimit

theorem newestSequence_lt_iff :
    newestSequence records + 1 < sequenceLimit ↔ NumbersLeft records := by
  constructor
  · intro fits record member placed entry stored
    have newest := le_newestSequence member placed stored
    omega
  · intro left
    rw [newestSequence]
    generalize taken : List.flatMap _ _ = sequences
    cases newest : sequences.max? with
    | none => decide
    | some sequence =>
        have listed := List.max?_mem newest
        rw [← taken, List.mem_flatMap] at listed
        rcases listed with ⟨record, member, stored⟩
        rcases List.mem_map.mp stored with ⟨entry, entryStored, rfl⟩
        have kept := List.mem_filter.mp member
        exact left record kept.1 (Option.isNone_iff_eq_none.mp kept.2) entry entryStored

private theorem toNat_nextSequence_ofRecords (left : NumbersLeft records) :
    (ofRecords records).nextSequence.toNat = newestSequence records + 1 := by
  have fits : newestSequence records + 1 < UInt64.size := newestSequence_lt_iff.mpr left
  rw [ofRecords, UInt64.toNat_add, UInt64.toNat_ofNat_of_lt' (Nat.lt_of_succ_lt fits)]
  exact Nat.mod_eq_of_lt fits

/-- All messages have numbers below the one that the next message gets. -/
def Below (live : Live) : Prop :=
  ∀ (id : SessionId) (session : Session), live.sessions[id]? = some session →
    ∀ entry ∈ session.entries, entry.sequence < live.nextSequence.toNat

theorem below_ofRecords (left : NumbersLeft records) : (ofRecords records).Below := by
  intro id session found entry stored
  rcases exists_record_of_ofRecords found with ⟨record, member, -, accepted⟩
  have placed := (Session.ofRecord_eq_ok accepted).1
  have same : session.entries = record.entries :=
    congrArg SessionRecord.entries (Session.toRecord_of_ofRecord accepted)
  rw [toNat_nextSequence_ofRecords left, Nat.lt_succ_iff]
  exact le_newestSequence member placed (same ▸ stored)

end Live

end ChatMemory
