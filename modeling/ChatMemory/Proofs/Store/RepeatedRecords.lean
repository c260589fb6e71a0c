import ChatMemory.Proofs.Store.Agreement

/-!
Several records of one session, as a directory has them in which a document was copied. Main
statements: the session is listed under the terms of all its records, and the postings agree with
the sessions just if no earlier record has a term that the latest one lacks.
-/

namespace ChatMemory

def SessionRecord.terms (record : SessionRecord) : List String :=
  record.entries.flatMap (Text.terms ·.message.content)

private theorem Session.Consistent.mem_terms_toRecord {session : Session}
    (consistent : session.Consistent)
    {term : String} : term ∈ session.toRecord.terms ↔ term ∈ session.vocabulary := by
  rw [consistent.mem_vocabulary_iff]
  simp [SessionRecord.terms, toRecord, entries, history, Turn.message]

/-- Whatever terms a consistent record has, the latest record of its session has them too. -/
def KeepTerms (records : List SessionRecord) : Prop :=
  ∀ record ∈ records, record.misplaced? = none → ∀ term ∈ record.terms,
    ∃ latest, latest? records record.id = some latest ∧ term ∈ latest.terms

namespace Live

variable {live : Live} {records : List SessionRecord} {id : SessionId} {term : String}

private theorem mem_sessionsFor_restoreRecord {record : SessionRecord} :
    id ∈ (live.restoreRecord record).postings.sessionsFor term ↔
      (record.misplaced? = none ∧ record.id = id ∧ term ∈ record.terms) ∨
        id ∈ live.postings.sessionsFor term := by
  by_cases placed : record.misplaced? = none
  · rcases restoreRecord_of_placed live placed with ⟨session, accepted, restored⟩
    have sameId := (Session.ofRecord_eq_ok accepted).2.2.2.2
    rw [restored, mem_sessionsFor_restore,
      ← (Session.consistent_ofRecord accepted).mem_terms_toRecord,
      Session.toRecord_of_ofRecord accepted, sameId]
    simp only [placed, true_and, and_comm]
  · rw [restoreRecord_of_misplaced placed]
    simp only [placed, false_and, false_or]

theorem mem_sessionsFor_ofRecords :
    id ∈ (ofRecords records).postings.sessionsFor term ↔
      ∃ record ∈ records, record.misplaced? = none ∧ record.id = id ∧ term ∈ record.terms := by
  rw [ofRecords]
  induction records using List.reverseRecOn with
  | nil => simp [empty, Postings.empty, Postings.sessionsFor]
  | append_singleton earlier record induction =>
      rw [List.foldl_concat, mem_sessionsFor_restoreRecord, induction]
      simp only [List.mem_append, List.mem_singleton, or_and_right, exists_or, exists_eq_left]
      exact or_comm

theorem holds_ofRecords_iff :
    (ofRecords records).Holds id term ↔
      ∃ latest, latest? records id = some latest ∧ term ∈ latest.terms := by
  have consistent := (soundAndCovered_ofRecords records).1.consistent id
  rw [← map_toRecord_ofRecords_eq_latest?, Holds]
  constructor
  · rintro ⟨session, found, held⟩
    refine ⟨session.toRecord, by rw [found]; rfl, ?_⟩
    exact (consistent session found).mem_terms_toRecord.mpr held
  · rintro ⟨latest, found, held⟩
    rcases Option.map_eq_some_iff.mp found with ⟨session, present, rfl⟩
    exact ⟨session, present, (consistent session present).mem_terms_toRecord.mp held⟩

theorem noneEmpty_ofRecords (records : List SessionRecord) :
    (ofRecords records).postings.NoneEmpty :=
  ofRecords_invariant (fun live => live.postings.NoneEmpty) Postings.noneEmpty_empty
    (fun _ _ _ _ _ noneEmpty => noneEmpty.update _ _ _) fun _ _ noneEmpty => noneEmpty

theorem indexed_ofRecords_iff : (ofRecords records).Indexed ↔ KeepTerms records := by
  constructor
  · intro indexed record member placed term held
    apply holds_ofRecords_iff.mp
    apply (indexed.listed_iff _ _).mp
    exact mem_sessionsFor_ofRecords.mpr ⟨record, member, placed, rfl, held⟩
  · intro keep
    refine ⟨fun id term => ?_, noneEmpty_ofRecords records⟩
    constructor
    · intro listed
      rcases mem_sessionsFor_ofRecords.mp listed with ⟨record, member, placed, rfl, held⟩
      exact holds_ofRecords_iff.mpr (keep record member placed term held)
    · exact (soundAndCovered_ofRecords records).2 id term

private theorem keepTerms_of_distinct (distinct : (records.map (·.id)).Nodup) : KeepTerms records :=
  fun record member placed _ held => ⟨record, latest?_of_distinct distinct member placed, held⟩

theorem indexed_ofRecords (distinct : (records.map (·.id)).Nodup) : (ofRecords records).Indexed :=
  indexed_ofRecords_iff.mpr (keepTerms_of_distinct distinct)

end Live

end ChatMemory
