import ChatMemory.Proofs.Search.PostingUpdates
import ChatMemory.Proofs.Store.Ordering
import ChatMemory.Proofs.Store.Restoring
import Mathlib.Data.List.Dedup

/-!
Postings against the sessions that they are made from. Main statements: every change keeps the
postings in agreement with the vocabularies, and postings that agree count each term once.
-/

namespace ChatMemory

theorem Session.Consistent.mem_vocabulary_iff {session : Session}
    (consistent : session.Consistent) {term : String} :
    term ∈ session.vocabulary ↔
      ∃ message ∈ session.history, term ∈ Text.terms message.content := by
  rw [Session.mem_vocabulary, Session.history]
  constructor
  · rintro ⟨turn, member, held⟩
    rw [consistent.analysed turn member] at held
    exact ⟨turn.message, List.mem_map_of_mem member, Analysis.mem_terms_ofText.mp held⟩
  · rintro ⟨message, member, held⟩
    rcases List.mem_map.mp member with ⟨turn, turnMember, equal⟩
    refine ⟨turn, turnMember, ?_⟩
    rw [consistent.analysed turn turnMember]
    rw [← equal] at held
    exact Analysis.mem_terms_ofText.mpr held

namespace Live

def Holds (live : Live) (id : SessionId) (term : String) : Prop :=
  ∃ session, live.sessions[id]? = some session ∧ term ∈ session.vocabulary

def terms (live : Live) : List String :=
  live.toList.flatMap fun session => session.history.flatMap (Text.terms ·.content)

structure Sound (live : Live) : Prop where
  named : live.Named
  consistent (id : SessionId) (session : Session) :
    live.sessions[id]? = some session → session.Consistent

def Covered (live : Live) : Prop :=
  ∀ id term, live.Holds id term → id ∈ live.postings.sessionsFor term

/-- Under each term just the sessions are listed that hold it. -/
structure Indexed (live : Live) : Prop where
  listed_iff (id : SessionId) (term : String) :
    id ∈ live.postings.sessionsFor term ↔ live.Holds id term
  noneEmpty : live.postings.NoneEmpty

variable {live after : Live} {id other : SessionId} {term : String}

theorem sound_empty : empty.Sound where
  named := named_empty
  consistent id session found := by simp [empty] at found

private theorem holds_insert {session : Session} {postings : Postings} {nextSequence : UInt64} :
    Holds ⟨live.sessions.insert id session, postings, nextSequence⟩ other term ↔
      if id = other then term ∈ session.vocabulary else live.Holds other term := by
  simp only [Holds, lookup_insert]
  split <;> simp

private theorem holds_erase {postings : Postings} {nextSequence : UInt64} :
    Holds ⟨live.sessions.erase id, postings, nextSequence⟩ other term ↔
      id ≠ other ∧ live.Holds other term := by
  simp only [Holds, lookup_erase]
  split
  · rename_i equal
    simp [equal]
  · rename_i different
    simp [different]

private theorem mem_vocabulary_sessionFor {now : Instant} :
    term ∈ (live.sessionFor id now).vocabulary ↔ live.Holds id term := by
  rw [sessionFor, Holds]
  cases found : live.sessions[id]? with
  | none => simp [Session.mem_vocabulary, Session.new]
  | some session => simp

/-! ## Changes -/

theorem Sound.consistent_sessionFor (sound : live.Sound) (id : SessionId) (now : Instant) :
    (live.sessionFor id now).Consistent := by
  rw [sessionFor]
  cases found : live.sessions[id]? with
  | none => exact Session.consistent_new id now
  | some session => exact sound.consistent id session found

private theorem Sound.consistent_outcome (sound : live.Sound) (id : SessionId)
    (supplied : List Message) (now : Instant) :
    (live.outcome id supplied now).1.Consistent :=
  (sound.consistent_sessionFor id now).reconcile supplied live.nextSequence.toNat now

theorem Sound.insert (sound : live.Sound) {session : Session} (sameId : session.id = id)
    (consistent : session.Consistent) {postings : Postings} {nextSequence : UInt64} :
    Sound ⟨live.sessions.insert id session, postings, nextSequence⟩ where
  named := sound.named.insert sameId
  consistent other found lookup := by
    rw [lookup_insert] at lookup
    split at lookup
    · cases lookup
      exact consistent
    · exact sound.consistent other found lookup

theorem Change.sound (change : Change live after) (sound : live.Sound) : after.Sound := by
  cases change with
  | reconciled id supplied now =>
      have sameId : ((live.outcome id supplied now).1.touch now).id = id :=
        sound.named.id_outcome id supplied now
      exact sound.insert sameId
        ((sound.consistent_outcome id supplied now).of_same ⟨rfl, rfl, rfl, rfl⟩)
  | noted id now session same =>
      exact sound.insert (same.id.trans (sound.named.id_sessionFor id now))
        ((sound.consistent_sessionFor id now).of_same same)
  | removed id =>
      refine ⟨(Change.removed id).named sound.named, ?_⟩
      intro other session found
      rw [lookup_erase] at found
      split at found
      · cases found
      · exact sound.consistent other session found

/-- A change takes each session to the terms that it gained and away from those that it lost.
The two directions do not need each other: no term is missed even where too many are listed. -/
theorem Change.listed (change : Change live after) (sound : live.Sound) (other : SessionId)
    (term : String) :
    ((live.Holds other term → other ∈ live.postings.sessionsFor term) →
      after.Holds other term → other ∈ after.postings.sessionsFor term) ∧
    ((other ∈ live.postings.sessionsFor term → live.Holds other term) →
      other ∈ after.postings.sessionsFor term → after.Holds other term) := by
  cases change with
  | reconciled id supplied now =>
      have consistent := sound.consistent_sessionFor id now
      have gained := consistent.mem_addedTerms_reconcile supplied live.nextSequence.toNat now term
      have lost := consistent.mem_removedTerms_reconcile supplied live.nextSequence.toNat now term
      rw [← outcome, mem_vocabulary_sessionFor] at gained lost
      have touched : ((live.outcome id supplied now).1.touch now).vocabulary =
          (live.outcome id supplied now).1.vocabulary := rfl
      rw [holds_insert, Postings.mem_sessionsFor_update, gained, lost, touched]
      by_cases equal : id = other
      · subst equal
        simp only [if_true, and_true]
        constructor
        · intro covered holds
          by_cases held : live.Holds id term
          · exact .inr ⟨fun lost => lost.2 holds, covered held⟩
          · exact .inl ⟨holds, held⟩
        · rintro truthful (⟨holds, _⟩ | ⟨notLost, listed⟩)
          · exact holds
          · by_contra lost
            exact notLost ⟨truthful listed, lost⟩
      · simp only [equal, if_false, and_false, false_or, not_false_eq_true, true_and, imp_self]
  | noted id now session same =>
      have vocabulary := same.vocabulary
      rw [holds_insert, vocabulary, mem_vocabulary_sessionFor]
      by_cases equal : id = other
      · subst equal
        simp only [if_true, imp_self, and_self]
      · simp only [equal, if_false, imp_self, and_self]
  | removed id =>
      rw [holds_erase, Postings.mem_sessionsFor_removeSession]
      exact ⟨fun covered => And.imp_right covered, fun truthful => And.imp_right truthful⟩

theorem Change.noneEmpty (change : Change live after) (noneEmpty : live.postings.NoneEmpty) :
    after.postings.NoneEmpty := by
  cases change with
  | reconciled => exact noneEmpty.update _ _ _
  | noted => exact noneEmpty
  | removed => exact Postings.noneEmpty_removeSession _ _

theorem Changes.sound (changes : Changes live after) (sound : live.Sound) : after.Sound := by
  induction changes with
  | refl => exact sound
  | tail _ change before => exact change.sound before

theorem Changes.covered (changes : Changes live after) (sound : live.Sound)
    (covered : live.Covered) : after.Covered := by
  induction changes with
  | refl => exact covered
  | tail earlier change before =>
      intro id term
      exact (change.listed (Changes.sound earlier sound) id term).1 (before id term)

theorem Changes.indexed (changes : Changes live after) (sound : live.Sound)
    (indexed : live.Indexed) : after.Indexed := by
  induction changes with
  | refl => exact indexed
  | tail earlier change before =>
      refine ⟨?_, change.noneEmpty before.noneEmpty⟩
      intro id term
      have listed := change.listed (Changes.sound earlier sound) id term
      exact ⟨listed.2 (before.listed_iff id term).mp, listed.1 (before.listed_iff id term).mpr⟩

/-! ## Taking up records -/

theorem Sound.restore (sound : live.Sound) {session : Session}
    (consistent : session.Consistent) : (live.restore session).Sound :=
  sound.insert rfl consistent

theorem mem_sessionsFor_restore {session : Session} :
    other ∈ (live.restore session).postings.sessionsFor term ↔
      (term ∈ session.vocabulary ∧ session.id = other) ∨
        other ∈ live.postings.sessionsFor term := by
  rw [restore, Postings.mem_sessionsFor_update, Std.ExtTreeSet.mem_toList]
  simp

private theorem holds_restore {session : Session} :
    (live.restore session).Holds other term ↔
      if session.id = other then term ∈ session.vocabulary else live.Holds other term :=
  holds_insert

theorem Covered.restore (covered : live.Covered) (session : Session) :
    (live.restore session).Covered := by
  intro other term
  rw [mem_sessionsFor_restore, holds_restore]
  split
  · rename_i equal
    exact fun held => .inl ⟨held, equal⟩
  · exact fun held => .inr (covered other term held)

theorem soundAndCovered_ofRecords (records : List SessionRecord) :
    (ofRecords records).Sound ∧ (ofRecords records).Covered := by
  refine ofRecords_invariant (fun live => live.Sound ∧ live.Covered) ⟨sound_empty, ?_⟩ ?_
    fun _ _ kept => ⟨⟨kept.1.named, kept.1.consistent⟩, kept.2⟩
  · rintro id term ⟨session, found, -⟩
    simp [empty] at found
  · rintro live record session - accepted ⟨sound, covered⟩
    exact ⟨sound.restore (Session.consistent_ofRecord accepted), covered.restore session⟩

/-! ## Counting terms -/

private theorem Sound.mem_terms_iff (sound : live.Sound) :
    term ∈ live.terms ↔ ∃ id, live.Holds id term := by
  simp only [terms, List.mem_flatMap, mem_toList, Holds]
  constructor
  · rintro ⟨session, ⟨id, found⟩, held⟩
    exact ⟨id, session, found, (sound.consistent id session found).mem_vocabulary_iff.mpr held⟩
  · rintro ⟨id, session, found, held⟩
    exact ⟨session, ⟨id, found⟩, (sound.consistent id session found).mem_vocabulary_iff.mp held⟩

theorem Indexed.termCount_eq (indexed : live.Indexed) (sound : live.Sound) :
    live.postings.termCount = live.terms.dedup.length := by
  rw [Postings.termCount, ← Std.ExtTreeMap.length_keys]
  apply List.Perm.length_eq
  rw [List.perm_ext_iff_of_nodup Std.ExtTreeMap.nodup_keys (List.nodup_dedup _)]
  intro term
  rw [Std.ExtTreeMap.mem_keys, indexed.noneEmpty.mem_sessionsByTerm_iff, List.mem_dedup,
    sound.mem_terms_iff]
  simp only [indexed.listed_iff]

end Live

end ChatMemory
