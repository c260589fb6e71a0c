import ChatMemory.Proofs.Store.Agreement
import ChatMemory.Proofs.Store.Effect

/-!
Running sessions against the records that are kept of them. Main statements: every effect keeps up
the record of each session, but for sessions in which there is nothing to keep, and sessions opened
anew on such records are the same as before.
-/

namespace ChatMemory

structure Session.IsBare (session : Session) : Prop where
  turns : session.turns = []
  title : session.title = none
  pinned : session.pinned = false

namespace Live

inductive Mirrored : Option Session → Option SessionRecord → Prop
  | absent : Mirrored none none
  | recorded (session : Session) : Mirrored (some session) (some session.toRecord)
  | bare {session : Session} (bare : session.IsBare) : Mirrored (some session) none

/-- The archive keeps just the records of the sessions, and may lack those that are bare. -/
def Mirrors (live : Live) (archive : Archive) : Prop :=
  ∀ id : SessionId, Mirrored live.sessions[id]? archive.records[id]?

variable {live after : Live} {id other : SessionId} {writes : List Write} {added : Nat}
  {archive : Archive}

theorem Mirrored.touch {session : Session} {kept : Option SessionRecord}
    (mirrored : Mirrored (some session) kept) (now : Instant) :
    Mirrored (some (session.touch now)) kept := by
  cases mirrored with
  | recorded => exact .recorded (session.touch now)
  | bare bare => exact .bare ⟨bare.turns, bare.title, bare.pinned⟩

theorem Mirrored.sessionFor {kept : Option SessionRecord}
    (mirrored : Mirrored live.sessions[id]? kept) (now : Instant) :
    Mirrored (some (live.sessionFor id now)) kept := by
  rw [Live.sessionFor]
  cases found : live.sessions[id]? with
  | none =>
      rw [found] at mirrored
      cases mirrored
      exact .bare ⟨rfl, rfl, rfl⟩
  | some session =>
      rw [found] at mirrored
      exact mirrored

theorem Mirrored.save {session : Session} (sameId : session.id = other)
    (mirrored : Mirrored live.sessions[id]? archive.records[id]?) :
    Mirrored (live.sessions.insert other session)[id]?
      (archive.apply (.save session.toRecord)).records[id]? := by
  subst sameId
  simp only [Archive.apply, Session.toRecord, lookup_insert]
  split
  · exact .recorded session
  · exact mirrored

theorem Effect.mirrored (effect : Effect live after writes added) (named : live.Named)
    (mirrored : Mirrored live.sessions[id]? archive.records[id]?) :
    Mirrored after.sessions[id]? (Backend.writeAll writes archive).records[id]? := by
  cases effect with
  | reconciled other supplied now changed =>
      have sameId : ((live.outcome other supplied now).1.touch now).id = other :=
        named.id_outcome other supplied now
      exact mirrored.save sameId
  | noted found changed same lasting => exact mirrored.save (same.id.trans (named _ _ found))
  | looked other now accessedAt =>
      simp only [lookup_insert]
      split
      · rename_i equal
        subst equal
        exact (mirrored.sessionFor now).touch accessedAt
      · exact mirrored
  | removed found =>
      simp only [Backend.writeAll, Backend.write, Archive.apply, List.foldl_cons, List.foldl_nil,
        lookup_erase]
      split
      · exact .absent
      · exact mirrored

theorem Effects.mirrored (effects : Effects live after writes added) (named : live.Named)
    (mirrored : Mirrored live.sessions[id]? archive.records[id]?) :
    Mirrored after.sessions[id]? (Backend.writeAll writes archive).records[id]? := by
  induction effects generalizing archive with
  | none => exact mirrored
  | cons effect _ induction =>
      rw [Backend.writeAll_append]
      exact induction (effect.change.named named) (effect.mirrored named mirrored)

theorem Effects.mirrors (effects : Effects live after writes added) (named : live.Named)
    (mirrors : live.Mirrors archive) : after.Mirrors (Backend.writeAll writes archive) :=
  fun id => effects.mirrored named (mirrors id)

theorem Mirrored.write (mirrored : Mirrored live.sessions[id]? archive.records[id]?)
    {request : Write} (confirmed : live.Confirms request) :
    Mirrored live.sessions[id]? (archive.apply request).records[id]? := by
  cases request with
  | save record =>
      rcases confirmed with ⟨session, found, rfl⟩
      simp only [Archive.apply, lookup_insert]
      split
      · rename_i equal
        rw [← equal, found]
        exact .recorded session
      · exact mirrored
  | delete other =>
      simp only [Archive.apply, lookup_erase]
      split
      · rename_i equal
        rw [← equal, confirmed]
        exact .absent
      · exact mirrored

/-! ## Opening the records anew -/

theorem mirrors_ofRecords (sound : archive.Sound) :
    (ofRecords archive.toList).Mirrors archive := by
  intro id
  rw [← map_toRecord_ofRecords sound (.refl _) id]
  cases (ofRecords archive.toList).sessions[id]? with
  | none => exact .absent
  | some session => exact .recorded session

theorem Mirrors.exists_session (mirrors : live.Mirrors archive) {id : SessionId}
    {record : SessionRecord} (found : archive.records[id]? = some record) :
    ∃ session, live.sessions[id]? = some session ∧ session.toRecord = record := by
  have mirrored := mirrors id
  rw [found] at mirrored
  generalize live.sessions[id]? = slot at mirrored ⊢
  cases mirrored with
  | recorded session => exact ⟨session, rfl, rfl⟩

theorem Mirrors.sound_archive (mirrors : live.Mirrors archive) (sound : live.Sound) :
    archive.Sound where
  named id record found := by
    rcases mirrors.exists_session found with ⟨session, there, rfl⟩
    exact sound.named id session there
  placed id record found := by
    rcases mirrors.exists_session found with ⟨session, there, rfl⟩
    exact (sound.consistent id session there).misplaced?_toRecord

theorem Mirrors.numbersLeft_iff (mirrors : live.Mirrors archive) (sound : live.Sound) :
    NumbersLeft archive.toList ↔
      ∀ session ∈ live.toList, ∀ entry ∈ session.entries, entry.sequence + 1 < sequenceLimit := by
  have named := (mirrors.sound_archive sound).named
  constructor
  · intro left session present entry stored
    rcases mem_toList.mp present with ⟨id, found⟩
    have mirrored := mirrors id
    rw [found] at mirrored
    generalize kept : archive.records[id]? = slot at mirrored
    cases mirrored with
    | recorded =>
        have sameId := sound.named id session found
        subst sameId
        have listed : session.toRecord ∈ archive.toList := named.mem_toList.mpr kept
        exact left _ listed (sound.consistent _ session found).misplaced?_toRecord entry stored
    | bare bare =>
        rw [Session.entries, bare.turns] at stored
        cases stored
  · intro left record member _ entry stored
    rcases mirrors.exists_session (named.mem_toList.mp member) with ⟨session, found, rfl⟩
    exact left session (mem_toList.mpr ⟨_, found⟩) entry stored

/-- What a session has become when the records are opened anew. -/
inductive Reopened : Option Session → Option Session → Prop
  | absent : Reopened none none
  | restored (session : Session) :
      Reopened (some session)
        (some { session with evicted := false, accessedAt := session.updatedAt })
  | lost {session : Session} (bare : session.IsBare) : Reopened (some session) none

theorem Reopened.lost_or_restored {session : Session} {after : Option Session}
    (reopened : Reopened (some session) after) :
    (session.IsBare ∧ after = none) ∨
      ∃ again, after = some again ∧ again.toRecord = session.toRecord := by
  cases reopened with
  | restored => exact .inr ⟨_, rfl, rfl⟩
  | lost bare => exact .inl ⟨bare, rfl⟩

theorem Reopened.exists_before {before : Option Session} {again : Session}
    (reopened : Reopened before (some again)) :
    ∃ session, before = some session ∧ again.toRecord = session.toRecord := by
  cases reopened with
  | restored session => exact ⟨session, rfl, rfl⟩

theorem Mirrored.reopened (mirrored : Mirrored live.sessions[id]? archive.records[id]?)
    (named : archive.Named)
    (consistent : ∀ session, live.sessions[id]? = some session → session.Consistent) :
    Reopened live.sessions[id]? (ofRecords archive.toList).sessions[id]? ∧
      Mirrored (ofRecords archive.toList).sessions[id]? archive.records[id]? := by
  rw [getElem?_ofRecords_of_perm named (.refl _)]
  generalize live.sessions[id]? = slot at mirrored consistent ⊢
  generalize archive.records[id]? = kept at mirrored ⊢
  cases mirrored with
  | absent => exact ⟨.absent, .absent⟩
  | recorded session =>
      rw [Option.bind_some, (consistent session rfl).ofRecord_toRecord]
      exact ⟨.restored session,
        .recorded { session with evicted := false, accessedAt := session.updatedAt }⟩
  | bare bare => exact ⟨.lost bare, .absent⟩

theorem Mirrors.reopened (mirrors : live.Mirrors archive) (sound : live.Sound) (id : SessionId) :
    Reopened live.sessions[id]? (ofRecords archive.toList).sessions[id]? :=
  ((mirrors id).reopened (mirrors.sound_archive sound).named (sound.consistent id)).1

end Live

end ChatMemory
