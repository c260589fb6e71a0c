import ChatMemory.Proofs.Store.Agreement
import ChatMemory.Proofs.Store.Effect

/-!
The numbers that messages get in the order of their arrival. A backend that refuses writes keeps
messages that are live no more, and opening a store on it brings them back; so the numbers are
related to what is kept as well. Main statement: effects, writes and opening anew keep the numbers
of all messages apart and below the next one.
-/

namespace ChatMemory

def Archive.entriesOf (archive : Archive) (id : SessionId) : List Entry :=
  archive.records[id]?.elim [] SessionRecord.entries

namespace Live

def entriesOf (live : Live) (id : SessionId) : List Entry :=
  live.sessions[id]?.elim [] Session.entries

variable {live after : Live} {writes : List Write} {count : Nat} {archive : Archive}

@[simp] private theorem entries_sessionFor (live : Live) (id : SessionId) (now : Instant) :
    (live.sessionFor id now).entries = live.entriesOf id := by
  rw [sessionFor, entriesOf]
  cases live.sessions[id]? <;> rfl

private theorem entriesOf_insert {id other : SessionId} {session : Session} {postings : Postings}
    {nextSequence : UInt64} :
    entriesOf ⟨live.sessions.insert id session, postings, nextSequence⟩ other =
      if id = other then session.entries else live.entriesOf other := by
  simp only [entriesOf, lookup_insert]
  split <;> rfl

/-! ## Messages that are added -/

def Rising (entries : List Entry) : Prop :=
  entries.Pairwise fun earlier later => earlier.sequence < later.sequence

/-- The end of one session gave way to new messages, which were given the next numbers. -/
structure Ingested (live after : Live) (id : SessionId) (kept : Nat) (added : List Entry) :
    Prop where
  replaced : after.entriesOf id = (live.entriesOf id).take kept ++ added
  others : ∀ other, other ≠ id → after.entriesOf other = live.entriesOf other
  numbered : added.map (·.sequence) =
    (List.range' live.nextSequence.toNat added.length).map (· % sequenceLimit)
  next : after.nextSequence = live.nextSequence + .ofNat added.length

private theorem ingested_insert_same {id : SessionId} {session : Session}
    (same : session.entries = live.entriesOf id) :
    Ingested live { live with sessions := live.sessions.insert id session } id
      (live.entriesOf id).length [] where
  replaced := by rw [entriesOf_insert, if_pos rfl, same, List.take_length, List.append_nil]
  others other different := by rw [entriesOf_insert, if_neg different.symm]
  numbered := rfl
  next := (UInt64.add_zero _).symm

theorem Effect.ingested (effect : Effect live after writes count) :
    ∃ id kept added, Ingested live after id kept added ∧ added.length = count := by
  cases effect with
  | reconciled id supplied now changed =>
      rcases Session.entries_reconcile (live.sessionFor id now) supplied live.nextSequence.toNat now
        with ⟨kept, added, entries, numbered, appended⟩
      rw [entries_sessionFor] at entries
      have counted : (live.outcome id supplied now).2.appended = added.length := appended
      refine ⟨id, kept, added, ⟨?_, ?_, numbered, by rw [counted]⟩, counted.symm⟩
      · rw [entriesOf_insert, if_pos rfl]
        exact entries
      · intro other different
        rw [entriesOf_insert, if_neg different.symm]
  | @noted id session found other same lasting =>
      refine ⟨_, _, _, ingested_insert_same ?_, rfl⟩
      rw [entriesOf, found, Session.entries, same.turns]
      rfl
  | looked id now accessedAt =>
      exact ⟨_, _, _, ingested_insert_same (entries_sessionFor live id now), rfl⟩
  | @removed id session found =>
      refine ⟨id, 0, [], ⟨?_, ?_, rfl, (UInt64.add_zero _).symm⟩, rfl⟩
      · simp [entriesOf]
      · intro other different
        simp [entriesOf, different.symm]

section

variable {id : SessionId} {kept : Nat} {added : List Entry}
  (ingested : Ingested live after id kept added)
  (fits : live.nextSequence.toNat + added.length < sequenceLimit)

include ingested fits

theorem Ingested.toNat_nextSequence :
    after.nextSequence.toNat = live.nextSequence.toNat + added.length := by
  have small : added.length < UInt64.size := Nat.lt_of_le_of_lt (Nat.le_add_left _ _) fits
  rw [ingested.next, UInt64.toNat_add, UInt64.toNat_ofNat_of_lt' small]
  exact Nat.mod_eq_of_lt fits

private theorem Ingested.map_sequence_added :
    added.map (·.sequence) = List.range' live.nextSequence.toNat added.length := by
  rw [ingested.numbered]
  refine (List.map_congr_left fun number given => ?_).trans (List.map_id _)
  rw [List.mem_range'_1] at given
  exact Nat.mod_eq_of_lt (Nat.lt_trans given.2 fits)

private theorem Ingested.le_of_mem_added {entry : Entry} (member : entry ∈ added) :
    live.nextSequence.toNat ≤ entry.sequence ∧ entry.sequence < after.nextSequence.toNat := by
  have listed : entry.sequence ∈ added.map (·.sequence) := List.mem_map_of_mem member
  rw [ingested.map_sequence_added fits, List.mem_range'_1] at listed
  rwa [ingested.toNat_nextSequence fits]

theorem Ingested.mem_entriesOf {other : SessionId} {entry : Entry}
    (member : entry ∈ after.entriesOf other) :
    entry ∈ live.entriesOf other ∨
      (other = id ∧ live.nextSequence.toNat ≤ entry.sequence ∧
        entry.sequence < after.nextSequence.toNat) := by
  by_cases same : other = id
  · subst same
    rw [ingested.replaced, List.mem_append] at member
    rcases member with stored | new
    · exact .inl (List.mem_of_mem_take stored)
    · exact .inr ⟨rfl, ingested.le_of_mem_added fits new⟩
  · exact .inl (ingested.others other same ▸ member)

theorem Ingested.rising (rising : Rising (live.entriesOf id))
    (below : ∀ entry ∈ live.entriesOf id, entry.sequence < live.nextSequence.toNat) :
    Rising (after.entriesOf id) := by
  rw [Rising, ingested.replaced, List.pairwise_append]
  refine ⟨rising.sublist (List.take_sublist _ _), ?_, ?_⟩
  · have ordered : (List.range' live.nextSequence.toNat added.length).Pairwise (· < ·) :=
      List.pairwise_lt_range'
    rw [← ingested.map_sequence_added fits, List.pairwise_map] at ordered
    exact ordered
  · intro earlier stored later new
    exact Nat.lt_of_lt_of_le (below earlier (List.mem_of_mem_take stored))
      (ingested.le_of_mem_added fits new).1

end

theorem Effects.mem_entriesOf (effects : Effects live after writes count)
    (fits : live.nextSequence.toNat + count < sequenceLimit) (id : SessionId) :
    ∀ entry ∈ after.entriesOf id,
      entry ∈ live.entriesOf id ∨ live.nextSequence.toNat ≤ entry.sequence := by
  induction effects with
  | none => exact fun _ member => .inl member
  | cons effect _ induction =>
      rcases effect.ingested with ⟨_, _, _, ingested, rfl⟩
      have next := ingested.toNat_nextSequence (by omega)
      intro entry member
      rcases induction (by omega) entry member with between | new
      · exact (ingested.mem_entriesOf (by omega) between).imp_right fun new => new.2.1
      · exact .inr (by omega)

/-! ## Numbers of live messages and of kept ones -/

def known (live : Live) (archive : Archive) (id : SessionId) : List Entry :=
  live.entriesOf id ++ archive.entriesOf id

/-- The numbers rise within each session, the next one is above them all, and no two sessions share
one, be they live or kept. -/
structure Numbered (live : Live) (archive : Archive) : Prop where
  rising : ∀ id, Rising (live.entriesOf id)
  risingKept : ∀ id, Rising (archive.entriesOf id)
  below : ∀ id, ∀ entry ∈ live.known archive id, entry.sequence < live.nextSequence.toNat
  apart : ∀ id other, ∀ entry ∈ live.known archive id, ∀ otherEntry ∈ live.known archive other,
    entry.sequence = otherEntry.sequence → id = other

private theorem mem_known {id : SessionId} {entry : Entry} :
    entry ∈ live.known archive id ↔ entry ∈ live.entriesOf id ∨ entry ∈ archive.entriesOf id :=
  List.mem_append

theorem numbered_of_archive_empty : Numbered empty .empty where
  rising id := by simp [entriesOf, empty, Rising]
  risingKept id := by simp [Archive.entriesOf, Archive.empty, Rising]
  below id entry member := by
    simp [known, entriesOf, Archive.entriesOf, empty, Archive.empty] at member
  apart id other entry member := by
    simp [known, entriesOf, Archive.entriesOf, empty, Archive.empty] at member

theorem Numbered.ingested (numbered : live.Numbered archive) {target : SessionId} {kept : Nat}
    {added : List Entry} (ingested : Ingested live after target kept added)
    (fits : live.nextSequence.toNat + added.length < sequenceLimit) :
    after.Numbered archive := by
  have next := ingested.toNat_nextSequence fits
  -- What is known afterwards was known before or has a number that was not given out then.
  have grown : ∀ id, ∀ entry ∈ after.known archive id, entry ∈ live.known archive id ∨
      (id = target ∧ live.nextSequence.toNat ≤ entry.sequence ∧
        entry.sequence < after.nextSequence.toNat) := by
    intro id entry member
    rcases mem_known.mp member with there | stored
    · exact (ingested.mem_entriesOf fits there).imp_left fun before => mem_known.mpr (.inl before)
    · exact .inl (mem_known.mpr (.inr stored))
  refine ⟨?_, numbered.risingKept, ?_, ?_⟩
  · intro id
    by_cases same : id = target
    · subst same
      apply ingested.rising fits (numbered.rising id)
      exact fun entry stored => numbered.below id entry (mem_known.mpr (.inl stored))
    · rw [ingested.others id same]
      exact numbered.rising id
  · intro id entry member
    rcases grown id entry member with before | ⟨-, -, within⟩
    · have := numbered.below id entry before
      omega
    · exact within
  · intro id other entry member otherEntry otherMember same
    rcases grown id entry member with before | ⟨rfl, new, -⟩ <;>
      rcases grown other otherEntry otherMember with otherBefore | ⟨rfl, otherNew, -⟩
    · exact numbered.apart id other entry before otherEntry otherBefore same
    · have := numbered.below id entry before
      omega
    · have := numbered.below other otherEntry otherBefore
      omega
    · rfl

private theorem entriesOf_apply (archive : Archive) {request : Write}
    (confirmed : live.Confirms request) (id : SessionId) :
    (archive.apply request).entriesOf id = archive.entriesOf id ∨
      (archive.apply request).entriesOf id = live.entriesOf id := by
  cases request with
  | save record =>
      rcases confirmed with ⟨session, found, rfl⟩
      by_cases same : session.id = id
      · subst same
        have there : live.sessions[session.id]? = some session := found
        right
        rw [entriesOf, there]
        simp [Archive.entriesOf, Archive.apply, Session.toRecord]
      · left
        simp [Archive.entriesOf, Archive.apply, Session.toRecord, same]
  | delete deleted =>
      by_cases same : deleted = id
      · subst same
        have absent : live.sessions[deleted]? = none := confirmed
        right
        rw [entriesOf, absent]
        simp [Archive.entriesOf, Archive.apply]
      · left
        simp [Archive.entriesOf, Archive.apply, same]

theorem Sound.placed_of_confirms (sound : live.Sound) {record : SessionRecord}
    (confirmed : live.Confirms (.save record)) : record.misplaced? = none := by
  rcases confirmed with ⟨session, found, rfl⟩
  exact (sound.consistent _ session found).misplaced?_toRecord

theorem Numbered.write (numbered : live.Numbered archive) {request : Write}
    (confirmed : live.Confirms request) : live.Numbered (archive.apply request) := by
  have fewer : ∀ id, ∀ entry ∈ live.known (archive.apply request) id,
      entry ∈ live.known archive id := by
    intro id entry member
    rw [mem_known] at member ⊢
    rcases entriesOf_apply archive confirmed id with same | saved
    · rwa [same] at member
    · rw [saved, or_self] at member
      exact .inl member
  refine ⟨numbered.rising, ?_, ?_, ?_⟩
  · intro id
    rcases entriesOf_apply archive confirmed id with same | saved
    · rw [same]
      exact numbered.risingKept id
    · rw [saved]
      exact numbered.rising id
  · exact fun id entry member => numbered.below id entry (fewer id entry member)
  · intro id other entry member otherEntry otherMember same
    exact numbered.apart id other entry (fewer id entry member) otherEntry
      (fewer other otherEntry otherMember) same

private theorem Numbered.numbersLeft (numbered : live.Numbered archive) (named : archive.Named)
    {records : List SessionRecord} (listed : records.Perm archive.toList) :
    NumbersLeft records := by
  intro record member _ entry stored
  have found := named.mem_toList.mp (listed.mem_iff.mp member)
  have kept : entry ∈ archive.entriesOf record.id := by
    rw [Archive.entriesOf, found]
    exact stored
  have below := numbered.below record.id entry (mem_known.mpr (.inr kept))
  have fits := live.nextSequence.toNat_lt
  rw [sequenceLimit]
  omega

theorem Numbered.reopened (numbered : live.Numbered archive) (sound : archive.Sound)
    {records : List SessionRecord} (listed : records.Perm archive.toList) :
    (ofRecords records).Numbered archive := by
  have entries : ∀ id, (ofRecords records).entriesOf id = archive.entriesOf id := by
    intro id
    rw [Archive.entriesOf, ← map_toRecord_ofRecords sound listed, entriesOf]
    cases (ofRecords records).sessions[id]? <;> rfl
  have kept : ∀ id, ∀ entry ∈ (ofRecords records).known archive id,
      entry ∈ archive.entriesOf id := by
    intro id entry member
    rwa [mem_known, entries, or_self] at member
  refine ⟨fun id => entries id ▸ numbered.risingKept id, numbered.risingKept, ?_, ?_⟩
  · intro id entry member
    have restored : entry ∈ (ofRecords records).entriesOf id := by
      rw [entries]
      exact kept id entry member
    rw [entriesOf] at restored
    cases found : (ofRecords records).sessions[id]? with
    | none =>
        rw [found] at restored
        cases restored
    | some session =>
        rw [found] at restored
        exact below_ofRecords (numbered.numbersLeft sound.named listed) id session found entry
          restored
  · intro id other entry member otherEntry otherMember same
    exact numbered.apart id other entry (mem_known.mpr (.inr (kept id entry member))) otherEntry
      (mem_known.mpr (.inr (kept other otherEntry otherMember))) same

/-! ## All live messages together -/

private theorem Named.entriesOf_of_mem (named : live.Named) {session : Session}
    (present : session ∈ live.toList) : live.entriesOf session.id = session.entries := by
  rcases mem_toList.mp present with ⟨id, found⟩
  have sameId := named id session found
  subst sameId
  rw [entriesOf, found]
  rfl

theorem Numbered.rising_of_mem (numbered : live.Numbered archive) (named : live.Named)
    {session : Session} (present : session ∈ live.toList) : Rising session.entries :=
  named.entriesOf_of_mem present ▸ numbered.rising session.id

private theorem Named.mem_known_of_mem (named : live.Named) {session : Session}
    (present : session ∈ live.toList) {entry : Entry} (member : entry ∈ session.entries) :
    entry ∈ live.known archive session.id := by
  rw [← named.entriesOf_of_mem present] at member
  exact mem_known.mpr (.inl member)

theorem Numbered.below_of_mem (numbered : live.Numbered archive) (named : live.Named)
    {session : Session} (present : session ∈ live.toList) {entry : Entry}
    (member : entry ∈ session.entries) : entry.sequence < live.nextSequence.toNat :=
  numbered.below session.id entry (named.mem_known_of_mem present member)

theorem Numbered.nodup_sequences (numbered : live.Numbered archive) (named : live.Named) :
    (live.toList.flatMap fun session => session.entries.map (·.sequence)).Nodup := by
  rw [List.nodup_flatMap]
  constructor
  · intro session present
    exact List.pairwise_map.mpr ((numbered.rising_of_mem named present).imp Nat.ne_of_lt)
  · refine (pairwise_toList named).imp_of_mem ?_
    intro first second firstPresent secondPresent before sequence inFirst inSecond
    rcases List.mem_map.mp inFirst with ⟨entry, member, rfl⟩
    rcases List.mem_map.mp inSecond with ⟨other, otherMember, same⟩
    have sameId := numbered.apart first.id second.id entry
      (named.mem_known_of_mem firstPresent member) other
      (named.mem_known_of_mem secondPresent otherMember) same.symm
    simp [sameId, Std.ReflCmp.compare_self] at before

end Live

end ChatMemory
