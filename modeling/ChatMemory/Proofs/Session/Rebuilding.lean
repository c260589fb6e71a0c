import ChatMemory.Proofs.Session.Consistency

/-!
Sessions against their rebuilt copies. A session is brought up to date by differences; its record
holds only the messages, and reading the record computes everything anew. Main statements: the
copy that a record gives is the session itself, for every session that can come about.
-/

namespace ChatMemory

namespace SessionRecord

private theorem misplacedFrom?_eq_none_iff {index : Nat} {entries : List Entry} :
    misplacedFrom? index entries = none ↔
      entries.map (·.position) = List.range' index entries.length := by
  induction entries generalizing index with
  | nil => simp [misplacedFrom?]
  | cons entry rest induction =>
      rw [misplacedFrom?, List.map_cons, List.length_cons, List.range'_succ, List.cons_eq_cons]
      by_cases placed : entry.position = index
      · simp [placed, induction]
      · simp [placed]

theorem misplaced?_eq_none_iff {record : SessionRecord} :
    record.misplaced? = none ↔
      record.entries.map (·.position) = List.range record.entries.length := by
  rw [misplaced?, misplacedFrom?_eq_none_iff, List.range_eq_range']

end SessionRecord

namespace Session

/-! ## Records -/

theorem ofRecord_eq_ok {record : SessionRecord} {session : Session}
    (accepted : ofRecord record = .ok session) :
    record.misplaced? = none ∧ session.turns = record.entries.map .ofEntry ∧
      session.corpus = .ofDocuments (session.turns.map (·.analysis)) ∧
      session.tokens = tokensOf session.turns ∧ session.id = record.id := by
  rw [ofRecord] at accepted
  split at accepted
  · cases accepted
  · rename_i placed
    cases accepted
    exact ⟨placed, rfl, rfl, rfl, rfl⟩

theorem exists_ofRecord {record : SessionRecord} (placed : record.misplaced? = none) :
    ∃ session, ofRecord record = .ok session := by
  rw [ofRecord, placed]
  exact ⟨_, rfl⟩

theorem toRecord_of_ofRecord {record : SessionRecord} {session : Session}
    (accepted : ofRecord record = .ok session) : session.toRecord = record := by
  rw [ofRecord] at accepted
  split at accepted
  · cases accepted
  · cases accepted
    have entries : (record.entries.map Turn.ofEntry).map Turn.entry = record.entries := by
      rw [List.map_map]
      exact List.map_id _
    rw [toRecord, Session.entries, entries]

theorem consistent_ofRecord {record : SessionRecord} {session : Session}
    (accepted : ofRecord record = .ok session) : session.Consistent := by
  rcases ofRecord_eq_ok accepted with ⟨placed, turns, corpus, tokens, -⟩
  refine ⟨?_, ?_, ?_, tokens⟩
  · intro turn member
    rw [turns] at member
    rcases List.mem_map.mp member with ⟨entry, -, equal⟩
    rw [← equal]
    rfl
  · rw [SessionRecord.misplaced?_eq_none_iff] at placed
    rw [size, turns, List.map_map, List.length_map]
    exact placed
  · rw [corpus]
    exact .ofDocuments _

private theorem Consistent.map_ofEntry_entries {session : Session} (consistent : session.Consistent)
    :
    session.entries.map Turn.ofEntry = session.turns := by
  rw [entries, List.map_map]
  calc session.turns.map (Turn.ofEntry ∘ Turn.entry)
    _ = session.turns.map (fun turn => turn) :=
        List.map_congr_left fun turn member => (consistent.analysed turn member).symm
    _ = session.turns := List.map_id' _

theorem Consistent.misplaced?_toRecord {session : Session} (consistent : session.Consistent) :
    session.toRecord.misplaced? = none := by
  rw [SessionRecord.misplaced?_eq_none_iff]
  simp only [toRecord, entries, List.map_map, List.length_map]
  exact consistent.placed

/-- The record of a consistent session gives the session back. Only that it was given up and when
it was last looked at are not kept. -/
theorem Consistent.ofRecord_toRecord {session : Session} (consistent : session.Consistent) :
    ofRecord session.toRecord =
      .ok { session with evicted := false, accessedAt := session.updatedAt } := by
  have turns : session.toRecord.entries.map Turn.ofEntry = session.turns :=
    consistent.map_ofEntry_entries
  rw [ofRecord, consistent.misplaced?_toRecord]
  simp only [turns]
  rw [← consistent.counted.eq_ofDocuments, ← consistent.measured]
  rfl

/-! ## Reachable sessions -/

/-- The sessions that can come about: new ones, those read from a record, and what becomes of
them. -/
inductive Reachable : Session → Prop
  | new (id : SessionId) (now : Instant) : Reachable (.new id now)
  | read {record session} : ofRecord record = .ok session → Reachable session
  | reconciled {session} (supplied : List Message) (nextSequence : Nat) (now : Instant) :
      Reachable session → Reachable (session.reconcile supplied nextSequence now).1
  | titled {session} (title : String) (now : Instant) :
      Reachable session → Reachable (session.setTitle title now)
  | pinned {session} (pinned : Bool) (now : Instant) :
      Reachable session → Reachable (session.setPinned pinned now)
  | touched {session} (now : Instant) : Reachable session → Reachable (session.touch now)
  | reloaded {session rebuilt} :
      Reachable session → ofRecord session.toRecord = .ok rebuilt → Reachable rebuilt

theorem Reachable.consistent {session : Session} (reached : Reachable session) :
    session.Consistent := by
  induction reached with
  | new id now => exact consistent_new id now
  | read accepted => exact consistent_ofRecord accepted
  | reconciled supplied nextSequence now _ before =>
      exact before.reconcile supplied nextSequence now
  | titled title now _ before => exact before.of_same ⟨rfl, rfl, rfl, rfl⟩
  | pinned pinned now _ before => exact before.of_same ⟨rfl, rfl, rfl, rfl⟩
  | touched now _ before => exact before.of_same ⟨rfl, rfl, rfl, rfl⟩
  | reloaded _ accepted _ => exact consistent_ofRecord accepted

/-- Giving up the turns from `kept` on never subtracts more than is there: when a turn is taken
away, the frequencies still count its terms and the tokens still include its own. -/
def CanDrop (session : Session) (kept : Nat) : Prop :=
  ∀ earlier turn later, session.turns.drop kept = earlier ++ turn :: later →
    ((earlier.map (·.analysis)).foldl .remove session.corpus).CanRemove turn.analysis ∧
      Text.tokenEstimate turn.message.content ≤ session.tokens - tokensOf earlier

private theorem perm_bring_forward {α : Type _} (kept earlier later : List α) (item : α) :
    (kept ++ (earlier ++ item :: later)).Perm (item :: (kept ++ later) ++ earlier) := by
  refine (List.perm_append_comm.append_left kept).trans ?_
  rw [List.cons_append, List.cons_append, List.append_assoc]
  exact List.perm_middle

private theorem Consistent.canDrop {session : Session} (consistent : session.Consistent)
    (kept : Nat) :
    session.CanDrop kept := by
  intro earlier turn later split
  have whole : session.turns = session.turns.take kept ++ (earlier ++ turn :: later) := by
    rw [← split, List.take_append_drop]
  constructor
  · have counted := consistent.counted
    rw [whole, List.map_append, List.map_append, List.map_cons] at counted
    exact (counted.perm (perm_bring_forward _ _ _ _)).removeAll.canRemove
  · have measured := consistent.measured
    rw [whole, tokensOf_append, tokensOf_append] at measured
    have own : tokensOf (turn :: later) =
        Text.tokenEstimate turn.message.content + tokensOf later := rfl
    omega

structure AgreesWithRebuilt (session : Session) : Prop where
  /-- Every message is in its place. -/
  placed : ∀ (index : Nat) (entry : Entry),
    session.entries[index]? = some entry → entry.position = index
  /-- The record is accepted and gives the same messages, sequence numbers, analyses, tokens and
  frequencies. -/
  rebuilt : ∃ rebuilt, ofRecord session.toRecord = .ok rebuilt ∧
    rebuilt.history = session.history ∧ rebuilt.entries = session.entries ∧
    rebuilt.turns.map (·.analysis) = session.turns.map (·.analysis) ∧
    rebuilt.tokens = session.tokens ∧ rebuilt.corpus.documents = session.corpus.documents ∧
    ∀ term : String, rebuilt.corpus.holding[term]? = session.corpus.holding[term]?
  bounded : ∀ (term : String) (count : Nat), session.corpus.holding[term]? = some count →
    0 < count ∧ count ≤ session.corpus.documents
  holds_iff : ∀ term, session.corpus.holds term = true ↔ term ∈ session.vocabulary
  /-- No merge subtracts more than is there, from the frequencies, the tokens or the places. -/
  subtracts : ∀ supplied alignment, align? session.history supplied = some alignment →
    session.CanDrop alignment.kept ∧ alignment.kept ≤ session.size ∧
      alignment.taken ≤ session.size ∧ alignment.taken ≤ supplied.length

/-- However a session came about, it is as if it had been computed anew from its messages. -/
theorem agreesWithRebuilt_of_reachable {session : Session} (reached : Reachable session) :
    session.AgreesWithRebuilt := by
  have consistent := reached.consistent
  refine ⟨?_, ?_, ?_, consistent.holds_iff, ?_⟩
  · intro index entry found
    have placed := congrArg (·[index]?) consistent.placed
    have inside : index < session.size := by
      rw [size, ← List.length_map (f := Turn.entry)]
      exact (List.getElem?_eq_some_iff.mp found).1
    rw [entries, List.getElem?_map] at found
    simp only [List.getElem?_map, List.getElem?_range inside] at placed
    cases at_ : session.turns[index]? with
    | none => simp [at_] at found
    | some turn =>
        simp only [at_, Option.map_some, Option.some.injEq] at found placed
        rw [← found]
        exact placed
  · exact ⟨_, consistent.ofRecord_toRecord, rfl, rfl, rfl, rfl, rfl, fun _ => rfl⟩
  · intro term count found
    exact consistent.counted.entry_bounds found
  · intro supplied alignment found
    have bounds := align?_bounds found
    simp only [history, List.length_map] at bounds
    exact ⟨consistent.canDrop _, bounds.1, bounds.2.1, bounds.2.2⟩

/-- A session whose second message gave way to another that shares a term with it. -/
theorem agreesWithRebuilt_of_divergence :
    let first := (Session.new "s" ⟨0, 0⟩).reconcile
      [⟨.user, "paris weather"⟩, ⟨.user, "tokyo weather"⟩] 1 ⟨1, 0⟩
    let second := first.1.reconcile [⟨.user, "paris weather"⟩, ⟨.user, "weather"⟩] 3 ⟨2, 0⟩
    Reachable second.1 ∧ second.2.replaced = 1 ∧ second.1.AgreesWithRebuilt := by
  intro first second
  have reached : Reachable second.1 :=
    .reconciled _ _ _ (.reconciled _ _ _ (.new "s" ⟨0, 0⟩))
  exact ⟨reached, by decide, agreesWithRebuilt_of_reachable reached⟩

end Session

end ChatMemory
