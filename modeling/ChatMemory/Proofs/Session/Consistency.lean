import ChatMemory.Proofs.Relevance.DocumentCounts
import ChatMemory.Session.State
import Mathlib.Data.List.Range

/-!
Sessions whose derived parts agree with their messages. Main statements: reconciling keeps a session
consistent, and the terms that it reports are those by which the vocabulary changed.
-/

namespace ChatMemory

/-! ## Alignments -/

section

variable {α : Type _} [DecidableEq α]

theorem overlapLength_le_stored (supplied stored : List α) :
    overlapLength supplied stored ≤ stored.length := by
  induction stored with
  | nil => simp [overlapLength]
  | cons first rest induction =>
      rw [overlapLength]
      split
      · exact Nat.le_refl _
      · exact Nat.le_succ_of_le induction

private theorem overlapLength_le_supplied (supplied stored : List α) :
    overlapLength supplied stored ≤ supplied.length := by
  induction stored with
  | nil => simp [overlapLength]
  | cons first rest induction =>
      rw [overlapLength]
      split
      · rename_i overlap
        exact (List.isPrefixOf_iff_prefix.mp overlap).length_le
      · exact induction

theorem sharedLength_le_right (first second : List α) :
    sharedLength first second ≤ second.length := by
  fun_induction sharedLength first second <;> simp_all

theorem align?_bounds {stored supplied : List α} {alignment : Alignment}
    (found : align? stored supplied = some alignment) :
    alignment.kept ≤ stored.length ∧ alignment.taken ≤ stored.length ∧
      alignment.taken ≤ supplied.length := by
  have sharedLeft := sharedLength_le_left stored supplied
  have sharedRight := sharedLength_le_right stored supplied
  have overlapLeft := overlapLength_le_stored supplied stored
  have overlapRight := overlapLength_le_supplied supplied stored
  simp only [align?] at found
  split_ifs at found <;> cases found <;> refine ⟨?_, ?_, ?_⟩ <;> simp only <;> omega

end

namespace Session

/-! ## Turns -/

theorem tokensOf_append (first second : List Turn) :
    tokensOf (first ++ second) = tokensOf first + tokensOf second := by
  induction first with
  | nil => simp [tokensOf, Text.tokenTotal]
  | cons turn rest induction =>
      simp only [tokensOf, Text.tokenTotal, List.cons_append, List.map_cons,
        List.foldr_cons] at induction ⊢
      rw [induction, Nat.add_assoc]

@[simp] theorem map_message_turnsFrom (position sequence : Nat) (messages : List Message) :
    (turnsFrom position sequence messages).map Turn.message = messages := by
  induction messages generalizing position sequence with
  | nil => rfl
  | cons message rest induction =>
      rw [turnsFrom, List.map_cons, induction]
      rfl

@[simp] theorem map_position_turnsFrom (position sequence : Nat) (messages : List Message) :
    (turnsFrom position sequence messages).map (·.entry.position) =
      List.range' position messages.length := by
  induction messages generalizing position sequence with
  | nil => rfl
  | cons message rest induction =>
      rw [turnsFrom, List.map_cons, induction, List.length_cons, List.range'_succ]
      rfl

@[simp] theorem map_sequence_turnsFrom (position sequence : Nat) (messages : List Message) :
    (turnsFrom position sequence messages).map (·.entry.sequence) =
      (List.range' sequence messages.length).map (· % sequenceLimit) := by
  induction messages generalizing position sequence with
  | nil => rfl
  | cons message rest induction =>
      rw [turnsFrom, List.map_cons, induction, List.length_cons, List.range'_succ, List.map_cons]
      rfl

@[simp] theorem length_turnsFrom (position sequence : Nat) (messages : List Message) :
    (turnsFrom position sequence messages).length = messages.length := by
  rw [← List.length_map Turn.message, map_message_turnsFrom]

private theorem eq_ofEntry_of_mem_turnsFrom {position sequence : Nat} {messages : List Message}
    {turn : Turn} (member : turn ∈ turnsFrom position sequence messages) :
    turn = .ofEntry turn.entry := by
  induction messages generalizing position sequence with
  | nil => cases member
  | cons message rest induction =>
      rcases List.mem_cons.mp member with equal | later
      · rw [equal]
        rfl
      · exact induction later

private theorem mem_termsOf {turns : List Turn} {term : String} :
    term ∈ termsOf turns ↔ ∃ turn ∈ turns, term ∈ turn.analysis.terms := by
  simp [termsOf, Std.ExtTreeSet.mem_ofList]

theorem mem_vocabulary {session : Session} {term : String} :
    term ∈ session.vocabulary ↔ ∃ turn ∈ session.turns, term ∈ turn.analysis.terms := by
  simp [vocabulary, Std.ExtTreeSet.mem_ofList]

/-! ## Consistent sessions -/

structure Consistent (session : Session) : Prop where
  /-- Every message is kept with its own analysis. -/
  analysed : ∀ turn ∈ session.turns, turn = .ofEntry turn.entry
  /-- Every message is in its place. -/
  placed : session.turns.map (·.entry.position) = List.range session.size
  counted : session.corpus.Counts (session.turns.map (·.analysis))
  measured : session.tokens = tokensOf session.turns

theorem consistent_new (id : SessionId) (now : Instant) : (new id now).Consistent where
  analysed turn member := by cases member
  placed := rfl
  counted := .empty
  measured := rfl

structure SameMessages (session other : Session) : Prop where
  id : session.id = other.id
  turns : session.turns = other.turns
  corpus : session.corpus = other.corpus
  tokens : session.tokens = other.tokens

theorem SameMessages.vocabulary {session other : Session} (same : session.SameMessages other) :
    session.vocabulary = other.vocabulary := by
  rw [Session.vocabulary, Session.vocabulary, same.turns]

theorem Consistent.of_same {session other : Session} (consistent : session.Consistent)
    (same : other.SameMessages session) : other.Consistent where
  analysed := same.turns ▸ consistent.analysed
  placed := by rw [size, same.turns]; exact consistent.placed
  counted := by rw [same.turns, same.corpus]; exact consistent.counted
  measured := by rw [same.turns, same.tokens]; exact consistent.measured

theorem Consistent.pairwise_position {session : Session} (consistent : session.Consistent) :
    session.entries.Pairwise fun earlier later => earlier.position < later.position := by
  have ordered := List.pairwise_lt_range (n := session.size)
  rw [← consistent.placed, List.pairwise_map] at ordered
  exact List.pairwise_map.mpr ordered

theorem Consistent.holds_iff {session : Session} (consistent : session.Consistent)
    (term : String) : session.corpus.holds term = true ↔ term ∈ session.vocabulary := by
  rw [consistent.counted.holds_iff, mem_vocabulary]
  simp

section

variable {session : Session} {kept : Nat} {added : List Turn}

theorem Consistent.replaceTail (consistent : session.Consistent) (inside : kept ≤ session.size)
    (analysed : ∀ turn ∈ added, turn = .ofEntry turn.entry)
    (placed : added.map (·.entry.position) = List.range' kept added.length) :
    (session.replaceTail kept added).Consistent where
  analysed turn member := by
    rcases List.mem_append.mp member with earlier | later
    · exact consistent.analysed turn (List.mem_of_mem_take earlier)
    · exact analysed turn later
  placed := by
    have before : (session.turns.take kept).map (·.entry.position) = List.range kept := by
      rw [List.map_take, consistent.placed, List.take_range, Nat.min_eq_left inside]
    have size : (session.replaceTail kept added).size = kept + added.length := by
      rw [Session.size] at inside
      simp [Session.size, Session.replaceTail, Nat.min_eq_left inside]
    rw [size]
    simp only [Session.replaceTail, List.map_append]
    rw [before, placed, List.range_eq_range', List.range_eq_range', ← List.range'_append]
    simp
  counted := by
    have split : session.turns.map (·.analysis) =
        (session.turns.take kept).map (·.analysis) ++
          (session.turns.drop kept).map (·.analysis) := by
      rw [← List.map_append, List.take_append_drop]
    have counted := consistent.counted
    rw [split] at counted
    have both := counted.removeAll.addAll (added.map (·.analysis))
    rw [← List.map_append] at both
    exact both
  measured := by
    have split := tokensOf_append (session.turns.take kept) (session.turns.drop kept)
    rw [List.take_append_drop] at split
    simp only [Session.replaceTail]
    rw [consistent.measured, tokensOf_append, split, Nat.add_sub_cancel]

end

/-! ## Reconciling -/

section

variable {session : Session} {supplied : List Message} {nextSequence : Nat} {now : Instant}

theorem reconcile_of_none (missing : align? session.history supplied = none) :
    session.reconcile supplied nextSequence now = (session, .none) := by
  rw [reconcile, missing]

/-- An alignment replaces the end of a session. Only the times may change besides. -/
theorem reconcile_of_some (nextSequence : Nat) (now : Instant) {alignment : Alignment}
    (found : align? session.history supplied = some alignment) :
    ∃ updatedAt accessedAt,
      (session.reconcile supplied nextSequence now).1 =
        { session.replaceTail alignment.kept
            (turnsFrom alignment.kept nextSequence (supplied.drop alignment.taken)) with
          updatedAt, accessedAt } := by
  rw [reconcile, found]
  dsimp only
  split
  · exact ⟨now, now, rfl⟩
  · exact ⟨_, _, rfl⟩

/-- The report on a replaced end: how many turns are new and how many gave way, and the terms of
either that the frequencies gained and lost. -/
theorem report_of_some {alignment : Alignment}
    (found : align? session.history supplied = some alignment) :
    let removed := session.turns.drop alignment.kept
    let added := turnsFrom alignment.kept nextSequence (supplied.drop alignment.taken)
    let after := (session.reconcile supplied nextSequence now).1
    (session.reconcile supplied nextSequence now).2 =
      { appended := added.length
        replaced := removed.length
        addedTerms := (termsOf (removed ++ added)).filter fun term =>
          after.corpus.holds term && !session.corpus.holds term
        removedTerms := (termsOf (removed ++ added)).filter fun term =>
          session.corpus.holds term && !after.corpus.holds term } := by
  rw [reconcile, found]
  dsimp only
  split <;> rfl

theorem entries_reconcile_of_some (nextSequence : Nat) (now : Instant) {alignment : Alignment}
    (found : align? session.history supplied = some alignment) :
    (session.reconcile supplied nextSequence now).1.entries =
      session.entries.take alignment.kept ++
        (turnsFrom alignment.kept nextSequence (supplied.drop alignment.taken)).map (·.entry) := by
  rcases reconcile_of_some nextSequence now found with ⟨_, _, after⟩
  rw [after, entries, entries, ← List.map_take, ← List.map_append]
  rfl

theorem appended_reconcile (nextSequence : Nat) (now : Instant) :
    (session.reconcile supplied nextSequence now).2.appended =
      (align? session.history supplied).elim 0 fun alignment =>
        (supplied.drop alignment.taken).length := by
  cases found : align? session.history supplied with
  | none => rw [reconcile_of_none found, Option.elim_none, Reconciliation.none]
  | some alignment => rw [report_of_some found, Option.elim_some, length_turnsFrom]

/-- Reconciling gives the next numbers to the messages that it adds, and starts again at zero after
the last. -/
theorem entries_reconcile (session : Session) (supplied : List Message) (nextSequence : Nat)
    (now : Instant) :
    ∃ kept added,
      (session.reconcile supplied nextSequence now).1.entries =
        session.entries.take kept ++ added ∧
      added.map (·.sequence) =
        (List.range' nextSequence added.length).map (· % sequenceLimit) ∧
      (session.reconcile supplied nextSequence now).2.appended = added.length := by
  cases found : align? session.history supplied with
  | none =>
      rw [reconcile_of_none found]
      exact ⟨session.entries.length, [], by simp, rfl, rfl⟩
  | some alignment =>
      refine ⟨alignment.kept, _, entries_reconcile_of_some nextSequence now found, ?_, ?_⟩
      · rw [List.map_map, List.length_map, length_turnsFrom]
        exact map_sequence_turnsFrom _ _ _
      · rw [report_of_some found, List.length_map]

/-- Whatever is noted about a session but the times stays as it is. -/
private theorem eq_reconcile_of_noted {α : Type _} {note : Session → α}
    (ofTail : ∀ (kept : Nat) (added : List Turn),
      note (session.replaceTail kept added) = note session)
    (ofTimes : ∀ (other : Session) (updatedAt accessedAt : Instant),
      note { other with updatedAt, accessedAt } = note other) :
    note (session.reconcile supplied nextSequence now).1 = note session := by
  cases found : align? session.history supplied with
  | none => rw [reconcile_of_none found]
  | some alignment =>
      rcases reconcile_of_some nextSequence now found with ⟨_, _, after⟩
      rw [after, ofTimes, ofTail]

@[simp] theorem id_reconcile :
    (session.reconcile supplied nextSequence now).1.id = session.id :=
  eq_reconcile_of_noted (fun _ _ => rfl) fun _ _ _ => rfl

@[simp] theorem evicted_reconcile :
    (session.reconcile supplied nextSequence now).1.evicted = session.evicted :=
  eq_reconcile_of_noted (fun _ _ => rfl) fun _ _ _ => rfl

@[simp] theorem pinned_reconcile :
    (session.reconcile supplied nextSequence now).1.pinned = session.pinned :=
  eq_reconcile_of_noted (fun _ _ => rfl) fun _ _ _ => rfl

theorem Consistent.reconcile (consistent : session.Consistent) (supplied : List Message)
    (nextSequence : Nat) (now : Instant) :
    (session.reconcile supplied nextSequence now).1.Consistent := by
  cases found : align? session.history supplied with
  | none =>
      rw [reconcile_of_none found]
      exact consistent
  | some alignment =>
      rcases reconcile_of_some nextSequence now found with ⟨_, _, after⟩
      have inside : alignment.kept ≤ session.size := by
        simpa [history, size] using (align?_bounds found).1
      have replaced : (session.replaceTail alignment.kept
          (turnsFrom alignment.kept nextSequence (supplied.drop alignment.taken))).Consistent := by
        apply consistent.replaceTail inside
        · exact fun turn member => eq_ofEntry_of_mem_turnsFrom member
        · rw [map_position_turnsFrom, length_turnsFrom]
      rw [after]
      exact replaced.of_same ⟨rfl, rfl, rfl, rfl⟩

private theorem mem_termsOf_changed (now : Instant) {alignment : Alignment}
    (found : align? session.history supplied = some alignment) {term : String}
    (changed : ¬(term ∈ (session.reconcile supplied nextSequence now).1.vocabulary ↔
      term ∈ session.vocabulary)) :
    term ∈ termsOf (session.turns.drop alignment.kept ++
      turnsFrom alignment.kept nextSequence (supplied.drop alignment.taken)) := by
  rcases reconcile_of_some nextSequence now found with ⟨_, _, after⟩
  rw [after, mem_vocabulary, mem_vocabulary, ← session.turns.take_append_drop alignment.kept]
    at changed
  simp only [replaceTail, List.mem_append, or_and_right, exists_or] at changed
  simp only [mem_termsOf, List.mem_append, or_and_right, exists_or]
  by_contra absent
  rcases not_or.mp absent with ⟨notRemoved, notAdded⟩
  exact changed (by rw [or_iff_left notAdded, or_iff_left notRemoved])

/-- The terms that one session holds and another lacks, found among all in which they differ. -/
private theorem Consistent.mem_filter_holds {first second : Session} (consistent : first.Consistent)
    (otherConsistent : second.Consistent) {candidates : List String} {term : String}
    (all : ¬(term ∈ first.vocabulary ↔ term ∈ second.vocabulary) → term ∈ candidates) :
    (term ∈ candidates.filter fun term => first.corpus.holds term && !second.corpus.holds term) ↔
      term ∈ first.vocabulary ∧ term ∉ second.vocabulary := by
  rw [List.mem_filter, Bool.and_eq_true, Bool.not_eq_true', ← Bool.not_eq_true,
    consistent.holds_iff, otherConsistent.holds_iff]
  constructor
  · exact fun found => found.2
  · exact fun differs => ⟨all fun same => differs.2 (same.mp differs.1), differs⟩

theorem Consistent.mem_addedTerms_reconcile (consistent : session.Consistent)
    (supplied : List Message) (nextSequence : Nat) (now : Instant) (term : String) :
    term ∈ (session.reconcile supplied nextSequence now).2.addedTerms ↔
      term ∈ (session.reconcile supplied nextSequence now).1.vocabulary ∧
        term ∉ session.vocabulary := by
  cases found : align? session.history supplied with
  | none => simp [reconcile_of_none found, Reconciliation.none]
  | some alignment =>
      rw [report_of_some found]
      exact (consistent.reconcile supplied nextSequence now).mem_filter_holds consistent
        (mem_termsOf_changed now found)

theorem Consistent.mem_removedTerms_reconcile (consistent : session.Consistent)
    (supplied : List Message) (nextSequence : Nat) (now : Instant) (term : String) :
    term ∈ (session.reconcile supplied nextSequence now).2.removedTerms ↔
      term ∈ session.vocabulary ∧
        term ∉ (session.reconcile supplied nextSequence now).1.vocabulary := by
  cases found : align? session.history supplied with
  | none => simp [reconcile_of_none found, Reconciliation.none]
  | some alignment =>
      rw [report_of_some found]
      exact consistent.mem_filter_holds (consistent.reconcile supplied nextSequence now)
        fun changed => mem_termsOf_changed now found (mt Iff.symm changed)

theorem report_of_unchanged
    (unchanged : (session.reconcile supplied nextSequence now).2.changed = false) :
    (session.reconcile supplied nextSequence now).2 = .none := by
  cases found : align? session.history supplied with
  | none => rw [reconcile_of_none found]
  | some alignment =>
      rw [report_of_some found] at unchanged ⊢
      simp only [Reconciliation.changed, Bool.or_eq_false_iff, decide_eq_false_iff_not,
        Nat.not_lt, Nat.le_zero, List.length_eq_zero_iff] at unchanged
      simp only [unchanged.1, unchanged.2]
      rfl

theorem reconcile_of_unchanged
    (unchanged : (session.reconcile supplied nextSequence now).2.changed = false) :
    session.reconcile supplied nextSequence now = (session, .none) := by
  have report := report_of_unchanged unchanged
  refine Prod.ext ?_ report
  cases found : align? session.history supplied with
  | none => rw [reconcile_of_none found]
  | some alignment =>
      rw [report_of_some found] at report
      have counts := Reconciliation.mk.inj report
      have added := List.length_eq_zero_iff.mp counts.1
      have removed := List.length_eq_zero_iff.mp counts.2.1
      have whole : session.turns.take alignment.kept = session.turns :=
        List.take_of_length_le (List.drop_eq_nil_iff.mp removed)
      rw [reconcile, found] at unchanged ⊢
      dsimp only at unchanged ⊢
      split at unchanged
      · rename_i changed
        exact absurd changed (by rw [unchanged]; exact Bool.false_ne_true)
      · rename_i same
        rw [if_neg same, added]
        simp [replaceTail, removed, whole, tokensOf, Text.tokenTotal]

end

end Session

end ChatMemory
