import ChatMemory.Proofs.Session.Reconciling

/-!
Reports on reconciled histories. Main statement: a report tells exactly how many messages came and
went and by which terms the vocabulary changed, and where it tells of no change there is none.
-/

namespace ChatMemory

namespace Session

section

variable (session : Session) (supplied : List Message) (nextSequence : Nat) (now : Instant)

private theorem replaced_reconcile_le :
    (session.reconcile supplied nextSequence now).2.replaced ≤ session.history.length := by
  cases found : align? session.history supplied with
  | none =>
      rw [reconcile_of_none found]
      exact Nat.zero_le _
  | some alignment =>
      rw [replaced_reconcile_of_some found]
      exact Nat.sub_le _ _

private theorem pairwise_termsOf (turns : List Turn) : (termsOf turns).Pairwise (· < ·) := by
  have ordered : (termsOf turns).Pairwise fun first second => compare first second = .lt :=
    Std.ExtTreeSet.ordered_toList
  exact ordered.imp compareOfLessAndEq_eq_lt.mp

private theorem pairwise_reportedTerms :
    (session.reconcile supplied nextSequence now).2.addedTerms.Pairwise (· < ·) ∧
      (session.reconcile supplied nextSequence now).2.removedTerms.Pairwise (· < ·) := by
  cases found : align? session.history supplied with
  | none =>
      rw [reconcile_of_none found]
      exact ⟨.nil, .nil⟩
  | some alignment =>
      rw [report_of_some found]
      exact ⟨(pairwise_termsOf _).filter _, (pairwise_termsOf _).filter _⟩

end

structure IsExactReport (report : Reconciliation) (session after : Session) : Prop where
  balance : (report.appended : Int) - report.replaced =
    after.history.length - session.history.length
  inside : report.replaced ≤ session.history.length
  /-- What was not replaced stays as it was, with its numbers. -/
  kept : after.entries.take (session.history.length - report.replaced) =
    session.entries.take (session.history.length - report.replaced)
  added (term : String) : term ∈ report.addedTerms ↔
    term ∈ after.vocabulary ∧ term ∉ session.vocabulary
  removed (term : String) : term ∈ report.removedTerms ↔
    term ∈ session.vocabulary ∧ term ∉ after.vocabulary
  increasing : report.addedTerms.Pairwise (· < ·) ∧ report.removedTerms.Pairwise (· < ·)
  disjoint : ∀ term ∈ report.addedTerms, term ∉ report.removedTerms
  unchanged : report.changed = false → after = session

/-- The report on a reconciled history is exact. -/
theorem report_is_exact {session : Session} (consistent : session.Consistent)
    (supplied : List Message) (nextSequence : Nat) (now : Instant) :
    IsExactReport (session.reconcile supplied nextSequence now).2 session
      (session.reconcile supplied nextSequence now).1 := by
  have added := consistent.mem_addedTerms_reconcile supplied nextSequence now
  have removed := consistent.mem_removedTerms_reconcile supplied nextSequence now
  have inside := replaced_reconcile_le session supplied nextSequence now
  rcases exists_entries_reconcile session supplied nextSequence now with ⟨new, entries, -, numbered⟩
  have appended := congrArg List.length numbered
  rw [List.length_map, List.length_map, List.length_range'] at appended
  have before : session.entries.length = session.history.length := by
    rw [Session.entries, history, List.length_map, List.length_map]
  have sizes := congrArg List.length entries
  rw [List.length_append, List.length_take, appended, before, Session.entries, List.length_map,
    ← List.length_map Turn.message] at sizes
  exact
    { balance := by
        rw [history]
        omega
      inside
      kept := by
        rw [entries, List.take_append_of_le_length, List.take_take, Nat.min_self]
        rw [List.length_take]
        omega
      added
      removed
      increasing := pairwise_reportedTerms session supplied nextSequence now
      disjoint := fun term gained lost => ((removed term).mp lost).2 ((added term).mp gained).1
      unchanged := fun same => congrArg Prod.fst (reconcile_of_unchanged same) }

/-- The second message gives way to another one. They share a term with each other and with the
first message, which is reported neither as added nor as removed. -/
theorem report_is_exact_on_shared_term :
    let question : Message := ⟨.user, "Rust in Paris"⟩
    let session := ((new "a" ⟨0, 0⟩).reconcile [question, ⟨.assistant, "Rust in Tokyo"⟩] 1 ⟨1, 0⟩).1
    let outcome := session.reconcile [question, ⟨.assistant, "Berlin rust"⟩] 3 ⟨2, 0⟩
    session.Consistent ∧ outcome.2 = ⟨1, 1, ["berlin"], ["tokyo"]⟩ ∧
      IsExactReport outcome.2 session outcome.1 := by
  intro question session outcome
  have consistent : session.Consistent := (consistent_new "a" ⟨0, 0⟩).reconcile _ 1 ⟨1, 0⟩
  exact ⟨consistent, by decide, report_is_exact consistent _ 3 ⟨2, 0⟩⟩

end Session

end ChatMemory
