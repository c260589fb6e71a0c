import ChatMemory.Proofs.Session.RecentWindow
import Mathlib.Order.Bounds.Basic

/-!
What becomes of a stored history when a supplied one is taken up. Main statement: the new history
is settled by how far the two begin alike and by how far they overlap, the supplied one stands whole
at its beginning or at its end, and taking it up once more changes nothing.
-/

namespace ChatMemory

section

variable {α : Type _} {stored supplied : List α}

def sharedLengths (first second : List α) : Set Nat :=
  {length | ∃ part, IsShared part first second ∧ part.length = length}

/-- The lengths of the ends of the stored list with which the supplied one begins, the empty end
among them. -/
def overlapLengths (stored supplied : List α) : Set Nat :=
  {length | ∃ part, part <:+ stored ∧ part <+: supplied ∧ part.length = length}

variable [DecidableEq α]

private theorem isGreatest_sharedLength (stored supplied : List α) :
    IsGreatest (sharedLengths stored supplied) (sharedLength stored supplied) := by
  constructor
  · refine ⟨_, isShared_take_sharedLength stored supplied, ?_⟩
    exact List.length_take_of_le (sharedLength_le_left stored supplied)
  · rintro length ⟨part, shared, rfl⟩
    exact shared.length_le

private theorem isGreatest_overlapLength (stored supplied : List α) :
    IsGreatest (overlapLengths stored supplied) (overlapLength supplied stored) := by
  constructor
  · rcases Nat.eq_zero_or_pos (overlapLength supplied stored) with none | some
    · exact ⟨[], List.nil_suffix, List.nil_prefix, none.symm⟩
    · rcases exists_isOverlap some with ⟨part, overlap, length⟩
      exact ⟨part, overlap.ends, overlap.begins, length⟩
  · rintro length ⟨part, ends, begins, rfl⟩
    by_cases nothing : part = []
    · simp [nothing]
    · exact IsOverlap.length_le ⟨nothing, ends, begins⟩

/-- The history that a supplied one makes of a stored one, if they begin with `shared` messages in
common and overlap by `overlap`. -/
def continuation (stored supplied : List α) (shared overlap : Nat) : List α :=
  if supplied <+: stored then stored
  else if stored <+: supplied then supplied
  else if shared < overlap then stored ++ supplied.drop overlap
  else supplied

example : continuation ['a', 'b', 'a'] ['b', 'a', 'c'] 0 2 = ['a', 'b', 'a', 'c'] := by decide

example : continuation ['a', 'b', 'a'] ['a', 'c'] 1 1 = ['a', 'c'] := by decide

private theorem continuation_of_some {alignment : Alignment}
    (found : align? stored supplied = some alignment) :
    continuation stored supplied (sharedLength stored supplied) (overlapLength supplied stored) =
      stored.take alignment.kept ++ supplied.drop alignment.taken := by
  have continues : ¬supplied <+: stored := by
    rw [← align?_eq_none_iff, found]
    exact Option.some_ne_none alignment
  rw [continuation, if_neg continues]
  rcases align?_cases found with ⟨begins, rfl⟩ | ⟨parts, window, rfl⟩ | ⟨parts, within, rfl⟩
  · rw [if_pos begins, List.take_length]
    exact List.prefix_iff_eq_append.mp begins |>.symm
  · rw [if_neg parts, if_pos window, List.take_length]
  · rw [if_neg parts, if_neg (Nat.not_lt_of_le within), take_sharedLength, List.take_append_drop]

private theorem align?_of_suffix (continues : ¬supplied <+: stored) (ends : supplied <:+ stored) :
    align? stored supplied = some ⟨stored.length, supplied.length⟩ := by
  have some : supplied ≠ [] := by
    rintro rfl
    exact continues List.nil_prefix
  refine align?_of_exceeding continues ⟨⟨some, ends, List.prefix_rfl⟩, ?_⟩ (.inr ?_)
  · exact fun other overlap => overlap.begins.length_le
  · intro shared begins
    apply Nat.lt_of_le_of_ne begins.beginsSecond.length_le
    intro whole
    apply continues
    rw [← begins.beginsSecond.eq_of_length whole]
    exact begins.beginsFirst

end

namespace Session

variable {session : Session} {supplied : List Message} {nextSequence : Nat} {now : Instant}

theorem history_reconcile (session : Session) (supplied : List Message) (nextSequence : Nat)
    (now : Instant) :
    (session.reconcile supplied nextSequence now).1.history =
      continuation session.history supplied (sharedLength session.history supplied)
        (overlapLength supplied session.history) := by
  cases found : align? session.history supplied with
  | none => rw [reconcile_of_none found, continuation, if_pos (align?_eq_none_iff.mp found)]
  | some alignment => rw [history_reconcile_of_some found, continuation_of_some found]

theorem history_reconcile_append (session : Session) (messages : List Message)
    (nextSequence : Nat) (now : Instant) :
    (session.reconcile (session.history ++ messages) nextSequence now).1.history =
      session.history ++ messages := by
  rw [history_reconcile, continuation, if_pos (List.prefix_append _ _)]
  split
  · rename_i begins
    exact (List.prefix_append _ _).eq_of_length_le begins.length_le
  · rfl

private theorem prefix_or_suffix_history_reconcile (session : Session) (supplied : List Message)
    (nextSequence : Nat) (now : Instant) :
    supplied <+: (session.reconcile supplied nextSequence now).1.history ∨
      supplied <:+ (session.reconcile supplied nextSequence now).1.history := by
  cases found : align? session.history supplied with
  | none =>
      rw [reconcile_of_none found]
      exact .inl (align?_eq_none_iff.mp found)
  | some alignment =>
      right
      rcases take_taken_suffix found with ⟨earlier, kept⟩
      rw [history_reconcile_of_some found, ← kept, List.append_assoc, List.take_append_drop]
      exact List.suffix_append _ _

private theorem reconcile_eq_self
    (whole : supplied <+: session.history ∨ supplied <:+ session.history) :
    session.reconcile supplied nextSequence now = (session, .none) := by
  by_cases begins : supplied <+: session.history
  · exact reconcile_of_none (align?_eq_none_iff.mpr begins)
  · have ends := whole.resolve_left begins
    apply reconcile_of_unchanged
    rw [report_of_some (align?_of_suffix begins ends)]
    simp [Reconciliation.changed, history]

private theorem history_reconcile_ne_iff :
    (session.reconcile supplied nextSequence now).1.history ≠ session.history ↔
      ¬supplied <+: session.history ∧ ¬supplied <:+ session.history := by
  rw [← not_or, not_iff_not]
  constructor
  · intro same
    rw [← same]
    exact prefix_or_suffix_history_reconcile session supplied nextSequence now
  · intro whole
    rw [reconcile_eq_self whole]

private theorem replaced_reconcile (session : Session) (supplied : List Message)
    (nextSequence : Nat) (now : Instant) :
    (session.reconcile supplied nextSequence now).2.replaced =
      if supplied <+: session.history ∨ session.history <+: supplied ∨
          sharedLength session.history supplied < overlapLength supplied session.history then 0
      else session.history.length - sharedLength session.history supplied := by
  cases found : align? session.history supplied with
  | none =>
      rw [reconcile_of_none found, if_pos (.inl (align?_eq_none_iff.mp found))]
      rfl
  | some alignment =>
      have continues : ¬supplied <+: session.history := by
        rw [← align?_eq_none_iff, found]
        exact Option.some_ne_none alignment
      rw [replaced_reconcile_of_some found]
      rcases align?_cases found with ⟨begins, rfl⟩ | ⟨-, window, rfl⟩ | ⟨parts, within, rfl⟩
      · rw [if_pos (.inr (.inl begins)), Nat.sub_self]
      · rw [if_pos (.inr (.inr window)), Nat.sub_self]
      · rw [if_neg]
        simp [continues, parts, within]

/-- What is not replaced stays in its place with its number, and the messages that are added take
the next places and, in their order, the next numbers, which start again at zero after the last. -/
theorem exists_entries_reconcile (session : Session) (supplied : List Message)
    (nextSequence : Nat) (now : Instant) :
    let report := (session.reconcile supplied nextSequence now).2
    let kept := session.history.length - report.replaced
    ∃ added,
      (session.reconcile supplied nextSequence now).1.entries =
        session.entries.take kept ++ added ∧
      added.map (·.position) = List.range' kept report.appended ∧
      added.map (·.sequence) =
        (List.range' nextSequence report.appended).map (· % sequenceLimit) := by
  have length : session.entries.length = session.history.length := by
    rw [entries, history, List.length_map, List.length_map]
  cases found : align? session.history supplied with
  | none =>
      rw [reconcile_of_none found]
      refine ⟨[], ?_, rfl, rfl⟩
      rw [List.append_nil, Reconciliation.none, Nat.sub_zero, ← length, List.take_length]
  | some alignment =>
      have kept : session.history.length -
          (session.reconcile supplied nextSequence now).2.replaced = alignment.kept := by
        rw [replaced_reconcile_of_some found]
        have inside := (align?_bounds found).1
        omega
      dsimp only
      rw [kept, report_of_some found]
      refine ⟨_, entries_reconcile_of_some nextSequence now found, ?_, ?_⟩
      · rw [List.map_map, length_turnsFrom]
        exact map_position_turnsFrom _ _ _
      · rw [List.map_map, length_turnsFrom]
        exact map_sequence_turnsFrom _ _ _

/-- How a session has taken up a supplied history, if the stored one begins with `shared` messages
in common with it and overlaps with it by `overlap`. -/
structure TakesUp (session after : Session) (report : Reconciliation) (supplied : List Message)
    (nextSequence shared overlap : Nat) : Prop where
  history : after.history = continuation session.history supplied shared overlap
  whole : supplied <+: after.history ∨ supplied <:+ after.history
  /-- Only a history that is stored already, at one end, changes nothing. -/
  changes : after.history ≠ session.history ↔
    ¬supplied <+: session.history ∧ ¬supplied <:+ session.history
  /-- Taking up the same history once more changes nothing and has nothing to report. -/
  settled (laterSequence : Nat) (later : Instant) :
    after.reconcile supplied laterSequence later = (after, .none)
  /-- Stored messages give way only to a history that has parted from them. -/
  replaced : report.replaced =
    if supplied <+: session.history ∨ session.history <+: supplied ∨ shared < overlap then 0
    else session.history.length - shared
  /-- The stored messages that are kept stay as they are. The others take the next places and the
  next numbers, one for each, from zero again after the last. -/
  entries : ∃ added,
    after.entries = session.entries.take (session.history.length - report.replaced) ++ added ∧
      added.map (·.position) =
        List.range' (session.history.length - report.replaced) report.appended ∧
      added.map (·.sequence) =
        (List.range' nextSequence report.appended).map (· % sequenceLimit)

/-- Every supplied history is taken up as the longest shared beginning and the longest overlap ask
for, and the stored history with more messages after it always becomes just that. -/
theorem supplied_history_is_taken_up (session : Session) (nextSequence : Nat) (now : Instant) :
    (∀ supplied, ∃ shared overlap,
      IsGreatest (sharedLengths session.history supplied) shared ∧
      IsGreatest (overlapLengths session.history supplied) overlap ∧
      TakesUp session (session.reconcile supplied nextSequence now).1
        (session.reconcile supplied nextSequence now).2 supplied nextSequence shared overlap) ∧
    ∀ more, (session.reconcile (session.history ++ more) nextSequence now).1.history =
      session.history ++ more := by
  constructor
  · intro supplied
    refine ⟨_, _, isGreatest_sharedLength _ _, isGreatest_overlapLength _ _, ?_⟩
    have whole := prefix_or_suffix_history_reconcile session supplied nextSequence now
    exact
      { history := history_reconcile session supplied nextSequence now
        whole
        changes := history_reconcile_ne_iff
        settled := fun _ _ => reconcile_eq_self whole
        replaced := replaced_reconcile session supplied nextSequence now
        entries := exists_entries_reconcile session supplied nextSequence now }
  · exact fun more => history_reconcile_append session more nextSequence now

end Session

end ChatMemory
