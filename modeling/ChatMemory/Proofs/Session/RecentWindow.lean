import ChatMemory.Proofs.Session.Consistency
import Mathlib.Data.List.Infix

/-!
Callers who supply only the newest part of a history. Main statements: every supplied message is
stored afterwards, and what a recent window adds follows the stored messages, unless both histories
begin with as much in common as they overlap by.
-/

namespace ChatMemory

section

variable {α : Type _}

structure IsOverlap (part stored supplied : List α) : Prop where
  nonempty : part ≠ []
  ends : part <:+ stored
  begins : part <+: supplied

structure IsLongestOverlap (part stored supplied : List α) : Prop
    extends IsOverlap part stored supplied where
  longest : ∀ other, IsOverlap other stored supplied → other.length ≤ part.length

structure IsShared (part first second : List α) : Prop where
  beginsFirst : part <+: first
  beginsSecond : part <+: second

variable [DecidableEq α] {part stored supplied : List α}

theorem IsShared.length_le (shared : IsShared part stored supplied) :
    part.length ≤ sharedLength stored supplied := by
  induction part generalizing stored supplied with
  | nil => exact Nat.zero_le _
  | cons head rest induction =>
      rcases shared with ⟨⟨stored, rfl⟩, supplied, rfl⟩
      rw [List.cons_append, List.cons_append, sharedLength, if_pos rfl, List.length_cons]
      exact Nat.succ_le_succ (induction ⟨List.prefix_append rest _, List.prefix_append rest _⟩)

theorem isShared_take_sharedLength (stored supplied : List α) :
    IsShared (stored.take (sharedLength stored supplied)) stored supplied where
  beginsFirst := List.take_prefix _ _
  beginsSecond := take_sharedLength stored supplied ▸ List.take_prefix _ _

private theorem sharedLength_eq_left_iff :
    sharedLength stored supplied = stored.length ↔ stored <+: supplied := by
  constructor
  · intro whole
    have shared := (isShared_take_sharedLength stored supplied).beginsSecond
    rwa [whole, List.take_length] at shared
  · intro begins
    exact Nat.le_antisymm (sharedLength_le_left stored supplied)
      (IsShared.length_le ⟨List.prefix_rfl, begins⟩)

private theorem sharedLength_eq_right_iff :
    sharedLength stored supplied = supplied.length ↔ supplied <+: stored := by
  constructor
  · intro whole
    have shared := (isShared_take_sharedLength stored supplied).beginsFirst
    rwa [take_sharedLength, whole, List.take_length] at shared
  · intro begins
    exact Nat.le_antisymm (sharedLength_le_right stored supplied)
      (IsShared.length_le ⟨begins, List.prefix_rfl⟩)

theorem IsOverlap.length_le (overlap : IsOverlap part stored supplied) :
    part.length ≤ overlapLength supplied stored := by
  induction stored with
  | nil => simp [List.suffix_nil.mp overlap.ends]
  | cons first rest induction =>
      rw [overlapLength]
      split
      · exact overlap.ends.length_le
      · rename_i other
        rcases List.suffix_cons_iff.mp overlap.ends with whole | later
        · exact absurd (List.isPrefixOf_iff_prefix.mpr (whole ▸ overlap.begins)) other
        · exact induction ⟨overlap.nonempty, later, overlap.begins⟩

theorem exists_isOverlap (found : 0 < overlapLength supplied stored) :
    ∃ part, IsOverlap part stored supplied ∧ part.length = overlapLength supplied stored := by
  induction stored with
  | nil => exact absurd found (Nat.lt_irrefl 0)
  | cons first rest induction =>
      rw [overlapLength] at found ⊢
      split
      · rename_i whole
        exact ⟨first :: rest, ⟨List.cons_ne_nil _ _, List.suffix_rfl,
          List.isPrefixOf_iff_prefix.mp whole⟩, rfl⟩
      · rename_i other
        rw [if_neg other] at found
        rcases induction found with ⟨part, overlap, length⟩
        exact ⟨part, ⟨overlap.nonempty, overlap.ends.trans (List.suffix_cons first rest),
          overlap.begins⟩, length⟩

theorem IsLongestOverlap.length_eq (overlap : IsLongestOverlap part stored supplied) :
    part.length = overlapLength supplied stored := by
  have reached := overlap.toIsOverlap.length_le
  have some : 0 < part.length := List.length_pos_iff.mpr overlap.nonempty
  rcases exists_isOverlap (some.trans_le reached) with ⟨other, found, length⟩
  exact Nat.le_antisymm reached (length ▸ overlap.longest other found)

/-! ## Alignments -/

theorem align?_eq_none_iff : align? stored supplied = none ↔ supplied <+: stored := by
  rw [← sharedLength_eq_right_iff]
  simp only [align?]
  split_ifs <;> simp_all

/-- An alignment extends the stored list, adds a recent window to it, or replaces what follows the
shared beginning. -/
theorem align?_cases {alignment : Alignment} (found : align? stored supplied = some alignment) :
    (stored <+: supplied ∧ alignment = ⟨stored.length, stored.length⟩) ∨
    (¬stored <+: supplied ∧ sharedLength stored supplied < overlapLength supplied stored ∧
      alignment = ⟨stored.length, overlapLength supplied stored⟩) ∨
    (¬stored <+: supplied ∧ overlapLength supplied stored ≤ sharedLength stored supplied ∧
      alignment = ⟨sharedLength stored supplied, sharedLength stored supplied⟩) := by
  rw [← sharedLength_eq_left_iff]
  simp only [align?] at found
  split_ifs at found with beginning extension window
  · cases found
    exact .inl ⟨extension, by rw [extension]⟩
  · cases found
    exact .inr (.inl ⟨extension, window, rfl⟩)
  · cases found
    exact .inr (.inr ⟨extension, Nat.le_of_not_lt window, rfl⟩)

theorem take_taken_suffix {alignment : Alignment}
    (found : align? stored supplied = some alignment) :
    supplied.take alignment.taken <:+ stored.take alignment.kept := by
  rcases align?_cases found with ⟨begins, rfl⟩ | ⟨-, window, rfl⟩ | ⟨-, -, rfl⟩
  · rw [List.take_length, ← List.prefix_iff_eq_take.mp begins]
  · rcases exists_isOverlap (Nat.zero_lt_of_lt window) with ⟨part, overlap, length⟩
    rw [List.take_length, ← length, ← List.prefix_iff_eq_take.mp overlap.begins]
    exact overlap.ends
  · rw [take_sharedLength]

private theorem overlapLength_le_sharedLength_iff :
    overlapLength supplied stored ≤ sharedLength stored supplied ↔
      ∀ overlap, IsOverlap overlap stored supplied →
        ∃ shared, IsShared shared stored supplied ∧ overlap.length ≤ shared.length := by
  constructor
  · intro within overlap overlaps
    refine ⟨_, isShared_take_sharedLength stored supplied, ?_⟩
    rw [List.length_take_of_le (sharedLength_le_left stored supplied)]
    exact overlaps.length_le.trans within
  · intro within
    by_contra exceeds
    rcases exists_isOverlap (Nat.zero_lt_of_lt (Nat.lt_of_not_le exceeds))
      with ⟨overlap, overlaps, length⟩
    rcases within overlap overlaps with ⟨shared, begins, bound⟩
    exact exceeds (length ▸ bound.trans begins.length_le)

theorem align?_of_exceeding (continues : ¬supplied <+: stored)
    (longest : IsLongestOverlap part stored supplied)
    (exceeds : part = stored ∨
      ∀ shared, IsShared shared stored supplied → shared.length < part.length) :
    align? stored supplied = some ⟨stored.length, part.length⟩ := by
  cases found : align? stored supplied with
  | none => exact absurd (align?_eq_none_iff.mp found) continues
  | some alignment =>
      rw [longest.length_eq]
      rcases align?_cases found with ⟨begins, rfl⟩ | ⟨-, -, rfl⟩ | ⟨diverges, within, rfl⟩
      · have some : stored ≠ [] := by
          rintro rfl
          exact longest.nonempty (List.suffix_nil.mp longest.ends)
        have whole : IsOverlap stored stored supplied := ⟨some, List.suffix_rfl, begins⟩
        rw [Nat.le_antisymm (overlapLength_le_stored supplied stored) whole.length_le]
      · rfl
      · exfalso
        rcases exceeds with rfl | exceeds
        · exact diverges longest.begins
        · have shorter := exceeds _ (isShared_take_sharedLength stored supplied)
          rw [List.length_take_of_le (sharedLength_le_left stored supplied), longest.length_eq]
            at shorter
          exact Nat.not_lt_of_le within shorter

private theorem kept_lt_length_iff {alignment : Alignment}
    (found : align? stored supplied = some alignment) :
    alignment.kept < stored.length ↔
      ¬stored <+: supplied ∧ overlapLength supplied stored ≤ sharedLength stored supplied := by
  have proper := lt_iff_le_and_ne (a := sharedLength stored supplied) (b := stored.length)
  rw [Ne, sharedLength_eq_left_iff] at proper
  rcases align?_cases found with ⟨begins, rfl⟩ | ⟨-, window, rfl⟩ | ⟨diverges, within, rfl⟩
  · simp [begins]
  · simp [Nat.not_le_of_lt window]
  · simp [proper, diverges, within, sharedLength_le_left]

end

namespace Session

variable {session : Session} {supplied : List Message} {nextSequence : Nat} {now : Instant}

theorem history_reconcile_of_some {alignment : Alignment}
    (found : align? session.history supplied = some alignment) :
    (session.reconcile supplied nextSequence now).1.history =
      session.history.take alignment.kept ++ supplied.drop alignment.taken := by
  rcases reconcile_of_some nextSequence now found with ⟨_, _, after⟩
  rw [after]
  simp only [history, replaceTail]
  rw [List.map_append, List.map_take, map_message_turnsFrom]

theorem mem_history_reconcile {message : Message} (member : message ∈ supplied) :
    message ∈ (session.reconcile supplied nextSequence now).1.history := by
  cases found : align? session.history supplied with
  | none =>
      rw [reconcile_of_none found]
      exact (align?_eq_none_iff.mp found).subset member
  | some alignment =>
      rw [history_reconcile_of_some found, List.mem_append]
      rw [← List.take_append_drop alignment.taken supplied, List.mem_append] at member
      exact member.imp_left fun skipped => (take_taken_suffix found).subset skipped

theorem replaced_reconcile_of_some {alignment : Alignment}
    (found : align? session.history supplied = some alignment) :
    (session.reconcile supplied nextSequence now).2.replaced =
      session.history.length - alignment.kept := by
  rw [report_of_some found]
  simp only [history, List.length_drop, List.length_map]

/-- A supplied history that goes on from what is stored is added to it. This is so when the stored
history is all overlap, and when the two overlap by more than they begin with in common. -/
theorem recent_window_keeps_history (session : Session) (supplied : List Message)
    (nextSequence : Nat) (now : Instant) :
    let outcome := session.reconcile supplied nextSequence now
    (∀ overlap, ¬supplied <+: session.history →
      IsLongestOverlap overlap session.history supplied →
      (overlap = session.history ∨
        ∀ shared, IsShared shared session.history supplied → shared.length < overlap.length) →
      outcome.2.replaced = 0 ∧
        outcome.1.history = session.history ++ supplied.drop overlap.length) ∧
    (0 < outcome.2.replaced ↔
      ¬supplied <+: session.history ∧ ¬session.history <+: supplied ∧
        ∀ overlap, IsOverlap overlap session.history supplied →
          ∃ shared, IsShared shared session.history supplied ∧
            overlap.length ≤ shared.length) := by
  constructor
  · intro overlap continues longest exceeds
    have found := align?_of_exceeding continues longest exceeds
    rw [replaced_reconcile_of_some found, history_reconcile_of_some found]
    exact ⟨Nat.sub_self _, by rw [List.take_length]⟩
  · rw [← overlapLength_le_sharedLength_iff]
    cases found : align? session.history supplied with
    | none =>
        rw [reconcile_of_none found]
        simp [Reconciliation.none, align?_eq_none_iff.mp found]
    | some alignment =>
        have continues : ¬supplied <+: session.history := by
          rw [← align?_eq_none_iff, found]
          exact Option.some_ne_none alignment
        rw [replaced_reconcile_of_some found, Nat.sub_pos_iff_lt, kept_lt_length_iff found]
        exact (and_iff_right continues).symm

/-- A window of which the first message also opens the conversation. -/
theorem recent_window_keeps_history_with_repeated_greeting :
    let hello : Message := ⟨.user, "hello"⟩
    let welcome : Message := ⟨.assistant, "welcome back"⟩
    let again : Message := ⟨.user, "again"⟩
    let session := ((Session.new "s" ⟨0, 0⟩).reconcile [hello, hello, welcome] 1 ⟨1, 0⟩).1
    let outcome := session.reconcile [hello, welcome, again] 4 ⟨2, 0⟩
    ¬[hello, welcome, again] <+: session.history ∧
      IsLongestOverlap [hello, welcome] session.history [hello, welcome, again] ∧
      (∀ shared, IsShared shared session.history [hello, welcome, again] → shared.length < 2) ∧
      outcome.2.replaced = 0 ∧ outcome.1.history = session.history ++ [again] := by
  intro hello welcome again session outcome
  have stored : session.history = [hello, hello, welcome] := by decide
  have continues : ¬[hello, welcome, again] <+: session.history := by
    rw [stored]
    decide
  have longest : IsLongestOverlap [hello, welcome] session.history [hello, welcome, again] := by
    rw [stored]
    refine ⟨⟨List.cons_ne_nil _ _, by decide, by decide⟩, ?_⟩
    intro other overlap
    exact overlap.length_le.trans (by decide)
  have exceeds : ∀ shared, IsShared shared session.history [hello, welcome, again] →
      shared.length < 2 := by
    intro shared begins
    rw [stored] at begins
    exact begins.length_le.trans_lt (by decide)
  exact ⟨continues, longest, exceeds,
    (recent_window_keeps_history session [hello, welcome, again] 4 ⟨2, 0⟩).1 _ continues longest
      (.inr exceeds)⟩

/-- An overlap is not enough. The first message of the window also opens the conversation, so the
two are taken to part after it, and what is stored from there on gives way. -/
theorem recent_window_may_replace_history :
    let hello : Message := ⟨.user, "hello"⟩
    let welcome : Message := ⟨.assistant, "welcome back"⟩
    let again : Message := ⟨.assistant, "again"⟩
    let session := ((Session.new "s" ⟨0, 0⟩).reconcile [hello, welcome, hello] 1 ⟨1, 0⟩).1
    let outcome := session.reconcile [hello, again] 4 ⟨2, 0⟩
    session.history = [hello, welcome, hello] ∧ ¬[hello, again] <+: session.history ∧
      IsLongestOverlap [hello] session.history [hello, again] ∧
      outcome.2.replaced = 2 ∧ outcome.1.history = [hello, again] ∧
      outcome.1.history ≠ session.history ++ [hello, again].drop 1 := by
  intro hello welcome again session outcome
  have stored : session.history = [hello, welcome, hello] := by decide
  refine ⟨stored, ?_, ?_, by decide, by decide, by decide⟩
  · rw [stored]
    decide
  · rw [stored]
    refine ⟨⟨List.cons_ne_nil _ _, by decide, by decide⟩, ?_⟩
    intro other overlap
    exact overlap.length_le.trans (by decide)

end Session

end ChatMemory
