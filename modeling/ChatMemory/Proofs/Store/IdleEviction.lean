import ChatMemory.Proofs.Store.Ordering

/-!
Giving up the idle sessions, one after the other. Main statements: the sessions given up are just
those that were idle at first, and the other sessions and their postings stay as they are.
-/

namespace ChatMemory.Live

variable {live : Live} {id other : SessionId} {condition : Session → Bool} {cutoff : Instant}

def meets (live : Live) (condition : Session → Bool) (id : SessionId) : Bool :=
  live.sessions[id]?.any condition

private theorem meets_eq_true_iff :
    live.meets condition id = true ↔
      ∃ session, live.sessions[id]? = some session ∧ condition session = true := by
  rw [meets, Option.any_eq_true]

private theorem getElem?_filter_eq_self (unmet : live.meets condition id = false) :
    live.sessions[id]?.filter (!condition ·) = live.sessions[id]? := by
  rw [meets] at unmet
  cases found : live.sessions[id]? with
  | none => rfl
  | some session =>
      rw [found, Option.any_some] at unmet
      rw [Option.filter_some, unmet]
      rfl

private theorem getElem?_filter_eq_none (met : live.meets condition id = true) :
    live.sessions[id]?.filter (!condition ·) = none := by
  rcases meets_eq_true_iff.mp met with ⟨session, found, holds⟩
  rw [found, Option.filter_some, holds]
  rfl

/-! ## One session -/

private theorem removeIf_eq (live : Live) (id : SessionId) (condition : Session → Bool) :
    live.removeIf id condition =
      if live.meets condition id then
        (true,
          { live with
            sessions := live.sessions.erase id
            postings := live.postings.removeSession id },
          [.delete id])
      else (false, live, []) := by
  rw [removeIf, meets]
  cases live.sessions[id]? with
  | none => rfl
  | some session => rfl

private theorem getElem?_removeIf (live : Live) (id other : SessionId) (condition : Session → Bool)
    :
    (live.removeIf id condition).2.1.sessions[other]? =
      if id = other then live.sessions[other]?.filter (!condition ·)
      else live.sessions[other]? := by
  rw [removeIf_eq]
  by_cases own : id = other
  · subst own
    rw [if_pos rfl]
    split
    · rename_i met
      rw [getElem?_filter_eq_none met]
      exact Std.ExtTreeMap.getElem?_erase_self
    · rename_i unmet
      exact (getElem?_filter_eq_self (Bool.eq_false_iff.mpr unmet)).symm
  · rw [if_neg own]
    split
    · simp [own]
    · rfl

private theorem mem_sessionsFor_removeIf {term : String} :
    other ∈ (live.removeIf id condition).2.1.postings.sessionsFor term ↔
      other ∈ live.postings.sessionsFor term ∧
        ¬(id = other ∧ live.meets condition other = true) := by
  rw [removeIf_eq]
  split
  · rename_i met
    dsimp only
    rw [Postings.mem_sessionsFor_removeSession, and_comm]
    refine and_congr_right fun _ => not_congr ⟨?_, And.left⟩
    rintro rfl
    exact ⟨rfl, met⟩
  · rename_i unmet
    refine (and_iff_left ?_).symm
    rintro ⟨rfl, met⟩
    exact unmet met

private theorem meets_removeIf_of_ne (different : id ≠ other) :
    (live.removeIf id condition).2.1.meets condition other = live.meets condition other := by
  rw [meets, getElem?_removeIf, if_neg different, meets]

@[simp] private theorem meets_removeIf_self :
    (live.removeIf id condition).2.1.meets condition id = false :=
    by
  rw [meets, getElem?_removeIf, if_pos rfl, Option.any_filter]
  simp

/-! ## One after the other -/

private theorem getElem?_removeIdleOf (live : Live) (cutoff : Instant) (ids : List SessionId)
    (other : SessionId) :
    (removeIdleOf cutoff live ids).2.1.sessions[other]? =
      if other ∈ ids then live.sessions[other]?.filter (!isIdle cutoff ·)
      else live.sessions[other]? := by
  induction ids generalizing live with
  | nil => rfl
  | cons id rest induction =>
      rw [removeIdleOf]
      dsimp only
      rw [induction, getElem?_removeIf]
      by_cases own : id = other
      · -- A session that was not idle passes a second time just as it did the first.
        simp [own]
      · have unequal : other ≠ id := Ne.symm own
        simp [own, unequal]

private theorem mem_sessionsFor_removeIdleOf {term : String} (live : Live) (ids : List SessionId) :
    other ∈ (removeIdleOf cutoff live ids).2.1.postings.sessionsFor term ↔
      other ∈ live.postings.sessionsFor term ∧
        ¬(other ∈ ids ∧ live.meets (isIdle cutoff) other = true) := by
  induction ids generalizing live with
  | nil => simp [removeIdleOf]
  | cons id rest induction =>
      rw [removeIdleOf]
      dsimp only
      rw [induction, mem_sessionsFor_removeIf]
      by_cases own : id = other
      · subst own
        rw [meets_removeIf_self]
        simp
      · have unequal : other ≠ id := Ne.symm own
        rw [meets_removeIf_of_ne own]
        simp [own, unequal]

private theorem count_removeIdleOf (live : Live) {ids : List SessionId} (distinct : ids.Nodup) :
    (removeIdleOf cutoff live ids).1 = ids.countP (live.meets (isIdle cutoff)) := by
  induction ids generalizing live with
  | nil => rfl
  | cons id rest induction =>
      rw [List.nodup_cons] at distinct
      have later : rest.countP ((live.removeIf id (isIdle cutoff)).2.1.meets (isIdle cutoff)) =
          rest.countP (live.meets (isIdle cutoff)) := by
        apply List.countP_congr
        intro other member
        rw [meets_removeIf_of_ne (ne_of_mem_of_not_mem member distinct.1).symm]
      rw [removeIdleOf]
      dsimp only
      rw [induction _ distinct.2, later, List.countP_cons, removeIf_eq, Nat.add_comm]
      congr 1
      cases live.meets (isIdle cutoff) id <;> rfl

@[simp] theorem nextSequence_removeIdleOf (live : Live) (cutoff : Instant) (ids : List SessionId) :
    (removeIdleOf cutoff live ids).2.1.nextSequence = live.nextSequence := by
  induction ids generalizing live with
  | nil => rfl
  | cons id rest induction =>
      rw [removeIdleOf]
      dsimp only
      rw [induction, removeIf_eq]
      split <;> rfl

/-! ## All sessions -/

private theorem countP_ids (live : Live) (condition : Session → Bool) :
    live.ids.countP (live.meets condition) = live.toList.countP condition := by
  rw [toList_eq_filterMap, List.countP_filterMap]
  congr 1
  funext id
  rw [meets]
  cases live.sessions[id]? <;> rfl

theorem count_removeIdle (live : Live) (cutoff : Instant) :
    (live.removeIdle cutoff).1 = live.toList.countP (isIdle cutoff) := by
  have distinct : live.ids.Nodup := Std.ExtTreeMap.nodup_keys
  rw [removeIdle, count_removeIdleOf live distinct, countP_ids]

private theorem isIdle_eq_false_iff {session : Session} :
    isIdle cutoff session = false ↔
      session.pinned = true ∨ session.accessedAt.isBefore cutoff = false := by
  simp [isIdle, or_iff_not_imp_left]

theorem getElem?_removeIdle (live : Live) (cutoff : Instant) (id : SessionId) :
    (live.removeIdle cutoff).2.1.sessions[id]? =
      live.sessions[id]?.filter (!isIdle cutoff ·) := by
  rw [removeIdle, getElem?_removeIdleOf]
  split
  · rfl
  · rename_i unlisted
    cases found : live.sessions[id]? with
    | none => rfl
    | some session => exact absurd (mem_ids.mpr ⟨session, found⟩) unlisted

theorem getElem?_removeIdle_eq_some_iff {session : Session} :
    (live.removeIdle cutoff).2.1.sessions[id]? = some session ↔
      live.sessions[id]? = some session ∧
        (session.pinned = true ∨ session.accessedAt.isBefore cutoff = false) := by
  rw [getElem?_removeIdle, Option.filter_eq_some_iff, Bool.not_eq_true', isIdle_eq_false_iff]

theorem mem_sessionsFor_removeIdle {term : String} :
    id ∈ (live.removeIdle cutoff).2.1.postings.sessionsFor term ↔
      id ∈ live.postings.sessionsFor term ∧
        ∀ session, live.sessions[id]? = some session →
          session.pinned = true ∨ session.accessedAt.isBefore cutoff = false := by
  have listed : live.meets (isIdle cutoff) id = true → id ∈ live.ids := by
    rw [meets_eq_true_iff, mem_ids]
    rintro ⟨session, found, -⟩
    exact ⟨session, found⟩
  have spared : live.meets (isIdle cutoff) id = false ↔
      ∀ session, live.sessions[id]? = some session →
        session.pinned = true ∨ session.accessedAt.isBefore cutoff = false := by
    rw [meets, Option.any_eq_false]
    simp only [isIdle_eq_false_iff]
  rw [removeIdle, mem_sessionsFor_removeIdleOf, and_iff_right_of_imp listed, Bool.not_eq_true,
    spared]

end ChatMemory.Live
