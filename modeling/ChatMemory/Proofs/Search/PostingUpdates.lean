import ChatMemory.Search.Postings
import Mathlib.Data.List.Basic

/-!
What updates do to the postings. Main statements: an update takes a session out of the terms that
it lost and puts it into those that it gained, and no term is left with an empty set of sessions.
-/

namespace ChatMemory.Postings

variable {postings : Postings} {session other : SessionId} {held : String}

/-! ## Who is listed under a term -/

private theorem mem_sessionsFor_foldl_post (added : List String) :
    other ∈ (added.foldl (post session) postings).sessionsFor held ↔
      (held ∈ added ∧ session = other) ∨ other ∈ postings.sessionsFor held := by
  induction added generalizing postings with
  | nil => simp
  | cons head tail induction =>
      rw [List.foldl_cons, induction, mem_sessionsFor_post, List.mem_cons, eq_comm (a := head)]
      tauto

private theorem mem_sessionsFor_foldl_withdraw (removed : List String) :
    other ∈ (removed.foldl (withdraw session) postings).sessionsFor held ↔
      ¬(held ∈ removed ∧ session = other) ∧ other ∈ postings.sessionsFor held := by
  induction removed generalizing postings with
  | nil => simp
  | cons head tail induction =>
      rw [List.foldl_cons, induction, mem_sessionsFor_withdraw, List.mem_cons,
        eq_comm (a := head)]
      tauto

@[simp] theorem mem_sessionsFor_update {added removed : List String} :
    other ∈ (postings.update session added removed).sessionsFor held ↔
      (held ∈ added ∧ session = other) ∨
        ¬(held ∈ removed ∧ session = other) ∧ other ∈ postings.sessionsFor held := by
  rw [update, mem_sessionsFor_foldl_post, mem_sessionsFor_foldl_withdraw]

/-! ## Terms without sessions -/

def NoneEmpty (postings : Postings) : Prop :=
  ∀ (term : String) (sessions : Std.ExtTreeSet SessionId),
    postings.sessionsByTerm[term]? = some sessions → sessions ≠ ∅

theorem noneEmpty_empty : empty.NoneEmpty := by
  intro term sessions found
  simp [empty] at found

private theorem without?_ne_empty {sessions left : Std.ExtTreeSet SessionId}
    (found : without? session sessions = some left) : left ≠ ∅ := by
  rw [without?] at found
  split at found
  · cases found
  · rename_i nonempty
    cases found
    exact fun empty => nonempty (Std.ExtTreeSet.isEmpty_iff.mpr empty)

theorem NoneEmpty.post (noneEmpty : postings.NoneEmpty) (session : SessionId) (term : String) :
    (Postings.post session postings term).NoneEmpty := by
  intro held sessions found
  rw [Postings.post, Std.ExtTreeMap.getElem?_alter] at found
  split at found
  · cases found
    exact Std.ExtTreeSet.insert_ne_empty
  · exact noneEmpty held sessions found

theorem NoneEmpty.withdraw (noneEmpty : postings.NoneEmpty) (session : SessionId)
    (term : String) : (Postings.withdraw session postings term).NoneEmpty := by
  intro held sessions found
  rw [Postings.withdraw, Std.ExtTreeMap.getElem?_alter] at found
  split at found
  · rcases Option.bind_eq_some_iff.mp found with ⟨before, -, left⟩
    exact without?_ne_empty left
  · exact noneEmpty held sessions found

theorem NoneEmpty.update (noneEmpty : postings.NoneEmpty) (session : SessionId)
    (added removed : List String) : (postings.update session added removed).NoneEmpty := by
  have withdrawn : (removed.foldl (Postings.withdraw session) postings).NoneEmpty := by
    induction removed generalizing postings with
    | nil => exact noneEmpty
    | cons head tail induction => exact induction (noneEmpty.withdraw session head)
  rw [Postings.update]
  generalize removed.foldl (Postings.withdraw session) postings = rest at withdrawn
  induction added generalizing rest with
  | nil => exact withdrawn
  | cons head tail induction => exact induction _ (withdrawn.post session head)

theorem noneEmpty_removeSession (postings : Postings) (session : SessionId) :
    (postings.removeSession session).NoneEmpty := by
  intro held sessions found
  rw [removeSession, Std.ExtTreeMap.getElem?_filterMap'] at found
  rcases Option.bind_eq_some_iff.mp found with ⟨before, -, left⟩
  exact without?_ne_empty left

theorem NoneEmpty.mem_sessionsByTerm_iff (noneEmpty : postings.NoneEmpty) :
    held ∈ postings.sessionsByTerm ↔ ∃ session, session ∈ postings.sessionsFor held := by
  rw [Std.ExtTreeMap.mem_iff_isSome_getElem?, sessionsFor]
  cases found : postings.sessionsByTerm[held]? with
  | none => simp
  | some sessions =>
      have nonempty := noneEmpty held sessions found
      rw [Ne, Std.ExtTreeSet.eq_empty_iff_forall_contains, not_forall] at nonempty
      rcases nonempty with ⟨session, contained⟩
      simp only [Option.isSome_some, Option.getD_some, true_iff]
      exact ⟨session, by simpa using contained⟩

theorem NoneEmpty.ext {second : Postings} (noneEmpty : postings.NoneEmpty)
    (otherNoneEmpty : second.NoneEmpty)
    (same : ∀ (term : String) (session : SessionId),
      session ∈ postings.sessionsFor term ↔ session ∈ second.sessionsFor term) :
    postings = second := by
  apply Postings.ext
  intro term
  have there : (postings.sessionsByTerm[term]?).isSome = (second.sessionsByTerm[term]?).isSome := by
    rw [Bool.eq_iff_iff, ← Std.ExtTreeMap.mem_iff_isSome_getElem?,
      ← Std.ExtTreeMap.mem_iff_isSome_getElem?, noneEmpty.mem_sessionsByTerm_iff,
      otherNoneEmpty.mem_sessionsByTerm_iff]
    simp only [same]
  have members := same term
  rw [sessionsFor, sessionsFor] at members
  cases found : postings.sessionsByTerm[term]? with
  | none =>
      rw [found] at there
      exact (Option.not_isSome_iff_eq_none.mp (by rw [← there]; simp)).symm
  | some sessions =>
      rw [found] at there members
      rcases Option.isSome_iff_exists.mp there.symm with ⟨others, otherFound⟩
      rw [otherFound] at members ⊢
      exact congrArg some (Std.ExtTreeSet.ext_mem fun {session} => members session)

end ChatMemory.Postings
