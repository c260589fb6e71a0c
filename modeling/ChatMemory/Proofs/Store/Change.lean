import ChatMemory.Proofs.Session.Consistency
import ChatMemory.Proofs.Store.Lookup
import ChatMemory.Store.Live
import Mathlib.Logic.Relation

/-!
All that can happen to the sessions of a running memory and to their postings, in three kinds of
change. Main statement: every session stays under its own id.
-/

namespace ChatMemory.Live

def Named (live : Live) : Prop :=
  ∀ (id : SessionId) (session : Session), live.sessions[id]? = some session → session.id = id

def outcome (live : Live) (id : SessionId) (supplied : List Message) (now : Instant) :
    Session × Reconciliation :=
  (live.sessionFor id now).reconcile supplied live.nextSequence.toNat now

/-- One thing that happens to the sessions. -/
inductive Change (live : Live) : Live → Prop
  /-- A session is reconciled with a history, and the postings with its new vocabulary. -/
  | reconciled (id : SessionId) (supplied : List Message) (now : Instant) :
      Change live
        { sessions := live.sessions.insert id ((live.outcome id supplied now).1.touch now)
          postings := live.postings.update id (live.outcome id supplied now).2.addedTerms
            (live.outcome id supplied now).2.removedTerms
          nextSequence := live.nextSequence + .ofNat (live.outcome id supplied now).2.appended }
  /-- Something else is noted about a session, which may be a new one. -/
  | noted (id : SessionId) (now : Instant) (session : Session)
      (same : session.SameMessages (live.sessionFor id now)) :
      Change live { live with sessions := live.sessions.insert id session }
  | removed (id : SessionId) :
      Change live
        { live with
          sessions := live.sessions.erase id
          postings := live.postings.removeSession id }

abbrev Changes : Live → Live → Prop :=
  Relation.ReflTransGen Change

variable {live : Live}

/-! ## Names -/

theorem named_empty : empty.Named := by
  intro id session found
  simp [empty] at found

theorem Named.insert (named : live.Named) {session : Session} {id : SessionId}
    (sameId : session.id = id) {postings : Postings} {nextSequence : UInt64} :
    Named ⟨live.sessions.insert id session, postings, nextSequence⟩ := by
  intro other found lookup
  rw [lookup_insert] at lookup
  split at lookup
  · rename_i equal
    cases lookup
    rw [sameId]
    exact equal
  · exact named other found lookup

theorem Named.id_sessionFor (named : live.Named) (id : SessionId) (now : Instant) :
    (live.sessionFor id now).id = id := by
  rw [sessionFor]
  cases found : live.sessions[id]? with
  | none => rfl
  | some session => exact named id session found

theorem Named.id_outcome (named : live.Named) (id : SessionId) (supplied : List Message)
    (now : Instant) : (live.outcome id supplied now).1.id = id :=
  Session.id_reconcile.trans (named.id_sessionFor id now)

theorem Change.named {after : Live} (change : Change live after) (named : live.Named) :
    after.Named := by
  cases change with
  | reconciled id supplied now =>
      have sameId : ((live.outcome id supplied now).1.touch now).id = id :=
        named.id_outcome id supplied now
      exact named.insert sameId
  | noted id now session same => exact named.insert (same.id.trans (named.id_sessionFor id now))
  | removed id =>
      intro other session found
      rw [lookup_erase] at found
      split at found
      · cases found
      · exact named other session found

theorem Changes.named {after : Live} (changes : Changes live after) (named : live.Named) :
    after.Named := by
  induction changes with
  | refl => exact named
  | tail _ change before => exact change.named before

end ChatMemory.Live
