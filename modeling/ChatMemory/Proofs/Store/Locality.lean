import ChatMemory.Proofs.Store.Effect

/-!
What an operation on one session leaves alone. Main statements: the other sessions stay as they are,
and a session that is not there is only made by giving it messages.
-/

namespace ChatMemory.Live

structure Local (id : SessionId) (live after : Live) (writes : List Write) : Prop where
  elsewhere : ∀ other : SessionId, id ≠ other → after.sessions[other]? = live.sessions[other]?
  about : ∀ request ∈ writes, request.subject = id

variable {live after : Live} {id other : SessionId} {writes : List Write}

private theorem local_refl (live : Live) (id : SessionId) : Local id live live [] where
  elsewhere _ _ := rfl
  about request asked := by cases asked

private theorem local_insert {session : Session} {postings : Postings} {nextSequence : UInt64}
    (about : ∀ request ∈ writes, request.subject = id) :
    Local id live ⟨live.sessions.insert id session, postings, nextSequence⟩ writes where
  elsewhere other different := by simp [different]
  about := about

theorem local_reconcile (named : live.Named) (id : SessionId) (supplied : List Message)
    (now : Instant) :
    Local id live (live.reconcile id supplied now).2.1 (live.reconcile id supplied now).2.2 := by
  have sameId : ((live.outcome id supplied now).1.touch now).id = id :=
    named.id_outcome id supplied now
  rw [reconcile]
  dsimp only
  split
  · rw [put, named.id_sessionFor id now]
    exact local_insert (by simp)
  · rw [put, ← outcome, sameId]
    split
    · apply local_insert
      intro request asked
      rw [List.mem_singleton.mp asked]
      exact sameId
    · exact local_insert (by simp)

theorem local_append (named : live.Named) (id : SessionId) (messages : List Message)
    (now : Instant) :
    Local id live (live.append id messages now).2.1 (live.append id messages now).2.2 := by
  rw [append]
  dsimp only
  split
  · rw [put, named.id_sessionFor id now]
    exact local_insert (by simp)
  · exact local_reconcile named id _ now

theorem local_amend (named : live.Named) (id : SessionId) {amendment : Session → Session}
    (sameId : ∀ session, (amendment session).id = session.id) :
    Local id live (live.amend id amendment).2.1 (live.amend id amendment).2.2 := by
  rw [amend]
  split
  · exact local_refl live id
  · rename_i session found
    split
    · exact local_refl live id
    · apply local_insert
      intro request asked
      rw [List.mem_singleton.mp asked]
      exact (sameId session).trans (named id session found)

theorem local_removeIf (live : Live) (id : SessionId) (condition : Session → Bool) :
    Local id live (live.removeIf id condition).2.1 (live.removeIf id condition).2.2 := by
  rw [removeIf]
  split
  · exact local_refl live id
  · split
    · refine ⟨fun other different => by simp [different], ?_⟩
      · intro request asked
        rw [List.mem_singleton.mp asked]
        rfl
    · exact local_refl live id

/-! ## Sessions that are not there -/

theorem Local.absent (alone : Local other live after writes) (absent : live.sessions[id]? = none)
    (different : other ≠ id) : after.sessions[id]? = none :=
  (alone.elsewhere id different).trans absent

theorem absent_amend (absent : live.sessions[id]? = none) (other : SessionId)
    (amendment : Session → Session) :
    (live.amend other amendment).2.1.sessions[id]? = none := by
  rw [amend]
  split
  · exact absent
  · rename_i session found
    split
    · exact absent
    · have different : other ≠ id := by
        rintro rfl
        rw [absent] at found
        cases found
      simp [different, absent]

theorem absent_removeIf (absent : live.sessions[id]? = none) (other : SessionId)
    (condition : Session → Bool) :
    (live.removeIf other condition).2.1.sessions[id]? = none := by
  rw [removeIf]
  split
  · exact absent
  · split
    · simp [absent]
    · exact absent

theorem absent_removeIdleOf (absent : live.sessions[id]? = none) (cutoff : Instant)
    (ids : List SessionId) : (removeIdleOf cutoff live ids).2.1.sessions[id]? = none := by
  induction ids generalizing live with
  | nil => exact absent
  | cons other rest induction => exact induction (absent_removeIf absent other _)

@[simp] theorem absent_remove (live : Live) (id : SessionId) :
    (live.remove id).2.1.sessions[id]? = none := by
  rw [remove, removeIf]
  split
  · rename_i absent
    exact absent
  · exact Std.ExtTreeMap.getElem?_erase_self

theorem absent_touch (absent : live.sessions[id]? = none) (other : SessionId) (now : Instant) :
    (live.touch other now).sessions[id]? = none := by
  rw [touch, lookup_alter]
  split
  · rename_i equal
    rw [equal, absent]
    rfl
  · exact absent

end ChatMemory.Live
