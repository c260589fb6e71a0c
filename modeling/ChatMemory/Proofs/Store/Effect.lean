import ChatMemory.Proofs.Store.Ordering
import ChatMemory.Proofs.Store.Restoring

/-!
What the operations do to the sessions, and which writes tell a backend of it. Main statement: every
operation is a chain of four kinds of effect. A session that is only looked at is not written.
-/

namespace ChatMemory.Live

/-- One thing that happens to the sessions, with the writes that it asks for and how many messages
it adds. -/
inductive Effect (live : Live) : Live → List Write → Nat → Prop
  /-- A session is reconciled with a history that adds to it or takes the place of its end. -/
  | reconciled (id : SessionId) (supplied : List Message) (now : Instant)
      (changed : (live.outcome id supplied now).2.changed = true) :
      Effect live
        { sessions := live.sessions.insert id ((live.outcome id supplied now).1.touch now)
          postings := live.postings.update id (live.outcome id supplied now).2.addedTerms
            (live.outcome id supplied now).2.removedTerms
          nextSequence :=
            live.nextSequence + .ofNat (live.outcome id supplied now).2.appended }
        [.save ((live.outcome id supplied now).1.touch now).toRecord]
        (live.outcome id supplied now).2.appended
  /-- Something is noted about a session that is there. -/
  | noted {id : SessionId} {session : Session} (found : live.sessions[id]? = some session)
      (other : Session) (same : other.SameMessages session)
      (lasting : other.evicted = session.evicted) :
      Effect live { live with sessions := live.sessions.insert id other } [.save other.toRecord] 0
  /-- A session is looked at, and made if there is none. -/
  | looked (id : SessionId) (now accessedAt : Instant) :
      Effect live
        { live with
          sessions := live.sessions.insert id ((live.sessionFor id now).touch accessedAt) }
        [] 0
  | removed {id : SessionId} {session : Session} (found : live.sessions[id]? = some session) :
      Effect live
        { live with
          sessions := live.sessions.erase id
          postings := live.postings.removeSession id }
        [.delete id] 0

/-- A chain of effects, with all the writes that they ask for and all the messages that they add. -/
inductive Effects : Live → Live → List Write → Nat → Prop
  | none (live : Live) : Effects live live [] 0
  | cons {live between after : Live} {writes later : List Write} {added more : Nat}
      (effect : Effect live between writes added) (rest : Effects between after later more) :
      Effects live after (writes ++ later) (added + more)

variable {live between after : Live} {writes later : List Write} {added more : Nat}

theorem Effect.effects (effect : Effect live after writes added) :
    Effects live after writes added := by
  have chain := Effects.cons effect (.none after)
  rwa [List.append_nil] at chain

theorem Effects.append (first : Effects live between writes added)
    (second : Effects between after later more) :
    Effects live after (writes ++ later) (added + more) := by
  induction first with
  | none => rwa [List.nil_append, Nat.zero_add]
  | cons effect _ induction =>
      rw [List.append_assoc, Nat.add_assoc]
      exact .cons effect (induction second)

/-! ## Changes -/

private theorem change_note {id : SessionId} {session other : Session}
    (found : live.sessions[id]? = some session) (same : other.SameMessages session) :
    Change live { live with sessions := live.sessions.insert id other } := by
  have present : live.sessionFor id session.createdAt = session := by
    rw [sessionFor, found]
    rfl
  apply Change.noted id session.createdAt
  rw [present]
  exact same

theorem Effect.change (effect : Effect live after writes added) : Change live after := by
  cases effect with
  | reconciled id supplied now changed => exact .reconciled id supplied now
  | noted found other same lasting => exact change_note found same
  | looked id now accessedAt => exact .noted id now _ ⟨rfl, rfl, rfl, rfl⟩
  | removed found => exact .removed _

theorem Effects.changes (effects : Effects live after writes added) : Changes live after := by
  induction effects with
  | none => exact .refl
  | cons effect _ induction => exact .head effect.change induction

theorem Effect.nextSequence (effect : Effect live after writes added) :
    after.nextSequence = live.nextSequence + .ofNat added := by
  cases effect with
  | reconciled => rfl
  | _ => exact (UInt64.add_zero _).symm

theorem Effects.nextSequence (effects : Effects live after writes added) :
    after.nextSequence = live.nextSequence + .ofNat added := by
  induction effects with
  | none => exact (UInt64.add_zero _).symm
  | cons effect _ induction =>
      rw [induction, effect.nextSequence, UInt64.ofNat_add, UInt64.add_assoc]

/-! ## Operations -/

theorem effect_put (named : live.Named) (id : SessionId) (now : Instant) :
    Effect live (live.put (live.sessionFor id now)) [] 0 := by
  rw [put, named.id_sessionFor id now]
  exact .looked id now (live.sessionFor id now).accessedAt

theorem effect_reconcile (named : live.Named) (id : SessionId) (supplied : List Message)
    (now : Instant) :
    Effect live (live.reconcile id supplied now).2.1 (live.reconcile id supplied now).2.2
      (live.reconcile id supplied now).1.appended := by
  have sameId : ((live.outcome id supplied now).1.touch now).id = id :=
    named.id_outcome id supplied now
  rw [reconcile]
  dsimp only
  split
  · exact effect_put named id now
  · rw [put, ← outcome, sameId]
    split
    · rename_i changed
      exact .reconciled id supplied now changed
    · rename_i unchanged
      rw [Bool.not_eq_true] at unchanged
      have same : live.outcome id supplied now = (live.sessionFor id now, .none) :=
        Session.reconcile_of_unchanged unchanged
      have still : live.nextSequence + .ofNat Reconciliation.none.appended = live.nextSequence :=
        UInt64.add_zero _
      rw [same, still]
      exact .looked id now now

theorem effect_append (named : live.Named) (id : SessionId) (messages : List Message)
    (now : Instant) :
    let whole := (live.sessionFor id now).history ++ messages
    Effect live (live.append id messages now).2.1 (live.append id messages now).2.2
      (live.reconcile id whole now).1.appended := by
  rw [append]
  dsimp only
  split
  · rename_i evicted
    rw [reconcile, if_pos evicted]
    exact effect_put named id now
  · exact effect_reconcile named id _ now

private theorem effects_amend (live : Live) (id : SessionId) {amendment : Session → Session}
    (same : ∀ session, (amendment session).SameMessages session)
    (lasting : ∀ session, (amendment session).evicted = session.evicted) :
    Effects live (live.amend id amendment).2.1 (live.amend id amendment).2.2 0 := by
  rw [amend]
  split
  · exact .none live
  · rename_i session found
    split
    · exact .none live
    · exact (Effect.noted found _ (same session) (lasting session)).effects

theorem effects_setTitle (live : Live) (id : SessionId) (title : String) (now : Instant) :
    Effects live (live.setTitle id title now).2.1 (live.setTitle id title now).2.2 0 :=
  effects_amend live id (fun _ => ⟨rfl, rfl, rfl, rfl⟩) fun _ => rfl

theorem effects_setPinned (live : Live) (id : SessionId) (pinned : Bool) (now : Instant) :
    Effects live (live.setPinned id pinned now).2.1 (live.setPinned id pinned now).2.2 0 :=
  effects_amend live id (fun _ => ⟨rfl, rfl, rfl, rfl⟩) fun _ => rfl

theorem effects_touch (live : Live) (id : SessionId) (now : Instant) :
    Effects live (live.touch id now) [] 0 := by
  cases found : live.sessions[id]? with
  | none =>
      have absent : live.touch id now = live := by
        rw [touch]
        congr 1
        apply Std.ExtTreeMap.ext_getElem?
        intro other
        rw [lookup_alter]
        split
        · rename_i equal
          rw [← equal, found]
          rfl
        · rfl
      rw [absent]
      exact .none live
  | some session =>
      have present : live.touch id now =
          { live with sessions := live.sessions.insert id (session.touch now) } := by
        rw [touch]
        congr 1
        apply Std.ExtTreeMap.ext_getElem?
        intro other
        rw [lookup_alter, lookup_insert, found]
        rfl
      have looked : Effect live _ [] 0 := .looked id now now
      rw [sessionFor, found] at looked
      rw [present]
      exact looked.effects

theorem effects_removeIf (live : Live) (id : SessionId) (condition : Session → Bool) :
    Effects live (live.removeIf id condition).2.1 (live.removeIf id condition).2.2 0 := by
  rw [removeIf]
  split
  · exact .none live
  · rename_i session found
    split
    · exact (Effect.removed found).effects
    · exact .none live

theorem effects_removeIdleOf (cutoff : Instant) (live : Live) (ids : List SessionId) :
    Effects live (removeIdleOf cutoff live ids).2.1 (removeIdleOf cutoff live ids).2.2 0 := by
  induction ids generalizing live with
  | nil => exact .none live
  | cons id rest induction =>
      exact (effects_removeIf live id (isIdle cutoff)).append (induction _)

/-! ## Writes -/

/-- The write tells a backend what is the case. -/
def Confirms (live : Live) : Write → Prop
  | .save record =>
    ∃ session, live.sessions[record.id]? = some session ∧ session.toRecord = record
  | .delete id => live.sessions[id]? = none

theorem Effect.confirms (effect : Effect live after writes added) (named : live.Named)
    {request : Write} (asked : request ∈ writes) : after.Confirms request := by
  cases effect with
  | reconciled id supplied now changed =>
      rw [List.mem_singleton.mp asked]
      have sameId : ((live.outcome id supplied now).1.touch now).toRecord.id = id :=
        named.id_outcome id supplied now
      refine ⟨_, ?_, rfl⟩
      rw [sameId, Std.ExtTreeMap.getElem?_insert_self]
  | @noted id session found other same lasting =>
      rw [List.mem_singleton.mp asked]
      have sameId : other.toRecord.id = id := same.id.trans (named id session found)
      refine ⟨_, ?_, rfl⟩
      rw [sameId, Std.ExtTreeMap.getElem?_insert_self]
  | looked => cases asked
  | removed found =>
      rw [List.mem_singleton.mp asked]
      exact Std.ExtTreeMap.getElem?_erase_self

/-- An effect and its writes are about one session. If that is gone, it was deleted. -/
theorem Effect.exists_subject (effect : Effect live after writes added) (named : live.Named) :
    ∃ id : SessionId, (∀ request ∈ writes, request.subject = id) ∧
      (after.sessions[id]? = none → writes = [.delete id]) ∧
      ∀ other : SessionId, id ≠ other → after.sessions[other]? = live.sessions[other]? := by
  have there : ∀ (id : SessionId) (session : Session) (writes : List Write),
      (live.sessions.insert id session)[id]? = none → writes = [.delete id] := by
    simp
  have elsewhere : ∀ (id other : SessionId) (session : Session), id ≠ other →
      (live.sessions.insert id session)[other]? = live.sessions[other]? := by
    intro id other session different
    simp [different]
  cases effect with
  | reconciled id supplied now changed =>
      refine ⟨id, ?_, there id _ _, fun other => elsewhere id other _⟩
      intro request asked
      rw [List.mem_singleton.mp asked]
      exact named.id_outcome id supplied now
  | @noted id session found other same lasting =>
      refine ⟨id, ?_, there id _ _, fun another => elsewhere id another _⟩
      intro request asked
      rw [List.mem_singleton.mp asked]
      exact same.id.trans (named id session found)
  | looked id now accessedAt =>
      refine ⟨id, ?_, there id _ _, fun other => elsewhere id other _⟩
      intro request asked
      cases asked
  | @removed id session found =>
      refine ⟨id, ?_, fun _ => rfl, ?_⟩
      · intro request asked
        rw [List.mem_singleton.mp asked]
        rfl
      · intro other different
        simp [different]

theorem confirms_of_mem_saves (named : live.Named) {request : Write}
    (asked : request ∈ live.saves) : live.Confirms request := by
  rcases List.mem_map.mp asked with ⟨session, present, rfl⟩
  rcases mem_toList.mp (List.mem_filter.mp present).1 with ⟨id, found⟩
  have sameId := named id session found
  subst sameId
  exact ⟨session, found, rfl⟩

theorem exists_session_of_mem_saves (named : live.Named) {request : Write}
    (asked : request ∈ live.saves) :
    ∃ session, live.sessions[request.subject]? = some session := by
  rcases List.mem_map.mp asked with ⟨session, present, rfl⟩
  rcases mem_toList.mp (List.mem_filter.mp present).1 with ⟨id, found⟩
  have sameId := named id session found
  subst sameId
  exact ⟨session, found⟩

/-! ## Sessions that are given up -/

def NoneEvicted (live : Live) : Prop :=
  ∀ (id : SessionId) (session : Session),
    live.sessions[id]? = some session → session.evicted = false

theorem noneEvicted_ofRecords (records : List SessionRecord) :
    (ofRecords records).NoneEvicted := by
  intro id session found
  rcases exists_record_of_ofRecords found with ⟨record, -, -, accepted⟩
  rw [Session.ofRecord] at accepted
  split at accepted
  · cases accepted
  · cases accepted
    rfl

private theorem NoneEvicted.evicted_sessionFor (noneEvicted : live.NoneEvicted) (id : SessionId)
    (now : Instant) : (live.sessionFor id now).evicted = false := by
  rw [sessionFor]
  cases found : live.sessions[id]? with
  | none => rfl
  | some session => exact noneEvicted id session found

theorem NoneEvicted.insert (noneEvicted : live.NoneEvicted) {id : SessionId} {session : Session}
    (lasting : session.evicted = false) {postings : Postings} {nextSequence : UInt64} :
    NoneEvicted ⟨live.sessions.insert id session, postings, nextSequence⟩ := by
  intro other found lookup
  rw [lookup_insert] at lookup
  split at lookup
  · cases lookup
    exact lasting
  · exact noneEvicted other found lookup

theorem Effect.noneEvicted (effect : Effect live after writes added)
    (noneEvicted : live.NoneEvicted) : after.NoneEvicted := by
  cases effect with
  | reconciled id supplied now changed =>
      have lasting : ((live.outcome id supplied now).1.touch now).evicted = false :=
        Session.evicted_reconcile.trans (noneEvicted.evicted_sessionFor id now)
      exact noneEvicted.insert lasting
  | noted found other same lasting =>
      exact noneEvicted.insert (lasting.trans (noneEvicted _ _ found))
  | looked id now accessedAt =>
      have lasting : ((live.sessionFor id now).touch accessedAt).evicted = false :=
        noneEvicted.evicted_sessionFor id now
      exact noneEvicted.insert lasting
  | removed found =>
      intro other session lookup
      rw [lookup_erase] at lookup
      split at lookup
      · cases lookup
      · exact noneEvicted other session lookup

theorem Effects.noneEvicted (effects : Effects live after writes added)
    (noneEvicted : live.NoneEvicted) : after.NoneEvicted := by
  induction effects with
  | none => exact noneEvicted
  | cons effect _ induction => exact induction (effect.noneEvicted noneEvicted)

theorem amend_of_noneEvicted (noneEvicted : live.NoneEvicted) {id : SessionId} {session : Session}
    (found : live.sessions[id]? = some session) (amendment : Session → Session) :
    live.amend id amendment =
      (true, { live with sessions := live.sessions.insert id (amendment session) },
        [.save (amendment session).toRecord]) := by
  rw [amend, found]
  dsimp only
  rw [noneEvicted id session found, if_neg Bool.false_ne_true]

/-- Where no session is marked as given up, reconciling is what happens to the session, the postings
and the next number, and it is written just if it changed anything. -/
theorem reconcile_of_noneEvicted (named : live.Named) (noneEvicted : live.NoneEvicted)
    (id : SessionId) (supplied : List Message) (now : Instant) :
    live.reconcile id supplied now =
      ((live.outcome id supplied now).2,
        { sessions := live.sessions.insert id ((live.outcome id supplied now).1.touch now)
          postings := live.postings.update id (live.outcome id supplied now).2.addedTerms
            (live.outcome id supplied now).2.removedTerms
          nextSequence :=
            live.nextSequence + .ofNat (live.outcome id supplied now).2.appended },
        if (live.outcome id supplied now).2.changed then
          [.save ((live.outcome id supplied now).1.touch now).toRecord]
        else []) := by
  have sameId : ((live.outcome id supplied now).1.touch now).id = id :=
    named.id_outcome id supplied now
  rw [reconcile]
  dsimp only
  rw [noneEvicted.evicted_sessionFor id now, if_neg Bool.false_ne_true, put, ← outcome, sameId]
  split
  · rfl
  · rename_i unchanged
    rw [Bool.not_eq_true] at unchanged
    have report : (live.outcome id supplied now).2 = .none :=
      Session.report_of_unchanged unchanged
    rw [report]
    rfl

theorem append_of_noneEvicted (noneEvicted : live.NoneEvicted) (id : SessionId)
    (messages : List Message) (now : Instant) :
    let reconciled := live.reconcile id ((live.sessionFor id now).history ++ messages) now
    live.append id messages now = ((reconciled.2.1.sessionFor id now).size, reconciled.2) := by
  rw [append]
  dsimp only
  rw [noneEvicted.evicted_sessionFor id now, if_neg Bool.false_ne_true]

theorem getElem?_reconcile (named : live.Named) (noneEvicted : live.NoneEvicted) (id : SessionId)
    (supplied : List Message) (now : Instant) :
    (live.reconcile id supplied now).2.1.sessions[id]? =
      some ((live.outcome id supplied now).1.touch now) := by
  rw [reconcile_of_noneEvicted named noneEvicted]
  exact Std.ExtTreeMap.getElem?_insert_self

end ChatMemory.Live
