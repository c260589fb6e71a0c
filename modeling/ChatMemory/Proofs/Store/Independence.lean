import ChatMemory.Proofs.Session.Stamps
import ChatMemory.Proofs.Store.Isolation
import ChatMemory.Proofs.Store.Locality

/-!
Operations on one session. Main statements: an operation leaves all other sessions alone, and what
it does to its own depends on nothing else but the numbers and times that it is given.
-/

namespace ChatMemory

def Store.Action.subject? : Store.Action → Option SessionId
  | .reconcile id .. => some id
  | .append id .. => some id
  | .setTitle id .. => some id
  | .setPinned id .. => some id
  | .remove id => some id
  | .removeIdle _ => none
  | .flush => none
  | .reopen => none

def Store.Action.at (now : Instant) : Store.Action → Store.Action
  | .reconcile id supplied _ => .reconcile id supplied now
  | .append id messages _ => .append id messages now
  | .setTitle id title _ => .setTitle id title now
  | .setPinned id pinned _ => .setPinned id pinned now
  | .remove id => .remove id
  | .removeIdle cutoff => .removeIdle cutoff
  | .flush => .flush
  | .reopen => .reopen

inductive Write.Alike (stamps : Stamps) : Write → Write → Prop
  | save {first second : SessionRecord} (alike : first.Alike stamps second) :
      Alike stamps (.save first) (.save second)
  | delete (id : SessionId) : Alike stamps (.delete id) (.delete id)

theorem Write.Alike.subject {stamps : Stamps} {first second : Write}
    (alike : Write.Alike stamps first second) : first.subject = second.subject := by
  cases alike with
  | save alike => exact alike.id
  | delete => rfl

theorem Write.Alike.record? {stamps : Stamps} {first second : Write}
    (alike : Write.Alike stamps first second) :
    Option.Rel (SessionRecord.Alike stamps) first.record? second.record? := by
  cases alike with
  | save alike => exact .some alike
  | delete => exact .none

namespace Archive

variable {stamps : Stamps} {writes others : List Write} {id : SessionId}

theorem getElem?_writeAll_of_ne (elsewhere : ∀ request ∈ writes, request.subject ≠ id)
    (archive : Archive) :
    (Backend.writeAll writes archive).records[id]? = archive.records[id]? := by
  refine Backend.writeAll_invariant
    (fun after : Archive => after.records[id]? = archive.records[id]?) ?_ rfl
  intro request asked between same
  exact (getElem?_apply_of_ne (elsewhere request asked)).trans same

theorem rel_writeAll (alike : List.Forall₂ (Write.Alike stamps) writes others)
    {first second : Archive}
    (before : Option.Rel (SessionRecord.Alike stamps) first.records[id]? second.records[id]?) :
    Option.Rel (SessionRecord.Alike stamps) (Backend.writeAll writes first).records[id]?
      (Backend.writeAll others second).records[id]? := by
  induction alike generalizing first second with
  | nil => exact before
  | @cons request other rest later alike _ induction =>
      apply @induction (first.apply request) (second.apply other)
      by_cases about : request.subject = id
      · have otherAbout := alike.subject.symm.trans about
        have written := first.getElem?_apply_self request
        have otherWritten := second.getElem?_apply_self other
        rw [about] at written
        rw [otherAbout] at otherWritten
        rw [written, otherWritten]
        exact alike.record?
      · have otherElsewhere : other.subject ≠ id := fun same => about (alike.subject.trans same)
        rwa [getElem?_apply_of_ne about, getElem?_apply_of_ne otherElsewhere]

end Archive

namespace Live

variable {live : Live} {id : SessionId}

theorem local_respond (named : live.Named) {action : Store.Action}
    (addressed : action.subject? = some id) {outcome : Store.Answer × Live × List Write}
    (responds : live.respond? action = some outcome) :
    Local id live outcome.2.1 outcome.2.2 := by
  cases action with
  | reconcile session supplied now =>
      cases addressed
      cases responds
      exact local_reconcile named id supplied now
  | append session messages now =>
      cases addressed
      cases responds
      exact local_append named id messages now
  | setTitle session title now =>
      cases addressed
      cases responds
      exact local_amend named id fun _ => rfl
  | setPinned session pinned now =>
      cases addressed
      cases responds
      exact local_amend named id fun _ => rfl
  | remove session =>
      cases addressed
      cases responds
      exact local_removeIf live id _
  | removeIdle cutoff => cases addressed
  | flush => cases addressed
  | reopen => cases addressed

/-! ## What an operation does to its own session -/

/-- Two operations gave the same answer and did the same to the session of the id, but for what was
handed out to them. -/
structure Parallel {α : Type _} (stamps : Stamps) (id : SessionId)
    (outcome other : α × Live × List Write) : Prop where
  answer : outcome.1 = other.1
  session : Option.Rel (Session.Alike stamps) outcome.2.1.sessions[id]? other.2.1.sessions[id]?
  writes : List.Forall₂ (Write.Alike stamps) outcome.2.2 other.2.2

theorem Parallel.map {α γ : Type _} {stamps : Stamps} {outcome other : α × Live × List Write}
    (parallel : Parallel stamps id outcome other) (read : α → γ) :
    Parallel stamps id (outcome.map read (·)) (other.map read (·)) where
  answer := congrArg read parallel.answer
  session := parallel.session
  writes := parallel.writes

structure Agreeing (stamps : Stamps) (id : SessionId) (first second : Live) : Prop where
  named : first.Named ∧ second.Named
  noneEvicted : first.NoneEvicted ∧ second.NoneEvicted
  session : Option.Rel (Session.Alike stamps) first.sessions[id]? second.sessions[id]?

private theorem alike_sessionFor {stamps : Stamps} {first second : Live} {now later : Instant}
    (session : Option.Rel (Session.Alike stamps) first.sessions[id]? second.sessions[id]?)
    (times : now ∈ stamps.times ∧ later ∈ stamps.times) :
    (first.sessionFor id now).Alike stamps (second.sessionFor id later) := by
  rw [sessionFor, sessionFor]
  generalize first.sessions[id]? = slot, second.sessions[id]? = other at session
  cases session with
  | none => exact Session.alike_new times id
  | some alike => exact alike

section

variable {stamps : Stamps} {first second : Live} (agreeing : Agreeing stamps id first second)
  {now later : Instant} (times : now ∈ stamps.times ∧ later ∈ stamps.times)

include agreeing

private theorem parallel_refl {α : Type _} (answer : α) :
    Parallel stamps id (answer, first, []) (answer, second, []) where
  answer := rfl
  session := agreeing.session
  writes := .nil

private theorem parallel_remove : Parallel stamps id (first.remove id) (second.remove id) := by
  rw [remove, remove, removeIf, removeIf]
  have session := agreeing.session
  generalize first.sessions[id]? = slot, second.sessions[id]? = other at session
  cases session with
  | none => exact parallel_refl agreeing false
  | some alike =>
      refine ⟨rfl, ?_, .cons (.delete id) .nil⟩
      simp only [if_true, Std.ExtTreeMap.getElem?_erase_self]
      exact .none

private theorem parallel_amend {amendment other : Session → Session}
    (alike : ∀ {session again : Session}, session.Alike stamps again →
      (amendment session).Alike stamps (other again)) :
    Parallel stamps id (first.amend id amendment) (second.amend id other) := by
  rw [amend, amend]
  have session := agreeing.session
  generalize first.sessions[id]? = slot, second.sessions[id]? = otherSlot at session
  cases session with
  | none => exact parallel_refl agreeing false
  | some before =>
      dsimp only
      rw [before.evicted]
      split
      · exact parallel_refl agreeing false
      · refine ⟨rfl, ?_, .cons (.save (alike before).toRecord) .nil⟩
        simp only [Std.ExtTreeMap.getElem?_insert_self]
        exact .some (alike before)

include times

private theorem parallel_reconcile (supplied : List Message)
    (numbers : stamps.HandOut first.nextSequence.toNat
      (second.reconcile id supplied later).1.appended)
    (otherNumbers : stamps.HandOut second.nextSequence.toNat
      (second.reconcile id supplied later).1.appended) :
    Parallel stamps id (first.reconcile id supplied now) (second.reconcile id supplied later) := by
  rw [reconcile_of_noneEvicted agreeing.named.2 agreeing.noneEvicted.2] at numbers otherNumbers ⊢
  rw [reconcile_of_noneEvicted agreeing.named.1 agreeing.noneEvicted.1]
  have alike : (first.outcome id supplied now).2 = (second.outcome id supplied later).2 ∧
      (first.outcome id supplied now).1.Alike stamps (second.outcome id supplied later).1 :=
    (alike_sessionFor agreeing.session times).reconcile supplied numbers otherNumbers times
  have touched := alike.2.touch times
  refine ⟨alike.1, ?_, ?_⟩
  · simp only [Std.ExtTreeMap.getElem?_insert_self]
    exact .some touched
  · rw [alike.1]
    split
    · exact .cons (.save touched.toRecord) .nil
    · exact .nil

private theorem parallel_append (messages : List Message)
    (numbers : stamps.HandOut first.nextSequence.toNat
      ((Store.Action.append id messages later).added second))
    (otherNumbers : stamps.HandOut second.nextSequence.toNat
      ((Store.Action.append id messages later).added second)) :
    Parallel stamps id (first.append id messages now) (second.append id messages later) := by
  have alike := alike_sessionFor agreeing.session times
  rw [append_of_noneEvicted agreeing.noneEvicted.1, append_of_noneEvicted agreeing.noneEvicted.2,
    alike.history]
  have reconciled := parallel_reconcile agreeing times
    ((second.sessionFor id later).history ++ messages) numbers otherNumbers
  refine ⟨?_, reconciled.session, reconciled.writes⟩
  exact (alike_sessionFor reconciled.session times).size

theorem added_eq {action : Store.Action} (addressed : action.subject? = some id) :
    (action.at now).added first = (action.at later).added second := by
  have alike := alike_sessionFor agreeing.session times
  have reconciled : ∀ supplied : List Message,
      (first.reconcile id supplied now).1.appended =
        (second.reconcile id supplied later).1.appended := by
    intro supplied
    rw [reconcile_of_noneEvicted agreeing.named.1 agreeing.noneEvicted.1,
      reconcile_of_noneEvicted agreeing.named.2 agreeing.noneEvicted.2, outcome, outcome,
      Session.appended_reconcile, Session.appended_reconcile, alike.history]
  cases action with
  | reconcile session supplied time =>
      cases addressed
      exact reconciled supplied
  | append session messages time =>
      cases addressed
      simp only [Store.Action.at, Store.Action.added, alike.history]
      exact reconciled _
  | _ => rfl

theorem parallel_respond {action : Store.Action} (addressed : action.subject? = some id)
    (numbers : stamps.HandOut first.nextSequence.toNat ((action.at later).added second))
    (otherNumbers : stamps.HandOut second.nextSequence.toNat ((action.at later).added second)) :
    ∃ outcome other, first.respond? (action.at now) = some outcome ∧
      second.respond? (action.at later) = some other ∧ Parallel stamps id outcome other := by
  cases action with
  | reconcile session supplied time =>
      cases addressed
      have parallel := parallel_reconcile agreeing times supplied numbers otherNumbers
      exact ⟨_, _, rfl, rfl, parallel.map Store.Answer.report⟩
  | append session messages time =>
      cases addressed
      have parallel := parallel_append agreeing times messages numbers otherNumbers
      exact ⟨_, _, rfl, rfl, parallel.map Store.Answer.size⟩
  | setTitle session title time =>
      cases addressed
      refine ⟨_, _, rfl, rfl, (parallel_amend agreeing ?_).map Store.Answer.found⟩
      exact fun alike => alike.setTitle times title
  | setPinned session pinned time =>
      cases addressed
      refine ⟨_, _, rfl, rfl, (parallel_amend agreeing ?_).map Store.Answer.found⟩
      exact fun alike => alike.setPinned times pinned
  | remove session =>
      cases addressed
      exact ⟨_, _, rfl, rfl, (parallel_remove agreeing).map Store.Answer.found⟩
  | removeIdle cutoff => cases addressed
  | flush => cases addressed
  | reopen => cases addressed

end

end Live

end ChatMemory
