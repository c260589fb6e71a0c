import ChatMemory.Proofs.Store.Flushing

/-!
What a store answers, and what of it a backend can be noticed by. Main statement: two runs of the
same actions, on backends that hold the same records at first and refuse what they like, cannot be
told apart by any answer or by the sessions after any step.
-/

namespace ChatMemory

namespace Store

inductive Answer
  | report (report : Reconciliation)
  | size (size : Nat)
  | found (found : Bool)
  | count (count : Nat)
  | outcome (outcome : Except Failure Unit)

variable {β γ : Type _} [Backend β] [Backend γ]

def answer (store : Store β) : Action → Answer
  | .reconcile id supplied now => .report (store.reconcile id supplied now).1
  | .append id messages now => .size (store.append id messages now).1
  | .setTitle id title now => .found (store.setTitle id title now).1
  | .setPinned id pinned now => .found (store.setPinned id pinned now).1
  | .remove id => .found (store.remove id).1
  | .removeIdle cutoff => .count (store.removeIdle cutoff).1
  | .flush => .outcome store.flush.1
  | .reopen => .outcome ((load store.backend).1.map fun _ => ())

def trace (store : Store β) : List Action → List (Answer × Live)
  | [] => []
  | action :: rest =>
    (store.answer action, (store.step action).live) :: (store.step action).trace rest

end Store

/-- What an action does to the sessions and asks to be written, unless it only deals with the
backend. -/
def Live.respond? (live : Live) : Store.Action → Option (Store.Answer × Live × List Write)
  | .reconcile session supplied now => some ((live.reconcile session supplied now).map .report id)
  | .append session messages now => some ((live.append session messages now).map .size id)
  | .setTitle session title now => some ((live.setTitle session title now).map .found id)
  | .setPinned session pinned now => some ((live.setPinned session pinned now).map .found id)
  | .remove session => some ((live.remove session).map .found id)
  | .removeIdle cutoff => some ((live.removeIdle cutoff).map .count id)
  | .flush => none
  | .reopen => none

namespace Store

variable {β γ : Type _} [Backend β] [Backend γ]

theorem step_of_respond {store : Store β} {action : Action} {outcome : Answer × Live × List Write}
    (responds : store.live.respond? action = some outcome) :
    store.answer action = outcome.1 ∧
      store.step action = ⟨outcome.2.1, Backend.writeAll outcome.2.2 store.backend⟩ := by
  cases action with
  | flush => cases responds
  | reopen => cases responds
  | _ =>
      cases responds
      exact ⟨rfl, rfl⟩

theorem exists_respond (live : Live) {action : Action}
    (direct : action ≠ .flush ∧ action ≠ .reopen) :
    ∃ outcome, live.respond? action = some outcome := by
  cases action with
  | flush => exact absurd rfl direct.1
  | reopen => exact absurd rfl direct.2
  | _ => exact ⟨_, rfl⟩

private theorem step_congr {store : Store β} {other : Store γ} (same : store.live = other.live)
    {action : Action} (direct : action ≠ .flush ∧ action ≠ .reopen) :
    store.answer action = other.answer action ∧
      (store.step action).live = (other.step action).live := by
  rcases exists_respond store.live direct with ⟨outcome, responds⟩
  have stepped := step_of_respond responds
  rw [same] at responds
  have otherStepped := step_of_respond responds
  rw [stepped.1, stepped.2, otherStepped.1, otherStepped.2]
  exact ⟨rfl, rfl⟩

private theorem trace_congr {store : Store β} {other : Store γ} (same : store.live = other.live)
    {actions : List Action} (direct : ∀ action ∈ actions, action ≠ .flush ∧ action ≠ .reopen) :
    store.trace actions = other.trace actions := by
  induction actions generalizing store other with
  | nil => rfl
  | cons action rest induction =>
      rcases List.forall_mem_cons.mp direct with ⟨first, later⟩
      have stepped := step_congr same first
      rw [trace, trace, stepped.1, stepped.2, induction stepped.2 later]

/-- Whatever two backends refuse of a run, every action gives the same answer on both, and leaves
the same sessions, postings and next number. All that the backends need to share is the records that
they list when the stores are opened. -/
theorem refusals_leave_no_trace {backend : β} {otherBackend : γ} {records : List SessionRecord}
    (listed : (Backend.load backend).1 = .ok records)
    (otherListed : (Backend.load otherBackend).1 = .ok records) {opened : Store β}
    {otherOpened : Store γ} (opening : (load backend).1 = .ok opened)
    (otherOpening : (load otherBackend).1 = .ok otherOpened) {actions : List Action}
    (direct : ∀ action ∈ actions, action ≠ .flush ∧ action ≠ .reopen) :
    opened.trace actions = otherOpened.trace actions := by
  rcases live_of_load opening with ⟨taken, takenListed, live⟩
  rcases live_of_load otherOpening with ⟨otherTaken, otherTakenListed, otherLive⟩
  have same : taken = otherTaken := by
    rw [takenListed] at listed
    rw [otherTakenListed] at otherListed
    cases listed
    cases otherListed
    rfl
  apply trace_congr _ direct
  rw [live, otherLive, same]

/-- Two runs on the same record. One backend refuses every other write, and lists other sessions
than the other in the end. -/
theorem refusals_leave_no_trace_of_missed_writes :
    let archive := Archive.empty.apply
      (.save ⟨"old", [⟨⟨.user, "paris weather"⟩, 0, 7⟩], none, false, ⟨1, 0⟩, ⟨1, 0⟩⟩)
    let backend : Unreliable := ⟨archive, fun _ _ => none, []⟩
    let otherBackend : Unreliable :=
      ⟨archive, fun number _ => if number % 2 = 0 then some ⟨.storage, "refused"⟩ else none, []⟩
    let opened : Store Unreliable := ⟨.ofRecords archive.toList, backend⟩
    let otherOpened : Store Unreliable := ⟨.ofRecords archive.toList, otherBackend⟩
    let actions : List Action :=
      [.append "new" [⟨.user, "paris"⟩] ⟨2, 0⟩, .setTitle "new" "Paris" ⟨3, 0⟩, .remove "old",
        .reconcile "third" [⟨.user, "tokyo"⟩] ⟨4, 0⟩, .setPinned "new" true ⟨5, 0⟩,
        .removeIdle ⟨9, 0⟩]
    (Backend.load backend).1 = .ok archive.toList ∧
      (Backend.load otherBackend).1 = .ok archive.toList ∧
      (load backend).1 = .ok opened ∧ (load otherBackend).1 = .ok otherOpened ∧
      (∀ action ∈ actions, action ≠ .flush ∧ action ≠ .reopen) ∧
      opened.trace actions = otherOpened.trace actions ∧
      (opened.run actions).backend.archive.toList.map (·.id) = ["new"] ∧
      (otherOpened.run actions).backend.archive.toList.map (·.id) = ["new", "old"] := by
  intro archive backend otherBackend opened otherOpened actions
  have listed : (Backend.load backend).1 = .ok archive.toList := rfl
  have otherListed : (Backend.load otherBackend).1 = .ok archive.toList := rfl
  have opening : (load backend).1 = .ok opened := rfl
  have otherOpening : (load otherBackend).1 = .ok otherOpened := rfl
  have direct : ∀ action ∈ actions, action ≠ .flush ∧ action ≠ .reopen := by
    simp [actions]
  refine ⟨listed, otherListed, opening, otherOpening, direct, ?_, ?_, ?_⟩
  · exact refusals_leave_no_trace listed otherListed opening otherOpening direct
  · decide
  · decide

end Store

end ChatMemory
