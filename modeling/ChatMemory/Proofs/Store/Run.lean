import ChatMemory.Proofs.Store.Effect
import ChatMemory.Proofs.Store.Listing
import ChatMemory.Proofs.Store.RepeatedRecords
import ChatMemory.Store

/-!
Runs of a store: any sequence of operations, with the backend refusing what it likes and the store
opened anew on it in between. Main statement: the postings agree with the sessions throughout, if
the backend never lists an id twice.
-/

namespace ChatMemory

namespace Store

inductive Action
  | reconcile (id : SessionId) (supplied : List Message) (now : Instant)
  | append (id : SessionId) (messages : List Message) (now : Instant)
  | setTitle (id : SessionId) (title : String) (now : Instant)
  | setPinned (id : SessionId) (pinned : Bool) (now : Instant)
  | remove (id : SessionId)
  | removeIdle (cutoff : Instant)
  | flush
  | reopen

def Action.added (live : Live) : Action → Nat
  | .reconcile id supplied now => (live.reconcile id supplied now).1.appended
  | .append id messages now =>
    (live.reconcile id ((live.sessionFor id now).history ++ messages) now).1.appended
  | _ => 0

variable {β : Type _} [Backend β]

/-- Opens the store anew on its backend. If that fails, the sessions stay as they are. -/
def reopen (store : Store β) : Store β :=
  match load store.backend with
  | (.ok opened, _) => opened
  | (.error _, backend) => { store with backend }

def step (store : Store β) : Action → Store β
  | .reconcile id supplied now => (store.reconcile id supplied now).2
  | .append id messages now => (store.append id messages now).2
  | .setTitle id title now => (store.setTitle id title now).2
  | .setPinned id pinned now => (store.setPinned id pinned now).2
  | .remove id => (store.remove id).2
  | .removeIdle cutoff => (store.removeIdle cutoff).2
  | .flush => store.flush.2
  | .reopen => store.reopen

def run (store : Store β) (actions : List Action) : Store β :=
  actions.foldl step store

/-! ## Steps -/

theorem live_of_load {backend : β} {store : Store β} (opened : (load backend).1 = .ok store) :
    ∃ records, (Backend.load backend).1 = .ok records ∧ store.live = .ofRecords records := by
  rw [load] at opened
  split at opened
  · rename_i records after answered
    cases opened
    exact ⟨records, by rw [answered], rfl⟩
  · cases opened

theorem loadChecked?_eq_some_iff {backend : β} {records : List SessionRecord}
    (listed : (Backend.load backend).1 = .ok records) :
    loadChecked? backend = some (load backend) ↔ Live.NumbersLeft records := by
  rcases answered : Backend.load backend with ⟨answer, after⟩
  rw [answered] at listed
  cases listed
  rw [loadChecked?, answered, ← Live.newestSequence_lt_iff]
  simp

@[simp] theorem live_flush (store : Store β) : store.flush.2.live = store.live := by
  rw [flush]
  split <;> rfl

theorem live_reopen (store : Store β) :
    store.reopen.live = store.live ∨
      ∃ records, (Backend.load store.backend).1 = .ok records ∧
        store.reopen.live = .ofRecords records := by
  rw [reopen]
  split
  · rename_i opened backend answered
    right
    exact live_of_load (congrArg Prod.fst answered)
  · exact .inl rfl

theorem reopen_of_load {backend : β} {opened : Store β} (live : Live)
    (opening : (load backend).1 = .ok opened) : reopen ⟨live, backend⟩ = opened := by
  rcases answered : load backend with ⟨answer, after⟩
  rw [answered] at opening
  cases opening
  rw [reopen, answered]

/-- Every action but flushing the store and opening it anew is a chain of effects, and the writes
that these ask for go to the backend. -/
theorem step_cases (store : Store β) (named : store.live.Named) (action : Action) :
    action = .reopen ∨ action = .flush ∨
      ∃ writes, Live.Effects store.live (store.step action).live writes (action.added store.live) ∧
        (store.step action).backend = Backend.writeAll writes store.backend := by
  cases action with
  | reconcile id supplied now =>
      exact .inr (.inr ⟨_, (Live.effect_reconcile named id supplied now).effects, rfl⟩)
  | append id messages now =>
      exact .inr (.inr ⟨_, (Live.effect_append named id messages now).effects, rfl⟩)
  | setTitle id title now =>
      exact .inr (.inr ⟨_, Live.effects_setTitle store.live id title now, rfl⟩)
  | setPinned id pinned now =>
      exact .inr (.inr ⟨_, Live.effects_setPinned store.live id pinned now, rfl⟩)
  | remove id => exact .inr (.inr ⟨_, Live.effects_removeIf store.live id _, rfl⟩)
  | removeIdle cutoff => exact .inr (.inr ⟨_, Live.effects_removeIdleOf cutoff store.live _, rfl⟩)
  | flush => exact .inr (.inl rfl)
  | reopen => exact .inl rfl

theorem effects_step (store : Store β) (named : store.live.Named) {action : Action}
    (unopened : action ≠ .reopen) :
    ∃ writes,
      Live.Effects store.live (store.step action).live writes (action.added store.live) := by
  rcases step_cases store named action with opens | rfl | ⟨writes, effects, -⟩
  · exact absurd opens unopened
  · rw [step, live_flush]
    exact ⟨_, .none _⟩
  · exact ⟨writes, effects⟩

theorem nextSequence_step (store : Store β) (named : store.live.Named) {action : Action}
    (unopened : action ≠ .reopen) :
    (store.step action).live.nextSequence =
      store.live.nextSequence + .ofNat (action.added store.live) := by
  rcases effects_step store named unopened with ⟨_, effects⟩
  exact effects.nextSequence

theorem run_invariant (Kept : Store β → Prop)
    (onStep : ∀ store action, Kept store → Kept (store.step action)) {store : Store β}
    (kept : Kept store) (actions : List Action) : Kept (store.run actions) := by
  induction actions generalizing store with
  | nil => exact kept
  | cons action rest induction => exact induction (onStep store action kept)

theorem sound_load {backend : β} {opened : Store β} (opening : (load backend).1 = .ok opened) :
    opened.live.Sound ∧ opened.live.NoneEvicted := by
  rcases live_of_load opening with ⟨records, -, taken⟩
  rw [taken]
  exact ⟨(Live.soundAndCovered_ofRecords records).1, Live.noneEvicted_ofRecords records⟩

theorem sound_step {store : Store β} (sound : store.live.Sound)
    (noneEvicted : store.live.NoneEvicted) (action : Action) :
    (store.step action).live.Sound ∧ (store.step action).live.NoneEvicted := by
  rcases step_cases store sound.named action with rfl | rfl | ⟨writes, effects, -⟩
  · rcases live_reopen store with same | ⟨records, -, taken⟩
    · rw [step, same]
      exact ⟨sound, noneEvicted⟩
    · rw [step, taken]
      exact ⟨(Live.soundAndCovered_ofRecords records).1, Live.noneEvicted_ofRecords records⟩
  · rw [step, live_flush]
    exact ⟨sound, noneEvicted⟩
  · exact ⟨effects.changes.sound sound, effects.noneEvicted noneEvicted⟩

theorem sound_run {backend : β} {opened : Store β} (opening : (load backend).1 = .ok opened)
    (actions : List Action) :
    (opened.run actions).live.Sound ∧ (opened.run actions).live.NoneEvicted :=
  run_invariant (fun store : Store β => store.live.Sound ∧ store.live.NoneEvicted)
    (fun _ action kept => sound_step kept.1 kept.2 action) (sound_load opening) actions

theorem indexed_step {store : Store β} (sound : store.live.Sound) (indexed : store.live.Indexed)
    (action : Action) (once : action = .reopen → Backend.ListsOnce store.backend) :
    (store.step action).live.Sound ∧ (store.step action).live.Indexed := by
  rcases step_cases store sound.named action with rfl | rfl | ⟨_, effects, -⟩
  · rcases live_reopen store with same | ⟨records, listed, taken⟩
    · rw [step, same]
      exact ⟨sound, indexed⟩
    · rw [step, taken]
      exact ⟨(Live.soundAndCovered_ofRecords records).1,
        Live.indexed_ofRecords (once rfl _ listed)⟩
  · rw [step, live_flush]
    exact ⟨sound, indexed⟩
  · have changes := effects.changes
    exact ⟨changes.sound sound, changes.indexed sound indexed⟩

private theorem indexed_run {store : Store β} (sound : store.live.Sound)
    (indexed : store.live.Indexed) {actions : List Action}
    (once : ∀ earlier, earlier ++ [.reopen] <+: actions →
      Backend.ListsOnce (store.run earlier).backend) :
    (store.run actions).live.Sound ∧ (store.run actions).live.Indexed := by
  induction actions generalizing store with
  | nil => exact ⟨sound, indexed⟩
  | cons action rest induction =>
      have stepped := indexed_step sound indexed action (by
        intro opens
        subst opens
        exact once [] (List.prefix_append [Action.reopen] rest))
      apply induction stepped.1 stepped.2
      intro earlier before
      exact once (action :: earlier) (List.cons_prefix_cons.mpr ⟨rfl, before⟩)

theorem backend_reopen (store : Store β) :
    store.reopen.backend = (Backend.load store.backend).2 := by
  rw [reopen, load]
  rcases Backend.load store.backend with ⟨_ | _, backend⟩ <;> rfl

theorem backend_flush_invariant (Kept : β → Prop) {store : Store β}
    (onSave : ∀ request ∈ store.live.saves, ∀ backend, Kept backend →
      Kept (Backend.write request backend).2)
    (onFlush : ∀ backend, Kept backend → Kept (Backend.flush backend).2)
    (kept : Kept store.backend) : Kept store.flush.2.backend := by
  have saved := Backend.writeUntilRefused_invariant Kept onSave kept
  rw [flush]
  split
  · rename_i refused
    rw [refused] at saved
    exact saved
  · rename_i accepted
    rw [accepted] at saved
    exact onFlush _ saved

section

variable (Kept : β → Prop)
  (onLoad : ∀ backend, Kept backend → Kept (Backend.load backend).2)
  (onWrite : ∀ request backend, Kept backend → Kept (Backend.write request backend).2)
  (onFlush : ∀ backend, Kept backend → Kept (Backend.flush backend).2)

include onLoad onWrite onFlush

theorem backend_step_invariant {store : Store β} (kept : Kept store.backend) (action : Action) :
    Kept (store.step action).backend := by
  cases action with
  | flush => exact backend_flush_invariant Kept (fun request _ => onWrite request) onFlush kept
  | reopen =>
      rw [step, backend_reopen]
      exact onLoad _ kept
  | _ => exact Backend.writeAll_invariant Kept (fun request _ => onWrite request) kept

private theorem backend_run_invariant {store : Store β} (kept : Kept store.backend)
    (actions : List Action) : Kept (store.run actions).backend :=
  run_invariant (fun store => Kept store.backend)
    (fun _ action kept => backend_step_invariant Kept onLoad onWrite onFlush kept action) kept
    actions

end

/-- Throughout a run the postings agree with the sessions, whatever writes the backend refuses. All
that is asked of the backend is that it never lists an id twice when it is opened. -/
theorem postings_agree_in_run {backend : β} {opened : Store β}
    (opening : (load backend).1 = .ok opened) (actions : List Action)
    (once : Backend.ListsOnce backend)
    (onceAgain : ∀ earlier, earlier ++ [.reopen] <+: actions →
      Backend.ListsOnce (opened.run earlier).backend) :
    let live := (opened.run actions).live
    (∀ id term, id ∈ live.postings.sessionsFor term ↔
      ∃ session, live.sessions[id]? = some session ∧ term ∈ session.vocabulary) ∧
    (∀ (term : String) (sessions : Std.ExtTreeSet SessionId),
      live.postings.sessionsByTerm[term]? = some sessions → sessions ≠ ∅) ∧
    live.postings.termCount = live.terms.dedup.length := by
  rcases live_of_load opening with ⟨records, listed, taken⟩
  have start : opened.live.Sound ∧ opened.live.Indexed := by
    rw [taken]
    exact ⟨(Live.soundAndCovered_ofRecords records).1,
      Live.indexed_ofRecords (once records listed)⟩
  have reached := indexed_run start.1 start.2 onceAgain
  exact ⟨reached.2.listed_iff, reached.2.noneEmpty, reached.2.termCount_eq reached.1⟩

/-- A run in which a refused deletion brings a session back, which then loses a term that it shares
with another session. -/
theorem postings_agree_after_refused_deletion :
    let backend : Watched Archive := ⟨.empty, [.delete], []⟩
    let opened : Store (Watched Archive) :=
      ⟨.ofRecords Archive.empty.toList, ⟨.empty, [.delete], ["load"]⟩⟩
    let actions : List Action :=
      [.reconcile "a" [⟨.user, "paris weather"⟩] ⟨1, 0⟩,
        .reconcile "b" [⟨.user, "tokyo weather"⟩] ⟨2, 0⟩, .remove "a", .reopen,
        .reconcile "a" [⟨.user, "paris"⟩] ⟨3, 0⟩]
    (load backend).1 = .ok opened ∧ Backend.ListsOnce backend ∧
      (∀ earlier, earlier ++ [.reopen] <+: actions →
        Backend.ListsOnce (opened.run earlier).backend) ∧
      ∀ id term, id ∈ (opened.run actions).live.postings.sessionsFor term ↔
        ∃ session, (opened.run actions).live.sessions[id]? = some session ∧
          term ∈ session.vocabulary := by
  intro backend opened actions
  have opening : (load backend).1 = .ok opened := rfl
  have once : Backend.ListsOnce backend := Watched.listsOnce_of_named Archive.named_empty
  have onceAgain : ∀ earlier, earlier ++ [.reopen] <+: actions →
      Backend.ListsOnce (opened.run earlier).backend := by
    intro earlier _
    apply Watched.listsOnce_of_named
    apply backend_run_invariant (fun backend : Watched Archive => backend.inner.Named)
    · exact fun backend named => Watched.named_load named
    · exact fun request backend named => Watched.named_write named request
    · exact fun backend named => Watched.named_flush named
    · exact Archive.named_empty
  exact ⟨opening, once, onceAgain, (postings_agree_in_run opening actions once onceAgain).1⟩

end Store

end ChatMemory
