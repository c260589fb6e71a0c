import ChatMemory.Engine
import ChatMemory.Proofs.Store.Run

/-!
What a memory can come to. Main statement: whatever is asked of it, its sessions stay consistent and
its postings list every term that a session holds.
-/

namespace ChatMemory.Engine

inductive Action
  | condense (id : String) (messages : List Message) (query : Option String) (now : Instant)
  | condenseTo (id : String) (messages : List Message) (query : Option String) (budget : Budget)
      (now : Instant)
  | search (text : String) (id : Option String) (limit : Nat)
  | title (messages : List Message)
  | history (id : String) (now : Instant)
  | titleSession (id : String) (now : Instant)
  | setTitle (id title : String) (now : Instant)
  | append (id : String) (messages : List Message) (now : Instant)
  | setPinned (id : String) (pinned : Bool) (now : Instant)
  | evict (id : String)
  | evictIdle (seconds : Int) (now : Instant)

variable {β : Type _} [Backend β]

def step (engine : Engine β) : Action → Engine β
  | .condense id messages query now => (engine.condense id messages query now).2
  | .condenseTo id messages query budget now => (engine.condenseTo id messages query budget now).2
  | .search text id limit => (engine.search text id limit).2
  | .title messages => (engine.title messages).2
  | .history id now => (engine.history id now).2
  | .titleSession id now => (engine.titleSession id now).2
  | .setTitle id title now => (engine.setTitle id title now).2
  | .append id messages now => (engine.append id messages now).2
  | .setPinned id pinned now => (engine.setPinned id pinned now).2
  | .evict id => (engine.evict id).2
  | .evictIdle seconds now => (engine.evictIdle seconds now).2

def run (engine : Engine β) (actions : List Action) : Engine β :=
  actions.foldl step engine

/-- What a memory can be after it was started on some backend, with settings that it accepts. -/
inductive Reachable : Engine β → Prop
  | started {settings : Settings} {backend : β} {engine : Engine β}
      (opening : (start settings backend).1 = .ok engine) : Reachable engine
  | acted {engine : Engine β} (action : Action) (before : Reachable engine) :
      Reachable (engine.step action)

/-! ## Steps -/

variable {engine : Engine β}

private theorem effects_condenseTo (named : engine.store.live.Named) (id : String)
    (messages : List Message) (query : Option String) (budget : Budget) (now : Instant) :
    ∃ writes added, Live.Effects engine.store.live
      (engine.condenseTo id messages query budget now).2.store.live writes added := by
  rw [condenseTo]
  split
  · exact ⟨_, _, .none _⟩
  · exact ⟨_, _, (Live.effect_reconcile named _ messages now).effects⟩

private theorem effects_append (named : engine.store.live.Named) (id : String)
    (messages : List Message) (now : Instant) :
    ∃ writes added, Live.Effects engine.store.live
      (engine.append id messages now).2.store.live writes added := by
  rw [append]
  split
  · exact ⟨_, _, .none _⟩
  · exact ⟨_, _, (Live.effect_append named _ messages now).effects⟩

private theorem effects_titleSession (id : String) (now : Instant) :
    ∃ writes added, Live.Effects engine.store.live
      (engine.titleSession id now).2.store.live writes added := by
  have looked : ∀ id, Live.Effects engine.store.live (engine.history id now).2.store.live [] 0 :=
    fun id => Live.effects_touch _ id now
  rw [titleSession]
  split
  · exact ⟨_, _, .none _⟩
  · rename_i id _
    split
    · rename_i answered
      have looked := looked id
      rw [answered] at looked
      exact ⟨_, _, looked⟩
    · rename_i answered
      have looked := looked id
      rw [answered] at looked
      exact ⟨_, _, looked.append (Live.effects_setTitle _ id _ now)⟩

theorem effects_setTitle (id title : String) (now : Instant) :
    ∃ writes added, Live.Effects engine.store.live
      (engine.setTitle id title now).2.store.live writes added := by
  rw [setTitle]
  split
  · exact ⟨_, _, .none _⟩
  · dsimp only
    split
    · exact ⟨_, _, .none _⟩
    · exact ⟨_, _, Live.effects_setTitle _ _ _ now⟩

theorem effects_setPinned (id : String) (pinned : Bool) (now : Instant) :
    ∃ writes added, Live.Effects engine.store.live
      (engine.setPinned id pinned now).2.store.live writes added := by
  rw [setPinned]
  split
  · exact ⟨_, _, .none _⟩
  · exact ⟨_, _, Live.effects_setPinned _ _ pinned now⟩

theorem effects_step (named : engine.store.live.Named) (action : Action) :
    ∃ writes added,
      Live.Effects engine.store.live (engine.step action).store.live writes added := by
  cases action with
  | condense id messages query now => exact effects_condenseTo named id messages query _ now
  | condenseTo id messages query budget now =>
      exact effects_condenseTo named id messages query budget now
  | search => exact ⟨_, _, .none _⟩
  | title => exact ⟨_, _, .none _⟩
  | history id now => exact ⟨_, _, Live.effects_touch _ id now⟩
  | titleSession id now => exact effects_titleSession id now
  | setTitle id title now => exact effects_setTitle id title now
  | append id messages now => exact effects_append named id messages now
  | setPinned id pinned now => exact effects_setPinned id pinned now
  | evict id => exact ⟨_, _, Live.effects_removeIf _ id _⟩
  | evictIdle seconds now => exact ⟨_, _, Live.effects_removeIdleOf _ _ _⟩

/-! ## Reachable memories -/

theorem live_of_start {settings : Settings} {backend : β}
    (opening : (start settings backend).1 = .ok engine) :
    ∃ records, (Backend.load backend).1 = .ok records ∧
      engine.store.live = .ofRecords records := by
  rw [start] at opening
  split at opening
  · cases opening
  · split at opening
    · cases opening
    · rename_i answered
      cases opening
      exact Store.live_of_load (congrArg Prod.fst answered)

theorem Reachable.run (reachable : engine.Reachable) (actions : List Action) :
    (engine.run actions).Reachable := by
  refine List.foldlRecOn actions step reachable ?_
  intro between before action _
  exact .acted action before

theorem Reachable.soundAndCovered (reachable : engine.Reachable) :
    engine.store.live.Sound ∧ engine.store.live.Covered := by
  induction reachable with
  | started opening =>
      rcases live_of_start opening with ⟨records, -, taken⟩
      rw [taken]
      exact Live.soundAndCovered_ofRecords records
  | acted action _ induction =>
      rcases effects_step induction.1.named action with ⟨_, _, effects⟩
      have changes := effects.changes
      exact ⟨changes.sound induction.1, changes.covered induction.1 induction.2⟩

theorem Reachable.noneEvicted (reachable : engine.Reachable) :
    engine.store.live.NoneEvicted := by
  induction reachable with
  | started opening =>
      rcases live_of_start opening with ⟨records, -, taken⟩
      rw [taken]
      exact Live.noneEvicted_ofRecords records
  | acted action before induction =>
      rcases effects_step before.soundAndCovered.1.named action with ⟨_, _, effects⟩
      exact effects.noneEvicted induction

end ChatMemory.Engine
