import ChatMemory.Proofs.Session.Reconciling
import ChatMemory.Proofs.Store.Commuting
import ChatMemory.Proofs.Store.IdleEviction
import ChatMemory.Proofs.Store.Mirroring

/-!
Sessions that are pinned. Main statement: just the idle sessions that are not pinned are given up
when idle ones are asked to go, and a pinned session stays with its history until it is unpinned or
removed.
-/

namespace ChatMemory

/-! ## Pinned sessions -/

namespace Live

variable {live after : Live} {id other : SessionId} {history : List Message} {writes : List Write}
  {now : Instant}

def HasPinned (live : Live) (id : SessionId) (history : List Message) : Prop :=
  ∃ session, live.sessions[id]? = some session ∧ session.pinned = true ∧ session.history = history

private theorem HasPinned.of_eq (pinned : live.HasPinned id history)
    (same : after.sessions[id]? = live.sessions[id]?) : after.HasPinned id history := by
  rw [HasPinned, same]
  exact pinned

private theorem HasPinned.of_local (pinned : live.HasPinned id history)
    (alone : Local other live after writes) (different : other ≠ id) :
    after.HasPinned id history :=
  pinned.of_eq (alone.elsewhere id different)

theorem HasPinned.insert {session : Session} (pinned : session.pinned = true)
    {postings : Postings} {nextSequence : UInt64} :
    HasPinned ⟨live.sessions.insert id session, postings, nextSequence⟩ id session.history :=
  ⟨session, Std.ExtTreeMap.getElem?_insert_self, pinned, rfl⟩

theorem HasPinned.exists_session (pinned : live.HasPinned id history) :
    ∃ session, (∀ now, live.sessionFor id now = session) ∧ session.pinned = true ∧
      session.history = history := by
  rcases pinned with ⟨session, found, held⟩
  refine ⟨session, fun now => ?_, held⟩
  rw [sessionFor, found]
  rfl

theorem HasPinned.reconcile (pinned : live.HasPinned id history) (named : live.Named)
    (noneEvicted : live.NoneEvicted) (supplied : List Message) (now : Instant) :
    (live.reconcile id supplied now).2.1.HasPinned id
      (continuation history supplied (sharedLength history supplied)
        (overlapLength supplied history)) := by
  rcases pinned.exists_session with ⟨session, there, isPinned, rfl⟩
  refine ⟨_, getElem?_reconcile named noneEvicted id supplied now, ?_, ?_⟩
  · rw [outcome, there]
    exact Session.pinned_reconcile.trans isPinned
  · rw [outcome, there]
    exact Session.history_reconcile session supplied live.nextSequence.toNat now

theorem HasPinned.append (pinned : live.HasPinned id history) (named : live.Named)
    (noneEvicted : live.NoneEvicted) (messages : List Message) (now : Instant) :
    (live.append id messages now).2.1.HasPinned id (history ++ messages) := by
  rcases pinned.exists_session with ⟨session, there, isPinned, rfl⟩
  rw [append_of_noneEvicted noneEvicted, there]
  refine ⟨_, getElem?_reconcile named noneEvicted id _ now, ?_, ?_⟩
  · rw [outcome, there]
    exact Session.pinned_reconcile.trans isPinned
  · rw [outcome, there]
    exact Session.history_reconcile_append session messages live.nextSequence.toNat now

theorem HasPinned.amend (pinned : live.HasPinned id history) (noneEvicted : live.NoneEvicted)
    {amendment : Session → Session}
    (kept : ∀ session, session.pinned = true → (amendment session).pinned = true)
    (same : ∀ session, (amendment session).history = session.history) :
    (live.amend id amendment).2.1.HasPinned id history := by
  rcases pinned with ⟨session, found, pinned, rfl⟩
  rw [amend_of_noneEvicted noneEvicted found, ← same session]
  exact .insert (kept session pinned)

theorem HasPinned.removeIdle (pinned : live.HasPinned id history) (cutoff : Instant) :
    (live.removeIdle cutoff).2.1.HasPinned id history := by
  rcases pinned with ⟨session, found, pinned, same⟩
  refine ⟨session, ?_, pinned, same⟩
  rw [getElem?_removeIdle, found, Option.filter_some, isIdle, pinned]
  rfl

theorem HasPinned.ensure (pinned : live.HasPinned id history) (named : live.Named)
    (other : SessionId) (now : Instant) : (live.ensure other now).HasPinned id history := by
  rw [Live.ensure, put, named.id_sessionFor]
  by_cases own : other = id
  · subst own
    rcases pinned.exists_session with ⟨session, there, isPinned, rfl⟩
    rw [there]
    exact .insert isPinned
  · refine pinned.of_eq ?_
    simp [own]

theorem HasPinned.touch (pinned : live.HasPinned id history) (other : SessionId) (now : Instant) :
    (live.touch other now).HasPinned id history := by
  rcases pinned with ⟨session, found, pinned, rfl⟩
  rw [HasPinned, Live.touch, lookup_alter]
  split
  · rename_i own
    rw [own, found]
    exact ⟨session.touch now, rfl, pinned, rfl⟩
  · exact ⟨session, found, pinned, rfl⟩

end Live

/-! ## What is done with a store -/

namespace Store

variable {β : Type _} [Backend β] {store : Store β} {id : SessionId} {history : List Message}

/-- What can be done with a store: an action, or making or looking at a session by itself. -/
inductive Use
  | act (action : Action)
  | ensure (id : SessionId) (now : Instant)
  | touch (id : SessionId) (now : Instant)

def use (store : Store β) : Use → Store β
  | .act action => store.step action
  | .ensure id now => { store with live := store.live.ensure id now }
  | .touch id now => { store with live := store.live.touch id now }

def uses (store : Store β) (course : List Use) : Store β :=
  course.foldl use store

def Use.Releases (id : SessionId) : Use → Prop
  | .act (.setPinned other pinned _) => other = id ∧ pinned = false
  | .act (.remove other) => other = id
  | _ => False

/-- What becomes of the history of a session. Only what is reconciled with it or appended to it
makes a difference. -/
def Use.historyAfter (id : SessionId) (history : List Message) : Use → List Message
  | .act (.reconcile other supplied _) =>
    if other = id then
      continuation history supplied (sharedLength history supplied) (overlapLength supplied history)
    else history
  | .act (.append other messages _) => if other = id then history ++ messages else history
  | _ => history

private theorem sound_use (sound : store.live.Sound) (noneEvicted : store.live.NoneEvicted)
    (use : Use) :
    (store.use use).live.Sound ∧ (store.use use).live.NoneEvicted := by
  cases use with
  | act action => exact sound_step sound noneEvicted action
  | ensure id now =>
      have effect := Live.effect_put sound.named id now
      exact ⟨effect.change.sound sound, effect.noneEvicted noneEvicted⟩
  | touch id now =>
      have effects := Live.effects_touch store.live id now
      exact ⟨effects.changes.sound sound, effects.noneEvicted noneEvicted⟩

private theorem uses_invariant (Kept : Store β → Prop)
    (onUse : ∀ store use, Kept store → Kept (store.use use)) (kept : Kept store)
    (course : List Use) : Kept (store.uses course) :=
  List.foldlRecOn course use kept fun store kept use _ => onUse store use kept

private theorem sound_uses {backend : β} {opened : Store β}
    (opening : (load backend).1 = .ok opened) (course : List Use) :
    (opened.uses course).live.Sound ∧ (opened.uses course).live.NoneEvicted :=
  uses_invariant (fun store : Store β => store.live.Sound ∧ store.live.NoneEvicted)
    (fun _ use kept => sound_use kept.1 kept.2 use) (sound_load opening) course

/-! ### Staying pinned -/

variable {Holds : β → Archive → Prop}

def Recorded (Holds : β → Archive → Prop) (id : SessionId) (store : Store β) : Prop :=
  ∃ archive, (Holds store.backend archive ∧ archive.Named) ∧
    Live.Mirrored store.live.sessions[id]? archive.records[id]?

theorem Recorded.reopen (recorded : store.Recorded Holds id) (works : Backend.Works Holds)
    (sound : store.live.Sound) (pinned : store.live.HasPinned id history) :
    store.reopen.Recorded Holds id ∧ store.reopen.live.HasPinned id history := by
  rcases recorded with ⟨archive, ⟨holds, named⟩, mirrored⟩
  rcases load_of_holds works holds with ⟨after, again, loaded⟩
  rcases pinned with ⟨session, found, pinned, rfl⟩
  rcases mirrored.reopened named (sound.consistent id) with ⟨reopened, mirroredAgain⟩
  rw [Store.reopen, loaded]
  refine ⟨⟨archive, ⟨again, named⟩, mirroredAgain⟩, ?_⟩
  rw [found] at reopened
  rw [Live.HasPinned]
  generalize (Live.ofRecords archive.toList).sessions[id]? = slot at reopened ⊢
  cases reopened with
  | restored => exact ⟨_, rfl, pinned, rfl⟩
  | lost bare =>
      rw [bare.pinned] at pinned
      cases pinned

theorem Recorded.flush (recorded : store.Recorded Holds id) (works : Backend.Works Holds)
    (named : store.live.Named) : store.flush.2.Recorded Holds id := by
  rw [Recorded, live_flush]
  refine backend_flush_invariant
    (fun backend => ∃ archive, (Holds backend archive ∧ archive.Named) ∧
      Live.Mirrored store.live.sessions[id]? archive.records[id]?) ?_ ?_ recorded
  · rintro request asked backend ⟨archive, ⟨holds, namedArchive⟩, mirrored⟩
    exact ⟨_, ⟨(works.write request holds).2, namedArchive.apply request⟩,
      mirrored.write (Live.confirms_of_mem_saves named asked)⟩
  · rintro backend ⟨archive, ⟨holds, namedArchive⟩, mirrored⟩
    exact ⟨archive, ⟨(works.flush holds).2, namedArchive⟩, mirrored⟩

theorem Recorded.effects (recorded : store.Recorded Holds id) (works : Backend.Works Holds)
    (named : store.live.Named) {after : Live} {writes : List Write}
    {added : Nat} (effects : Live.Effects store.live after writes added) :
    Recorded Holds id ⟨after, Backend.writeAll writes store.backend⟩ := by
  rcases recorded with ⟨archive, ⟨holds, namedArchive⟩, mirrored⟩
  refine ⟨_, ⟨works.writeAll writes holds, ?_⟩, effects.mirrored named mirrored⟩
  exact Backend.writeAll_invariant Archive.Named (fun request _ _ named => named.apply request)
    namedArchive

private theorem Recorded.use (recorded : store.Recorded Holds id) (works : Backend.Works Holds)
    (sound : store.live.Sound) (pinned : store.live.HasPinned id history) (use : Use) :
    (store.use use).Recorded Holds id := by
  cases use with
  | act action =>
      rcases step_cases store sound.named action with rfl | rfl | ⟨writes, effects, written⟩
      · exact (recorded.reopen works sound pinned).1
      · exact recorded.flush works sound.named
      · have after := recorded.effects works sound.named effects
        rwa [← written] at after
  | ensure other now =>
      exact recorded.effects works sound.named (Live.effect_put sound.named other now).effects
  | touch other now => exact recorded.effects works sound.named (Live.effects_touch _ other now)

private theorem hasPinned_use (pinned : store.live.HasPinned id history) (sound : store.live.Sound)
    (noneEvicted : store.live.NoneEvicted) {use : Use} (unreleased : ¬use.Releases id)
    (durable : use = .act .reopen → Backend.Works Holds ∧ store.Recorded Holds id) :
    (store.use use).live.HasPinned id (use.historyAfter id history) := by
  have named := sound.named
  cases use with
  | ensure other now => exact pinned.ensure named other now
  | touch other now => exact pinned.touch other now
  | act action =>
      cases action with
      | reconcile other supplied now =>
          rw [Use.historyAfter]
          split
          · rename_i own
            subst own
            exact pinned.reconcile named noneEvicted supplied now
          · rename_i different
            exact pinned.of_local (Live.local_reconcile named other supplied now) different
      | append other messages now =>
          rw [Use.historyAfter]
          split
          · rename_i own
            subst own
            exact pinned.append named noneEvicted messages now
          · rename_i different
            exact pinned.of_local (Live.local_append named other messages now) different
      | setTitle other title now =>
          by_cases own : other = id
          · subst own
            exact pinned.amend noneEvicted (fun _ pinned => pinned) fun _ => rfl
          · exact pinned.of_local (Live.local_amend named other fun _ => rfl) own
      | setPinned other pin now =>
          by_cases own : other = id
          · subst own
            have pins : pin = true := by
              rw [Use.Releases, not_and, Bool.not_eq_false] at unreleased
              exact unreleased rfl
            exact pinned.amend noneEvicted (fun _ _ => pins) fun _ => rfl
          · exact pinned.of_local (Live.local_amend named other fun _ => rfl) own
      | remove other => exact pinned.of_local (Live.local_removeIf _ other _) unreleased
      | removeIdle cutoff => exact pinned.removeIdle cutoff
      | flush =>
          rw [use, step, live_flush]
          exact pinned
      | reopen =>
          rcases durable rfl with ⟨works, recorded⟩
          exact (recorded.reopen works sound pinned).2

private theorem hasPinned_uses (pinned : store.live.HasPinned id history) (sound : store.live.Sound)
    (noneEvicted : store.live.NoneEvicted) {course : List Use}
    (unreleased : ∀ use ∈ course, ¬use.Releases id)
    (durable : .act .reopen ∈ course → Backend.Works Holds ∧ store.Recorded Holds id) :
    (store.uses course).live.HasPinned id (course.foldl (Use.historyAfter id) history) := by
  induction course generalizing store history with
  | nil => exact pinned
  | cons use rest induction =>
      rw [List.forall_mem_cons] at unreleased
      have after := sound_use sound noneEvicted use
      refine induction ?_ after.1 after.2 unreleased.2 fun later => ?_
      · apply hasPinned_use pinned sound noneEvicted unreleased.1
        rintro rfl
        exact durable List.mem_cons_self
      · rcases durable (List.mem_cons_of_mem _ later) with ⟨works, recorded⟩
        exact ⟨works, recorded.use works sound pinned use⟩

private theorem exists_holds_load (works : Backend.Works Holds) {backend : β}
    (holds : ∃ archive, Holds backend archive ∧ archive.Named) {opened : Store β}
    (opening : (load backend).1 = .ok opened) :
    ∃ archive, Holds opened.backend archive ∧ archive.Named := by
  rcases holds with ⟨archive, holds, named⟩
  rcases load_of_holds works holds with ⟨_, again, loaded⟩
  rw [loaded] at opening
  cases opening
  exact ⟨archive, again, named⟩

private theorem exists_holds_uses (works : Backend.Works Holds)
    (holds : ∃ archive, Holds store.backend archive ∧ archive.Named) (course : List Use) :
    ∃ archive, Holds (store.uses course).backend archive ∧ archive.Named := by
  refine uses_invariant
    (fun store => ∃ archive, Holds store.backend archive ∧ archive.Named) ?_ holds course
  intro store use holds
  cases use with
  | act action => exact exists_holds_step works holds action
  | ensure => exact holds
  | touch => exact holds

private theorem exists_session_of_setPinned (noneEvicted : store.live.NoneEvicted) {now : Instant}
    (found : (store.setPinned id true now).1 = true) :
    ∃ session, store.live.sessions[id]? = some session ∧
      (store.setPinned id true now).2 =
        { live :=
            { store.live with
              sessions := store.live.sessions.insert id (session.setPinned true now) }
          backend :=
            (Backend.write (.save (session.setPinned true now).toRecord) store.backend).2 } := by
  cases present : store.live.sessions[id]? with
  | none =>
      rw [setPinned, perform, Live.setPinned, Live.amend, present] at found
      cases found
  | some session =>
      refine ⟨session, rfl, ?_⟩
      rw [setPinned, perform, Live.setPinned, Live.amend_of_noneEvicted noneEvicted present]
      rfl

private theorem hasPinned_setPinned (noneEvicted : store.live.NoneEvicted) {now : Instant}
    (found : (store.setPinned id true now).1 = true) :
    ∃ session, store.live.sessions[id]? = some session ∧
      (store.setPinned id true now).2.live.HasPinned id session.history := by
  rcases exists_session_of_setPinned noneEvicted found with ⟨session, present, after⟩
  rw [after]
  exact ⟨session, present, .insert rfl⟩

private theorem recorded_setPinned (works : Backend.Works Holds)
    (holds : ∃ archive, Holds store.backend archive ∧ archive.Named) (named : store.live.Named)
    (noneEvicted : store.live.NoneEvicted) {now : Instant}
    (found : (store.setPinned id true now).1 = true) :
    (store.setPinned id true now).2.Recorded Holds id := by
  rcases holds with ⟨archive, holds, namedArchive⟩
  rcases exists_session_of_setPinned noneEvicted found with ⟨session, present, pinned⟩
  have sameId : (session.setPinned true now).toRecord.id = id := named id session present
  have saved := archive.getElem?_apply_self (.save (session.setPinned true now).toRecord)
  rw [Write.subject, sameId] at saved
  rw [pinned]
  refine ⟨_, ⟨(works.write _ holds).2, namedArchive.apply _⟩, ?_⟩
  rw [saved, Std.ExtTreeMap.getElem?_insert_self]
  exact .recorded _

/-- At any point of a run, giving up idle sessions gives up just those that are not pinned and were
last accessed before the cutoff. It answers how many they are, takes them out of all postings and
leaves the others as they are, with their postings. So a session that was pinned stays with its
history, which only changes by what is reconciled with it or appended to it, until it is unpinned
or removed. The backend may refuse what it likes, but if the store is opened anew it has to work. -/
theorem idle_eviction_spares_pinned {backend : β} {opened : Store β}
    (opening : (load backend).1 = .ok opened) (earlier : List Use) :
    let store := opened.uses earlier
    (∀ cutoff,
      let swept := store.removeIdle cutoff
      swept.1 = store.live.toList.countP
        (fun session => !session.pinned && session.accessedAt.isBefore cutoff) ∧
      (∀ (id : SessionId) (session : Session), swept.2.live.sessions[id]? = some session ↔
        store.live.sessions[id]? = some session ∧
          (session.pinned = true ∨ session.accessedAt.isBefore cutoff = false)) ∧
      (∀ (id : SessionId) (term : String), id ∈ swept.2.live.postings.sessionsFor term ↔
        id ∈ store.live.postings.sessionsFor term ∧
          ∀ session, store.live.sessions[id]? = some session →
            session.pinned = true ∨ session.accessedAt.isBefore cutoff = false) ∧
      swept.2.live.nextSequence = store.live.nextSequence) ∧
    ∀ (id : SessionId) (now : Instant) (later : List Use),
      (store.setPinned id true now).1 = true → (∀ use ∈ later, ¬use.Releases id) →
      (.act .reopen ∈ later →
        Backend.Works Holds ∧ ∃ archive, Holds backend archive ∧ archive.Named) →
      ∃ before after : Session, store.live.sessions[id]? = some before ∧
        ((store.setPinned id true now).2.uses later).live.sessions[id]? = some after ∧
        after.pinned = true ∧
        after.history = later.foldl (Use.historyAfter id) before.history := by
  intro store
  have sound := sound_uses opening earlier
  constructor
  · intro cutoff swept
    exact ⟨Live.count_removeIdle store.live cutoff,
      fun _ _ => Live.getElem?_removeIdle_eq_some_iff, fun _ _ => Live.mem_sessionsFor_removeIdle,
      Live.nextSequence_removeIdleOf store.live cutoff _⟩
  · intro id now later found unreleased durable
    rcases hasPinned_setPinned sound.2 found with ⟨before, present, pinned⟩
    have recorded : .act .reopen ∈ later →
        Backend.Works Holds ∧ (store.setPinned id true now).2.Recorded Holds id := by
      intro reopens
      rcases durable reopens with ⟨works, holds⟩
      have held := exists_holds_uses works (exists_holds_load works holds opening) earlier
      exact ⟨works, recorded_setPinned works held sound.1.named sound.2 found⟩
    have soundAfter := sound_step sound.1 sound.2 (.setPinned id true now)
    rcases hasPinned_uses pinned soundAfter.1 soundAfter.2 unreleased recorded
      with ⟨after, there, isPinned, same⟩
    exact ⟨before, after, present, there, isPinned, same⟩

/-- A run with three sessions. The one that is pinned outlasts the others and the opening anew. -/
theorem idle_eviction_spares_pinned_among_three :
    let opened : Store Archive := ⟨.ofRecords Archive.empty.toList, .empty⟩
    let earlier : List Use :=
      [.act (.append "a" [⟨.user, "paris"⟩] ⟨1, 0⟩), .act (.append "b" [⟨.user, "paris"⟩] ⟨1, 0⟩),
        .ensure "c" ⟨1, 0⟩, .touch "c" ⟨7, 0⟩]
    let later : List Use :=
      [.act (.removeIdle ⟨5, 0⟩), .act .reopen, .touch "a" ⟨6, 0⟩,
        .act (.append "a" [⟨.user, "tokyo"⟩] ⟨7, 0⟩), .act (.removeIdle ⟨9, 0⟩)]
    (load Archive.empty).1 = .ok opened ∧ ((opened.uses earlier).removeIdle ⟨5, 0⟩).1 = 2 ∧
      ((opened.uses earlier).setPinned "a" true ⟨2, 0⟩).1 = true ∧
      (∀ use ∈ later, ¬use.Releases "a") ∧
      (Backend.Works fun backend archive : Archive => backend = archive) ∧
      Archive.empty.Named ∧
      (((opened.uses earlier).setPinned "a" true ⟨2, 0⟩).2.uses later).live.ids = ["a"] ∧
      ∃ after : Session,
        (((opened.uses earlier).setPinned "a" true ⟨2, 0⟩).2.uses later).live.sessions["a"]? =
          some after ∧
        after.pinned = true ∧ after.history = [⟨.user, "paris"⟩, ⟨.user, "tokyo"⟩] := by
  intro opened earlier later
  have opening : (load Archive.empty).1 = .ok opened := rfl
  have found : ((opened.uses earlier).setPinned "a" true ⟨2, 0⟩).1 = true := by decide
  have unreleased : ∀ use ∈ later, ¬use.Releases "a" := by
    simp [later, Use.Releases]
  have durable : .act .reopen ∈ later →
      (Backend.Works fun backend archive : Archive => backend = archive) ∧
        ∃ archive, Archive.empty = archive ∧ archive.Named :=
    fun _ => ⟨Archive.works, Archive.empty, rfl, Archive.named_empty⟩
  have started : (opened.uses earlier).live.sessions["a"]?.map Session.history =
      some [⟨.user, "paris"⟩] := by
    decide
  rcases (idle_eviction_spares_pinned opening earlier).2 "a" ⟨2, 0⟩ later found unreleased durable
    with ⟨before, after, present, there, isPinned, same⟩
  refine ⟨opening, ?_, found, unreleased, Archive.works, Archive.named_empty, ?_, after, there,
    isPinned, ?_⟩
  · decide
  · decide
  · have history : before.history = [⟨.user, "paris"⟩] := by
      rw [present] at started
      exact Option.some.inj started
    rw [same, history]
    rfl

end Store

end ChatMemory
