import ChatMemory.Proofs.Engine.Run
import ChatMemory.Proofs.Store.Locality
import ChatMemory.Proofs.Text.Blank

/-!
Whether the sessions that a memory lists can be asked for by their ids. Main statement: this is so
throughout every run just if the backend listed no blank id when the memory was started.
-/

namespace ChatMemory

namespace Live

variable {live : Live} {id : SessionId}

private theorem mem_ids_ofRecords {records : List SessionRecord} :
    id ∈ (ofRecords records).ids ↔
      ∃ record ∈ records, record.misplaced? = none ∧ record.id = id := by
  rw [mem_ids]
  constructor
  · rintro ⟨session, found⟩
    rcases exists_record_of_ofRecords found with ⟨record, member, sameId, accepted⟩
    exact ⟨record, member, (Session.ofRecord_eq_ok accepted).1, sameId⟩
  · rintro ⟨record, member, placed, rfl⟩
    exact exists_session_ofRecords member placed

private theorem amend_of_present (noneEvicted : live.NoneEvicted) (listed : id ∈ live.ids)
    (amendment : Session → Session) : (live.amend id amendment).1 = true := by
  rcases mem_ids.mp listed with ⟨session, found⟩
  rw [amend_of_noneEvicted noneEvicted found]

end Live

namespace Engine

variable {β : Type _} [Backend β] {engine : Engine β} {id : SessionId}

structure Addressable (engine : Engine β) (id : SessionId) : Prop where
  nonblank : Unicode.isAllBlank id = false
  pinned : ∀ pinned now, (engine.setPinned id pinned now).1 = .ok ()
  titled : ∀ now, ∃ title, (engine.titleSession id now).1 = .ok title
  named : ∀ title now, Unicode.isAllBlank title = false → (engine.setTitle id title now).1 = .ok ()

/-! ## Answers -/

private theorem Reachable.addressable (reachable : engine.Reachable)
    (listed : id ∈ engine.sessionIds)
    (nonblank : Unicode.isAllBlank id = false) : engine.Addressable id := by
  have accepted := SessionId.ofText_of_nonblank nonblank
  have noneEvicted := reachable.noneEvicted
  refine ⟨nonblank, ?_, ?_, ?_⟩
  · intro pinned now
    have found : (engine.store.setPinned id pinned now).1 = true :=
      Live.amend_of_present noneEvicted listed _
    rw [setPinned, accepted]
    dsimp only
    rw [found, if_pos rfl]
  · intro now
    rcases Live.mem_ids.mp listed with ⟨session, found⟩
    rw [titleSession, accepted]
    dsimp only
    rw [history, found]
    exact ⟨_, rfl⟩
  · intro title now worded
    have found : (engine.store.setTitle id (Unicode.trim title) now).1 = true :=
      Live.amend_of_present noneEvicted listed _
    rw [setTitle, accepted]
    dsimp only
    rw [Unicode.isEmpty_trim, worded, if_neg Bool.false_ne_true]
    dsimp only
    rw [found, if_pos rfl]

/-! ## Blank ids -/

private theorem ne_of_accepted (blank : Unicode.isAllBlank id = true) {text : String}
    {other : SessionId} (accepted : SessionId.ofText text = .ok other) : other ≠ id := by
  rintro rfl
  rw [SessionId.nonblank_of_ofText accepted] at blank
  cases blank

private theorem absent_condenseTo (named : engine.store.live.Named)
    (blank : Unicode.isAllBlank id = true) (absent : engine.store.live.sessions[id]? = none)
    (text : String) (messages : List Message) (query : Option String) (budget : Budget)
    (now : Instant) :
    (engine.condenseTo text messages query budget now).2.store.live.sessions[id]? = none := by
  rw [condenseTo]
  split
  · exact absent
  · rename_i other accepted
    exact (Live.local_reconcile named other messages now).absent absent
      (ne_of_accepted blank accepted)

private theorem absent_titleSession (absent : engine.store.live.sessions[id]? = none)
    (text : String) (now : Instant) :
    (engine.titleSession text now).2.store.live.sessions[id]? = none := by
  rw [titleSession]
  split
  · exact absent
  · rename_i other accepted
    have looked : (engine.history other now).2.store.live.sessions[id]? = none :=
      Live.absent_touch absent other now
    split
    · rename_i answered
      rw [answered] at looked
      exact looked
    · rename_i answered
      rw [answered] at looked
      exact Live.absent_amend looked other _

theorem absent_step (named : engine.store.live.Named) (blank : Unicode.isAllBlank id = true)
    (absent : engine.store.live.sessions[id]? = none) (action : Action) :
    (engine.step action).store.live.sessions[id]? = none := by
  cases action with
  | condense text messages query now =>
      exact absent_condenseTo named blank absent text messages query _ now
  | condenseTo text messages query budget now =>
      exact absent_condenseTo named blank absent text messages query budget now
  | search => exact absent
  | title => exact absent
  | history text now => exact Live.absent_touch absent text now
  | titleSession text now => exact absent_titleSession absent text now
  | setTitle text title now =>
      rw [step, setTitle]
      split
      · exact absent
      · dsimp only
        split
        · exact absent
        · exact Live.absent_amend absent _ _
  | append text messages now =>
      rw [step, append]
      split
      · exact absent
      · rename_i other accepted
        exact (Live.local_append named other messages now).absent absent
          (ne_of_accepted blank accepted)
  | setPinned text pinned now =>
      rw [step, setPinned]
      split
      · exact absent
      · exact Live.absent_amend absent _ _
  | evict text => exact Live.absent_removeIf absent text _
  | evictIdle seconds now => exact Live.absent_removeIdleOf absent _ _

theorem absent_run (reachable : engine.Reachable) (blank : Unicode.isAllBlank id = true)
    (absent : engine.store.live.sessions[id]? = none) (actions : List Action) :
    (engine.run actions).store.live.sessions[id]? = none := by
  induction actions generalizing engine with
  | nil => exact absent
  | cons action rest induction =>
      apply induction (.acted action reachable)
      exact absent_step reachable.soundAndCovered.1.named blank absent action

/-- Every session that a memory lists, at any point of a run, is answered for by its id, just if
none of the records that the backend listed at the start gives a session with a blank id. -/
theorem listed_sessions_are_addressable {settings : Settings} {backend : β}
    {records : List SessionRecord} (listed : (Backend.load backend).1 = .ok records)
    {opened : Engine β} (opening : (start settings backend).1 = .ok opened) :
    (∀ record ∈ records, record.misplaced? = none → Unicode.isAllBlank record.id = false) ↔
      ∀ (actions : List Action), ∀ id ∈ (opened.run actions).sessionIds,
        (opened.run actions).Addressable id := by
  rcases live_of_start opening with ⟨taken, takenListed, live⟩
  rw [listed] at takenListed
  cases takenListed
  constructor
  · intro nonblank actions id present
    have reachable : opened.Reachable := .started opening
    apply (reachable.run actions).addressable present
    by_contra blank
    rw [Bool.not_eq_false] at blank
    have absent : opened.store.live.sessions[id]? = none := by
      rw [Option.eq_none_iff_forall_ne_some, live]
      intro session found
      rcases Live.mem_ids_ofRecords.mp (Live.mem_ids.mpr ⟨session, found⟩)
        with ⟨record, member, placed, rfl⟩
      rw [nonblank record member placed] at blank
      cases blank
    rcases Live.mem_ids.mp present with ⟨session, found⟩
    rw [absent_run reachable blank absent actions] at found
    cases found
  · intro addressable record member placed
    have present : record.id ∈ (opened.run []).sessionIds := by
      show record.id ∈ opened.store.live.ids
      rw [live]
      exact Live.mem_ids_ofRecords.mpr ⟨record, member, placed, rfl⟩
    exact (addressable [] record.id present).nonblank

/-- A record with a blank id gives no session if it is left out for another reason. -/
theorem listed_sessions_are_addressable_beside_misplaced_message :
    let archive := (Archive.empty.apply
      (.save ⟨"old", [⟨⟨.user, "paris"⟩, 0, 7⟩], none, false, ⟨1, 0⟩, ⟨1, 0⟩⟩)).apply
        (.save ⟨" ", [⟨⟨.user, "tokyo"⟩, 3, 8⟩], none, false, ⟨1, 0⟩, ⟨1, 0⟩⟩)
    let opened : Engine Archive := ⟨{}, ⟨.ofRecords archive.toList, archive⟩, {}⟩
    (Backend.load archive).1 = .ok archive.toList ∧ (start {} archive).1 = .ok opened ∧
      archive.toList.map (·.id) = [" ", "old"] ∧
      ∀ (actions : List Action), ∀ id ∈ (opened.run actions).sessionIds,
        (opened.run actions).Addressable id := by
  intro archive opened
  have listed : (Backend.load archive).1 = .ok archive.toList := rfl
  have opening : (start {} archive).1 = .ok opened := rfl
  have nonblank : ∀ record ∈ archive.toList, record.misplaced? = none →
      Unicode.isAllBlank record.id = false := by decide
  refine ⟨listed, opening, by decide, ?_⟩
  exact (listed_sessions_are_addressable listed opening).mp nonblank

/-- A session with a blank id is listed, but all that is asked about it is refused. -/
theorem listed_session_may_be_unaddressable :
    let archive := Archive.empty.apply
      (.save ⟨" ", [⟨⟨.user, "hello"⟩, 0, 1⟩], none, false, ⟨0, 0⟩, ⟨0, 0⟩⟩)
    ∃ opened : Engine Archive, (start {} archive).1 = .ok opened ∧ opened.sessionIds = [" "] ∧
      Unicode.isAllBlank " " = true ∧
      (opened.setPinned " " true ⟨1, 0⟩).1 = .error .blankSessionId ∧
      (opened.setPinned " " false ⟨1, 0⟩).1 = .error .blankSessionId ∧
      (opened.titleSession " " ⟨1, 0⟩).1 = .error .blankSessionId ∧
      (opened.setTitle " " "Paris" ⟨1, 0⟩).1 = .error .blankSessionId := by
  intro archive
  have blank : Unicode.isAllBlank " " = true := by decide
  exact ⟨_, rfl, by decide, blank, rfl, rfl, rfl, rfl⟩

end Engine

end ChatMemory
