import ChatMemory.Proofs.Engine.ExhaustiveSearch
import ChatMemory.Proofs.Store.Mirroring

/-!
Restarting on the records in the memory of the program. Main statement: at any point of a run, a
store that is opened anew holds the same records and every search finds the same in it.
-/

namespace ChatMemory

namespace Store

/-- The store has written through all there is to keep, and finds again what it holds. -/
structure WrittenThrough (store : Store Archive) : Prop where
  sound : store.live.Sound
  covered : store.live.Covered
  mirrors : store.live.Mirrors store.backend

variable {store : Store Archive}

private theorem writtenThrough_ofRecords {archive : Archive} (sound : archive.Sound) :
    WrittenThrough ⟨.ofRecords archive.toList, archive⟩ where
  sound := (Live.soundAndCovered_ofRecords archive.toList).1
  covered := (Live.soundAndCovered_ofRecords archive.toList).2
  mirrors := Live.mirrors_ofRecords sound

private theorem live_of_load_archive {archive : Archive} (opened : (load archive).1 = .ok store) :
    store.live = .ofRecords archive.toList := by
  cases opened
  rfl

theorem WrittenThrough.reopened (through : store.WrittenThrough) :
    WrittenThrough ⟨.ofRecords store.backend.toList, store.backend⟩ :=
  writtenThrough_ofRecords (through.mirrors.sound_archive through.sound)

theorem WrittenThrough.flush (through : store.WrittenThrough) : store.flush.2.WrittenThrough := by
  have same := live_flush store
  have mirrors : store.live.Mirrors store.flush.2.backend := by
    refine backend_flush_invariant store.live.Mirrors ?_ (fun _ kept => kept) through.mirrors
    intro request asked _ kept
    exact fun id => (kept id).write (Live.confirms_of_mem_saves through.sound.named asked)
  exact ⟨same ▸ through.sound, same ▸ through.covered, same ▸ mirrors⟩

theorem WrittenThrough.step (through : store.WrittenThrough) (action : Action) :
    (store.step action).WrittenThrough := by
  rcases step_cases store through.sound.named action with rfl | rfl | ⟨writes, effects, written⟩
  · exact through.reopened
  · exact through.flush
  · have changes := effects.changes
    refine ⟨changes.sound through.sound, changes.covered through.sound through.covered, ?_⟩
    rw [written]
    exact effects.mirrors through.sound.named through.mirrors

end Store

private theorem Live.Reopened.flatMap_hits {before after : Option Session}
    (reopened : Live.Reopened before after) (query : Query) (search : SearchSettings)
    (scoring : ScoringSettings) :
    after.toList.flatMap (·.hits query search scoring) =
      before.toList.flatMap (·.hits query search scoring) := by
  cases reopened with
  | absent => rfl
  | restored session => rfl
  | @lost session bare =>
      have unfound : session.hits query search scoring = [] := by
        apply Session.hits_eq_nil
        intro turn member
        rw [bare.turns] at member
        cases member
      simp [unfound]

namespace Engine

private theorem flatMap_hits_of_writtenThrough {store : Store Archive}
    (through : store.WrittenThrough)
    (settings : Settings) (activity : Activity) {text : String} {query : Query}
    (prepared : Query.ofText? text = some query) :
    ((Engine.mk settings store activity).searchedSessions query).flatMap
        (·.hits query settings.search settings.scoring) =
      store.live.toList.flatMap (·.hits query settings.search settings.scoring) := by
  have sound : (Engine.mk settings store activity).store.live.Sound := through.sound
  exact flatMap_hits_searchedSessions sound through.covered prepared

private theorem find_reopened {store : Store Archive} (through : store.WrittenThrough)
    (settings : Settings) (before after : Activity) (text : String) (scope : Option String)
    (limit : Nat) :
    (Engine.mk settings ⟨.ofRecords store.backend.toList, store.backend⟩ after).find
        text scope limit =
      (Engine.mk settings store before).find text scope limit := by
  have again := through.reopened
  have same : ∀ (query : Query) (id : SessionId),
      (Live.ofRecords store.backend.toList).sessions[id]?.toList.flatMap
          (·.hits query settings.search settings.scoring) =
        store.live.sessions[id]?.toList.flatMap
          (·.hits query settings.search settings.scoring) := fun query id =>
    (through.mirrors.reopened through.sound id).flatMap_hits query _ _
  rw [find, find]
  cases prepared : Query.ofText? text with
  | none => rfl
  | some query =>
      dsimp only
      congr 1
      cases scope with
      | some id => exact same query id
      | none =>
          -- Either search finds what a full one does, so the postings need not be compared.
          rw [searchScope, searchScope]
          dsimp only
          split
          · rw [flatMap_hits_of_writtenThrough again settings after prepared,
              flatMap_hits_of_writtenThrough through settings before prepared]
            exact Live.flatMap_toList_congr again.sound.named through.sound.named (same query)
          · rfl

/-- At any point of a run a restart loses nothing. The sessions are the same but for bare ones,
which were never saved, and every search finds the same. A build that checks its sums opens the
store as well, unless the message with the last number is still there. -/
theorem restart_loses_nothing {archive : Archive} (named : archive.Named)
    (placed : ∀ record ∈ archive.toList,
      record.entries.map (·.position) = List.range record.entries.length)
    {opened : Store Archive} (opening : (Store.load archive).1 = .ok opened)
    (actions : List Store.Action) :
    let store := opened.run actions
    ∃ restarted, (Store.load store.backend).1 = .ok restarted ∧
      (Store.loadChecked? store.backend = some (Store.load store.backend) ↔
        ∀ session ∈ store.live.toList, ∀ entry ∈ session.entries,
          entry.sequence + 1 < sequenceLimit) ∧
      (∀ (id : SessionId) (session : Session),
        store.live.sessions[id]? = some session → ¬session.IsBare →
        ∃ again, restarted.live.sessions[id]? = some again ∧
          again.toRecord = session.toRecord) ∧
      (∀ (id : SessionId) (again : Session), restarted.live.sessions[id]? = some again →
        ∃ session, store.live.sessions[id]? = some session ∧
          again.toRecord = session.toRecord) ∧
      (∀ (id : SessionId) (session : Session), store.live.sessions[id]? = some session →
        restarted.live.sessions[id]? = none → session.IsBare) ∧
      ∀ (settings : Settings) (before after : Activity) (text : String) (scope : Option String)
        (limit : Nat),
        ((Engine.mk settings restarted after).search text scope limit).1 =
          ((Engine.mk settings store before).search text scope limit).1 := by
  intro store
  cases opening
  have sound : archive.Sound := by
    refine ⟨named, fun id record found => SessionRecord.misplaced?_eq_none_iff.mpr ?_⟩
    have sameId := named id record found
    subst sameId
    exact placed record (named.mem_toList.mpr found)
  have through : store.WrittenThrough :=
    Store.run_invariant Store.WrittenThrough (fun _ action through => through.step action)
      (Store.writtenThrough_ofRecords sound) actions
  have reopened := fun id => through.mirrors.reopened through.sound id
  refine ⟨_, rfl, ?_, ?_, ?_, ?_, find_reopened through⟩
  · exact (Store.loadChecked?_eq_some_iff rfl).trans (through.mirrors.numbersLeft_iff through.sound)
  · intro id session found notBare
    rcases (found ▸ reopened id).lost_or_restored with ⟨bare, -⟩ | restored
    · exact absurd bare notBare
    · exact restored
  · intro id again restored
    exact (restored ▸ reopened id).exists_before
  · intro id session found absent
    rcases (found ▸ reopened id).lost_or_restored with ⟨bare, -⟩ | ⟨again, restored, -⟩
    · exact bare
    · rw [absent] at restored
      cases restored

/-- A run that leaves a session without messages, which a restart does not find again. -/
theorem restart_loses_nothing_but_empty_session :
    let archive := Archive.empty.apply
      (.save ⟨"old", [⟨⟨.user, "paris weather"⟩, 0, 7⟩], none, false, ⟨1, 0⟩, ⟨1, 0⟩⟩)
    let opened : Store Archive := ⟨.ofRecords archive.toList, archive⟩
    let actions : List Store.Action :=
      [.reconcile "empty" [] ⟨2, 0⟩, .reconcile "new" [⟨.user, "paris"⟩] ⟨3, 0⟩,
        .setPinned "new" true ⟨4, 0⟩, .append "old" [⟨.assistant, "sunny"⟩] ⟨5, 0⟩,
        .removeIdle ⟨2, 0⟩]
    let store := opened.run actions
    archive.Named ∧
      (∀ record ∈ archive.toList,
        record.entries.map (·.position) = List.range record.entries.length) ∧
      (Store.load archive).1 = .ok opened ∧ "empty" ∈ store.live.ids ∧
      Store.loadChecked? store.backend = some (Store.load store.backend) ∧
      ∃ restarted, (Store.load store.backend).1 = .ok restarted ∧
        restarted.live.ids = ["new", "old"] ∧
        ((Engine.mk {} restarted {}).search "paris" none 5).1 =
          ((Engine.mk {} store {}).search "paris" none 5).1 := by
  intro archive opened actions store
  have named : archive.Named := Archive.named_empty.apply _
  have placed : ∀ record ∈ archive.toList,
      record.entries.map (·.position) = List.range record.entries.length := by decide
  have opening : (Store.load archive).1 = .ok opened := rfl
  have ids : (Live.ofRecords store.backend.toList).ids = ["new", "old"] := by decide
  rcases restart_loses_nothing named placed opening actions with
    ⟨restarted, loaded, checked, -, -, -, finds⟩
  rw [← Store.live_of_load_archive loaded] at ids
  refine ⟨named, placed, opening, ?_, ?_, restarted, loaded, ids, finds {} {} {} "paris" none 5⟩
  · decide
  · exact checked.mpr (by decide)

end Engine

end ChatMemory
