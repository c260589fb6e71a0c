import ChatMemory.Proofs.Store.ArrivalOrder

/-!
Backends whose writes can fail. Nothing is written again because it failed, so what is kept drifts
away from what is remembered. Main statement: a flush that succeeds brings the record of every
session up to date, and what is kept beside these are sessions that could not be deleted.
-/

namespace ChatMemory

structure Unreliable where
  archive : Archive
  failure? : Nat → Write → Option Failure
  /-- The writes that were tried, latest first, and whether each took place. -/
  tried : List (Write × Bool)

namespace Unreliable

instance : Backend Unreliable where
  load backend := (.ok backend.archive.toList, backend)
  write request backend :=
    match backend.failure? backend.tried.length request with
    | some failure => (.error failure, { backend with tried := (request, false) :: backend.tried })
    | none =>
      (.ok (),
        { backend with
          archive := backend.archive.apply request
          tried := (request, true) :: backend.tried })
  flush backend := (.ok (), backend)

@[simp] private theorem load_eq (backend : Unreliable) :
    (Backend.load backend).1 = .ok backend.archive.toList :=
  rfl

def vacant (failure? : Nat → Write → Option Failure) : Unreliable :=
  ⟨.empty, failure?, []⟩

def latest? (backend : Unreliable) (id : SessionId) : Option (Write × Bool) :=
  backend.tried.find? fun attempt => attempt.1.subject == id

def FailedToDelete (backend : Unreliable) (id : SessionId) : Prop :=
  backend.latest? id = some (.delete id, false)

/-! ## Writes -/

variable {backend : Unreliable} {writes : List Write} {id : SessionId}

private theorem write_cases (request : Write) (backend : Unreliable) :
    (∃ failure, Backend.write request backend =
      (.error failure, { backend with tried := (request, false) :: backend.tried })) ∨
    Backend.write request backend =
      (.ok (),
        { backend with
          archive := backend.archive.apply request
          tried := (request, true) :: backend.tried }) := by
  cases planned : backend.failure? backend.tried.length request with
  | some failure => exact .inl ⟨failure, by simp only [Backend.write, planned]⟩
  | none => exact .inr (by simp only [Backend.write, planned])

private theorem keeps_archive : Backend.Keeps (archive : Unreliable → Archive) where
  listed backend records listed := by
    cases listed
    exact .refl _
  load backend := rfl
  write request backend := by
    rcases write_cases request backend with ⟨failure, failed⟩ | written
    · exact .inl (by rw [failed])
    · exact .inr (by rw [written])
  flush backend := rfl

def AlikeFor (id : SessionId) (backend other : Unreliable) : Prop :=
  backend.archive.records[id]? = other.archive.records[id]? ∧ backend.latest? id = other.latest? id

private theorem alikeFor_write {request : Write} (different : request.subject ≠ id)
    {other : Unreliable}
    (alike : backend.AlikeFor id other) : (Backend.write request backend).2.AlikeFor id other := by
  rcases write_cases request backend with ⟨failure, failed⟩ | written
  · rw [failed]
    refine ⟨alike.1, ?_⟩
    rw [← alike.2, latest?, List.find?_cons_of_neg (by simpa using different), latest?]
  · rw [written]
    refine ⟨(Archive.getElem?_apply_of_ne different).trans alike.1, ?_⟩
    rw [← alike.2, latest?, List.find?_cons_of_neg (by simpa using different), latest?]

private theorem alikeFor_writeAll (backend : Unreliable)
    (elsewhere : ∀ request ∈ writes, request.subject ≠ id) :
    (Backend.writeAll writes backend).AlikeFor id backend :=
  Backend.writeAll_invariant (AlikeFor id · backend)
    (fun request asked _ => alikeFor_write (elsewhere request asked)) ⟨rfl, rfl⟩

private theorem write_delete (id : SessionId) (backend : Unreliable) :
    (Backend.write (.delete id) backend).2.archive.records[id]? = none ∨
      (Backend.write (.delete id) backend).2.FailedToDelete id := by
  rcases write_cases (.delete id) backend with ⟨failure, failed⟩ | written
  · rw [failed]
    exact .inr (List.find?_cons_of_pos (beq_self_eq_true id))
  · rw [written]
    exact .inl Std.ExtTreeMap.getElem?_erase_self

private theorem archive_of_writeUntilRefused {after : Unreliable}
    (accepted : Backend.writeUntilRefused writes backend = (.ok (), after)) :
    after.archive = writes.foldl Archive.apply backend.archive := by
  induction writes generalizing backend with
  | nil =>
      cases accepted
      rfl
  | cons request rest induction =>
      rw [Backend.writeUntilRefused] at accepted
      rcases write_cases request backend with ⟨failure, failed⟩ | written
      · rw [failed] at accepted
        cases accepted
      · rw [written] at accepted
        exact induction accepted

end Unreliable

namespace Live

variable {live after : Live} {writes : List Write} {added : Nat} {backend : Unreliable}

/-- Writes that only confirm what is the case leave each session that they are about with the record
that it should have, and the other records alone. -/
theorem getElem?_foldl_apply {archive : Archive}
    (confirmed : ∀ request ∈ writes, live.Confirms request) (id : SessionId) :
    (writes.foldl Archive.apply archive).records[id]? =
      if ∃ request ∈ writes, request.subject = id then live.sessions[id]?.map Session.toRecord
      else archive.records[id]? := by
  induction writes generalizing archive with
  | nil => simp
  | cons request rest induction =>
      rcases List.forall_mem_cons.mp confirmed with ⟨first, later⟩
      rw [List.foldl_cons, induction later]
      by_cases again : ∃ request ∈ rest, request.subject = id
      · simp [again]
      · rw [if_neg again]
        by_cases about : request.subject = id
        · rw [if_pos ⟨request, List.mem_cons_self, about⟩]
          subst about
          cases request with
          | save record =>
              rcases first with ⟨session, found, rfl⟩
              simp only [Write.subject]
              rw [found]
              exact Std.ExtTreeMap.getElem?_insert_self
          | delete id =>
              simp only [Write.subject]
              rw [first]
              exact Std.ExtTreeMap.getElem?_erase_self
        · rw [Archive.getElem?_apply_of_ne about, if_neg]
          rintro ⟨other, member, otherAbout⟩
          rcases List.mem_cons.mp member with rfl | member
          · exact about otherAbout
          · exact again ⟨other, member, otherAbout⟩

private theorem exists_mem_saves_iff (named : live.Named) (noneEvicted : live.NoneEvicted)
    (id : SessionId) :
    (∃ request ∈ live.saves, request.subject = id) ↔
      ∃ session, live.sessions[id]? = some session := by
  constructor
  · rintro ⟨request, asked, rfl⟩
    exact exists_session_of_mem_saves named asked
  · rintro ⟨session, found⟩
    have lasting := noneEvicted id session found
    refine ⟨.save session.toRecord, ?_, named id session found⟩
    exact List.mem_map_of_mem (List.mem_filter.mpr ⟨mem_toList.mpr ⟨id, found⟩, by simp [lasting]⟩)

/-! ## What is left of sessions that are gone -/

/-- If anything is kept of a session that is gone, it could not be deleted. -/
def Explains (live : Live) (backend : Unreliable) : Prop :=
  ∀ (id : SessionId) (record : SessionRecord), live.sessions[id]? = none →
    backend.archive.records[id]? = some record → backend.FailedToDelete id

private theorem Effect.explains (effect : Effect live after writes added) (named : live.Named)
    (explains : live.Explains backend) : after.Explains (Backend.writeAll writes backend) := by
  intro other record absent kept
  rcases effect.exists_subject named with ⟨id, about, gone, elsewhere⟩
  by_cases same : id = other
  · subst same
    rw [gone absent] at kept ⊢
    rcases Unreliable.write_delete id backend with deleted | failed
    · have vanished : (Backend.writeAll [.delete id] backend).archive.records[id]? = none := deleted
      rw [vanished] at kept
      cases kept
    · exact failed
  · have different : ∀ request ∈ writes, request.subject ≠ other := fun request asked =>
      (about request asked).symm ▸ same
    have alike := Unreliable.alikeFor_writeAll backend different
    rw [Unreliable.FailedToDelete, alike.2]
    rw [alike.1] at kept
    rw [elsewhere other same] at absent
    exact explains other record absent kept

private theorem Effects.explains (effects : Effects live after writes added) (named : live.Named)
    (explains : live.Explains backend) : after.Explains (Backend.writeAll writes backend) := by
  induction effects generalizing backend with
  | none => exact explains
  | cons effect _ induction =>
      rw [Backend.writeAll_append]
      exact induction (effect.change.named named) (effect.explains named explains)

theorem Explains.write (explains : live.Explains backend) (named : live.Named) {request : Write}
    (asked : request ∈ live.saves) : live.Explains (Backend.write request backend).2 := by
  intro other record absent kept
  have different : request.subject ≠ other := by
    rintro rfl
    rcases exists_session_of_mem_saves named asked with ⟨session, found⟩
    rw [found] at absent
    cases absent
  have alike : (Backend.write request backend).2.AlikeFor other backend :=
    Unreliable.alikeFor_write different ⟨rfl, rfl⟩
  rw [Unreliable.FailedToDelete, alike.2]
  rw [alike.1] at kept
  exact explains other record absent kept

end Live

namespace Store

variable {store : Store Unreliable}

structure Accounted (store : Store Unreliable) : Prop where
  intact : Intact Unreliable.archive store
  noneEvicted : store.live.NoneEvicted
  explains : store.live.Explains store.backend

theorem Accounted.reopen (accounted : store.Accounted) : store.reopen.Accounted where
  intact := accounted.intact.reopen Unreliable.keeps_archive
  noneEvicted := Live.noneEvicted_ofRecords _
  explains id record absent kept := by
    -- All that is kept is taken up again, so that nothing is left to explain.
    have restored := Live.map_toRecord_ofRecords accounted.intact.kept (.refl _) id
    have gone : (Live.ofRecords store.backend.archive.toList).sessions[id]? = none := absent
    rw [gone] at restored
    have found : store.backend.archive.records[id]? = some record := kept
    rw [found] at restored
    cases restored

theorem Accounted.flush (accounted : store.Accounted) : store.flush.2.Accounted := by
  have same := live_flush store
  refine ⟨accounted.intact.flush Unreliable.keeps_archive, same ▸ accounted.noneEvicted, ?_⟩
  rw [same]
  refine backend_flush_invariant store.live.Explains ?_ (fun _ explains => explains)
    accounted.explains
  intro request asked _ explains
  exact explains.write accounted.intact.sound.named asked

theorem Accounted.step (accounted : store.Accounted) (action : Action) :
    (store.step action).Accounted := by
  have named := accounted.intact.sound.named
  have intact := accounted.intact.step Unreliable.keeps_archive action
  rcases step_cases store named action with rfl | rfl | ⟨writes, effects, written⟩
  · exact accounted.reopen
  · exact accounted.flush
  · refine ⟨intact, effects.noneEvicted accounted.noneEvicted, ?_⟩
    rw [written]
    exact effects.explains named accounted.explains

private theorem accounted_of_load {failure? : Nat → Write → Option Failure}
    (opening : (load (Unreliable.vacant failure?)).1 = .ok store) : store.Accounted where
  intact := (inOrder_of_load Unreliable.keeps_archive rfl opening).toIntact
  noneEvicted := by
    cases opening
    exact Live.noneEvicted_ofRecords _
  explains id record _ kept := by
    cases opening
    simp [Unreliable.vacant, Archive.empty] at kept

/-! ## Flushing -/

private theorem saved_of_flush (flushed : store.flush.1 = .ok ()) :
    Backend.writeUntilRefused store.live.saves store.backend = (.ok (), store.flush.2.backend) := by
  rw [flush] at flushed ⊢
  split at flushed
  · cases flushed
  · rename_i saved
    rw [saved]
    rfl

/-- After a flush that succeeds every session has its own record. Of the others nothing has
changed. -/
theorem Accounted.records_flush (accounted : store.Accounted) (flushed : store.flush.1 = .ok ())
    (id : SessionId) :
    store.flush.2.backend.archive.records[id]? =
      (store.live.sessions[id]?.map Session.toRecord).or store.backend.archive.records[id]? := by
  have named := accounted.intact.sound.named
  rw [Unreliable.archive_of_writeUntilRefused (saved_of_flush flushed),
    Live.getElem?_foldl_apply fun request asked => Live.confirms_of_mem_saves named asked]
  have asked := Live.exists_mem_saves_iff named accounted.noneEvicted id
  cases found : store.live.sessions[id]? with
  | none =>
      rw [if_neg, Option.map_none, Option.none_or]
      rw [asked, found]
      simp
  | some session =>
      rw [if_pos, Option.map_some, Option.some_or]
      rw [asked, found]
      exact ⟨session, rfl⟩

private theorem Accounted.toList_filter_flush (accounted : store.Accounted)
    (flushed : store.flush.1 = .ok ()) :
    (store.flush.2.backend.archive.toList.filter fun record =>
        store.live.ids.contains record.id) = store.live.toList.map Session.toRecord := by
  have named := accounted.intact.sound.named
  have kept := accounted.flush.intact.kept.named
  refine eq_of_ordered_by (kept.pairwise_toList.filter _)
    (List.pairwise_map.mpr (Live.pairwise_toList named)) fun record => ?_
  have records := accounted.records_flush flushed record.id
  rw [List.mem_filter, kept.mem_toList, records, List.contains_iff_mem, Live.ids,
    Std.ExtTreeMap.mem_keys, Std.ExtTreeMap.mem_iff_isSome_getElem?, List.mem_map]
  constructor
  · rintro ⟨found, present⟩
    rcases Option.isSome_iff_exists.mp present with ⟨session, there⟩
    rw [there, Option.map_some, Option.some_or] at found
    exact ⟨session, Live.mem_toList.mpr ⟨_, there⟩, Option.some.inj found⟩
  · rintro ⟨session, present, rfl⟩
    rcases Live.mem_toList.mp present with ⟨id, found⟩
    have sameId := named id session found
    subst sameId
    have there : store.live.sessions[session.toRecord.id]? = some session := found
    rw [there]
    exact ⟨rfl, rfl⟩

private theorem map_toRecord_toList_ofRecords {archive : Archive} (sound : archive.Sound) :
    (Live.ofRecords archive.toList).toList.map Session.toRecord = archive.toList := by
  have named := (Live.soundAndCovered_ofRecords archive.toList).1.named
  refine eq_of_ordered_by (List.pairwise_map.mpr (Live.pairwise_toList named))
    sound.named.pairwise_toList fun record => ?_
  rw [sound.named.mem_toList, ← Live.map_toRecord_ofRecords sound (.refl _), Option.map_eq_some_iff,
    List.mem_map]
  constructor
  · rintro ⟨session, present, rfl⟩
    rcases Live.mem_toList.mp present with ⟨id, found⟩
    have sameId := named id session found
    subst sameId
    exact ⟨session, found, rfl⟩
  · rintro ⟨session, found, equal⟩
    exact ⟨session, Live.mem_toList.mpr ⟨_, found⟩, equal⟩

/-- After a flush that succeeds, the backend lists the record of every session as it is, and beside
these only sessions that were given up and could not be deleted. A store that is opened on it has
just these records, and so brings a session back only if it could not be deleted. -/
theorem flush_settles_backend {failure? : Nat → Write → Option Failure} {opened : Store Unreliable}
    (opening : (load (Unreliable.vacant failure?)).1 = .ok opened) (actions : List Action)
    (flushed : (opened.run actions).flush.1 = .ok ()) :
    let live := (opened.run actions).live
    let settled := (opened.run actions).flush.2.backend
    ∃ records restarted, (Backend.load settled).1 = .ok records ∧
      (load settled).1 = .ok restarted ∧
      (records.filter fun record => live.ids.contains record.id) =
        live.toList.map Session.toRecord ∧
      (∀ record ∈ records, record.id ∉ live.ids → settled.FailedToDelete record.id) ∧
      restarted.live.toList.map Session.toRecord = records ∧
      ((∀ id, ¬settled.FailedToDelete id) → records = live.toList.map Session.toRecord) := by
  intro live settled
  have accounted : (opened.run actions).Accounted :=
    run_invariant Accounted (fun _ action accounted => accounted.step action)
      (accounted_of_load opening) actions
  have after := accounted.flush
  have own := accounted.toList_filter_flush flushed
  have explained : ∀ record ∈ settled.archive.toList, record.id ∉ live.ids →
      settled.FailedToDelete record.id := by
    intro record member gone
    apply after.explains record.id record ?_ (after.intact.kept.named.mem_toList.mp member)
    rw [live_flush, ← Option.not_isSome_iff_eq_none, ← Std.ExtTreeMap.mem_iff_isSome_getElem?,
      ← Std.ExtTreeMap.mem_keys]
    exact gone
  refine ⟨_, _, Unreliable.load_eq _, rfl, own, explained, ?_, ?_⟩
  · exact map_toRecord_toList_ofRecords after.intact.kept
  · intro deleted
    rw [← own, eq_comm, List.filter_eq_self]
    intro record member
    rw [List.contains_iff_mem]
    by_contra gone
    exact deleted record.id (explained record member gone)

/-- A run in which a save fails that the flush makes up for, and a deletion that nothing makes up
for. -/
theorem flush_settles_backend_after_failures :
    let failure? : Nat → Write → Option Failure := fun number _ =>
      if number = 0 ∨ number = 3 then some ⟨.storage, "refused"⟩ else none
    let opened : Store Unreliable := ⟨.ofRecords [], .vacant failure?⟩
    let actions : List Action :=
      [.append "a" [⟨.user, "hello"⟩] ⟨1, 0⟩, .append "b" [⟨.user, "hello"⟩] ⟨2, 0⟩,
        .reconcile "c" [⟨.user, "hello"⟩] ⟨3, 0⟩, .remove "b"]
    (load (Unreliable.vacant failure?)).1 = .ok opened ∧
      (opened.run actions).flush.1 = .ok () ∧ (opened.run actions).live.ids = ["a", "c"] ∧
      (opened.run actions).backend.archive.toList.map (·.id) = ["b", "c"] ∧
      ∃ records, (Backend.load (opened.run actions).flush.2.backend).1 = .ok records ∧
        (records.filter fun record => (opened.run actions).live.ids.contains record.id) =
          (opened.run actions).live.toList.map Session.toRecord ∧
        (∀ record ∈ records, record.id ∉ (opened.run actions).live.ids →
          (opened.run actions).flush.2.backend.FailedToDelete record.id) ∧
        records.map (·.id) = ["a", "b", "c"] := by
  intro failure? opened actions
  have opening : (load (Unreliable.vacant failure?)).1 = .ok opened := rfl
  have flushed : (opened.run actions).flush.1 = .ok () := by decide
  rcases flush_settles_backend opening actions flushed
    with ⟨records, restarted, listed, -, own, explained, -, -⟩
  refine ⟨opening, flushed, by decide, by decide, records, listed, own, explained,
    ?_⟩
  rw [Unreliable.load_eq] at listed
  rw [← Except.ok.inj listed]
  decide

/-- A flush does not delete. The record of a session that was given up is still there if it could
not be deleted then, and brings the session back when a store is opened on it. -/
theorem flush_may_leave_evicted_session :
    let failure? : Nat → Write → Option Failure := fun _ request =>
      match request with
      | .save _ => none
      | .delete _ => some ⟨.storage, "delete refused"⟩
    let opened : Store Unreliable := ⟨.ofRecords [], .vacant failure?⟩
    let store := opened.run [.append "a" [⟨.user, "hello"⟩] ⟨1, 0⟩, .remove "a"]
    let settled := store.flush.2.backend
    (load (Unreliable.vacant failure?)).1 = .ok opened ∧ store.flush.1 = .ok () ∧
      store.live.ids = [] ∧
      (Backend.load settled).1.toOption.map (·.map (·.id)) = some ["a"] ∧
      (load settled).1.toOption.map (·.live.ids) = some ["a"] := by
  intro failure? opened store settled
  have opening : (load (Unreliable.vacant failure?)).1 = .ok opened := rfl
  exact ⟨opening, by decide, by decide, by decide, by decide⟩

end Store

end ChatMemory
