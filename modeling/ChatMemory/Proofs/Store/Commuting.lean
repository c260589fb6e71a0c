import ChatMemory.Proofs.Store.Independence

/-!
Operations on different sessions, one after the other. Main statement: whichever comes first, both
give the same answers, and the sessions, the postings and the records of a backend that works come
out alike.
-/

namespace ChatMemory

namespace Live

/-- The same sessions under the same postings, but for what was handed out to the sessions. -/
structure Alike (stamps : Stamps) (first second : Live) : Prop where
  sessions : ∀ id : SessionId,
    Option.Rel (Session.Alike stamps) first.sessions[id]? second.sessions[id]?
  postings : first.postings = second.postings
  nextSequence : first.nextSequence = second.nextSequence

variable {stamps : Stamps}

private theorem postings_eq_of_alike {first second : Live} (indexed : first.Indexed)
    (otherIndexed : second.Indexed)
    (sessions : ∀ id : SessionId,
      Option.Rel (Session.Alike stamps) first.sessions[id]? second.sessions[id]?) :
    first.postings = second.postings := by
  refine indexed.noneEmpty.ext otherIndexed.noneEmpty fun term id => ?_
  rw [indexed.listed_iff, otherIndexed.listed_iff, Holds, Holds]
  have same := sessions id
  generalize first.sessions[id]? = slot, second.sessions[id]? = other at same ⊢
  cases same with
  | none => rfl
  | some alike => simp [alike.vocabulary]

/-! ## Two operations in either order -/

/-- Two operations on different sessions of one memory, each as it comes first and as it comes after
the other. -/
structure Swapped (stamps : Stamps) (id other : SessionId) (live : Live)
    (first firstLater second secondLater : Store.Answer × Live × List Write) : Prop where
  different : id ≠ other
  sameFirst : Parallel stamps id first firstLater
  sameSecond : Parallel stamps other secondLater second
  localFirst : Local id live first.2.1 first.2.2
  localFirstLater : Local id second.2.1 firstLater.2.1 firstLater.2.2
  localSecond : Local other live second.2.1 second.2.2
  localSecondLater : Local other first.2.1 secondLater.2.1 secondLater.2.2

variable {live : Live} {id other : SessionId}
  {first firstLater second secondLater : Store.Answer × Live × List Write}

theorem Swapped.sessions
    (swapped : Swapped stamps id other live first firstLater second secondLater)
    (key : SessionId) :
    Option.Rel (Session.Alike stamps) secondLater.2.1.sessions[key]?
      firstLater.2.1.sessions[key]? := by
  by_cases ofFirst : key = id
  · rw [ofFirst, swapped.localSecondLater.elsewhere id swapped.different.symm]
    exact swapped.sameFirst.session
  · by_cases ofSecond : key = other
    · rw [ofSecond, swapped.localFirstLater.elsewhere other swapped.different]
      exact swapped.sameSecond.session
    · rw [swapped.localSecondLater.elsewhere key (Ne.symm ofSecond),
        swapped.localFirst.elsewhere key (Ne.symm ofFirst),
        swapped.localFirstLater.elsewhere key (Ne.symm ofFirst),
        swapped.localSecond.elsewhere key (Ne.symm ofSecond)]
      cases live.sessions[key]? with
      | none => exact .none
      | some session => exact .some (.refl session)

theorem Swapped.records
    (swapped : Swapped stamps id other live first firstLater second secondLater)
    (archive : Archive) (key : SessionId) :
    Option.Rel (SessionRecord.Alike stamps)
      (Backend.writeAll secondLater.2.2 (Backend.writeAll first.2.2 archive)).records[key]?
      (Backend.writeAll firstLater.2.2 (Backend.writeAll second.2.2 archive)).records[key]? := by
  have elsewhere : ∀ {writes : List Write} {subject : SessionId},
      (∀ request ∈ writes, request.subject = subject) → subject ≠ key →
      ∀ request ∈ writes, request.subject ≠ key :=
    fun about different request asked => (about request asked).symm ▸ different
  have before : Option.Rel (SessionRecord.Alike stamps) archive.records[key]?
      archive.records[key]? := by
    cases archive.records[key]? with
    | none => exact .none
    | some record => exact .some (.refl record)
  by_cases ofFirst : id = key
  · have ofOther : other ≠ key := ofFirst ▸ swapped.different.symm
    rw [Archive.getElem?_writeAll_of_ne (elsewhere swapped.localSecondLater.about ofOther)]
    apply Archive.rel_writeAll swapped.sameFirst.writes
    rwa [Archive.getElem?_writeAll_of_ne (elsewhere swapped.localSecond.about ofOther)]
  · rw [Archive.getElem?_writeAll_of_ne (elsewhere swapped.localFirstLater.about ofFirst)]
    apply Archive.rel_writeAll swapped.sameSecond.writes
    rwa [Archive.getElem?_writeAll_of_ne (elsewhere swapped.localFirst.about ofFirst)]

end Live

namespace Store

variable {β : Type _} [Backend β] {Holds : β → Archive → Prop} {store : Store β}

structure Settled (Holds : β → Archive → Prop) (store : Store β) : Prop where
  sound : store.live.Sound
  indexed : store.live.Indexed
  noneEvicted : store.live.NoneEvicted
  holds : ∃ archive, Holds store.backend archive ∧ archive.Named

omit [Backend β] in
private theorem settled_of_ofRecords {archive : Archive} {backend : β}
    (holds : Holds backend archive)
    (named : archive.Named) : Settled Holds ⟨.ofRecords archive.toList, backend⟩ where
  sound := (Live.soundAndCovered_ofRecords _).1
  indexed := Live.indexed_ofRecords named.nodup_ids
  noneEvicted := Live.noneEvicted_ofRecords _
  holds := ⟨archive, holds, named⟩

theorem load_of_holds (works : Backend.Works Holds) {backend : β} {archive : Archive}
    (holds : Holds backend archive) :
    ∃ after, Holds after archive ∧
      load backend = (.ok ⟨.ofRecords archive.toList, after⟩, after) := by
  have loaded := works.load holds
  rcases answered : Backend.load backend with ⟨answer, after⟩
  rw [answered] at loaded
  cases loaded.1
  refine ⟨after, loaded.2, ?_⟩
  rw [load, answered]

theorem exists_holds_step (works : Backend.Works Holds)
    (holds : ∃ archive, Holds store.backend archive ∧ archive.Named) (action : Action) :
    ∃ archive, Holds (store.step action).backend archive ∧ archive.Named := by
  refine backend_step_invariant (fun backend => ∃ archive, Holds backend archive ∧ archive.Named)
    ?_ ?_ ?_ holds action
  · rintro backend ⟨archive, holds, named⟩
    exact ⟨archive, (works.load holds).2, named⟩
  · rintro request backend ⟨archive, holds, named⟩
    exact ⟨_, (works.write request holds).2, named.apply request⟩
  · rintro backend ⟨archive, holds, named⟩
    exact ⟨archive, (works.flush holds).2, named⟩

theorem Settled.step (settled : store.Settled Holds) (works : Backend.Works Holds)
    (action : Action) : (store.step action).Settled Holds := by
  have once : Backend.ListsOnce store.backend := by
    intro records listed
    rcases settled.holds with ⟨archive, holds, named⟩
    rw [(works.load holds).1] at listed
    cases listed
    exact named.nodup_ids
  have indexed := indexed_step settled.sound settled.indexed action fun _ => once
  exact ⟨indexed.1, indexed.2, (sound_step settled.sound settled.noneEvicted action).2,
    exists_holds_step works settled.holds action⟩

/-! ## Two addressed actions in either order -/

@[simp] private theorem Action.subject?_at (action : Action) (now : Instant) :
    (action.at now).subject? = action.subject? := by
  cases action <;> rfl

private theorem Action.direct_of_subject {action : Action} {id : SessionId}
    (addressed : action.subject? = some id) : action ≠ .flush ∧ action ≠ .reopen := by
  constructor
  · rintro rfl
    cases addressed
  · rintro rfl
    cases addressed

omit [Backend β] in
theorem Settled.agreeing {after : Store β} (settled : store.Settled Holds)
    (settledAfter : after.Settled Holds) {id : SessionId}
    (same : store.live.sessions[id]? = after.live.sessions[id]?) {stamps : Stamps} :
    Live.Agreeing stamps id store.live after.live where
  named := ⟨settled.sound.named, settledAfter.sound.named⟩
  noneEvicted := ⟨settled.noneEvicted, settledAfter.noneEvicted⟩
  session := by
    rw [same]
    cases after.live.sessions[id]? with
    | none => exact .none
    | some session => exact .some (.refl session)

private theorem exists_swapped (settled : store.Settled Holds) (works : Backend.Works Holds)
    {id other : SessionId} (different : id ≠ other) {first second : Action}
    (addressed : first.subject? = some id) (otherAddressed : second.subject? = some other)
    {stamps : Stamps} (t₁ t₂ u₁ u₂ : Instant)
    (numbers : stamps.HandOut store.live.nextSequence.toNat
      ((first.at t₁).added store.live + (second.at u₁).added store.live))
    (firstTimes : t₁ ∈ stamps.times ∧ u₂ ∈ stamps.times)
    (secondTimes : t₂ ∈ stamps.times ∧ u₁ ∈ stamps.times) :
    (second.at t₂).added (store.step (first.at t₁)).live = (second.at u₁).added store.live ∧
    (first.at u₂).added (store.step (second.at u₁)).live = (first.at t₁).added store.live ∧
    ∃ one oneLater two twoLater,
      store.live.respond? (first.at t₁) = some one ∧
      (store.step (first.at t₁)).live.respond? (second.at t₂) = some twoLater ∧
      store.live.respond? (second.at u₁) = some two ∧
      (store.step (second.at u₁)).live.respond? (first.at u₂) = some oneLater ∧
      Live.Swapped stamps id other store.live one oneLater two twoLater := by
  have onFirst : ∀ now, (first.at now).subject? = some id := fun now =>
    (first.subject?_at now).trans addressed
  have onSecond : ∀ now, (second.at now).subject? = some other := fun now =>
    (second.subject?_at now).trans otherAddressed
  rcases exists_respond store.live (Action.direct_of_subject (onFirst t₁)) with ⟨one, oneResponds⟩
  rcases exists_respond store.live (Action.direct_of_subject (onSecond u₁)) with ⟨two, twoResponds⟩
  have named := settled.sound.named
  have localOne := Live.local_respond named (onFirst t₁) oneResponds
  have localTwo := Live.local_respond named (onSecond u₁) twoResponds
  have afterOne := settled.step works (first.at t₁)
  have afterTwo := settled.step works (second.at u₁)
  have numberOne := nextSequence_step store named (Action.direct_of_subject (onFirst t₁)).2
  have numberTwo := nextSequence_step store named (Action.direct_of_subject (onSecond u₁)).2
  rw [(step_of_respond oneResponds).2] at afterOne numberOne ⊢
  rw [(step_of_respond twoResponds).2] at afterTwo numberTwo ⊢
  -- Each action finds its own session as it was, whether or not the other came first.
  have sameForFirst : Live.Agreeing stamps id store.live two.2.1 :=
    settled.agreeing afterTwo (localTwo.elsewhere id different.symm).symm
  have sameForSecond : Live.Agreeing stamps other one.2.1 store.live :=
    afterOne.agreeing settled (localOne.elsewhere other different)
  have addedByFirst := Live.added_eq sameForFirst firstTimes addressed
  have addedBySecond := Live.added_eq sameForSecond secondTimes otherAddressed
  have numbersLater : stamps.HandOut one.2.1.nextSequence.toNat
      ((second.at u₁).added store.live) := by
    rw [numberOne, UInt64.toNat_add, UInt64.toNat_ofNat', Nat.add_mod_mod]
    exact numbers.drop
  have otherNumbersLater : stamps.HandOut two.2.1.nextSequence.toNat
      ((first.at t₁).added store.live) := by
    rw [numberTwo, UInt64.toNat_add, UInt64.toNat_ofNat', Nat.add_mod_mod]
    rw [Nat.add_comm] at numbers
    exact numbers.drop
  rcases Live.parallel_respond sameForFirst firstTimes addressed
      (addedByFirst ▸ numbers.mono (Nat.le_add_right _ _)) (addedByFirst ▸ otherNumbersLater)
    with ⟨one', oneLater, oneResponds', oneLaterResponds, sameFirst⟩
  rcases Live.parallel_respond sameForSecond secondTimes otherAddressed numbersLater
      (numbers.mono (Nat.le_add_left _ _))
    with ⟨twoLater, two', twoLaterResponds, twoResponds', sameSecond⟩
  cases oneResponds.symm.trans oneResponds'
  cases twoResponds.symm.trans twoResponds'
  refine ⟨addedBySecond, addedByFirst.symm, one, oneLater, two, twoLater, oneResponds,
    twoLaterResponds, twoResponds,
    oneLaterResponds, different, sameFirst, sameSecond, localOne, ?_, localTwo, ?_⟩
  · exact Live.local_respond afterTwo.sound.named (onFirst u₂) oneLaterResponds
  · exact Live.local_respond afterOne.sound.named (onSecond t₂) twoLaterResponds

/-- Two actions that are addressed to different sessions may come in either order: both give the
same answers, and the sessions, the postings, the next number and what the backend lists are the
same after them, but for the numbers and times that the two hand out. -/
theorem actions_on_different_sessions_commute (works : Backend.Works Holds) {backend : β}
    {archive : Archive} (holds : Holds backend archive) (named : archive.Named) {opened : Store β}
    (opening : (load backend).1 = .ok opened) (actions : List Action) {id other : SessionId}
    (different : id ≠ other) {first second : Action} (addressed : first.subject? = some id)
    (otherAddressed : second.subject? = some other) (t₁ t₂ u₁ u₂ : Instant) :
    let store := opened.run actions
    let added := (first.at t₁).added store.live + (second.at u₁).added store.live
    let numbers := (List.range' store.live.nextSequence.toNat added).map (· % sequenceLimit)
    let stamps : Stamps := ⟨numbers, [t₁, t₂, u₁, u₂]⟩
    let afterFirst := store.step (first.at t₁)
    let afterSecond := store.step (second.at u₁)
    let forth := afterFirst.step (second.at t₂)
    let back := afterSecond.step (first.at u₂)
    store.answer (first.at t₁) = afterSecond.answer (first.at u₂) ∧
      afterFirst.answer (second.at t₂) = store.answer (second.at u₁) ∧
      forth.live.ids = back.live.ids ∧ forth.live.Alike stamps back.live ∧
      ∃ records others, (Backend.load forth.backend).1 = .ok records ∧
        (Backend.load back.backend).1 = .ok others ∧
        List.Forall₂ (SessionRecord.Alike stamps) records others := by
  intro store added numbers stamps afterFirst afterSecond forth back
  have start : opened.Settled Holds := by
    rcases load_of_holds works holds with ⟨after, again, loaded⟩
    rw [loaded] at opening
    cases opening
    exact settled_of_ofRecords again named
  have settled : store.Settled Holds :=
    run_invariant (Settled Holds) (fun _ action settled => settled.step works action) start actions
  have handOut : stamps.HandOut store.live.nextSequence.toNat added := fun place inside =>
    List.mem_map_of_mem (List.mem_range'_1.mpr ⟨Nat.le_add_right _ _, by omega⟩)
  rcases exists_swapped settled works different addressed otherAddressed t₁ t₂ u₁ u₂ handOut
      (by simp [stamps]) (by simp [stamps])
    with ⟨addedBySecond, addedByFirst, one, oneLater, two, twoLater, oneResponds,
      twoLaterResponds, twoResponds, oneLaterResponds, swapped⟩
  have byFirst : store.answer (first.at t₁) = one.1 ∧
      afterFirst = ⟨one.2.1, Backend.writeAll one.2.2 store.backend⟩ := step_of_respond oneResponds
  have bySecond : store.answer (second.at u₁) = two.1 ∧
      afterSecond = ⟨two.2.1, Backend.writeAll two.2.2 store.backend⟩ := step_of_respond twoResponds
  have byForth : afterFirst.answer (second.at t₂) = twoLater.1 ∧
      forth = ⟨twoLater.2.1, Backend.writeAll twoLater.2.2 afterFirst.backend⟩ :=
    step_of_respond twoLaterResponds
  have byBack : afterSecond.answer (first.at u₂) = oneLater.1 ∧
      back = ⟨oneLater.2.1, Backend.writeAll oneLater.2.2 afterSecond.backend⟩ :=
    step_of_respond oneLaterResponds
  have forthSettled := (settled.step works (first.at t₁)).step works (second.at t₂)
  have backSettled := (settled.step works (second.at u₁)).step works (first.at u₂)
  have sessions : ∀ key : SessionId,
      Option.Rel (Session.Alike stamps) forth.live.sessions[key]? back.live.sessions[key]? := by
    intro key
    rw [byForth.2, byBack.2]
    exact swapped.sessions key
  refine ⟨?_, ?_, keys_eq_of_rel sessions, ⟨sessions, ?_, ?_⟩, ?_⟩
  · rw [byFirst.1, byBack.1]
    exact swapped.sameFirst.answer
  · rw [byForth.1, bySecond.1]
    exact swapped.sameSecond.answer
  · exact Live.postings_eq_of_alike forthSettled.indexed backSettled.indexed sessions
  · have onFirst : ∀ now, first.at now ≠ .reopen := fun now =>
      (Action.direct_of_subject ((first.subject?_at now).trans addressed)).2
    have onSecond : ∀ now, second.at now ≠ .reopen := fun now =>
      (Action.direct_of_subject ((second.subject?_at now).trans otherAddressed)).2
    have afterFirstNamed := (settled.step works (first.at t₁)).sound.named
    have afterSecondNamed := (settled.step works (second.at u₁)).sound.named
    rw [nextSequence_step afterFirst afterFirstNamed (onSecond t₂), addedBySecond,
      nextSequence_step store settled.sound.named (onFirst t₁),
      nextSequence_step afterSecond afterSecondNamed (onFirst u₂), addedByFirst,
      nextSequence_step store settled.sound.named (onSecond u₁),
      UInt64.add_assoc, UInt64.add_comm (.ofNat ((first.at t₁).added store.live)),
      ← UInt64.add_assoc]
  · rcases settled.holds with ⟨before, holdsBefore, -⟩
    have written := works.writeAll twoLater.2.2 (works.writeAll one.2.2 holdsBefore)
    have otherWritten := works.writeAll oneLater.2.2 (works.writeAll two.2.2 holdsBefore)
    rw [byForth.2, byBack.2, byFirst.2, bySecond.2]
    exact ⟨_, _, (works.load written).1, (works.load otherWritten).1,
      forall₂_toList_of_rel (swapped.records before)⟩

/-- Two sessions exchange their words. The new messages are numbered in the order in which they
come. -/
theorem actions_on_different_sessions_commute_on_shared_words :
    let backend : Watched Archive := .of .empty
    let opened : Store (Watched Archive) := ⟨.ofRecords [], { backend with notes := ["load"] }⟩
    let actions : List Action :=
      [.reconcile "a" [⟨.user, "paris"⟩] ⟨1, 0⟩, .reconcile "b" [⟨.user, "tokyo"⟩] ⟨2, 0⟩]
    let first : Action := .reconcile "a" [⟨.user, "tokyo"⟩] ⟨0, 0⟩
    let second : Action := .reconcile "b" [⟨.user, "paris"⟩] ⟨0, 0⟩
    let store := opened.run actions
    let forth := (store.step (first.at ⟨3, 0⟩)).step (second.at ⟨4, 0⟩)
    let back := (store.step (second.at ⟨5, 0⟩)).step (first.at ⟨6, 0⟩)
    let sequences := fun (store : Store (Watched Archive)) =>
      store.backend.inner.toList.map fun record => record.entries.map (·.sequence)
    backend.refused = [] ∧ backend.inner.Named ∧ (load backend).1 = .ok opened ∧
      first.subject? = some "a" ∧ second.subject? = some "b" ∧
      forth.live.ids = back.live.ids ∧ forth.live.postings = back.live.postings ∧
      sequences forth = [[3], [4]] ∧ sequences back = [[4], [3]] := by
  intro backend opened actions first second store forth back sequences
  have named : backend.inner.Named := Archive.named_empty
  have opening : (load backend).1 = .ok opened := rfl
  have addressed : first.subject? = some "a" := rfl
  have otherAddressed : second.subject? = some "b" := rfl
  have either := actions_on_different_sessions_commute (Watched.works Archive.works) ⟨rfl, rfl⟩
    named opening actions (by decide) addressed otherAddressed ⟨3, 0⟩ ⟨4, 0⟩ ⟨5, 0⟩ ⟨6, 0⟩
  have ids : forth.live.ids = back.live.ids := either.2.2.1
  have alike : forth.live.Alike _ back.live := either.2.2.2.1
  refine ⟨rfl, named, opening, addressed, otherAddressed, ids, alike.postings, ?_, ?_⟩
  · decide
  · decide

end Store

end ChatMemory
