import ChatMemory.Proofs.Store.Numbering
import ChatMemory.Proofs.Store.Run

/-!
Messages in the order of their arrival. Main statement: throughout a run, on a backend that may
refuse what it likes, the numbers of all messages are distinct, rise within each session and stay
below the one that the next message gets.
-/

namespace ChatMemory

namespace Store

variable {β : Type _} [Backend β]

structure Intact (held : β → Archive) (store : Store β) : Prop where
  sound : store.live.Sound
  kept : (held store.backend).Sound

/-- There are numbers left for the messages that the actions add, and for one more after each. -/
def NumbersLast (store : Store β) : List Action → Prop
  | [] => True
  | action :: rest =>
    store.live.nextSequence.toNat + action.added store.live < sequenceLimit ∧
      (store.step action).NumbersLast rest

variable {held : β → Archive} {store : Store β} {live after : Live} {backend : β}
  {writes : List Write} {count : Nat}

/-! ## Records -/

theorem Intact.write (intact : Intact held store) (keeps : Backend.Keeps held) {request : Write}
    (confirmed : store.live.Confirms request) :
    Intact held { store with backend := (Backend.write request store.backend).2 } := by
  rcases keeps.write request store.backend with refused | written
  · exact ⟨intact.sound, refused ▸ intact.kept⟩
  · have placed : ∀ record, request = .save record → record.misplaced? = none := by
      rintro record rfl
      exact intact.sound.placed_of_confirms confirmed
    exact ⟨intact.sound, written ▸ intact.kept.apply placed⟩

theorem Intact.effects (intact : Intact held ⟨live, backend⟩) (keeps : Backend.Keeps held)
    (effects : Live.Effects live after writes count) :
    Intact held ⟨after, Backend.writeAll writes backend⟩ := by
  induction effects generalizing backend with
  | none => exact intact
  | @cons live between after writes later _ _ effect _ induction =>
      rw [Backend.writeAll_append]
      apply induction
      -- The sessions change first. What is written then only confirms them, so that it does not
      -- matter how much of it is refused.
      have changed : Intact held ⟨between, backend⟩ :=
        ⟨effect.change.sound intact.sound, intact.kept⟩
      refine Backend.writeAll_invariant (fun backend => Intact held ⟨between, backend⟩) ?_ changed
      intro request asked _ written
      exact written.write keeps (effect.confirms intact.sound.named asked)

theorem Intact.flush (intact : Intact held store) (keeps : Backend.Keeps held) :
    Intact held store.flush.2 := by
  have kept : Intact held ⟨store.live, store.flush.2.backend⟩ := by
    refine backend_flush_invariant (fun backend => Intact held ⟨store.live, backend⟩) ?_ ?_ intact
    · intro request asked _ saved
      exact saved.write keeps (Live.confirms_of_mem_saves intact.sound.named asked)
    · intro backend saved
      exact ⟨saved.sound, keeps.flush backend ▸ saved.kept⟩
  exact ⟨live_flush store ▸ kept.sound, kept.kept⟩

private theorem held_reopen (keeps : Backend.Keeps held) (store : Store β) :
    held store.reopen.backend = held store.backend := by
  rw [backend_reopen, keeps.load]

theorem Intact.reopen (intact : Intact held store) (keeps : Backend.Keeps held) :
    Intact held store.reopen := by
  have kept := (held_reopen keeps store).symm ▸ intact.kept
  rcases live_reopen store with unopened | ⟨records, -, opened⟩
  · exact ⟨unopened ▸ intact.sound, kept⟩
  · exact ⟨opened ▸ (Live.soundAndCovered_ofRecords records).1, kept⟩

theorem Intact.step (intact : Intact held store) (keeps : Backend.Keeps held) (action : Action) :
    Intact held (store.step action) := by
  rcases step_cases store intact.sound.named action with rfl | rfl | ⟨writes, effects, written⟩
  · exact intact.reopen keeps
  · exact intact.flush keeps
  · have stepped := Intact.effects intact keeps effects
    rwa [← written] at stepped

/-! ## Numbers -/

structure InOrder (held : β → Archive) (store : Store β) : Prop extends Intact held store where
  numbered : store.live.Numbered (held store.backend)

private theorem numbered_write (keeps : Backend.Keeps held)
    (numbered : live.Numbered (held backend))
    {request : Write} (confirmed : live.Confirms request) :
    live.Numbered (held (Backend.write request backend).2) := by
  rcases keeps.write request backend with refused | written
  · rwa [refused]
  · rw [written]
    exact numbered.write confirmed

private theorem numbered_effects (keeps : Backend.Keeps held)
    (effects : Live.Effects live after writes count)
    (fits : live.nextSequence.toNat + count < sequenceLimit) (named : live.Named)
    (numbered : live.Numbered (held backend)) :
    after.Numbered (held (Backend.writeAll writes backend)) := by
  induction effects generalizing backend with
  | none => exact numbered
  | @cons live between after writes later _ _ effect _ induction =>
      rw [Backend.writeAll_append]
      rcases effect.ingested with ⟨_, _, added, ingested, rfl⟩
      have room : live.nextSequence.toNat + added.length < sequenceLimit := by omega
      have next := ingested.toNat_nextSequence room
      apply induction (by omega) (effect.change.named named)
      refine Backend.writeAll_invariant (fun backend => between.Numbered (held backend)) ?_
        (numbered.ingested ingested room)
      intro request asked _ written
      exact numbered_write keeps written (effect.confirms named asked)

private theorem numbered_flush (keeps : Backend.Keeps held) (named : store.live.Named)
    (numbered : store.live.Numbered (held store.backend)) :
    store.flush.2.live.Numbered (held store.flush.2.backend) := by
  rw [live_flush]
  refine backend_flush_invariant (fun backend => store.live.Numbered (held backend)) ?_ ?_ numbered
  · intro request asked _ saved
    exact numbered_write keeps saved (Live.confirms_of_mem_saves named asked)
  · intro backend saved
    rwa [keeps.flush]

theorem InOrder.reopen (inOrder : InOrder held store) (keeps : Backend.Keeps held) :
    InOrder held store.reopen := by
  refine ⟨inOrder.toIntact.reopen keeps, ?_⟩
  rw [held_reopen keeps]
  rcases live_reopen store with unopened | ⟨records, listed, opened⟩
  · rw [unopened]
    exact inOrder.numbered
  · rw [opened]
    exact inOrder.numbered.reopened inOrder.kept (keeps.listed _ records listed)

theorem InOrder.step (inOrder : InOrder held store) (keeps : Backend.Keeps held) {action : Action}
    (fits : store.live.nextSequence.toNat + action.added store.live < sequenceLimit) :
    InOrder held (store.step action) := by
  have named := inOrder.sound.named
  have intact := inOrder.toIntact.step keeps action
  rcases step_cases store named action with rfl | rfl | ⟨writes, effects, written⟩
  · exact inOrder.reopen keeps
  · exact ⟨intact, numbered_flush keeps named inOrder.numbered⟩
  · refine ⟨intact, ?_⟩
    rw [written]
    exact numbered_effects keeps effects fits named inOrder.numbered

theorem InOrder.run (inOrder : InOrder held store) (keeps : Backend.Keeps held)
    {actions : List Action} (last : store.NumbersLast actions) :
    InOrder held (store.run actions) := by
  induction actions generalizing store with
  | nil => exact inOrder
  | cons action rest induction => exact induction (inOrder.step keeps last.1) last.2

theorem inOrder_of_load (keeps : Backend.Keeps held) (vacant : held backend = .empty)
    (opening : (load backend).1 = .ok store) : InOrder held store := by
  -- Opening a store is the same as opening one anew that holds nothing.
  have start : InOrder held ⟨.empty, backend⟩ :=
    ⟨⟨Live.sound_empty, vacant ▸ Archive.sound_empty⟩, vacant ▸ Live.numbered_of_archive_empty⟩
  exact reopen_of_load .empty opening ▸ start.reopen keeps

/-- Throughout a run the numbers of all messages are distinct, rise with the place in a session and
are below the next one, so that every message that comes in is numbered after all others, as long
as numbers are left. Nothing is asked of the backend but that it keeps what is written or refuses
it. -/
theorem messages_in_order_of_arrival (keeps : Backend.Keeps held)
    (vacant : held backend = .empty) {opened : Store β}
    (opening : (load backend).1 = .ok opened) (actions : List Action)
    (last : opened.NumbersLast actions) :
    let store := opened.run actions
    (store.live.toList.flatMap fun session => session.entries.map (·.sequence)).Nodup ∧
    (∀ session ∈ store.live.toList, session.entries.Pairwise fun earlier later =>
      earlier.position < later.position ∧ earlier.sequence < later.sequence) ∧
    (∀ session ∈ store.live.toList, ∀ entry ∈ session.entries,
      entry.sequence < store.live.nextSequence.toNat) ∧
    ∀ action, action ≠ .reopen → store.NumbersLast [action] →
      ∀ id, ∀ entry ∈ (store.step action).live.entriesOf id,
        entry ∈ store.live.entriesOf id ∨
          ∀ session ∈ store.live.toList, ∀ earlier ∈ session.entries,
            earlier.sequence < entry.sequence := by
  intro store
  have inOrder : InOrder held store := (inOrder_of_load keeps vacant opening).run keeps last
  have named := inOrder.sound.named
  have below : ∀ session ∈ store.live.toList, ∀ entry ∈ session.entries,
      entry.sequence < store.live.nextSequence.toNat := fun _ present _ member =>
    inOrder.numbered.below_of_mem named present member
  refine ⟨inOrder.numbered.nodup_sequences named, ?_, below, ?_⟩
  · intro session present
    rcases Live.mem_toList.mp present with ⟨id, found⟩
    have placed := (inOrder.sound.consistent id session found).pairwise_position
    exact placed.and (inOrder.numbered.rising_of_mem named present)
  · intro action unopened fits id entry member
    rcases effects_step store named unopened with ⟨_, effects⟩
    rcases effects.mem_entriesOf fits.1 id entry member with before | new
    · exact .inl before
    · exact .inr fun session present earlier stored =>
        Nat.lt_of_lt_of_le (below session present earlier stored) new

/-- A run in which a refused deletion brings a session back, whose second message then gives way to
a new one. -/
theorem messages_in_order_of_arrival_after_refused_deletion :
    let backend : Watched Archive := ⟨.empty, [.delete], []⟩
    let opened : Store (Watched Archive) :=
      ⟨.ofRecords Archive.empty.toList, ⟨.empty, [.delete], ["load"]⟩⟩
    let actions : List Action :=
      [.reconcile "a" [⟨.user, "hello"⟩, ⟨.assistant, "welcome"⟩] ⟨1, 0⟩,
        .reconcile "b" [⟨.user, "hello"⟩] ⟨2, 0⟩, .remove "a",
        .append "b" [⟨.assistant, "welcome"⟩] ⟨3, 0⟩, .reopen,
        .reconcile "a" [⟨.user, "hello"⟩, ⟨.assistant, "good morning"⟩] ⟨4, 0⟩]
    let sequences := (opened.run actions).live.toList.flatMap fun session =>
      session.entries.map (·.sequence)
    Backend.Keeps (Watched.inner : Watched Archive → Archive) ∧ backend.inner = .empty ∧
      (load backend).1 = .ok opened ∧ opened.NumbersLast actions ∧
      sequences = [1, 5, 3, 4] ∧ sequences.Nodup := by
  intro backend opened actions sequences
  have vacant : backend.inner = .empty := rfl
  have opening : (load backend).1 = .ok opened := rfl
  have numbered : sequences = [1, 5, 3, 4] := by decide
  have last : opened.NumbersLast actions := by
    simp only [actions, NumbersLast]
    decide
  have distinct := messages_in_order_of_arrival Watched.keeps_inner vacant opening actions last
  exact ⟨Watched.keeps_inner, vacant, opening, last, numbered, distinct.1⟩

end Store

end ChatMemory
