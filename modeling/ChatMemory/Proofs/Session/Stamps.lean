import ChatMemory.Proofs.Session.Consistency
import Mathlib.Data.List.Forall2

/-!
Sessions that are alike but for the numbers and the times that were handed out to them. Main
statement: what reconciling reports, and what it makes of a session, depends on neither.
-/

namespace ChatMemory

/-- What operations hand out: numbers of messages, and readings of the clock. -/
structure Stamps where
  numbers : List Nat
  times : List Instant

namespace Stamps

/-- The numbers are the same, unless both were handed out. -/
def AlikeNumbers (stamps : Stamps) (first second : Nat) : Prop :=
  first = second ∨ first ∈ stamps.numbers ∧ second ∈ stamps.numbers

def AlikeTimes (stamps : Stamps) (first second : Instant) : Prop :=
  first = second ∨ first ∈ stamps.times ∧ second ∈ stamps.times

/-- So many numbers are handed out from the given one on, and from zero again after the last. -/
def HandOut (stamps : Stamps) (number count : Nat) : Prop :=
  ∀ place < count, (number + place) % sequenceLimit ∈ stamps.numbers

variable {stamps : Stamps} {number first later : Nat}

theorem HandOut.mono (handOut : stamps.HandOut number later) (fewer : first ≤ later) :
    stamps.HandOut number first :=
  fun place inside => handOut place (Nat.lt_of_lt_of_le inside fewer)

theorem HandOut.drop (handOut : stamps.HandOut number (first + later)) :
    stamps.HandOut ((number + first) % sequenceLimit) later := by
  intro place inside
  rw [Nat.mod_add_mod, Nat.add_assoc]
  exact handOut (first + place) (Nat.add_lt_add_left inside first)

end Stamps

variable {stamps : Stamps}

structure Entry.Alike (stamps : Stamps) (first second : Entry) : Prop where
  message : first.message = second.message
  position : first.position = second.position
  sequence : stamps.AlikeNumbers first.sequence second.sequence

structure SessionRecord.Alike (stamps : Stamps) (first second : SessionRecord) : Prop where
  id : first.id = second.id
  entries : List.Forall₂ (Entry.Alike stamps) first.entries second.entries
  title : first.title = second.title
  pinned : first.pinned = second.pinned
  createdAt : stamps.AlikeTimes first.createdAt second.createdAt
  updatedAt : stamps.AlikeTimes first.updatedAt second.updatedAt

structure Turn.Alike (stamps : Stamps) (first second : Turn) : Prop where
  entry : first.entry.Alike stamps second.entry
  analysis : first.analysis = second.analysis

structure Session.Alike (stamps : Stamps) (first second : Session) : Prop where
  id : first.id = second.id
  turns : List.Forall₂ (Turn.Alike stamps) first.turns second.turns
  corpus : first.corpus = second.corpus
  tokens : first.tokens = second.tokens
  title : first.title = second.title
  pinned : first.pinned = second.pinned
  evicted : first.evicted = second.evicted
  createdAt : stamps.AlikeTimes first.createdAt second.createdAt
  updatedAt : stamps.AlikeTimes first.updatedAt second.updatedAt
  accessedAt : stamps.AlikeTimes first.accessedAt second.accessedAt

theorem Entry.Alike.refl (entry : Entry) : entry.Alike stamps entry :=
  ⟨rfl, rfl, .inl rfl⟩

theorem SessionRecord.Alike.refl (record : SessionRecord) : record.Alike stamps record where
  id := rfl
  entries := List.forall₂_same.mpr fun entry _ => .refl entry
  title := rfl
  pinned := rfl
  createdAt := .inl rfl
  updatedAt := .inl rfl

namespace Session

theorem Alike.refl (session : Session) : session.Alike stamps session where
  id := rfl
  turns := List.forall₂_same.mpr fun turn _ => ⟨.refl turn.entry, rfl⟩
  corpus := rfl
  tokens := rfl
  title := rfl
  pinned := rfl
  evicted := rfl
  createdAt := .inl rfl
  updatedAt := .inl rfl
  accessedAt := .inl rfl

/-! ## Alike turns -/

private theorem map_eq_of_alike {α : Type _} {first second : List Turn}
    (alike : List.Forall₂ (Turn.Alike stamps) first second) {read : Turn → α}
    (same : ∀ turn other, Turn.Alike stamps turn other → read turn = read other) :
    first.map read = second.map read := by
  have pairs := List.rel_map (P := (· = ·)) (fun turn other => same turn other) alike
  rwa [List.forall₂_eq_eq_eq] at pairs

private theorem map_message_of_alike {first second : List Turn}
    (alike : List.Forall₂ (Turn.Alike stamps) first second) :
    first.map Turn.message = second.map Turn.message :=
  map_eq_of_alike alike fun _ _ alike => alike.entry.message

private theorem map_analysis_of_alike {first second : List Turn}
    (alike : List.Forall₂ (Turn.Alike stamps) first second) :
    first.map (·.analysis) = second.map (·.analysis) :=
  map_eq_of_alike alike fun _ _ alike => alike.analysis

private theorem tokensOf_of_alike {first second : List Turn}
    (alike : List.Forall₂ (Turn.Alike stamps) first second) :
    tokensOf first = tokensOf second := by
  rw [tokensOf, tokensOf, map_eq_of_alike alike]
  intro turn other alike
  exact congrArg Message.content alike.entry.message

private theorem termsOf_of_alike {first second : List Turn}
    (alike : List.Forall₂ (Turn.Alike stamps) first second) : termsOf first = termsOf second := by
  have terms : ∀ turns : List Turn, turns.flatMap (·.analysis.terms.toList) =
      (turns.map (·.analysis)).flatMap (·.terms.toList) := by
    intro turns
    rw [List.flatMap_map]
  rw [termsOf, termsOf, terms, terms, map_analysis_of_alike alike]

private theorem alike_turnsFrom {number other : Nat} (position : Nat) (messages : List Message)
    (handOut : stamps.HandOut number messages.length)
    (otherHandOut : stamps.HandOut other messages.length) :
    List.Forall₂ (Turn.Alike stamps) (turnsFrom position number messages)
      (turnsFrom position other messages) := by
  induction messages generalizing position number other with
  | nil => exact .nil
  | cons message rest induction =>
      have next : ∀ {start : Nat}, stamps.HandOut start (rest.length + 1) →
          stamps.HandOut (start + 1) rest.length := by
        intro start handOut place inside
        rw [Nat.add_assoc, Nat.add_comm 1]
        exact handOut (place + 1) (Nat.succ_lt_succ inside)
      refine .cons ⟨⟨rfl, rfl, .inr ⟨?_, ?_⟩⟩, rfl⟩ (induction _ (next handOut) (next otherHandOut))
      · exact handOut 0 (Nat.succ_pos _)
      · exact otherHandOut 0 (Nat.succ_pos _)

/-! ## Alike sessions -/

variable {first second : Session}

theorem Alike.history (alike : first.Alike stamps second) : first.history = second.history :=
  map_message_of_alike alike.turns

theorem Alike.size (alike : first.Alike stamps second) : first.size = second.size :=
  alike.turns.length_eq

theorem Alike.vocabulary (alike : first.Alike stamps second) {term : String} :
    term ∈ first.vocabulary ↔ term ∈ second.vocabulary := by
  have analyses : ∀ session : Session, term ∈ session.vocabulary ↔
      ∃ analysis ∈ session.turns.map (·.analysis), term ∈ analysis.terms := by
    intro session
    simp [mem_vocabulary]
  rw [analyses, analyses, map_analysis_of_alike alike.turns]

theorem Alike.toRecord (alike : first.Alike stamps second) :
    first.toRecord.Alike stamps second.toRecord where
  id := alike.id
  entries := List.rel_map (fun _ _ turns => turns.entry) alike.turns
  title := alike.title
  pinned := alike.pinned
  createdAt := alike.createdAt
  updatedAt := alike.updatedAt

section

variable {now later : Instant} (handedOut : now ∈ stamps.times ∧ later ∈ stamps.times)

include handedOut

theorem alike_new (id : SessionId) : (new id now).Alike stamps (new id later) where
  id := rfl
  turns := .nil
  corpus := rfl
  tokens := rfl
  title := rfl
  pinned := rfl
  evicted := rfl
  createdAt := .inr handedOut
  updatedAt := .inr handedOut
  accessedAt := .inr handedOut

theorem Alike.touch (alike : first.Alike stamps second) :
    (first.touch now).Alike stamps (second.touch later) :=
  { alike with accessedAt := .inr handedOut }

theorem Alike.setTitle (alike : first.Alike stamps second) (title : String) :
    (first.setTitle title now).Alike stamps (second.setTitle title later) :=
  { alike with title := rfl, updatedAt := .inr handedOut }

theorem Alike.setPinned (alike : first.Alike stamps second) (pinned : Bool) :
    (first.setPinned pinned now).Alike stamps (second.setPinned pinned later) :=
  { alike with pinned := rfl, updatedAt := .inr handedOut }

end

theorem Alike.replaceTail (alike : first.Alike stamps second) (kept : Nat) {added other : List Turn}
    (addedAlike : List.Forall₂ (Turn.Alike stamps) added other) :
    (first.replaceTail kept added).Alike stamps (second.replaceTail kept other) :=
  have removed := List.forall₂_drop kept alike.turns
  { alike with
    turns := List.rel_append (List.forall₂_take kept alike.turns) addedAlike
    corpus := by
      simp only [Session.replaceTail]
      rw [alike.corpus, map_analysis_of_alike removed, map_analysis_of_alike addedAlike]
    tokens := by
      simp only [Session.replaceTail]
      rw [alike.tokens, tokensOf_of_alike removed, tokensOf_of_alike addedAlike] }

theorem Alike.reconcile (alike : first.Alike stamps second) (supplied : List Message)
    {number other : Nat} {now later : Instant}
    (handOut : stamps.HandOut number (second.reconcile supplied other later).2.appended)
    (otherHandOut : stamps.HandOut other (second.reconcile supplied other later).2.appended)
    (times : now ∈ stamps.times ∧ later ∈ stamps.times) :
    (first.reconcile supplied number now).2 = (second.reconcile supplied other later).2 ∧
      (first.reconcile supplied number now).1.Alike stamps
        (second.reconcile supplied other later).1 := by
  rw [appended_reconcile] at handOut otherHandOut
  rw [Session.reconcile, Session.reconcile, alike.history]
  cases found : align? second.history supplied with
  | none => exact ⟨rfl, alike⟩
  | some alignment =>
      rw [found, Option.elim_some] at handOut otherHandOut
      have removed := List.forall₂_drop alignment.kept alike.turns
      have added := alike_turnsFrom alignment.kept _ handOut otherHandOut
      have after := alike.replaceTail alignment.kept added
      have touched := termsOf_of_alike (List.rel_append removed added)
      dsimp only
      rw [touched, alike.corpus, after.corpus, removed.length_eq, added.length_eq]
      split
      · refine ⟨rfl, ?_⟩
        exact { after with corpus := rfl, updatedAt := .inr times, accessedAt := .inr times }
      · exact ⟨rfl, after⟩

end Session

end ChatMemory
