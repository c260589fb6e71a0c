import ChatMemory.Proofs.Engine.ExhaustiveSearch
import ChatMemory.Proofs.Session.RecentWindow

/-!
Messages that were supplied for condensing. Main statement: each of them is found by any words that
stand in it one after the other, whether or not it was kept in the condensed history.
-/

namespace ChatMemory

/-! ## Phrases -/

namespace Query

private theorem keywordScore?_of_infix {text content : String} {query : Query}
    (prepared : ofText? text = some query) (worded : Text.words text ≠ [])
    (phrase : Text.words text <:+: Text.words content) (analysis : Analysis) :
    query.keywordScore? content analysis = some 1 := by
  have matched : query.matchesPhrase content = true := by
    rw [matchesPhrase, Text.occursIn_eq_true_iff, ofText?_eq_some prepared]
    exact infix_phraseOf_of_infix worded phrase
  rw [keywordScore?, if_pos matched]

end Query

namespace Findings

/-- The findings hold a hit for a message of the session, found by a keyword with the full score. -/
def HoldsPhrase (findings : Findings) (id : SessionId) (message : Message) : Prop :=
  ∃ hit ∈ findings.hits,
    hit.session = id ∧ hit.message = message ∧ hit.source = .keyword ∧ hit.score = .ofFloat 1

private theorem mem_ofHits {search : SearchSettings} {hits : List Hit} {limit : Nat}
    (all : (ofHits search hits limit).total ≤ limit) {hit : Hit} :
    hit ∈ (ofHits search hits limit).hits ↔ hit ∈ hits := by
  have within : hits.length ≤ limit := all
  rw [ofHits]
  dsimp only
  rw [List.take_of_length_le (by rwa [List.length_mergeSort]), List.mem_mergeSort]

end Findings

namespace Session

variable {session : Session} {query : Query} {search : SearchSettings}

private theorem searchedTurns_eq_turns (within : session.size ≤ search.maxScanMessages) :
    session.searchedTurns search = session.turns := by
  have skipped : session.turns.length - search.maxScanMessages = 0 := Nat.sub_eq_zero_of_le within
  rw [searchedTurns, skipped, List.drop_zero]

/-- A session that is not too long to be searched in full gives a hit for each of its turns that
has the full score. -/
theorem exists_hit_of_keywordScore? (scoring : ScoringSettings)
    (within : session.size ≤ search.maxScanMessages) {turn : Turn} (member : turn ∈ session.turns)
    (score : query.keywordScore? turn.message.content turn.analysis = some 1) :
    ∃ hit ∈ session.hits query search scoring, hit.session = session.id ∧
      hit.message = turn.message ∧ hit.source = .keyword ∧ hit.score = .ofFloat 1 := by
  have hit : session.hit? query search scoring turn =
      some ⟨session.id, turn.entry.position, turn.message, .ofFloat 1, .keyword,
        turn.entry.sequence⟩ := by
    rw [hit?, score]
  have found := List.mem_filterMap.mpr ⟨turn, member, hit⟩
  rw [← searchedTurns_eq_turns within] at found
  exact ⟨_, found, rfl, rfl, rfl, rfl⟩

end Session

namespace Engine

variable {β : Type _} {engine : Engine β}

private theorem holdsPhrase_of_mem_searchScope {text : String} {query : Query}
    (prepared : Query.ofText? text = some query) (worded : Text.words text ≠ [])
    {scope : Option String} {session : Session}
    (searched : session ∈ engine.searchScope query scope)
    (within : session.size ≤ engine.settings.search.maxScanMessages) {turn : Turn}
    (member : turn ∈ session.turns)
    (phrase : Text.words text <:+: Text.words turn.message.content) {limit : Nat}
    (all : (engine.search text scope limit).1.total ≤ limit) :
    (engine.search text scope limit).1.HoldsPhrase session.id turn.message := by
  have score := Query.keywordScore?_of_infix prepared worded phrase turn.analysis
  rcases Session.exists_hit_of_keywordScore? engine.settings.scoring within member score
    with ⟨hit, found, described⟩
  rw [search, find, prepared] at all ⊢
  exact ⟨hit, (Findings.mem_ofHits all).mpr (List.mem_flatMap.mpr ⟨session, searched, found⟩),
    described⟩

private theorem condenseTo_of_nonblank [Backend β] (engine : Engine β) {id : String}
    (nonblank : Unicode.isAllBlank id = false) (messages : List Message) (query : Option String)
    (budget : Budget) (now : Instant) :
    (∃ condensed, (engine.condenseTo id messages query budget now).1 = .ok condensed) ∧
      (engine.condenseTo id messages query budget now).2.store =
        (engine.store.reconcile id messages now).2 := by
  rw [condenseTo, SessionId.ofText_of_nonblank nonblank]
  exact ⟨⟨_, rfl⟩, rfl⟩

/-- After a history was supplied, every message of it is found by each run of its words, in a
search of its session and in one of all sessions. -/
theorem supplied_messages_are_found [Backend β] (reachable : engine.Reachable) {id : String}
    (nonblank : Unicode.isAllBlank id = false) (messages : List Message) (query : Option String)
    (budget : Budget) (now : Instant) :
    let after := (engine.condenseTo id messages query budget now).2
    (∃ condensed, (engine.condenseTo id messages query budget now).1 = .ok condensed) ∧
    ∃ session, after.store.live.sessions[id]? = some session ∧
      (session.size ≤ after.settings.search.maxScanMessages →
        ∀ message ∈ messages, ∀ text : String, Text.words text ≠ [] →
          Text.words text <:+: Text.words message.content →
          (∀ limit, (after.search text (some id) limit).1.total ≤ limit →
            (after.search text (some id) limit).1.HoldsPhrase id message) ∧
          (after.settings.search.crossSession = true →
            ∀ limit, (after.search text none limit).1.total ≤ limit →
              (after.search text none limit).1.HoldsPhrase id message)) := by
  intro after
  rcases condenseTo_of_nonblank engine nonblank messages query budget now
    with ⟨condensed, stored⟩
  have named := reachable.soundAndCovered.1.named
  have found : after.store.live.sessions[id]? =
      some ((engine.store.live.outcome id messages now).1.touch now) := by
    rw [stored]
    exact Live.getElem?_reconcile named reachable.noneEvicted id messages now
  refine ⟨condensed, _, found, ?_⟩
  intro within message supplied text worded phrase
  have reached : after.Reachable :=
    .acted (.condenseTo id messages query budget now) reachable
  have kept : message ∈ ((engine.store.live.outcome id messages now).1.touch now).history :=
    Session.mem_history_reconcile supplied
  have sameId := reached.soundAndCovered.1.named id _ found
  generalize (engine.store.live.outcome id messages now).1.touch now = session
    at found within kept sameId
  subst sameId
  rcases List.mem_map.mp kept with ⟨turn, member, rfl⟩
  rcases Query.exists_ofText? worded with ⟨prepared, isPrepared⟩
  constructor
  · intro limit all
    have searched : session ∈ after.searchScope prepared (some session.id) := by
      rw [searchScope, found]
      exact List.mem_singleton_self session
    exact holdsPhrase_of_mem_searchScope isPrepared worded searched within member phrase all
  · intro allowed limit all
    have searched : session ∈ after.searchScope prepared none := by
      rw [searchScope, if_pos allowed]
      refine mem_searchedSessions reached.soundAndCovered.1 reached.soundAndCovered.2 isPrepared
        (Live.mem_toList.mpr ⟨_, found⟩) member (.inl ?_)
      rw [Query.keywordScore?_of_infix isPrepared worded phrase]
      rfl
    exact holdsPhrase_of_mem_searchScope isPrepared worded searched within member phrase all

/-- A message of stop words alone, which is not kept in the condensed history. -/
theorem supplied_messages_are_found_when_dropped :
    let started : Engine Archive := ⟨{}, ⟨.ofRecords Archive.empty.toList, .empty⟩, {}⟩
    let dropped : Message := ⟨.user, "To be, or not to be?"⟩
    let messages := [dropped, ⟨.user, "hello"⟩, ⟨.assistant, "welcome back"⟩]
    let answer := started.condenseTo "s" messages none ⟨0, none⟩ ⟨1, 0⟩
    started.Reachable ∧ Unicode.isAllBlank "s" = false ∧ dropped ∈ messages ∧
      (∃ condensed, answer.1 = .ok condensed ∧ dropped ∉ condensed.messages) ∧
      Text.words "not to" ≠ [] ∧ Text.words "not to" <:+: Text.words dropped.content ∧
      (answer.2.search "not to" (some "s") 1).1.HoldsPhrase "s" dropped ∧
      (answer.2.search "not to" none 1).1.HoldsPhrase "s" dropped := by
  intro started dropped messages answer
  have valid : ({} : Settings).fault? = none := by decide
  have opening : (start {} Archive.empty).1 = .ok started := by
    rw [start, Settings.validate, valid]
    rfl
  have nonblank : Unicode.isAllBlank "s" = false := by decide
  have member : dropped ∈ messages := List.mem_cons_self
  have worded : Text.words "not to" ≠ [] := by decide
  have phrase : Text.words "not to" <:+: Text.words dropped.content := by decide
  rcases supplied_messages_are_found (.started opening) nonblank messages none ⟨0, none⟩ ⟨1, 0⟩
    with ⟨-, session, found, holds⟩
  have size : answer.2.store.live.sessions["s"]?.map Session.size = some 3 := by decide
  rw [found] at size
  have within : session.size ≤ answer.2.settings.search.maxScanMessages := by
    rw [Option.some.inj size]
    decide
  have holds := holds within dropped member "not to" worded phrase
  refine ⟨.started opening, nonblank, member, ?_, worded, phrase, holds.1 1 ?_, holds.2 rfl 1 ?_⟩
  · exact ⟨_, rfl, by decide +kernel⟩
  · decide
  · decide +kernel

end Engine

end ChatMemory
