import ChatMemory.Proofs.Engine.Run
import ChatMemory.Proofs.Search.Matching

/-!
Searches over all sessions. Main statement: asking the postings which sessions to look at finds the
same as looking at every session.
-/

namespace ChatMemory

private theorem flatMap_filter_of_eq_nil {α γ : Type _} {find : α → List γ} {chosen : α → Bool}
    {values : List α} (passed : ∀ value ∈ values, chosen value = false → find value = []) :
    (values.filter chosen).flatMap find = values.flatMap find := by
  induction values with
  | nil => rfl
  | cons head tail induction =>
      rcases List.forall_mem_cons.mp passed with ⟨headPassed, tailPassed⟩
      rw [List.flatMap_cons, ← induction tailPassed]
      cases choice : chosen head with
      | true => rw [List.filter_cons_of_pos choice, List.flatMap_cons]
      | false =>
          have unchosen : ¬chosen head = true := by simp [choice]
          rw [List.filter_cons_of_neg unchosen, headPassed choice, List.nil_append]

/-! ## Hits and candidates -/

namespace Session

variable {session : Session} {query : Query} {search : SearchSettings} {scoring : ScoringSettings}

/-- The turn matches the query by a keyword, a phrase or a part of a word, or one of its terms is
found again in the turn. -/
def Matches (query : Query) (scoring : ScoringSettings) (turn : Turn) : Prop :=
  (query.keywordScore? turn.message.content turn.analysis).isSome ∨
    0 < scoring.foundTerms query.probe turn.analysis

private theorem matches_of_hit? {turn : Turn}
    (hit : (session.hit? query search scoring turn).isSome) : Matches query scoring turn := by
  rw [hit?] at hit
  dsimp only at hit
  split at hit
  · rename_i score keyword
    exact .inl (by rw [keyword]; rfl)
  · split at hit
    · rename_i meaning
      rw [Query.matchesMeaning, Bool.and_eq_true, Bool.and_eq_true, decide_eq_true_eq] at meaning
      exact .inr meaning.1.2
    · cases hit

theorem hits_eq_nil (unmatched : ∀ turn ∈ session.turns, ¬Matches query scoring turn) :
    session.hits query search scoring = [] := by
  rw [hits, List.filterMap_eq_nil_iff]
  intro turn member
  rw [← Option.not_isSome_iff_eq_none]
  exact fun hit => unmatched turn (List.mem_of_mem_drop member) (matches_of_hit? hit)

end Session

namespace Engine

variable {β : Type _} {engine : Engine β}

theorem mem_searchedSessions (sound : engine.store.live.Sound) (covered : engine.store.live.Covered)
    {text : String} {query : Query} (prepared : Query.ofText? text = some query)
    {session : Session} (present : session ∈ engine.store.live.toList) {turn : Turn}
    (member : turn ∈ session.turns)
    (matched : Session.Matches query engine.settings.scoring turn) :
    session ∈ engine.searchedSessions query := by
  rcases Live.mem_toList.mp present with ⟨id, found⟩
  rw [searchedSessions]
  split
  · exact present
  · rename_i worded
    have analysed : turn.analysis = .ofText turn.message.content := by
      rw [(sound.consistent id session found).analysed turn member]
      rfl
    have near : query.IsNear engine.settings.scoring.trigramThreshold turn.analysis := by
      rw [Session.Matches, analysed] at matched
      rw [analysed]
      rcases matched with keyword | meaning
      · exact Query.isNear_of_keyword prepared (by simpa using worded) keyword
      · exact Query.isNear_of_foundTerms meaning
    rcases near with ⟨held, heldMember, probeTerm, asked, close⟩
    have listed := covered id held
      ⟨session, found, Session.mem_vocabulary.mpr ⟨turn, member, heldMember⟩⟩
    have candidate := Postings.mem_candidates listed asked close
    exact List.mem_filterMap.mpr ⟨id, Std.ExtTreeSet.mem_toList.mpr candidate, found⟩

def findExhaustively (engine : Engine β) (text : String) (limit : Nat) : Findings :=
  match Query.ofText? text with
  | none => .nothing
  | some query =>
    .ofHits engine.settings.search
      (engine.store.live.toList.flatMap
        (·.hits query engine.settings.search engine.settings.scoring)) limit

theorem flatMap_hits_searchedSessions (sound : engine.store.live.Sound)
    (covered : engine.store.live.Covered) {text : String} {query : Query}
    (prepared : Query.ofText? text = some query) :
    (engine.searchedSessions query).flatMap
        (·.hits query engine.settings.search engine.settings.scoring) =
      engine.store.live.toList.flatMap
        (·.hits query engine.settings.search engine.settings.scoring) := by
  have passed : ∀ session ∈ engine.store.live.toList,
      session ∉ engine.searchedSessions query →
      session.hits query engine.settings.search engine.settings.scoring = [] := by
    intro session present absent
    apply Session.hits_eq_nil
    intro turn member matched
    exact absent (mem_searchedSessions sound covered prepared present member matched)
  have narrowed : ∃ chosen : Session → Bool,
      engine.searchedSessions query = engine.store.live.toList.filter chosen := by
    rw [searchedSessions]
    split
    · exact ⟨fun _ => true, (List.filter_true _).symm⟩
    · exact ⟨_, Live.filterMap_toList_eq_filter sound.named _⟩
  rcases narrowed with ⟨chosen, filtered⟩
  rw [filtered]
  apply flatMap_filter_of_eq_nil
  intro session present unchosen
  apply passed session present
  rw [filtered, List.mem_filter, unchosen]
  exact fun member => Bool.false_ne_true member.2

/-- A search over all sessions finds what looking at every one of them finds, in number and in
content, and passes over none with a message that matches. -/
theorem search_agrees_with_exhaustive [Backend β] {engine : Engine β} (reachable : engine.Reachable)
    (allowed : engine.settings.search.crossSession = true) (text : String) (limit : Nat) :
    (engine.search text none limit).1 = engine.findExhaustively text limit ∧
    (Text.words text = [] → (engine.search text none limit).1 = .nothing) ∧
    (engine.search text none limit).1.total =
      (engine.sessionIds.map fun id => (engine.search text (some id) 0).1.total).sum ∧
    ∀ query, Query.ofText? text = some query →
      ∀ session ∈ engine.store.live.toList, ∀ turn ∈ session.turns,
        Session.Matches query engine.settings.scoring turn →
        session ∈ engine.searchedSessions query := by
  rcases reachable.soundAndCovered with ⟨sound, covered⟩
  have agree : (engine.search text none limit).1 = engine.findExhaustively text limit := by
    rw [search, find, findExhaustively]
    cases prepared : Query.ofText? text with
    | none => rfl
    | some query =>
        dsimp only
        rw [searchScope, if_pos allowed, flatMap_hits_searchedSessions sound covered prepared]
  refine ⟨agree, ?_, ?_, ?_⟩
  · intro wordless
    rw [search, find, Query.ofText?, wordless]
    rfl
  · rw [agree, findExhaustively]
    simp only [search, find]
    cases prepared : Query.ofText? text with
    | none => simp [Findings.nothing]
    | some query => exact Live.length_flatMap_toList engine.store.live _
  · intro query prepared session present turn member matched
    exact mem_searchedSessions sound covered prepared present member matched

/-- A query of stop words alone, which no posting lists. -/
theorem search_agrees_with_exhaustive_on_stop_words :
    let started : Engine Archive := ⟨{}, ⟨.ofRecords Archive.empty.toList, .empty⟩, {}⟩
    let engine := started.step (.append "a" [⟨.user, "To be or not to be"⟩] ⟨1, 0⟩)
    engine.Reachable ∧ engine.settings.search.crossSession = true ∧
      (engine.search "to be" none 5).1 = engine.findExhaustively "to be" 5 ∧
      (engine.search "to be" none 5).1.total = 1 := by
  intro started engine
  have valid : ({} : Settings).fault? = none := by decide
  have opening : (start {} Archive.empty).1 = .ok started := by
    rw [start, Settings.validate, valid]
    rfl
  have reachable : engine.Reachable := .acted _ (.started opening)
  have agree := search_agrees_with_exhaustive reachable rfl "to be" 5
  refine ⟨reachable, rfl, agree.1, ?_⟩
  subst engine started
  decide

end Engine

end ChatMemory
