import ChatMemory.Proofs.Number.Ratio
import ChatMemory.Proofs.Search.Growth
import ChatMemory.Proofs.Search.Matching
import ChatMemory.Proofs.Search.Ranking
import Mathlib.Data.List.Forall2

/-!
What a search of a session finds. Main statement: it finds each of the newest messages that hold
the words of the query in a row, a term of it, a longer term of it inside another, or enough of its
terms in some way, and no other message.
-/

namespace ChatMemory

/-! ## When a message matches -/

def HasPhrase (text content : String) : Prop :=
  Text.words text <:+: Text.words content

def HasTerm (text content : String) : Prop :=
  ∃ term ∈ Text.terms text, term ∈ Text.terms content

def HasFragment (text content : String) : Prop :=
  ∃ term ∈ Text.terms text, 3 ≤ term.length ∧
    ∃ held ∈ Text.terms content, term.toList <:+: held.toList

def MatchesByKeyword (text content : String) : Prop :=
  HasPhrase text content ∨ HasTerm text content ∨ HasFragment text content

/-- Some of the query's terms are covered, and a share of them that is at least the threshold. A
threshold that is no number sets no limit. -/
def MatchesByMeaning (search : SearchSettings) (scoring : ScoringSettings) (text content : String) :
    Prop :=
  search.semantic = true ∧ 0 < scoring.coverage (.ofText text) (.ofText content) ∧
    (search.semanticThreshold ≤ scoring.coverage (.ofText text) (.ofText content) ∨
      search.semanticThreshold.isNaN = true)

def IsMatch (search : SearchSettings) (scoring : ScoringSettings) (text content : String) : Prop :=
  MatchesByKeyword text content ∨ MatchesByMeaning search scoring text content

instance (text content : String) : Decidable (HasPhrase text content) :=
  inferInstanceAs (Decidable (_ <:+: _))

instance (text content : String) : Decidable (HasTerm text content) :=
  inferInstanceAs (Decidable (∃ _ ∈ _, _))

instance (text content : String) : Decidable (HasFragment text content) :=
  inferInstanceAs (Decidable (∃ _ ∈ _, _ ∧ ∃ _ ∈ _, _))

instance (text content : String) : Decidable (MatchesByKeyword text content) :=
  inferInstanceAs (Decidable (_ ∨ _ ∨ _))

instance (search : SearchSettings) (scoring : ScoringSettings) (text content : String) :
    Decidable (MatchesByMeaning search scoring text content) :=
  inferInstanceAs (Decidable (_ ∧ _ ∧ (_ ∨ _)))

instance (search : SearchSettings) (scoring : ScoringSettings) (text content : String) :
    Decidable (IsMatch search scoring text content) :=
  inferInstanceAs (Decidable (_ ∨ _))

/-! ## Coverage -/

namespace ScoringSettings

variable {scoring : ScoringSettings} {text content : String}

private theorem length_terms_probe_le (text : String) :
    (Probe.ofText text).terms.length ≤ text.length := by
  rw [Probe.ofText, List.length_map, Std.ExtTreeSet.length_toList]
  exact Std.ExtTreeSet.size_ofList_le.trans
    ((List.length_filter_le _ _).trans (Text.length_words_le text))

private theorem foundTerms_of_isEmpty (empty : ((Probe.ofText text).isEmpty ||
    (Analysis.ofText content).isEmpty) = true) :
    scoring.foundTerms (.ofText text) (.ofText content) = 0 := by
  rw [foundTerms, List.countP_eq_zero]
  intro probeTerm member found
  rcases (Bool.or_eq_true _ _).mp empty with noProbe | noTerms
  · exact List.ne_nil_of_mem member (List.isEmpty_iff.mp noProbe)
  · rcases Query.exists_isClose_of_findTerm? found with ⟨held, holds, -⟩
    rw [Std.ExtTreeSet.isEmpty_iff.mp noTerms] at holds
    exact Std.ExtTreeSet.not_mem_empty holds

private theorem coverage_pos_iff (counted : text.length < 2 ^ 64) :
    0 < scoring.coverage (.ofText text) (.ofText content) ↔
      0 < scoring.foundTerms (.ofText text) (.ofText content) := by
  rw [coverage]
  split
  case isTrue empty =>
    rw [foundTerms_of_isEmpty empty]
    exact iff_of_false (lt_iff_numberPlace rfl rfl |>.not.mpr (lt_irrefl _)) (lt_irrefl 0)
  case isFalse worded =>
    have all := length_terms_probe_le text
    have found : scoring.foundTerms (.ofText text) (.ofText content) ≤
        (Probe.ofText text).terms.length := List.countP_le_length
    have some : (Probe.ofText text).terms ≠ [] := fun none => worded <| by
      rw [Probe.isEmpty, none]
      rfl
    exact ratio_pos_iff (by omega) (List.length_pos_iff.mpr some) (by omega)

end ScoringSettings

/-! ## Prepared queries -/

namespace Query

variable {text content : String} {query : Query} {search : SearchSettings}
  {scoring : ScoringSettings}

private theorem exactTerms_pos_iff (prepared : ofText? text = some query) :
    0 < query.exactTerms (.ofText content) ↔ HasTerm text content := by
  rw [exactTerms, List.countP_pos_iff]
  simp only [mem_terms prepared, Std.ExtTreeSet.contains_iff_mem, Analysis.mem_terms_ofText]
  rfl

private theorem mem_fragments (prepared : ofText? text = some query) {term : String} :
    term ∈ query.fragments ↔ term ∈ Text.terms text ∧ 3 ≤ term.length := by
  rw [ofText?_eq_some prepared, List.mem_filter, Std.ExtTreeSet.mem_toList, Text.mem_termSet,
    Text.isFragment, decide_eq_true_eq, Text.fragmentLength]

private theorem insideTerms_pos_iff (prepared : ofText? text = some query) :
    0 < query.insideTerms (.ofText content) ↔ HasFragment text content := by
  rw [insideTerms, List.countP_pos_iff]
  simp only [mem_fragments prepared, List.any_eq_true, Std.ExtTreeSet.mem_toList,
    Analysis.mem_terms_ofText, Text.contains, Text.occursIn_eq_true_iff, and_assoc]
  rfl

private theorem isSome_keywordScore?_iff (prepared : ofText? text = some query) :
    (query.keywordScore? content (.ofText content)).isSome = true ↔
      MatchesByKeyword text content := by
  rw [keywordScore?, MatchesByKeyword, HasPhrase, ← matchesPhrase_iff prepared,
    ← exactTerms_pos_iff prepared, ← insideTerms_pos_iff prepared]
  dsimp only
  split
  case isTrue phrase => exact iff_of_true rfl (.inl phrase)
  case isFalse noPhrase =>
    rw [or_iff_right noPhrase, Nat.pos_iff_ne_zero, Nat.pos_iff_ne_zero]
    split <;> simp_all [← not_and_or]

private theorem matchesMeaning_iff (prepared : ofText? text = some query)
    (counted : text.length < 2 ^ 64) :
    query.matchesMeaning search scoring (.ofText content) = true ↔
      MatchesByMeaning search scoring text content := by
  have probe : query.probe = .ofText text := by
    rw [ofText?_eq_some prepared]
  have positive : 0 < scoring.coverage (.ofText text) (.ofText content) ↔
      0 < scoring.foundTerms (.ofText text) (.ofText content) :=
    ScoringSettings.coverage_pos_iff counted
  rw [matchesMeaning, probe, MatchesByMeaning, positive, Bool.and_eq_true, Bool.and_eq_true,
    decide_eq_true_eq, Bool.not_eq_true', decide_eq_false_iff_not, and_assoc]
  refine and_congr_right fun _ => and_congr_right fun found => ?_
  have number := (numbers_of_lt (positive.mpr found)).2
  cases thresholdNumber : search.semanticThreshold.isNaN with
  | false =>
      rw [not_lt_iff_le number thresholdNumber]
      simp
  | true =>
      refine iff_of_true (fun below => ?_) (.inr rfl)
      rw [(numbers_of_lt below).2] at thresholdNumber
      cases thresholdNumber

private theorem source?_eq (prepared : ofText? text = some query) (counted : text.length < 2 ^ 64) :
    query.source? search scoring content (.ofText content) =
      if MatchesByKeyword text content then some .keyword
      else if MatchesByMeaning search scoring text content then some .semantic
      else none := by
  simp only [source?, isSome_keywordScore?_iff prepared, matchesMeaning_iff prepared counted]

end Query

/-! ## Hits -/

/-- A hit that tells what is kept of a message and by what it matches. -/
structure IsHitFor (id : SessionId) (text : String) (entry : Entry) (hit : Hit) : Prop where
  session : hit.session = id
  position : hit.position = entry.position
  message : hit.message = entry.message
  sequence : hit.sequence = entry.sequence
  keyword : hit.source = .keyword ↔ MatchesByKeyword text entry.message.content
  phrase : HasPhrase text entry.message.content → hit.score = .ofFloat 1

private theorem forall₂_filterMap {α β : Type _} {convert : α → Option β} {chosen : α → Bool}
    {Related : α → β → Prop} {values : List α}
    (converted : ∀ value ∈ values, (convert value).isSome = chosen value)
    (related : ∀ value ∈ values, ∀ result, convert value = some result → Related value result) :
    List.Forall₂ Related (values.filter chosen) (values.filterMap convert) := by
  induction values with
  | nil => exact .nil
  | cons value rest induction =>
      rcases List.forall_mem_cons.mp converted with ⟨converted, restConverted⟩
      rcases List.forall_mem_cons.mp related with ⟨related, restRelated⟩
      have later := induction restConverted restRelated
      cases result : convert value with
      | none =>
          rw [result] at converted
          rwa [List.filter_cons_of_neg (by simp [← converted]), List.filterMap_cons_none result]
      | some found =>
          rw [result] at converted
          rw [List.filter_cons_of_pos (by simp [← converted]), List.filterMap_cons_some result]
          exact .cons (related found result) later

private theorem Findings.typeOf_eq_none_iff {hits : List Hit} :
    typeOf hits = .none ↔ hits.length = 0 := by
  rw [typeOf, List.length_eq_zero_iff, ← List.isEmpty_iff]
  split_ifs <;> simp_all

namespace Session

variable {session : Session} {text : String} {query : Query} {turn : Turn}

private theorem Consistent.isHitFor_of_hit? (consistent : session.Consistent)
    (member : turn ∈ session.turns) (prepared : Query.ofText? text = some query)
    {search : SearchSettings} {scoring : ScoringSettings} {hit : Hit}
    (found : session.hit? query search scoring turn = some hit) :
    IsHitFor session.id text turn.entry hit := by
  have analysed : turn.analysis = .ofText turn.message.content := by
    rw [consistent.analysed turn member]
    rfl
  have byKeyword : _ ↔ MatchesByKeyword text turn.message.content :=
    Query.isSome_keywordScore?_iff prepared
  rw [hit?, analysed] at found
  dsimp only at found
  split at found
  · rename_i score keyword
    cases found
    have matched : MatchesByKeyword text turn.message.content :=
      byKeyword.mp (Option.isSome_of_eq_some keyword)
    refine ⟨rfl, rfl, rfl, rfl, iff_of_true rfl matched, ?_⟩
    intro phrase
    have holdsPhrase : query.matchesPhrase turn.message.content = true :=
      (Query.matchesPhrase_iff prepared).mpr phrase
    rw [Query.keywordScore?, if_pos holdsPhrase] at keyword
    exact congrArg Score.ofFloat (Option.some.inj keyword).symm
  · rename_i noKeyword
    have unmatched : ¬MatchesByKeyword text turn.message.content := fun matched => by
      rw [← byKeyword] at matched
      exact absurd noKeyword (Option.isSome_iff_ne_none.mp matched)
    split at found
    · cases found
      exact ⟨rfl, rfl, rfl, rfl, iff_of_false HitSource.noConfusion unmatched,
        fun phrase => absurd (.inl phrase) unmatched⟩
    · cases found

private theorem Consistent.isSome_hit?_eq (consistent : session.Consistent)
    (member : turn ∈ session.turns)
    (prepared : Query.ofText? text = some query) (counted : text.length < 2 ^ 64)
    (search : SearchSettings) (scoring : ScoringSettings) :
    (session.hit? query search scoring turn).isSome =
      decide (IsMatch search scoring text turn.entry.message.content) := by
  rw [consistent.isSome_hit? member prepared, isFoundBy, prepared]
  dsimp only
  rw [Query.source?_eq prepared counted, Bool.eq_iff_iff, decide_eq_true_iff]
  change _ ↔ MatchesByKeyword text turn.message.content ∨
    MatchesByMeaning search scoring text turn.message.content
  split_ifs <;> simp_all

private theorem Consistent.forall₂_hits (consistent : session.Consistent)
    (prepared : Query.ofText? text = some query) (counted : text.length < 2 ^ 64)
    (search : SearchSettings) (scoring : ScoringSettings) :
    List.Forall₂ (IsHitFor session.id text)
      ((newest search.maxScanMessages session.entries).filter fun entry =>
        IsMatch search scoring text entry.message.content)
      (session.hits query search scoring) := by
  rw [entries, newest_map, List.filter_map, List.forall₂_map_left_iff]
  apply forall₂_filterMap
  · intro turn member
    exact consistent.isSome_hit?_eq (List.mem_of_mem_drop member) prepared counted search scoring
  · intro turn member hit found
    exact consistent.isHitFor_of_hit? (List.mem_of_mem_drop member) prepared found

/-- A search finds just those of the newest messages that match, each once and with what is kept of
it. The limit cuts off the last of them, and the type says that there are none just if there are
none. The bound on the query is the one on the counts that the coverage is computed from. -/
theorem search_finds_what_matches {session : Session} (consistent : session.Consistent)
    {text : String} (worded : Text.words text ≠ []) (counted : text.length < 2 ^ 64)
    (search : SearchSettings) (scoring : ScoringSettings) :
    ∃ found ranked : List Hit,
      List.Forall₂ (IsHitFor session.id text)
        ((newest search.maxScanMessages session.entries).filter fun entry =>
          IsMatch search scoring text entry.message.content) found ∧
      ranked.Perm found ∧
      ∀ limit,
        (session.find text search scoring limit).total = found.length ∧
        (session.find text search scoring limit).hits = ranked.take limit ∧
        (session.find text search scoring limit).hits.length =
          min limit (session.find text search scoring limit).total ∧
        ((session.find text search scoring limit).type = .none ↔
          (session.find text search scoring limit).total = 0) := by
  rcases Query.exists_ofText? worded with ⟨query, prepared⟩
  refine ⟨session.hits query search scoring,
    Findings.ranked search (session.hits query search scoring),
    consistent.forall₂_hits prepared counted search scoring, Findings.ranked_perm, ?_⟩
  intro limit
  rw [find, prepared]
  dsimp only
  rw [Findings.ofHits_eq]
  refine ⟨rfl, rfl, ?_, ?_⟩
  · rw [List.length_take, Findings.ranked_perm.length_eq]
  · exact Findings.typeOf_eq_none_iff

/-- Of four messages the first holds a term of the query, the second a term inside another word and
the third a term in the plural. -/
theorem search_finds_what_matches_in_three_ways :
    let messages : List Message :=
      [⟨.user, "Paris is a city"⟩, ⟨.assistant, "Its population grows"⟩,
        ⟨.user, "Cities of the world"⟩, ⟨.assistant, "Welcome back"⟩]
    let session := ((new "a" ⟨0, 0⟩).reconcile messages 1 ⟨1, 0⟩).1
    session.Consistent ∧ Text.words "city pop" ≠ [] ∧ "city pop".length < 2 ^ 64 ∧
      (((newest 10000 session.entries).filter fun entry =>
        IsMatch {} {} "city pop" entry.message.content).map (·.position)) = [0, 1, 2] ∧
      (session.find "city pop" {} {} 2).total = 3 ∧
      (session.find "city pop" {} {} 2).hits.length = 2 := by
  intro messages session
  have consistent : session.Consistent := (consistent_new "a" ⟨0, 0⟩).reconcile messages 1 ⟨1, 0⟩
  have worded : Text.words "city pop" ≠ [] := by decide
  have counted : "city pop".length < 2 ^ 64 := by decide
  have matching : (((newest 10000 session.entries).filter fun entry =>
      IsMatch {} {} "city pop" entry.message.content).map (·.position)) = [0, 1, 2] := by
    decide +kernel
  rcases search_finds_what_matches consistent worded counted {} {}
    with ⟨found, ranked, related, -, outcome⟩
  rcases outcome 2 with ⟨total, -, shown, -⟩
  have three : found.length = 3 := by
    rw [← related.length_eq, ← List.length_map (·.position), matching]
    rfl
  rw [total, three] at shown
  exact ⟨consistent, worded, counted, matching, total.trans three, shown⟩

/-- A share of the terms is not below a threshold that is no number, though it is not at least that
either, and so the message is found. -/
theorem search_finds_beside_threshold :
    let search : SearchSettings := { semanticThreshold := .ofBits 0x7fc00000 }
    let content := "Cities of the world"
    let session := ((new "a" ⟨0, 0⟩).reconcile [⟨.user, content⟩] 1 ⟨1, 0⟩).1
    session.Consistent ∧ Text.words "city" ≠ [] ∧ ¬MatchesByKeyword "city" content ∧
      ¬search.semanticThreshold ≤
        ({} : ScoringSettings).coverage (.ofText "city") (.ofText content) ∧
      (session.find "city" search {} 5).total = 1 ∧
      (session.find "city" search {} 5).type = .semantic := by
  intro search content session
  refine ⟨(consistent_new "a" ⟨0, 0⟩).reconcile _ 1 ⟨1, 0⟩, ?_⟩
  decide

end Session

end ChatMemory
