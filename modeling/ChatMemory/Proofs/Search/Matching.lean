import ChatMemory.Proofs.Text.Blank
import ChatMemory.Proofs.Text.Words
import ChatMemory.Search.Postings
import ChatMemory.Search.Query
import Mathlib.Data.List.Infix

/-!
The index is at least as permissive as the matching of messages. Main statements: a phrase is found
just where its words stand one after the other, and a message that matches a query, in whatever way,
holds a term that is close to one of the query's terms.
-/

namespace ChatMemory

/-! ## Phrases -/

def spaced (words : List String) : List Char :=
  words.flatMap (fun word => ' ' :: word.toList) ++ [' ']

private theorem phraseOf_eq_spaced {words : List String} (some : words ≠ []) :
    phraseOf words = spaced words := by
  cases words with
  | nil => exact absurd rfl some
  | cons word rest =>
      rw [phraseOf, List.map_cons, Text.joinWithSpaces_cons, spaced, List.flatMap_cons,
        List.flatMap_map]
      simp

private theorem exists_spaced_eq_cons (words : List String) : ∃ rest, spaced words = ' ' :: rest :=
    by
  cases words with
  | nil => exact ⟨[], rfl⟩
  | cons word rest => exact ⟨_, rfl⟩

private theorem spaced_cons (word : String) (rest : List String) :
    spaced (word :: rest) = ' ' :: (word.toList ++ spaced rest) := by
  simp [spaced]

private theorem infix_spaced_of_infix {words others : List String} (found : words <:+: others) :
    spaced words <:+: spaced others := by
  rcases found with ⟨before, after, rfl⟩
  rcases exists_spaced_eq_cons after with ⟨rest, follows⟩
  refine ⟨before.flatMap fun word => ' ' :: word.toList, rest, ?_⟩
  rw [spaced] at follows
  simp only [spaced, List.flatMap_append, List.append_assoc, follows]
  rfl

theorem infix_phraseOf_of_infix {words others : List String} (some : words ≠ [])
    (found : words <:+: others) : phraseOf words <:+: phraseOf others := by
  have someOthers : others ≠ [] := by
    rintro rfl
    exact some (List.infix_nil.mp found)
  rw [phraseOf_eq_spaced some, phraseOf_eq_spaced someOthers]
  exact infix_spaced_of_infix found

private theorem infix_of_infix_append {run word rest : List Char} (spaceFree : ' ' ∉ word)
    (found : ' ' :: run <:+: word ++ rest) : ' ' :: run <:+: rest := by
  induction word with
  | nil => exact found
  | cons character word induction =>
      rcases List.ne_and_not_mem_of_not_mem_cons spaceFree with ⟨differs, spaceFree⟩
      rw [List.cons_append, List.infix_cons_iff] at found
      rcases found with starts | later
      · exact absurd (List.cons_prefix_cons.mp starts).1 differs
      · exact induction spaceFree later

private theorem eq_of_append_space_prefix {first second rest : List Char} (firstFree : ' ' ∉ first)
    (secondFree : ' ' ∉ second) (starts : first ++ [' '] <+: second ++ ' ' :: rest) :
    first = second := by
  induction first generalizing second with
  | nil =>
      cases second with
      | nil => rfl
      | cons character second =>
          have equal := (List.cons_prefix_cons.mp starts).1
          rw [equal] at secondFree
          exact absurd List.mem_cons_self secondFree
  | cons character first induction =>
      cases second with
      | nil =>
          have equal := (List.cons_prefix_cons.mp starts).1
          rw [equal] at firstFree
          exact absurd List.mem_cons_self firstFree
      | cons other second =>
          rcases List.cons_prefix_cons.mp starts with ⟨equal, starts⟩
          rw [equal, induction (List.ne_and_not_mem_of_not_mem_cons firstFree).2
            (List.ne_and_not_mem_of_not_mem_cons secondFree).2 starts]

private theorem prefix_of_prefix_spaced {words others : List String}
    (wordsFree : ∀ word ∈ words, ' ' ∉ word.toList)
    (othersFree : ∀ word ∈ others, ' ' ∉ word.toList) (starts : spaced words <+: spaced others) :
    words <+: others := by
  induction words generalizing others with
  | nil => exact List.nil_prefix
  | cons word rest induction =>
      rcases List.forall_mem_cons.mp wordsFree with ⟨wordFree, restFree⟩
      rw [spaced_cons] at starts
      cases others with
      | nil =>
          have short := starts.length_le
          simp [spaced] at short
      | cons other others =>
          rcases List.forall_mem_cons.mp othersFree with ⟨otherFree, laterFree⟩
          rw [spaced_cons] at starts
          have starts := (List.cons_prefix_cons.mp starts).2
          rcases exists_spaced_eq_cons rest with ⟨run, begins⟩
          rcases exists_spaced_eq_cons others with ⟨text, follows⟩
          have first : word.toList ++ [' '] <+: other.toList ++ ' ' :: text := by
            rw [begins, follows, ← List.singleton_append, ← List.append_assoc] at starts
            exact (List.prefix_append _ run).trans starts
          have same := eq_of_append_space_prefix wordFree otherFree first
          obtain rfl := String.toList_inj.mp same
          rw [List.prefix_append_right_inj] at starts
          exact (List.prefix_cons_inj word).mpr (induction restFree laterFree starts)

private theorem infix_of_infix_spaced {words others : List String} (some : words ≠ [])
    (wordsFree : ∀ word ∈ words, ' ' ∉ word.toList)
    (othersFree : ∀ word ∈ others, ' ' ∉ word.toList) (found : spaced words <:+: spaced others) :
    words <:+: others := by
  induction others with
  | nil =>
      cases words with
      | nil => exact absurd rfl some
      | cons word rest =>
          have short := found.length_le
          simp [spaced] at short
  | cons head rest induction =>
      rcases List.forall_mem_cons.mp othersFree with ⟨headFree, restFree⟩
      rcases exists_spaced_eq_cons words with ⟨run, begins⟩
      rw [spaced_cons, List.infix_cons_iff, ← spaced_cons] at found
      -- The run begins with a space: either the one before the head or one after it.
      rcases found with starts | later
      · exact (prefix_of_prefix_spaced wordsFree othersFree starts).isInfix
      · rw [begins] at later
        have later := infix_of_infix_append headFree later
        rw [← begins] at later
        exact List.infix_cons (induction restFree later)

private theorem infix_phraseOf_iff {text content : String} (worded : Text.words text ≠ []) :
    phraseOf (Text.words text) <:+: phraseOf (Text.words content) ↔
      Text.words text <:+: Text.words content := by
  refine ⟨?_, infix_phraseOf_of_infix worded⟩
  intro found
  rw [phraseOf_eq_spaced worded] at found
  by_cases empty : Text.words content = []
  · rcases List.exists_cons_of_ne_nil worded with ⟨word, rest, words⟩
    have letters : word.toList ≠ [] := by
      rw [Ne, String.toList_eq_nil_iff]
      rintro rfl
      exact Text.empty_notMem_words text (words ▸ List.mem_cons_self)
    have short := found.length_le
    have positive := List.length_pos_iff.mpr letters
    rw [empty, words] at short
    simp only [phraseOf, Text.joinWithSpaces, spaced, List.flatMap_cons, List.map_nil,
      List.length_append, List.length_cons, List.length_nil] at short
    omega
  · rw [phraseOf_eq_spaced empty] at found
    exact infix_of_infix_spaced worded (fun _ => Text.space_notMem_of_mem_words)
      (fun _ => Text.space_notMem_of_mem_words) found

/-! ## Close terms -/

namespace Query

def IsNear (query : Query) (threshold : Float32) (analysis : Analysis) : Prop :=
  ∃ held ∈ analysis.terms, ∃ probeTerm ∈ query.probe.terms,
    Postings.isClose threshold probeTerm held = true

variable {text content : String} {query : Query} {threshold : Float32} {scoring : ScoringSettings}

theorem ofText?_eq_some (prepared : ofText? text = some query) :
    query = ⟨phraseOf (Text.words text), (Text.termSet text).toList,
      (Text.termSet text).toList.filter Text.isFragment, .ofText text⟩ := by
  rw [ofText?] at prepared
  dsimp only at prepared
  split at prepared
  · cases prepared
  · exact (Option.some.inj prepared).symm

theorem exists_ofText? (worded : Text.words text ≠ []) : ∃ query, ofText? text = some query := by
  rw [ofText?]
  exact ⟨_, if_neg (by simpa using worded)⟩

private theorem words_ne_nil_of_ofText? (prepared : ofText? text = some query) :
    Text.words text ≠ [] := by
  intro wordless
  rw [ofText?, wordless] at prepared
  cases prepared

/-- The test for the phrase is met just by the messages that hold the words of the query one after
the other. -/
theorem matchesPhrase_iff (prepared : ofText? text = some query) :
    query.matchesPhrase content = true ↔ Text.words text <:+: Text.words content := by
  rw [matchesPhrase, Text.occursIn_eq_true_iff, ofText?_eq_some prepared]
  exact infix_phraseOf_iff (words_ne_nil_of_ofText? prepared)

theorem mem_terms (prepared : ofText? text = some query) {term : String} :
    term ∈ query.terms ↔ term ∈ Text.terms text := by
  rw [ofText?_eq_some prepared, Std.ExtTreeSet.mem_toList, Text.mem_termSet]

private theorem ofTerm_mem_probe (prepared : ofText? text = some query) {term : String}
    (member : term ∈ query.terms) : ProbeTerm.ofTerm term ∈ query.probe.terms := by
  rw [mem_terms prepared] at member
  rw [ofText?_eq_some prepared]
  exact Probe.mem_terms_ofText.mpr ⟨term, member, rfl⟩

private theorem isNear_of_exact (prepared : ofText? text = some query) {analysis : Analysis}
    {term : String} (asked : term ∈ query.terms) (held : term ∈ analysis.terms) :
    query.IsNear threshold analysis := by
  refine ⟨term, held, .ofTerm term, ofTerm_mem_probe prepared asked, ?_⟩
  simp [Postings.isClose, ProbeTerm.ofTerm]

private theorem isNear_of_phrase (prepared : ofText? text = some query) (worded : query.terms ≠ [])
    (matched : query.matchesPhrase content = true) :
    query.IsNear threshold (.ofText content) := by
  rcases List.exists_mem_of_ne_nil query.terms worded with ⟨term, asked⟩
  have found := Text.mem_terms.mp ((mem_terms prepared).mp asked)
  have member := ((matchesPhrase_iff prepared).mp matched).subset found.1
  exact isNear_of_exact prepared asked
    (Analysis.mem_terms_ofText.mpr (Text.mem_terms.mpr ⟨member, found.2⟩))

private theorem isNear_of_inside (prepared : ofText? text = some query) {analysis : Analysis}
    (matched : query.insideTerms analysis ≠ 0) : query.IsNear threshold analysis := by
  rcases List.countP_pos_iff.mp (Nat.pos_of_ne_zero matched) with ⟨fragment, listed, inside⟩
  rcases List.any_eq_true.mp inside with ⟨held, member, within⟩
  have asked : fragment ∈ query.terms ∧ Text.isFragment fragment = true := by
    rw [ofText?_eq_some prepared] at listed ⊢
    exact List.mem_filter.mp listed
  refine ⟨held, Std.ExtTreeSet.mem_toList.mp member, .ofTerm fragment,
    ofTerm_mem_probe prepared asked.1, ?_⟩
  simp [Postings.isClose, ProbeTerm.ofTerm, asked.2, within]

theorem isNear_of_keyword (prepared : ofText? text = some query) (worded : query.terms ≠ [])
    (matched : (query.keywordScore? content (.ofText content)).isSome) :
    query.IsNear threshold (.ofText content) := by
  rw [keywordScore?] at matched
  dsimp only at matched
  split at matched
  · rename_i phrase
    exact isNear_of_phrase prepared worded phrase
  · split at matched
    · cases matched
    · rename_i someTerm
      simp only [Bool.and_eq_true, decide_eq_true_eq, not_and_or] at someTerm
      rcases someTerm with exact | inside
      · rcases List.countP_pos_iff.mp (Nat.pos_of_ne_zero exact) with ⟨term, asked, held⟩
        exact isNear_of_exact prepared asked (Std.ExtTreeSet.contains_iff_mem.mp held)
      · exact isNear_of_inside prepared inside

private theorem exists_areRelated_of_largest? {term : String} {candidate : Analysis}
    (found : (largest? (scoring.relatedSimilarities term candidate)).isSome) :
    ∃ held ∈ candidate.terms.toList, scoring.areRelated term held = true := by
  rw [ScoringSettings.relatedSimilarities] at found
  split at found
  · cases found
  · cases related : candidate.terms.toList.filter (scoring.areRelated term) with
    | nil =>
        rw [related] at found
        cases found
    | cons held others =>
        exact ⟨held, List.mem_filter.mp (related ▸ List.mem_cons_self)⟩

private theorem le_similarity_of_areRelated {term held : String}
    (related : scoring.areRelated term held = true) :
    scoring.trigramThreshold ≤ Text.trigramSimilarity term held := by
  rw [ScoringSettings.areRelated] at related
  split at related
  · cases related
  · split at related
    · cases related
    · simp only [Bool.and_eq_true, decide_eq_true_eq] at related
      exact related.1

/-- Whatever the scoring finds of a term is close to it: the same term, one of the same stem or one
similar enough by trigrams. -/
theorem exists_isClose_of_findTerm? {probeTerm : ProbeTerm}
    (found : (scoring.findTerm? (.ofText content) probeTerm).isSome) :
    ∃ held ∈ (Analysis.ofText content).terms,
      Postings.isClose scoring.trigramThreshold probeTerm held = true := by
  rw [ScoringSettings.findTerm?] at found
  split at found
  · rename_i same
    exact ⟨probeTerm.term, Std.ExtTreeSet.contains_iff_mem.mp same, by simp [Postings.isClose]⟩
  · split at found
    · rename_i stem
      rcases Analysis.mem_stems_ofText.mp (Std.ExtTreeSet.contains_iff_mem.mp stem)
        with ⟨held, member, shared⟩
      exact ⟨held, Analysis.mem_terms_ofText.mpr member, by simp [Postings.isClose, shared]⟩
    · rw [Option.isSome_map] at found
      rcases exists_areRelated_of_largest? found with ⟨held, member, related⟩
      refine ⟨held, Std.ExtTreeSet.mem_toList.mp member, ?_⟩
      simp [Postings.isClose, le_similarity_of_areRelated related]

theorem isNear_of_foundTerms
    (found : 0 < scoring.foundTerms query.probe (.ofText content)) :
    query.IsNear scoring.trigramThreshold (.ofText content) := by
  rcases List.countP_pos_iff.mp found with ⟨probeTerm, asked, matched⟩
  rcases exists_isClose_of_findTerm? matched with ⟨held, member, close⟩
  exact ⟨held, member, probeTerm, asked, close⟩

end Query

theorem Postings.mem_candidates {postings : Postings} {probe : Probe} {threshold : Float32}
    {id : SessionId} {held : String} {probeTerm : ProbeTerm}
    (listed : id ∈ postings.sessionsFor held) (asked : probeTerm ∈ probe.terms)
    (close : isClose threshold probeTerm held = true) :
    id ∈ postings.candidates probe threshold := by
  rw [sessionsFor] at listed
  cases found : postings.sessionsByTerm[held]? with
  | none =>
      rw [found] at listed
      exact absurd listed Std.ExtTreeSet.not_mem_empty
  | some sessions =>
      rw [found] at listed
      rw [candidates, Std.ExtTreeSet.mem_ofList, List.contains_iff_mem, List.mem_flatMap]
      refine ⟨(held, sessions), ?_, Std.ExtTreeSet.mem_toList.mpr listed⟩
      rw [List.mem_filter, Std.ExtTreeMap.mem_toList_iff_getElem?_eq_some]
      exact ⟨found, List.any_eq_true.mpr ⟨probeTerm, asked, close⟩⟩

end ChatMemory
