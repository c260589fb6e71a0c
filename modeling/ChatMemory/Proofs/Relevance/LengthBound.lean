import ChatMemory.Proofs.Number.Ratio

/-!
The bound on the similarity of two terms that their lengths give. Pairs of terms below it are not
compared. Main statements: for terms of which the longer repeats its trigrams no more than the
shorter, this changes nothing; a term that repeats one trigram over and over may be missed.
-/

namespace ChatMemory

namespace Text

/-! ## Trigrams in common -/

private theorem length_triples :
    ∀ characters : List Char, (triples characters).length = characters.length - 2
  | [] | [_] | [_, _] => rfl
  | first :: second :: third :: rest => by
      rw [triples, List.length_cons, length_triples]
      rfl

private theorem length_triples_padded (term : String) :
    (triples (' ' :: ' ' :: term.toList ++ [' '])).length = term.length + 1 := by
  rw [length_triples, ← String.length_toList]
  simp

private theorem size_trigrams_le (term : String) : (trigrams term).size ≤ term.length + 1 :=
  Std.ExtTreeSet.size_ofList_le.trans_eq <| by rw [List.length_map, length_triples_padded]

private theorem size_trigrams_pos (term : String) : 0 < (trigrams term).size := by
  have some : (triples (' ' :: ' ' :: term.toList ++ [' '])).map String.ofList ≠ [] := by
    rw [← List.length_pos_iff, List.length_map, length_triples_padded]
    exact Nat.succ_pos _
  rw [Nat.pos_iff_ne_zero, Ne, ← Std.ExtTreeSet.eq_empty_iff_size_eq_zero, trigrams,
    Std.ExtTreeSet.ofList_eq_empty_iff]
  exact some

private theorem filter_contains_eq_inter (first second : Std.ExtTreeSet String) :
    first.filter second.contains = first ∩ second := by
  apply Std.ExtTreeSet.ext_mem
  intro trigram
  simp [Std.ExtTreeSet.mem_filter, Std.ExtTreeSet.mem_inter_iff]

def sharedTrigrams (first second : String) : Nat :=
  ((trigrams first).filter (trigrams second).contains).size

private theorem sharedTrigrams_le (first second : String) :
    sharedTrigrams first second ≤ (trigrams first).size ∧
      sharedTrigrams first second ≤ (trigrams second).size := by
  rw [sharedTrigrams, filter_contains_eq_inter]
  exact ⟨Std.ExtTreeSet.size_inter_le_size_left, Std.ExtTreeSet.size_inter_le_size_right⟩

/-- One term repeats its trigrams no more than another: of all its trigrams at least as great a
share is distinct. -/
def RepeatsNoMore (term other : String) : Prop :=
  (trigrams other).size * (term.length + 1) ≤ (trigrams term).size * (other.length + 1)

private theorem repeatsNoMore_of_nodup {term : String} (other : String)
    (distinct : (triples (' ' :: ' ' :: term.toList ++ [' '])).Nodup) :
    RepeatsNoMore term other := by
  have all : (trigrams term).size = term.length + 1 := by
    rw [trigrams, Std.ExtTreeSet.size_ofList, List.length_map, length_triples_padded]
    rw [List.pairwise_map]
    refine distinct.imp fun different equal => different ?_
    exact String.ofList_injective (Std.LawfulEqCmp.eq_of_compare equal)
  rw [RepeatsNoMore, all, Nat.mul_comm]
  exact Nat.mul_le_mul_left _ (size_trigrams_le other)

/-- Two terms whose lengths bound their similarity, and short enough that their lengths are exact in
single precision. -/
structure Comparable (first second : String) : Prop where
  ofShorter : first.length < second.length → RepeatsNoMore second first
  ofLonger : second.length < first.length → RepeatsNoMore first second
  exact : first.length + second.length + 2 ≤ 2 ^ 24

private theorem Comparable.sharedTrigrams_mul_le {first second : String}
    (comparable : Comparable first second) :
    sharedTrigrams first second * (first.length + second.length + 2) ≤
      (min first.length second.length + 1) * ((trigrams first).size + (trigrams second).size) := by
  have ofShorter := comparable.ofShorter
  have ofLonger := comparable.ofLonger
  rcases sharedTrigrams_le first second with ⟨ofFirst, ofSecond⟩
  simp only [RepeatsNoMore] at ofShorter ofLonger
  rcases Nat.lt_trichotomy first.length second.length with less | equal | greater
  · have scaled := Nat.mul_le_mul_right (first.length + second.length + 2) ofFirst
    rw [min_eq_left less.le]
    linarith [ofShorter less]
  · rw [← equal, Nat.min_self]
    linarith [Nat.mul_le_mul_right (first.length + 1) ofFirst,
      Nat.mul_le_mul_right (first.length + 1) ofSecond]
  · have scaled := Nat.mul_le_mul_right (first.length + second.length + 2) ofSecond
    rw [min_eq_right greater.le]
    linarith [ofLonger greater]

end Text

open Number Text

/-! ## The bound in single precision -/

private theorem holds_similarityBound {first second : Nat} (exact : first + second + 2 ≤ 2 ^ 24) :
    Holds (similarityBound first second)
      (2 * (min first second + 1 : ℕ) / (first + second + 2 : ℕ)) := by
  have small : min first second + 1 ≤ 2 ^ 24 := by omega
  refine IsValue.div (IsValue.double (isValue_ofCount (by omega) small) ?_)
    (isValue_ofCount (by omega) exact)
  exact_mod_cast small

private theorem Text.Comparable.ratio_le {first second : String}
    (comparable : Comparable first second) :
    ratio (2 * sharedTrigrams first second) ((trigrams first).size + (trigrams second).size) ≤
      similarityBound first.length second.length := by
  have bound := holds_similarityBound comparable.exact
  have exact := comparable.exact
  have firstSize := size_trigrams_le first
  have secondSize := size_trigrams_le second
  have some : 0 < (trigrams first).size + (trigrams second).size :=
    Nat.add_pos_left (size_trigrams_pos first) _
  have sizes := sharedTrigrams_le first second
  rcases Nat.eq_zero_or_pos (sharedTrigrams first second) with none | shared
  · rcases ratio_zero some (by omega) with ⟨number, zero⟩
    rw [none, le_iff_numberPlace number bound.isNumber, zero]
    exact bound.numberPlace_pos.le
  · refine (holds_ratio (by omega) (by omega) some (by omega)).le bound ?_
    rw [div_le_div_iff₀ (by exact_mod_cast some) (by positivity)]
    exact_mod_cast (by linarith [comparable.sharedTrigrams_mul_le])

private theorem Text.Comparable.trigramSimilarity_le {first second : String}
    (comparable : Comparable first second) :
    trigramSimilarity first second ≤ similarityBound first.length second.length := by
  have bound := holds_similarityBound comparable.exact
  rw [trigramSimilarity]
  split
  case isTrue => exact (le_iff_numberPlace rfl bound.isNumber).mpr bound.numberPlace_pos.le
  case isFalse =>
    split
    case isTrue equal =>
      obtain rfl := eq_of_beq equal
      refine holds_one.le bound ?_
      rw [one_le_div (by positivity), Nat.min_self]
      push_cast
      linarith
    case isFalse => exact comparable.ratio_le

private theorem Text.Comparable.trigramSimilarity_lt {first second : String}
    (comparable : Comparable first second) {threshold : Float32}
    (below : similarityBound first.length second.length < threshold) :
    trigramSimilarity first second < threshold :=
  lt_of_le_of_lt_float comparable.trigramSimilarity_le below

/-! ## Comparing every pair -/

namespace ScoringSettings

/-- Whether two terms are related by their trigrams. Their lengths do not keep them from being
compared. -/
def areSimilar (scoring : ScoringSettings) (term other : String) : Bool :=
  if other.length < shortestRelated then false
  else
    let similarity := trigramSimilarity term other
    decide (scoring.trigramThreshold ≤ similarity) && decide (0 < similarity)

def findByComparing? (scoring : ScoringSettings) (candidate : Analysis) (probeTerm : ProbeTerm) :
    Option TermMatch :=
  if candidate.terms.contains probeTerm.term then some .exact
  else if candidate.stems.contains probeTerm.stem then some .sharedStem
  else if probeTerm.term.length < shortestRelated then none
  else
    let similar := candidate.terms.toList.filter (scoring.areSimilar probeTerm.term)
    (largest? (similar.map (trigramSimilarity probeTerm.term))).map .related

def comparedStrength (scoring : ScoringSettings) (candidate : Analysis) (probeTerm : ProbeTerm) :
    Float32 :=
  ((scoring.findByComparing? candidate probeTerm).map TermMatch.strength).getD 0

variable {scoring : ScoringSettings}

private theorem areRelated_eq_areSimilar {term other : String} (comparable : Comparable term other)
    :
    scoring.areRelated term other = scoring.areSimilar term other := by
  rw [areRelated, areSimilar]
  split
  case isTrue => rfl
  case isFalse =>
    split
    case isTrue below =>
      have less := comparable.trigramSimilarity_lt below
      have numbers := numbers_of_lt less
      have notReached : ¬scoring.trigramThreshold ≤ trigramSimilarity term other := fun reached =>
        (not_lt_iff_le numbers.1 numbers.2).mpr reached less
      dsimp only
      rw [decide_eq_false notReached, Bool.false_and]
    case isFalse => rfl

private theorem findTerm?_eq_findByComparing? {candidate : Analysis} {probeTerm : ProbeTerm}
    (comparable : ∀ other ∈ candidate.terms, Comparable probeTerm.term other) :
    scoring.findTerm? candidate probeTerm = scoring.findByComparing? candidate probeTerm := by
  have related : candidate.terms.toList.filter (scoring.areRelated probeTerm.term) =
      candidate.terms.toList.filter (scoring.areSimilar probeTerm.term) :=
    List.filter_congr fun other member =>
      areRelated_eq_areSimilar (comparable other (Std.ExtTreeSet.mem_toList.mp member))
  rw [findTerm?, findByComparing?, relatedSimilarities, related]
  by_cases short : probeTerm.term.length < shortestRelated
  · rw [if_pos short, if_pos short]
    rfl
  · rw [if_neg short, if_neg short]

/-- Where of two terms the longer repeats its trigrams no more than the shorter, no match is lost by
leaving out the pairs that are below the bound. -/
theorem length_bound_loses_no_match (scoring : ScoringSettings) (candidate : Analysis)
    (probeTerm : ProbeTerm)
    (comparable : ∀ other ∈ candidate.terms, Comparable probeTerm.term other) :
    (∀ other ∈ candidate.terms,
      similarityBound probeTerm.term.length other.length < scoring.trigramThreshold →
        trigramSimilarity probeTerm.term other < scoring.trigramThreshold) ∧
    scoring.termStrength candidate probeTerm = scoring.comparedStrength candidate probeTerm := by
  constructor
  · intro other member below
    exact (comparable other member).trigramSimilarity_lt below
  · rw [termStrength, comparedStrength, findTerm?_eq_findByComparing? comparable]

/-- The only term of the candidate is below the bound, and is left out as it should be. -/
theorem length_bound_loses_no_match_beside_long_word :
    (∀ other ∈ (Analysis.ofText "denationalised").terms,
      Comparable "nation" other) ∧
    (∀ other ∈ (Analysis.ofText "denationalised").terms,
      similarityBound 6 other.length < 0.65 → trigramSimilarity "nation" other < 0.65) ∧
    ({ trigramThreshold := 0.65 } : ScoringSettings).termStrength
        (.ofText "denationalised") (.ofTerm "nation") =
      ({ trigramThreshold := 0.65 } : ScoringSettings).comparedStrength
        (.ofText "denationalised") (.ofTerm "nation") := by
  have terms : terms "denationalised" = ["denationalised"] := by decide
  have comparable : ∀ other ∈ (Analysis.ofText "denationalised").terms,
      Comparable "nation" other := by
    intro other member
    rw [Analysis.mem_terms_ofText, terms, List.mem_singleton] at member
    subst member
    exact ⟨fun _ => repeatsNoMore_of_nodup _ (by decide),
      fun longer => absurd longer (by decide), by decide⟩
  exact ⟨comparable, length_bound_loses_no_match { trigramThreshold := 0.65 } _
    (.ofTerm "nation") comparable⟩

/-- A term that repeats one trigram is left out, though it is as similar as can be. -/
theorem length_bound_may_lose_match :
    isInUnit ({} : ScoringSettings).trigramThreshold = true ∧
    similarityBound "aaaa".length "aaaaaaaaaaaaaaaa".length <
      ({} : ScoringSettings).trigramThreshold ∧
    trigramSimilarity "aaaa" "aaaaaaaaaaaaaaaa" = 1 ∧
    ({} : ScoringSettings).termStrength (.ofText "aaaaaaaaaaaaaaaa") (.ofTerm "aaaa") = 0 ∧
    ({} : ScoringSettings).comparedStrength (.ofText "aaaaaaaaaaaaaaaa") (.ofTerm "aaaa") =
      0.7 := by
  decide +kernel

end ScoringSettings

end ChatMemory
