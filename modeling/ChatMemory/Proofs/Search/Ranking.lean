import ChatMemory.Proofs.Number.Order
import ChatMemory.Search.Finding
import Mathlib.Data.Prod.Lex

/-!
The order of hits. Main statement: hits are put into the order of their ranks, which is total; so
with no sequence number twice the outcome of a search does not depend on the order in which the hits
were found, and a smaller limit gives a part of what a greater one does.
-/

namespace ChatMemory

/-- Where a hit stands: behind all keyword hits or not, then by its score, then by how late the
message came. What is less stands first. -/
abbrev Rank := Nat ×ₗ Int ×ₗ Int

def Hit.rank (keywordsFirst : Bool) (hit : Hit) : Rank :=
  toLex (if keywordsFirst && hit.source != .keyword then 1 else 0,
    toLex (-scoreKey hit.score, -(hit.sequence : Int)))

namespace Findings

variable {search : SearchSettings} {hits permuted : List Hit} {keywordsFirst : Bool}

private theorem rank_le_iff {first second : Hit} :
    first.rank keywordsFirst ≤ second.rank keywordsFirst ↔
      mayPrecede keywordsFirst first second = true := by
  rcases first with ⟨_, _, _, score, source, sequence⟩
  rcases second with ⟨_, _, _, otherScore, otherSource, otherSequence⟩
  have byScore : toLex (-scoreKey score, -(sequence : Int)) ≤
        toLex (-scoreKey otherScore, -(otherSequence : Int)) ↔
      (if scoreKey score = scoreKey otherScore then decide (otherSequence ≤ sequence)
        else decide (scoreKey otherScore < scoreKey score)) = true := by
    rw [Prod.Lex.toLex_le_toLex]
    split <;> simp only [decide_eq_true_eq] <;> omega
  rw [Hit.rank, Hit.rank, Prod.Lex.toLex_le_toLex, byScore, mayPrecede]
  cases keywordsFirst <;> cases source <;> cases otherSource <;> simp

/-- A hit stands before another if it is a keyword hit and keywords go first. Between others the
greater score stands first, and of equal scores the later message. -/
theorem rank_lt_iff {first second : Hit} :
    first.rank keywordsFirst < second.rank keywordsFirst ↔
      keywordsFirst = true ∧ first.source = .keyword ∧ second.source ≠ .keyword ∨
        (keywordsFirst = false ∨ (first.source = .keyword ↔ second.source = .keyword)) ∧
          (second.score.Below first.score ∨
            first.score = second.score ∧ second.sequence < first.sequence) := by
  rcases first with ⟨_, _, _, score, source, sequence⟩
  rcases second with ⟨_, _, _, otherScore, otherSource, otherSequence⟩
  have byScore : toLex (-scoreKey score, -(sequence : Int)) <
        toLex (-scoreKey otherScore, -(otherSequence : Int)) ↔
      otherScore.Below score ∨ score = otherScore ∧ otherSequence < sequence := by
    rw [Prod.Lex.toLex_lt_toLex, neg_lt_neg_iff, neg_inj, neg_lt_neg_iff, Int.ofNat_lt,
      Score.scoreKey_lt_iff, Score.scoreKey_inj]
  rw [Hit.rank, Hit.rank, Prod.Lex.toLex_lt_toLex, byScore]
  cases keywordsFirst <;> cases source <;> cases otherSource <;> simp

private theorem sequence_eq_of_rank_eq {first second : Hit}
    (equal : first.rank keywordsFirst = second.rank keywordsFirst) :
    first.sequence = second.sequence :=
  Int.ofNat_inj.mp (neg_injective (congrArg (fun rank : Rank => (ofLex (ofLex rank).2).2) equal))

def keywordsGoFirst (search : SearchSettings) (hits : List Hit) : Bool :=
  decide (search.keywordsFirstFrom ≤ countKeywords hits)

def ranked (search : SearchSettings) (hits : List Hit) : List Hit :=
  hits.mergeSort (mayPrecede (keywordsGoFirst search hits))

theorem ofHits_eq (search : SearchSettings) (hits : List Hit) (limit : Nat) :
    ofHits search hits limit = ⟨hits.length, typeOf hits, (ranked search hits).take limit⟩ :=
  rfl

theorem ranked_perm : (ranked search hits).Perm hits :=
  List.mergeSort_perm ..

theorem mayPrecede_trans (first second third : Hit) (before : mayPrecede keywordsFirst first second)
    (after : mayPrecede keywordsFirst second third) : mayPrecede keywordsFirst first third :=
  rank_le_iff.mp (le_trans (rank_le_iff.mpr before) (rank_le_iff.mpr after))

theorem mayPrecede_total (first second : Hit) :
    (mayPrecede keywordsFirst first second || mayPrecede keywordsFirst second first) = true := by
  rw [Bool.or_eq_true, ← rank_le_iff, ← rank_le_iff]
  exact le_total _ _

private theorem pairwise_ranked : (ranked search hits).Pairwise fun first second =>
    first.rank (keywordsGoFirst search hits) ≤ second.rank (keywordsGoFirst search hits) :=
  (List.pairwise_mergeSort mayPrecede_trans mayPrecede_total hits).imp rank_le_iff.mpr

private theorem filter_ranked (place : Rank) :
    (ranked search hits).filter (·.rank (keywordsGoFirst search hits) = place) =
      hits.filter (·.rank (keywordsGoFirst search hits) = place) := by
  have tied : (hits.filter (·.rank (keywordsGoFirst search hits) = place)).Pairwise
      fun first second => mayPrecede (keywordsGoFirst search hits) first second = true := by
    apply List.pairwise_of_forall_mem_list
    intro first firstMember second secondMember
    rw [List.mem_filter, decide_eq_true_eq] at firstMember secondMember
    rw [← rank_le_iff, firstMember.2, secondMember.2]
  have kept := (List.sublist_mergeSort mayPrecede_trans mayPrecede_total tied
    List.filter_sublist).filter (·.rank (keywordsGoFirst search hits) = place)
  rw [List.filter_filter] at kept
  simp only [Bool.and_self] at kept
  exact (kept.eq_of_length (ranked_perm.filter _).length_eq.symm).symm

/-! ## Hits with distinct sequence numbers -/

private theorem countKeywords_eq_of_perm (reordered : permuted.Perm hits) :
    countKeywords permuted = countKeywords hits :=
  reordered.countP_eq _

private theorem typeOf_eq_of_perm (reordered : permuted.Perm hits) :
    typeOf permuted = typeOf hits := by
  have sameEmptiness : permuted.isEmpty = hits.isEmpty := by
    rw [Bool.eq_iff_iff, List.isEmpty_iff, List.isEmpty_iff]
    exact ⟨fun none => (none ▸ reordered).nil_eq.symm, fun none => (none ▸ reordered).eq_nil⟩
  rw [typeOf, typeOf, sameEmptiness, countKeywords_eq_of_perm reordered, reordered.length_eq]

private theorem pairwise_ranked_of_distinct (search : SearchSettings)
    (distinct : (hits.map (·.sequence)).Nodup) :
    (ranked search hits).Pairwise fun first second =>
      first.rank (keywordsGoFirst search hits) < second.rank (keywordsGoFirst search hits) := by
  have different : (ranked search hits).Pairwise fun first second =>
      first.sequence ≠ second.sequence :=
    List.pairwise_map.mp ((ranked_perm.map _).nodup_iff.mpr distinct)
  refine (pairwise_ranked.and different).imp ?_
  rintro first second ⟨atMost, unequal⟩
  exact lt_of_le_of_ne atMost fun equal => unequal (sequence_eq_of_rank_eq equal)

private theorem ranked_eq_of_perm (distinct : (hits.map (·.sequence)).Nodup)
    (reordered : permuted.Perm hits) : ranked search permuted = ranked search hits := by
  have sameChoice : keywordsGoFirst search permuted = keywordsGoFirst search hits := by
    rw [keywordsGoFirst, keywordsGoFirst, countKeywords_eq_of_perm reordered]
  have permutedDistinct := (reordered.map (·.sequence)).nodup_iff.mpr distinct
  have permutedSorted := pairwise_ranked_of_distinct search permutedDistinct
  rw [sameChoice] at permutedSorted
  exact List.Perm.eq_of_pairwise (fun first second _ _ less greater => absurd greater less.asymm)
    permutedSorted (pairwise_ranked_of_distinct search distinct)
    (ranked_perm.trans (reordered.trans ranked_perm.symm))

/-- The outcome of a search is cut from one list, in which all hits stand by rank and those of one
rank as they were found. With no sequence number twice, that list does not depend on the order in
which the hits were found. -/
theorem ranking_is_canonical (search : SearchSettings) (hits : List Hit) :
    (∀ first second : Hit,
      first.rank (keywordsGoFirst search hits) < second.rank (keywordsGoFirst search hits) ↔
        search.keywordsFirstFrom ≤ countKeywords hits ∧
            first.source = .keyword ∧ second.source ≠ .keyword ∨
          (countKeywords hits < search.keywordsFirstFrom ∨
              (first.source = .keyword ↔ second.source = .keyword)) ∧
            (second.score.Below first.score ∨
              first.score = second.score ∧ second.sequence < first.sequence)) ∧
    (ranked search hits).Perm hits ∧
    (ranked search hits).Pairwise (fun first second =>
      first.rank (keywordsGoFirst search hits) ≤ second.rank (keywordsGoFirst search hits)) ∧
    (∀ place, (ranked search hits).filter (·.rank (keywordsGoFirst search hits) = place) =
      hits.filter (·.rank (keywordsGoFirst search hits) = place)) ∧
    (∀ limit, ofHits search hits limit =
        ⟨hits.length, typeOf hits, (ranked search hits).take limit⟩ ∧
      (ofHits search hits limit).hits.length = min limit hits.length ∧
      ∀ larger, limit ≤ larger →
        (ofHits search hits limit).hits <+: (ofHits search hits larger).hits) ∧
    ((hits.map (·.sequence)).Nodup →
      (ranked search hits).Pairwise (fun first second =>
        first.rank (keywordsGoFirst search hits) < second.rank (keywordsGoFirst search hits)) ∧
      ∀ permuted, permuted.Perm hits → ∀ limit,
        ofHits search permuted limit = ofHits search hits limit) := by
  refine ⟨fun _ _ => ?_, ranked_perm, pairwise_ranked, filter_ranked, ?_, ?_⟩
  · rw [rank_lt_iff, keywordsGoFirst, decide_eq_true_eq, decide_eq_false_iff_not, Nat.not_le]
  · intro limit
    refine ⟨rfl, ?_, ?_⟩
    · rw [ofHits_eq, List.length_take, ranked_perm.length_eq]
    · intro larger atMost
      exact List.take_prefix_take_left atMost
  · intro distinct
    refine ⟨pairwise_ranked_of_distinct search distinct, ?_⟩
    intro permuted reordered limit
    rw [ofHits_eq, ofHits_eq, ranked_eq_of_perm distinct reordered, typeOf_eq_of_perm reordered,
      reordered.length_eq]

/-- Two of the three hits have the same score. -/
theorem ranking_is_canonical_beside_tie :
    let hit (score : Float32) (source : HitSource) (sequence : Nat) : Hit :=
      { session := "a", position := 0, message := ⟨.user, "paris"⟩, score, source, sequence }
    (List.map Hit.sequence [hit 0.5 .keyword 1, hit 0.5 .keyword 2, hit 0.75 .semantic 3]).Nodup ∧
    ofHits {} [hit 0.5 .keyword 2, hit 0.75 .semantic 3, hit 0.5 .keyword 1] 2 =
      ofHits {} [hit 0.5 .keyword 1, hit 0.5 .keyword 2, hit 0.75 .semantic 3] 2 := by
  intro hit
  have distinct : (List.map Hit.sequence
      [hit 0.5 .keyword 1, hit 0.5 .keyword 2, hit 0.75 .semantic 3]).Nodup := by
    decide
  have reordered : [hit 0.5 .keyword 2, hit 0.75 .semantic 3, hit 0.5 .keyword 1].Perm
      [hit 0.5 .keyword 1, hit 0.5 .keyword 2, hit 0.75 .semantic 3] :=
    List.perm_append_singleton _ [hit 0.5 .keyword 2, hit 0.75 .semantic 3]
  exact ⟨distinct, ((ranking_is_canonical {} _).2.2.2.2.2 distinct).2 _ reordered 2⟩

end Findings

end ChatMemory
