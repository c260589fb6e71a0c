import ChatMemory.Proofs.Conversation.Eligibility
import ChatMemory.Proofs.Conversation.Recondensing
import Mathlib.Algebra.GroupWithZero.Nat

/-!
What is left of a history as a greedy choice. Main statement: what has to stay stays, what is
admitted fits the budget, what is left out would not have fitted, and nothing that is admitted was
preferred to a smaller message ranked before it.
-/

namespace ChatMemory

namespace Condensing

variable {settings : CondensingSettings} {scoring : ScoringSettings} {messages : List Message}
  {query : Option String} {budget : Budget}

/-! ## The ranking -/

private theorem map_position_filterMap_find? {candidates : List Slot} {scored : List Scored}
    (known : ∀ item ∈ scored, item.position ∈ candidates.map (·.position)) :
    (scored.filterMap fun item => candidates.find? (·.position == item.position)).map
        (·.position) = scored.map (·.position) := by
  induction scored with
  | nil => rfl
  | cons item rest induction =>
      rcases List.forall_mem_cons.mp known with ⟨itemKnown, restKnown⟩
      cases found : candidates.find? (·.position == item.position) with
      | none =>
          exfalso
          rcases List.mem_map.mp itemKnown with ⟨slot, member, equal⟩
          have missing := List.find?_eq_none.mp found slot member
          simp [equal] at missing
      | some slot =>
          have equal : slot.position = item.position := by simpa using List.find?_some found
          rw [List.filterMap_cons, found, List.map_cons, List.map_cons, induction restKnown, equal]

private theorem map_position_ranking :
    (ranking settings scoring messages query).map (·.position) =
      (sortByScore (scores scoring (.ofText (probeText messages query)) (slots settings messages)
        (candidates settings (slots settings messages)))).map (·.position) := by
  apply map_position_filterMap_find?
  intro item member
  rw [← map_position_scores, ← (List.mergeSort_perm _ _).map _ |>.mem_iff]
  exact List.mem_map_of_mem member

private theorem mem_ranking_iff {slot : Slot} :
    slot ∈ ranking settings scoring messages query ↔
      slot ∈ slots settings messages ∧ mayBeAdmitted settings messages slot.position = true := by
  rw [ranking_perm.mem_iff, mem_candidates_iff]

private theorem nodup_ranking : (ranking settings scoring messages query).Nodup := by
  rw [ranking_perm.nodup_iff]
  exact .of_map _ nodup_position_candidates

/-! ## The choice -/

private theorem mem_kept_iff {slot : Slot} :
    slot ∈ kept settings scoring messages query budget ↔
      (slot ∈ slots settings messages ∧ mustStay settings messages slot.position = true) ∨
        slot ∈ chosen settings scoring messages query budget := by
  rw [kept_perm.mem_iff, List.mem_append, List.mem_filter]
  apply or_congr_left
  apply and_congr_right
  intro member
  rw [mandatory_of_mem_slots member]

private theorem mem_kept_iff_of_mem_ranking {slot : Slot}
    (ranked : slot ∈ ranking settings scoring messages query) :
    slot ∈ kept settings scoring messages query budget ↔
      slot ∈ chosen settings scoring messages query budget := by
  rw [mem_kept_iff, or_iff_right]
  rintro ⟨member, stays⟩
  have candidate := ranking_perm.mem_iff.mp ranked
  have optional := List.of_mem_filter ((candidates_sublist _ _).mem candidate)
  rw [mandatory_of_mem_slots member, stays] at optional
  cases optional

private theorem length_kept : (kept settings scoring messages query budget).length =
    ((slots settings messages).filter (·.mandatory)).length +
      (chosen settings scoring messages query budget).length := by
  rw [kept_perm.length_eq, List.length_append]

/-- How the slots that are kept of a history are chosen, if the candidates are ranked in the given
order. -/
structure IsGreedy (settings : CondensingSettings) (messages : List Message) (budget : Budget)
    (ranked kept : List Slot) : Prop where
  ordered : kept.Sublist (slots settings messages)
  mandatory : ∀ slot ∈ slots settings messages,
    mustStay settings messages slot.position = true → slot ∈ kept
  others : ∀ slot ∈ kept, mustStay settings messages slot.position = true ∨
    mayBeAdmitted settings messages slot.position = true
  /-- As soon as anything is admitted, the budget is kept. -/
  within : (∃ slot ∈ kept, mustStay settings messages slot.position = false) →
    kept.length ≤ budget.maxMessages ∧ ∀ limit ∈ budget.maxTokens, tokensOf kept ≤ limit
  /-- While there is room for messages, one is left out only if it has too many tokens. -/
  maximal : kept.length < budget.maxMessages → ∀ slot ∈ ranked, slot ∉ kept →
    ∃ limit ∈ budget.maxTokens, limit < tokensOf kept + slot.tokens
  /-- A message that is left out has more tokens than any that is ranked after it and kept. -/
  fair : ranked.Pairwise fun earlier later =>
    earlier ∉ kept → later ∈ kept → later.tokens < earlier.tokens

private theorem isGreedy_kept : IsGreedy settings messages budget
    (ranking settings scoring messages query) (kept settings scoring messages query budget) where
  ordered := List.filter_sublist
  mandatory slot member stays := mem_kept_iff.mpr (.inl ⟨member, stays⟩)
  others slot member := by
    rcases mem_kept_iff.mp member with ⟨-, stays⟩ | chosen
    · exact .inl stays
    · exact .inr (mem_ranking_iff.mp (chosen_sublist.mem chosen)).2
  within := by
    rintro ⟨slot, member, optional⟩
    rw [length_kept, tokensOf_kept, ← Budget.allowsTokens_iff]
    rcases fits_admitted budget _ _ (ranking settings scoring messages query) with none | fits
    · exfalso
      rcases mem_kept_iff.mp member with ⟨-, stays⟩ | admitted
      · rw [stays] at optional
        cases optional
      · rw [chosen, none] at admitted
        cases admitted
    · exact fits
  maximal room slot ranked leftOut := by
    rw [length_kept] at room
    rw [tokensOf_kept, ← Budget.allowsTokens_eq_false_iff]
    rw [mem_kept_iff_of_mem_ranking ranked] at leftOut
    exact not_allowed_of_notMem_admitted ranked leftOut room
  fair := by
    apply (pairwise_admitted _ _ nodup_ranking).imp_of_mem
    intro earlier later earlierRanked laterRanked smaller leftOut stays
    rw [mem_kept_iff_of_mem_ranking earlierRanked] at leftOut
    rw [mem_kept_iff_of_mem_ranking laterRanked] at stays
    exact smaller leftOut stays

private theorem tokensOf_slots :
    tokensOf (slots settings messages) = Text.tokenTotal (messages.map (·.content)) := by
  have contents := congrArg (List.map (·.content)) (map_message_slots settings messages)
  rw [List.map_map] at contents
  exact congrArg Text.tokenTotal contents

private theorem kept_of_ample (messagesFit : messages.length ≤ budget.maxMessages)
    (tokensFit : ∀ limit ∈ budget.maxTokens, Text.tokenTotal (messages.map (·.content)) ≤ limit)
    (few : (List.range messages.length).countP (!mustStay settings messages ·) ≤
      settings.maxCandidates) :
    kept settings scoring messages query budget = slots settings messages := by
  have considered : ((slots settings messages).filter (!·.mandatory)).length ≤
      settings.maxCandidates := by
    rwa [← List.length_map (·.position), map_position_filter_slots, ← List.countP_eq_length_filter]
  have all : (slots settings messages).Perm
      ((slots settings messages).filter (·.mandatory) ++
        ranking settings scoring messages query) := by
    have ranked : (ranking settings scoring messages query).Perm
        (candidates settings (slots settings messages)) := ranking_perm
    rw [candidates_eq_filter considered] at ranked
    exact (List.filter_append_perm _ _).symm.trans (ranked.symm.append_left _)
  apply kept_eq_slots considered
  right
  constructor
  · rw [← List.length_append, ← all.length_eq, ← List.length_map (·.message), map_message_slots]
    exact messagesFit
  · rw [← tokensOf_append, ← tokensOf_perm all, tokensOf_slots, Budget.allowsTokens_iff]
    exact tokensFit

end Condensing

section

open Condensing

theorem messages_condense (settings : CondensingSettings) (scoring : ScoringSettings)
    (messages : List Message) (query : Option String) (budget : Budget) :
    (condense settings scoring messages query budget).messages =
      (kept settings scoring messages query budget).map (·.message) := by
  by_cases empty : messages = []
  · rw [empty]
    rfl
  · rw [condense_of_ne_nil settings scoring query empty]

theorem tokens_condense (settings : CondensingSettings) (scoring : ScoringSettings)
    (messages : List Message) (query : Option String) (budget : Budget) :
    (condense settings scoring messages query budget).tokens =
      tokensOf (kept settings scoring messages query budget) := by
  by_cases empty : messages = []
  · rw [empty]
    rfl
  · rw [condense_of_ne_nil settings scoring query empty]

private theorem tokensBefore_condense (settings : CondensingSettings) (scoring : ScoringSettings)
    (messages : List Message) (query : Option String) (budget : Budget) :
    (condense settings scoring messages query budget).tokensBefore =
      Text.tokenTotal (messages.map (·.content)) := by
  by_cases empty : messages = []
  · rw [empty]
    rfl
  · rw [condense_of_ne_nil settings scoring query empty]

/-- Condensing is greedy along the order of the scores, and leaves a history alone that the budget
covers. -/
theorem condensing_is_greedy (settings : CondensingSettings) (scoring : ScoringSettings)
    (messages : List Message) (query : Option String) (budget : Budget) :
    let condensed := condense settings scoring messages query budget
    let candidates := candidates settings (slots settings messages)
    let probe := Probe.ofText (probeText messages query)
    condensed.messages.Sublist messages ∧
    condensed.tokens = (condensed.messages.map (Text.tokenEstimate ·.content)).sum ∧
    (∃ ranked kept,
      (∀ slot, slot ∈ ranked ↔ slot ∈ slots settings messages ∧
        mayBeAdmitted settings messages slot.position = true) ∧
      ranked.map (·.position) =
        (sortByScore (scores scoring probe (slots settings messages) candidates)).map
          (·.position) ∧
      IsGreedy settings messages budget ranked kept ∧
      condensed.messages = kept.map (·.message) ∧ condensed.tokens = tokensOf kept) ∧
    (messages.length ≤ budget.maxMessages →
      (∀ limit ∈ budget.maxTokens, condensed.tokensBefore ≤ limit) →
      (List.range messages.length).countP (!mustStay settings messages ·) ≤
        settings.maxCandidates →
      condensed.messages = messages) := by
  intro condensed candidates probe
  have left := messages_condense settings scoring messages query budget
  have tokens := tokens_condense settings scoring messages query budget
  refine ⟨?_, ?_, ⟨_, _, fun slot => mem_ranking_iff, map_position_ranking, isGreedy_kept, left,
    tokens⟩, ?_⟩
  · rw [left]
    have ordered : ((kept settings scoring messages query budget).map (·.message)).Sublist
        ((slots settings messages).map (·.message)) := isGreedy_kept.ordered.map _
    rwa [map_message_slots] at ordered
  · rw [tokens, left, List.map_map]
    rw [tokensOf, Text.tokenTotal, List.map_map]
    rfl
  · intro messagesFit tokensFit few
    rw [tokensBefore_condense] at tokensFit
    rw [left, kept_of_ample messagesFit tokensFit few, map_message_slots]

/-- A budget that covers the history just so, with just as many candidates as are considered. -/
theorem condensing_is_greedy_with_ample_budget :
    let messages : List Message := [⟨.user, "Tell me about Paris"⟩, ⟨.system, "You are helpful"⟩,
      ⟨.user, "Which city is larger?"⟩]
    let settings : CondensingSettings := { recentMessages := 1, maxCandidates := 1 }
    let condensed := condense settings {} messages (some "tokyo") ⟨3, some 15⟩
    messages.length ≤ 3 ∧ condensed.tokensBefore ≤ 15 ∧
      (List.range messages.length).countP (!mustStay settings messages ·) ≤ 1 ∧
      condensed.messages = messages := by
  intro messages settings condensed
  have covered : condensed.tokensBefore ≤ 15 := by
    rw [tokensBefore_condense]
    decide
  have tokensFit : ∀ limit ∈ (⟨3, some 15⟩ : Budget).maxTokens, condensed.tokensBefore ≤ limit := by
    intro limit given
    rwa [← Option.some.inj given]
  have few : (List.range messages.length).countP (!mustStay settings messages ·) ≤ 1 := by decide
  exact ⟨by decide, covered, few,
    (condensing_is_greedy settings {} messages (some "tokyo") ⟨3, some 15⟩).2.2.2 (by decide)
      tokensFit few⟩

end

end ChatMemory
