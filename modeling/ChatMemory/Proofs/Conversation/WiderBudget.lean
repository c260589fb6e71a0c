import ChatMemory.Proofs.Conversation.Greedy

/-!
Condensing to more messages. Main statement: if the limit on tokens is the same, a higher limit on
messages only adds to what is kept.
-/

namespace ChatMemory

namespace Condensing

variable {settings : CondensingSettings} {scoring : ScoringSettings} {messages : List Message}
  {query : Option String} {narrow wide : Nat} {limit : Option Nat}

/-- Both limits admit the same candidates until the lower one is reached, which ends the choice. A
limit on tokens only passes candidates over, and passes over the same ones for both. -/
theorem admitted_prefix (le : narrow ≤ wide) (count tokens : Nat) (ranked : List Slot) :
    admitted ⟨narrow, limit⟩ count tokens ranked <+:
      admitted ⟨wide, limit⟩ count tokens ranked := by
  induction ranked generalizing count tokens with
  | nil => exact List.nil_prefix
  | cons slot rest induction =>
      have sameLimit : Budget.allowsTokens ⟨narrow, limit⟩ (tokens + slot.tokens) =
          Budget.allowsTokens ⟨wide, limit⟩ (tokens + slot.tokens) := rfl
      rw [admitted_cons, admitted_cons, sameLimit]
      by_cases full : narrow ≤ count
      · rw [if_pos full]
        exact List.nil_prefix
      · have room : ¬wide ≤ count := by omega
        rw [if_neg full, if_neg room]
        split
        · exact List.prefix_cons_inj slot |>.mpr (induction _ _)
        · exact induction count tokens

private theorem kept_sublist (le : narrow ≤ wide) :
    (kept settings scoring messages query ⟨narrow, limit⟩).Sublist
      (kept settings scoring messages query ⟨wide, limit⟩) := by
  have chosenBoth : chosen settings scoring messages query ⟨narrow, limit⟩ <+:
      chosen settings scoring messages query ⟨wide, limit⟩ := admitted_prefix le _ _ _
  rw [kept_eq_filter, kept_eq_filter]
  apply List.monotone_filter_right
  intro slot keep
  rw [Bool.or_eq_true, List.any_eq_true] at keep ⊢
  exact keep.imp_right fun ⟨other, member, equal⟩ => ⟨other, chosenBoth.mem member, equal⟩

end Condensing

section

open Condensing

/-- With more messages allowed and the same limit on tokens, everything that was kept is kept. -/
theorem wider_budget_only_adds (settings : CondensingSettings) (scoring : ScoringSettings)
    (messages : List Message) (query : Option String) (limit : Option Nat) {narrow wide : Nat}
    (le : narrow ≤ wide) :
    let positions := fun count =>
      (kept settings scoring messages query ⟨count, limit⟩).map (·.position)
    let fewer := condense settings scoring messages query ⟨narrow, limit⟩
    let more := condense settings scoring messages query ⟨wide, limit⟩
    positions narrow ⊆ positions wide ∧ fewer.messages.Sublist more.messages ∧
      fewer.tokens ≤ more.tokens := by
  intro positions fewer more
  have adds : (kept settings scoring messages query ⟨narrow, limit⟩).Sublist
      (kept settings scoring messages query ⟨wide, limit⟩) := kept_sublist le
  refine ⟨(adds.map _).subset, ?_, ?_⟩
  · rw [messages_condense, messages_condense]
    exact adds.map _
  · rw [tokens_condense, tokens_condense]
    exact tokensOf_le_of_sublist adds

/-- The message before the last one comes in, the first one is not considered. -/
theorem wider_budget_only_adds_a_message :
    let messages : List Message := [⟨.user, "Tell me about Paris"⟩,
      ⟨.assistant, "Paris is a city"⟩, ⟨.user, "Is Tokyo larger?"⟩]
    let settings : CondensingSettings := { recentMessages := 1, maxCandidates := 1 }
    let positions := fun count =>
      (kept settings {} messages (some "Paris") ⟨count, some 9⟩).map (·.position)
    1 ≤ 2 ∧ positions 1 = [2] ∧ positions 2 = [1, 2] ∧ positions 1 ⊆ positions 2 ∧
      (condense settings {} messages (some "Paris") ⟨1, some 9⟩).messages.Sublist
        (condense settings {} messages (some "Paris") ⟨2, some 9⟩).messages := by
  intro messages settings positions
  have le : 1 ≤ 2 := by decide
  have adds := wider_budget_only_adds settings {} messages (some "Paris") (some 9) le
  exact ⟨le, by decide +kernel, by decide +kernel, adds.1, adds.2.1⟩

end

end ChatMemory
