import ChatMemory.Proofs.Conversation.Selection

/-!
Condensing what was condensed before. Main statement: with another query and a budget that is no
tighter nothing more is taken away.
-/

namespace ChatMemory

namespace Condensing

variable {settings : CondensingSettings} {scoring : ScoringSettings} {messages : List Message}
  {query : Option String} {budget : Budget}

/-! ## Slots alike but for their places -/

def Slot.flagged (slot : Slot) : Message × Bool :=
  (slot.message, slot.mandatory)

section

variable {first second : List Slot} (alike : first.map Slot.flagged = second.map Slot.flagged)

include alike

private theorem filter_alike (choose : Bool → Bool) :
    (first.filter fun slot => choose slot.mandatory).map Slot.flagged =
      (second.filter fun slot => choose slot.mandatory).map Slot.flagged := by
  have filtered := congrArg (List.filter fun flagged => choose flagged.2) alike
  rw [List.filter_map, List.filter_map] at filtered
  exact filtered

private theorem length_alike : first.length = second.length := by
  have lengths := congrArg List.length alike
  rwa [List.length_map, List.length_map] at lengths

private theorem map_message_alike : first.map (·.message) = second.map (·.message) := by
  have messages := congrArg (List.map Prod.fst) alike
  rw [List.map_map, List.map_map] at messages
  exact messages

theorem tokensOf_alike : tokensOf first = tokensOf second := by
  have contents := congrArg (List.map (·.content)) (map_message_alike alike)
  rw [List.map_map, List.map_map] at contents
  exact congrArg Text.tokenTotal contents

end

private theorem map_flagged_slots_kept :
    (slots settings ((kept settings scoring messages query budget).map (·.message))).map
        Slot.flagged =
      (kept settings scoring messages query budget).map Slot.flagged := by
  have flagged : ∀ slots : List Slot, slots.map Slot.flagged =
      (slots.map (·.message)).zip (slots.map (·.mandatory)) :=
    fun slots => List.zip_map'.symm
  rw [flagged, flagged, map_message_slots, map_mandatory_slots, kept_eq_filter, flags_filter_slots]
  intro slot _ stays
  rw [stays, Bool.true_or]

private theorem kept_of_kept {wider : Budget} (within : budget.Within wider) (other : Option String)
    :
    let left := (kept settings scoring messages query budget).map (·.message)
    kept settings scoring left other wider = slots settings left := by
  intro left
  have alike : (slots settings left).map Slot.flagged =
      (kept settings scoring messages query budget).map Slot.flagged := map_flagged_slots_kept
  have mandatory := filter_alike alike fun flag => flag
  have optional := filter_alike alike fun flag => !flag
  rw [filter_mandatory_kept] at mandatory
  have few : ((slots settings left).filter (!·.mandatory)).length ≤ settings.maxCandidates := by
    rw [length_alike optional, filter_candidates_kept_perm.length_eq]
    exact length_chosen_le
  have ranked : (ranking settings scoring left other).Perm
      ((slots settings left).filter (!·.mandatory)) := by
    rw [← candidates_eq_filter few]
    exact ranking_perm
  apply kept_eq_slots few
  -- The ranking need not agree with the first one, but as many messages with as many tokens fit.
  rw [length_alike mandatory, tokensOf_alike mandatory]
  apply (fits_admitted _ _ _ _).of_same within
  · rw [ranked.length_eq, length_alike optional]
    exact filter_candidates_kept_perm.length_eq
  · rw [tokensOf_perm ranked, tokensOf_alike optional]
    exact tokensOf_perm filter_candidates_kept_perm

end Condensing

section

open Condensing

variable (settings : CondensingSettings) (scoring : ScoringSettings) {messages : List Message}
  (query other : Option String) {budget wider : Budget}

@[simp] private theorem condense_nil (budget : Budget) :
    condense settings scoring [] query budget = .ofNothing :=
  rfl

theorem condense_of_ne_nil (some : messages ≠ []) (budget : Budget) :
    condense settings scoring messages query budget =
      let kept := kept settings scoring messages query budget
      { messages := kept.map (·.message)
        countBefore := messages.length
        ratio := Text.ratio kept.length messages.length
        tokensBefore := Text.tokenTotal (messages.map (·.content))
        tokens := tokensOf kept
        mandatory := ((slots settings messages).filter (·.mandatory)).length } := by
  rw [condense, if_neg (mt List.isEmpty_iff.mp some)]
  dsimp only
  rw [← tokens_selection]
  rfl

/-- Condensing again leaves everything in place, for whatever query and with any budget that is no
tighter. -/
theorem condense_of_condensed (messages : List Message) (within : budget.Within wider) :
    let condensed := condense settings scoring messages query budget
    let again := condense settings scoring condensed.messages other wider
    again.messages = condensed.messages ∧ again.isShorter = false ∧
      again.tokens = condensed.tokens ∧ again.mandatory = condensed.mandatory := by
  dsimp only
  by_cases empty : messages = []
  · rw [empty, condense_nil, Condensed.ofNothing, condense_nil]
    exact ⟨rfl, rfl, rfl, rfl⟩
  rw [condense_of_ne_nil settings scoring query empty]
  dsimp only
  have alike : (slots settings
      ((kept settings scoring messages query budget).map (·.message))).map Slot.flagged =
      (kept settings scoring messages query budget).map Slot.flagged := map_flagged_slots_kept
  have mandatory := filter_alike alike fun flag => flag
  rw [filter_mandatory_kept] at mandatory
  by_cases nothing : (kept settings scoring messages query budget).map (·.message) = []
  · rw [nothing, condense_nil]
    rw [nothing] at mandatory
    have noneKept := List.map_eq_nil_iff.mp nothing
    rw [noneKept, ← length_alike mandatory]
    exact ⟨rfl, rfl, rfl, rfl⟩
  · rw [condense_of_ne_nil settings scoring other nothing, kept_of_kept within other]
    have whole := map_message_slots settings
      ((kept settings scoring messages query budget).map (·.message))
    refine ⟨whole, ?_, tokensOf_alike alike, length_alike mandatory⟩
    exact decide_eq_false (Nat.not_lt.mpr (Nat.le_of_eq (congrArg List.length whole).symm))

end

/-- Two candidates for one place, and then a query that prefers the other one. -/
theorem condense_of_condensed_with_other_query :
    let messages : List Message := [⟨.user, "Tell me about Paris"⟩, ⟨.user, "Tell me about Tokyo"⟩,
      ⟨.system, "You are helpful"⟩, ⟨.user, "Which city is larger?"⟩]
    let settings : CondensingSettings := { recentMessages := 1 }
    let condensed := condense settings {} messages (some "tokyo") ⟨3, some 20⟩
    let again := condense settings {} condensed.messages (some "paris") ⟨3, some 25⟩
    Budget.Within ⟨3, some 20⟩ ⟨3, some 25⟩ ∧ again.messages = condensed.messages ∧
      again.isShorter = false ∧ again.tokens = condensed.tokens ∧
      again.mandatory = condensed.mandatory := by
  intro messages settings condensed again
  have within : Budget.Within ⟨3, some 20⟩ ⟨3, some 25⟩ :=
    ⟨Nat.le_refl 3, .inr ⟨20, 25, rfl, rfl, by decide⟩⟩
  exact ⟨within, condense_of_condensed settings {} (some "tokyo") (some "paris") messages within⟩

end ChatMemory
