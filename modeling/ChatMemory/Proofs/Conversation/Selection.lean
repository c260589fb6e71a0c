import ChatMemory.Proofs.Conversation.Admission

/-!
Which slots of a history are kept. Main statements: beside the slots that have to stay these are
just the chosen candidates, of which there are no more than the settings allow, and all slots are
kept where all candidates fit.
-/

namespace ChatMemory

namespace Condensing

variable {settings : CondensingSettings} {scoring : ScoringSettings} {messages : List Message}
  {query : Option String} {budget : Budget}

/-! ## Candidates -/

private theorem length_candidates_le (settings : CondensingSettings) (slots : List Slot) :
    (candidates settings slots).length ≤ settings.maxCandidates := by
  rw [candidates, takeLast, List.length_drop]
  omega

theorem candidates_eq_filter {slots : List Slot}
    (few : (slots.filter (!·.mandatory)).length ≤ settings.maxCandidates) :
    candidates settings slots = slots.filter (!·.mandatory) := by
  rw [candidates, takeLast, Nat.sub_eq_zero_of_le few, List.drop_zero]

theorem candidates_sublist (settings : CondensingSettings) (slots : List Slot) :
    (candidates settings slots).Sublist (slots.filter (!·.mandatory)) :=
  List.drop_sublist _ _

theorem nodup_position_candidates :
    ((candidates settings (slots settings messages)).map (·.position)).Nodup := by
  have sublist := (candidates_sublist settings (slots settings messages)).trans
    List.filter_sublist
  exact (sublist.map (·.position)).nodup nodup_position_slots

/-! ## What is kept -/

def ranking (settings : CondensingSettings) (scoring : ScoringSettings) (messages : List Message)
    (query : Option String) : List Slot :=
  rankedCandidates scoring (.ofText (probeText messages query)) (slots settings messages)
    (candidates settings (slots settings messages))

theorem ranking_perm : (ranking settings scoring messages query).Perm
    (candidates settings (slots settings messages)) :=
  rankedCandidates_perm nodup_position_candidates

def chosen (settings : CondensingSettings) (scoring : ScoringSettings) (messages : List Message)
    (query : Option String) (budget : Budget) : List Slot :=
  let mandatory := (slots settings messages).filter (·.mandatory)
  admitted budget mandatory.length (tokensOf mandatory) (ranking settings scoring messages query)

def kept (settings : CondensingSettings) (scoring : ScoringSettings) (messages : List Message)
    (query : Option String) (budget : Budget) : List Slot :=
  (selection settings scoring messages query budget).1

theorem kept_eq_filter :
    kept settings scoring messages query budget = (slots settings messages).filter fun slot =>
      slot.mandatory ||
        (chosen settings scoring messages query budget).any (·.position == slot.position) :=
  rfl

theorem chosen_sublist : (chosen settings scoring messages query budget).Sublist
    (ranking settings scoring messages query) :=
  admitted_sublist _ _ _ _

private theorem mem_slots_of_mem_chosen {slot : Slot}
    (member : slot ∈ chosen settings scoring messages query budget) :
    slot ∈ slots settings messages ∧ slot.mandatory = false := by
  have candidate := ranking_perm.mem_iff.mp (chosen_sublist.mem member)
  simpa using (candidates_sublist _ _).mem candidate

private theorem nodup_chosen : (chosen settings scoring messages query budget).Nodup := by
  apply chosen_sublist.nodup
  rw [ranking_perm.nodup_iff]
  exact .of_map _ nodup_position_candidates

theorem length_chosen_le :
    (chosen settings scoring messages query budget).length ≤ settings.maxCandidates := by
  calc
    _ ≤ (ranking settings scoring messages query).length := chosen_sublist.length_le
    _ = (candidates settings (slots settings messages)).length := ranking_perm.length_eq
    _ ≤ settings.maxCandidates := length_candidates_le settings _

theorem filter_mandatory_kept :
    (kept settings scoring messages query budget).filter (·.mandatory) =
      (slots settings messages).filter (·.mandatory) := by
  rw [kept_eq_filter, List.filter_filter]
  congr 1
  funext slot
  cases slot.mandatory with
  | true => rfl
  | false => rfl

theorem filter_candidates_kept_perm :
    ((kept settings scoring messages query budget).filter (!·.mandatory)).Perm
      (chosen settings scoring messages query budget) := by
  have nodup : (kept settings scoring messages query budget).Nodup := by
    rw [kept_eq_filter]
    exact (List.Nodup.of_map _ nodup_position_slots).filter _
  rw [List.perm_ext_iff_of_nodup (nodup.filter _) nodup_chosen]
  intro slot
  rw [List.mem_filter, kept_eq_filter, List.mem_filter]
  constructor
  · rintro ⟨⟨member, keep⟩, optional⟩
    rw [Bool.not_eq_true'] at optional
    rw [optional, Bool.false_or] at keep
    rcases List.any_eq_true.mp keep with ⟨other, otherChosen, equal⟩
    have otherMember := (mem_slots_of_mem_chosen otherChosen).1
    have same := eq_of_position otherMember member (by simpa using equal)
    exact same ▸ otherChosen
  · intro member
    rcases mem_slots_of_mem_chosen member with ⟨present, optional⟩
    refine ⟨⟨present, ?_⟩, by rw [optional]; rfl⟩
    rw [Bool.or_eq_true, List.any_eq_true]
    exact .inr ⟨slot, member, beq_self_eq_true _⟩

theorem kept_perm : (kept settings scoring messages query budget).Perm
    ((slots settings messages).filter (·.mandatory) ++
      chosen settings scoring messages query budget) := by
  have parts := List.filter_append_perm (fun slot : Slot => slot.mandatory)
    (kept settings scoring messages query budget)
  rw [filter_mandatory_kept] at parts
  exact parts.symm.trans (filter_candidates_kept_perm.append_left _)

theorem tokensOf_kept : tokensOf (kept settings scoring messages query budget) =
    tokensOf ((slots settings messages).filter (·.mandatory)) +
      tokensOf (chosen settings scoring messages query budget) := by
  rw [tokensOf_perm kept_perm, tokensOf_append]

theorem tokens_selection : (selection settings scoring messages query budget).2 =
    tokensOf (kept settings scoring messages query budget) :=
  (tokens_admission _ _ _ _).trans tokensOf_kept.symm

theorem kept_eq_slots
    (few : ((slots settings messages).filter (!·.mandatory)).length ≤ settings.maxCandidates)
    (fits : Fits budget ((slots settings messages).filter (·.mandatory)).length
      (tokensOf ((slots settings messages).filter (·.mandatory)))
      (ranking settings scoring messages query)) :
    kept settings scoring messages query budget = slots settings messages := by
  have all : chosen settings scoring messages query budget =
      ranking settings scoring messages query := admitted_eq_self fits
  have uncut := candidates_eq_filter few
  rw [kept_eq_filter, all, List.filter_eq_self]
  intro slot member
  cases stays : slot.mandatory with
  | true => rfl
  | false =>
      have ranked : slot ∈ ranking settings scoring messages query := by
        rw [ranking_perm.mem_iff, uncut, List.mem_filter, stays]
        exact ⟨member, rfl⟩
      rw [Bool.false_or, List.any_eq_true]
      exact ⟨slot, ranked, beq_self_eq_true _⟩

end Condensing

end ChatMemory
