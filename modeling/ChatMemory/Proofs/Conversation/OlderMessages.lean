import ChatMemory.Proofs.Conversation.Greedy
import ChatMemory.Proofs.Text.Blank

/-!
Condensing a history that goes further back. Main statement: older messages change nothing, if the
newer ones have all that is looked for when the history is read from its end.
-/

namespace ChatMemory

def Scored.later (offset : Nat) (scored : Scored) : Scored :=
  { scored with position := offset + scored.position }

namespace Condensing

variable {settings : CondensingSettings} {scoring : ScoringSettings} {older messages : List Message}
  {query : Option String} {budget : Budget}

/-- The messages are all that condensing looks at: with whatever came before them, these are the
messages that stay in any case, the candidates, and what the candidates are compared with. -/
structure IsEnough (settings : CondensingSettings) (messages : List Message)
    (query : Option String) : Prop where
  system : settings.preserveSystem = true → ∃ message ∈ messages, message.role.isSystem = true
  recent : settings.recentMessages ≤ messages.countP (!·.role.isSystem)
  optional : settings.maxCandidates ≤
    (List.range messages.length).countP (!mustStay settings messages ·)
  compared : (∃ message ∈ messages, message.role.isUser = true) ∨
    ∃ text ∈ query, Unicode.isAllBlank text = false

/-! ## Messages that have to stay -/

private theorem mandatoryFrom_none (messages : List Message) :
    mandatoryFrom false 0 messages = List.replicate messages.length false := by
  induction messages with
  | nil => rfl
  | cons message older induction =>
      rw [mandatoryFrom]
      split
      · rw [induction, List.length_cons, List.replicate_succ]
      · rw [induction, List.length_cons, List.replicate_succ]
        rfl

private theorem mandatoryFrom_append {system : Bool} {recent : Nat} {newer : List Message}
    (systemFound : system = true → ∃ message ∈ newer, message.role.isSystem = true)
    (recentFound : recent ≤ newer.countP (!·.role.isSystem)) (older : List Message) :
    mandatoryFrom system recent (newer ++ older) =
      mandatoryFrom system recent newer ++ List.replicate older.length false := by
  induction newer generalizing system recent with
  | nil =>
      have noSystem : system = false := by simpa using systemFound
      have noRecent : recent = 0 := by simpa using recentFound
      rw [noSystem, noRecent, List.nil_append, mandatoryFrom_none]
      rfl
  | cons message rest induction =>
      rw [List.cons_append, mandatoryFrom, mandatoryFrom]
      split
      · rename_i isSystem
        rw [List.countP_cons_of_neg (by simp [isSystem])] at recentFound
        rw [induction (by simp) recentFound, List.cons_append]
      · rename_i isOther
        have fewer : recent - 1 ≤ rest.countP (!·.role.isSystem) := by
          rw [List.countP_cons_of_pos (by simp [isOther])] at recentFound
          omega
        have systemLeft : system = true → ∃ message ∈ rest, message.role.isSystem = true := by
          simpa [isOther] using systemFound
        rw [induction systemLeft fewer, List.cons_append]

private theorem IsEnough.flags_append (enough : IsEnough settings messages query)
    (older : List Message) :
    flags settings (older ++ messages) =
      List.replicate older.length false ++ flags settings messages := by
  have system : settings.preserveSystem = true →
      ∃ message ∈ messages.reverse, message.role.isSystem = true := by
    simpa using enough.system
  have recent : settings.recentMessages ≤ messages.reverse.countP (!·.role.isSystem) := by
    rw [List.countP_reverse]
    exact enough.recent
  rw [flags, List.reverse_append, mandatoryFrom_append system recent, List.reverse_append,
    List.length_reverse, List.reverse_replicate, flags]

/-! ## Slots further on -/

def Slot.later (offset : Nat) (slot : Slot) : Slot :=
  { slot with position := offset + slot.position }

@[simp] private theorem map_flagged_later (offset : Nat) (slots : List Slot) :
    (slots.map (Slot.later offset)).map Slot.flagged = slots.map Slot.flagged := by
  rw [List.map_map]
  rfl

def optionalSlots (messages : List Message) : List Slot :=
  messages.zipIdx.map fun (message, position) => ⟨message, position, false⟩

private theorem mandatory_of_mem_optionalSlots {slot : Slot} (member : slot ∈ optionalSlots older) :
    slot.mandatory = false := by
  rcases List.mem_map.mp member with ⟨_, _, rfl⟩
  rfl

private theorem position_lt_of_mem_optionalSlots {slot : Slot} (member : slot ∈ optionalSlots older)
    :
    slot.position < older.length := by
  rcases List.mem_map.mp member with ⟨⟨message, position⟩, placed, rfl⟩
  exact (List.mem_zipIdx' placed).1

private theorem IsEnough.slots_append (enough : IsEnough settings messages query)
    (older : List Message) :
    slots settings (older ++ messages) =
      optionalSlots older ++ (slots settings messages).map (Slot.later older.length) := by
  have unmarked : older.zip (List.replicate older.length false) = older.map (·, false) := by
    rw [List.map_prod_left_eq_zip, List.map_const']
  have further : (messages.zip (flags settings messages)).zipIdx older.length =
      (messages.zip (flags settings messages)).zipIdx.map fun (marked, position) =>
        (marked, older.length + position) := List.zipIdx_eq_map_add
  rw [slots, slots, ← flags, ← flags, enough.flags_append older,
    List.zip_append List.length_replicate.symm, unmarked, List.zipIdx_append, List.length_map,
    Nat.zero_add, further, List.map_append, List.zipIdx_map, List.map_map, List.map_map,
    List.map_map]
  rfl

/-! ## Candidates -/

private theorem takeLast_append {α : Type _} {count : Nat} {newer : List α}
    (whole : count ≤ newer.length) (older : List α) :
    takeLast count (older ++ newer) = takeLast count newer := by
  have further : (older ++ newer).length - count = older.length + (newer.length - count) := by
    rw [List.length_append]
    omega
  rw [takeLast, takeLast, further, List.drop_append]
  simp

private theorem takeLast_map {α β : Type _} (convert : α → β) (count : Nat) (list : List α) :
    takeLast count (list.map convert) = (takeLast count list).map convert := by
  rw [takeLast, takeLast, List.length_map, List.map_drop]

private theorem IsEnough.candidates_append (enough : IsEnough settings messages query)
    (older : List Message) :
    candidates settings (slots settings (older ++ messages)) =
      (candidates settings (slots settings messages)).map (Slot.later older.length) := by
  have whole : settings.maxCandidates ≤
      (((slots settings messages).map (Slot.later older.length)).filter (!·.mandatory)).length := by
    rw [List.filter_map, List.length_map]
    have many := enough.optional
    rwa [List.countP_eq_length_filter, ← map_position_filter_slots, List.length_map] at many
  rw [candidates, enough.slots_append older, List.filter_append, takeLast_append whole,
    List.filter_map, takeLast_map]
  rfl

private theorem IsEnough.filter_mandatory_append (enough : IsEnough settings messages query)
    (older : List Message) :
    (slots settings (older ++ messages)).filter (·.mandatory) =
      ((slots settings messages).filter (·.mandatory)).map (Slot.later older.length) := by
  have none : (optionalSlots older).filter (·.mandatory) = [] := by
    rw [List.filter_eq_nil_iff]
    intro slot member
    rw [mandatory_of_mem_optionalSlots member]
    exact Bool.false_ne_true
  rw [enough.slots_append older, List.filter_append, none, List.nil_append, List.filter_map]
  rfl

private theorem IsEnough.probeText_append (enough : IsEnough settings messages query)
    (older : List Message) : probeText (older ++ messages) query = probeText messages query := by
  rcases enough.compared with ⟨message, member, isUser⟩ | ⟨text, given, worded⟩
  · have found : (messages.reverse.find? (·.role.isUser)).isSome = true := by
      rw [List.find?_isSome]
      exact ⟨message, List.mem_reverse.mpr member, isUser⟩
    rw [probeText, probeText, List.reverse_append, List.find?_append, Option.or_of_isSome found]
  · have asked : (Unicode.trim (query.getD "")).isEmpty = false := by
      rw [Option.mem_def.mp given, Option.getD_some, Unicode.isEmpty_trim, worded]
    rw [probeText, probeText, asked]
    rfl

/-! ## Scores -/

private theorem recency_add (scoring : ScoringSettings) (offset position total : Nat) :
    scoring.recency (offset + position) (offset + total) = scoring.recency position total := by
  rw [ScoringSettings.recency, ScoringSettings.recency]
  by_cases outside : total ≤ position
  · rw [if_pos outside, if_pos (by omega)]
  · have age : offset + total - 1 - (offset + position) = total - 1 - position := by omega
    rw [if_neg outside, if_neg (by omega), age]

private theorem relevance_add (scoring : ScoringSettings) (probe : Probe) (candidate : Analysis)
    (offset position total : Nat) (corpus : Frequencies) :
    scoring.relevance probe candidate (offset + position) (offset + total) corpus =
      scoring.relevance probe candidate position total corpus := by
  rw [ScoringSettings.relevance, ScoringSettings.relevance, recency_add]

section

variable {probe : Probe} {slots moved candidates : List Slot} {offset : Nat}

private theorem scores_later (length : moved.length = offset + slots.length)
    (mandatory : moved.filter (·.mandatory) =
      (slots.filter (·.mandatory)).map (Slot.later offset)) :
    scores scoring probe moved (candidates.map (Slot.later offset)) =
      (scores scoring probe slots candidates).map (Scored.later offset) := by
  have contents : ∀ some : List Slot,
      (some.map (Slot.later offset)).map (fun slot => Analysis.ofText slot.message.content) =
        some.map fun slot => Analysis.ofText slot.message.content := by
    intro some
    rw [List.map_map]
    rfl
  rw [scores, scores, length]
  split
  · rw [List.map_map, List.map_map]
    apply List.map_congr_left
    intro slot _
    exact congrArg (Scored.mk _ <| Score.ofFloat ·)
      (recency_add scoring offset slot.position slots.length)
  · dsimp only
    rw [mandatory, contents, contents, List.zip_map_left, List.map_map, List.map_map]
    apply List.map_congr_left
    rintro ⟨slot, document⟩ _
    exact congrArg (Scored.mk _ <| Score.ofFloat ·)
      (relevance_add scoring probe document offset slot.position slots.length _)

private theorem add_beq_add (offset first second : Nat) :
    (offset + first == offset + second) = (first == second) := by
  rw [Bool.eq_iff_iff, beq_iff_eq, beq_iff_eq, Nat.add_left_cancel_iff]

private theorem sortByScore_later (scored : List Scored) :
    sortByScore (scored.map (Scored.later offset)) =
      (sortByScore scored).map (Scored.later offset) := by
  rw [sortByScore, sortByScore, List.map_mergeSort]
  exact fun _ _ _ _ => rfl

private theorem rankedCandidates_later (length : moved.length = offset + slots.length)
    (mandatory : moved.filter (·.mandatory) =
      (slots.filter (·.mandatory)).map (Slot.later offset)) :
    rankedCandidates scoring probe moved (candidates.map (Slot.later offset)) =
      (rankedCandidates scoring probe slots candidates).map (Slot.later offset) := by
  rw [rankedCandidates, rankedCandidates, scores_later length mandatory, sortByScore_later,
    List.filterMap_map, List.map_filterMap]
  apply List.filterMap_congr
  intro scored _
  rw [Function.comp_apply, List.find?_map]
  simp only [Function.comp_def, Slot.later, Scored.later, add_beq_add]

end

/-! ## What is kept -/

private theorem admitted_later (offset count tokens : Nat) (ranked : List Slot) :
    admitted budget count tokens (ranked.map (Slot.later offset)) =
      (admitted budget count tokens ranked).map (Slot.later offset) := by
  induction ranked generalizing count tokens with
  | nil => rfl
  | cons slot rest induction =>
      have sameTokens : (slot.later offset).tokens = slot.tokens := rfl
      rw [List.map_cons, admitted_cons, admitted_cons, sameTokens, induction, induction]
      split
      · rfl
      · split
        · rfl
        · rfl

private theorem IsEnough.ranking_append (enough : IsEnough settings messages query)
    (older : List Message) :
    ranking settings scoring (older ++ messages) query =
      (ranking settings scoring messages query).map (Slot.later older.length) := by
  have length : (slots settings (older ++ messages)).length =
      older.length + (slots settings messages).length := by
    rw [enough.slots_append older, optionalSlots, List.length_append, List.length_map,
      List.length_map, List.length_zipIdx]
  rw [ranking, ranking, enough.candidates_append older, enough.probeText_append older]
  exact rankedCandidates_later length (enough.filter_mandatory_append older)

private theorem IsEnough.chosen_append (enough : IsEnough settings messages query)
    (older : List Message) :
    chosen settings scoring (older ++ messages) query budget =
      (chosen settings scoring messages query budget).map (Slot.later older.length) := by
  have sameTokens := tokensOf_alike
    (map_flagged_later older.length ((slots settings messages).filter (·.mandatory)))
  rw [chosen, chosen, enough.ranking_append older, enough.filter_mandatory_append older,
    List.length_map, sameTokens, admitted_later]

private theorem IsEnough.kept_append (enough : IsEnough settings messages query)
    (older : List Message) :
    kept settings scoring (older ++ messages) query budget =
      (kept settings scoring messages query budget).map (Slot.later older.length) := by
  have noneOlder : (optionalSlots older).filter (fun slot => slot.mandatory ||
      (chosen settings scoring (older ++ messages) query budget).any
        (·.position == slot.position)) = [] := by
    rw [List.filter_eq_nil_iff]
    intro slot member
    rw [mandatory_of_mem_optionalSlots member, Bool.false_or, enough.chosen_append older,
      List.any_map, Bool.not_eq_true, List.any_eq_false]
    intro other _
    have inside := position_lt_of_mem_optionalSlots member
    simp only [Function.comp_apply, Slot.later, beq_iff_eq]
    omega
  rw [kept_eq_filter, enough.slots_append older, List.filter_append, noneOlder, List.nil_append,
    List.filter_map, kept_eq_filter]
  congr 1
  apply List.filter_congr
  intro slot _
  rw [Function.comp_apply, enough.chosen_append older, List.any_map]
  simp only [Function.comp_def, Slot.later, add_beq_add]

end Condensing

section

open Condensing

/-- Older messages change nothing in what is left of a history, if the newer ones have the newest
system message, the newest others, enough candidates, and something to compare these with. -/
theorem older_messages_change_nothing {settings : CondensingSettings} {messages : List Message}
    {query : Option String} (enough : IsEnough settings messages query)
    (scoring : ScoringSettings) (budget : Budget) (older : List Message) :
    let longer := condense settings scoring (older ++ messages) query budget
    let condensed := condense settings scoring messages query budget
    longer.messages = condensed.messages ∧ longer.tokens = condensed.tokens := by
  intro longer condensed
  constructor
  · rw [messages_condense, messages_condense, enough.kept_append older, List.map_map]
    rfl
  · rw [tokens_condense, tokens_condense, enough.kept_append older]
    exact tokensOf_alike (map_flagged_later older.length _)

/-- Older messages about what is asked for, with an older system message. There would be room for
them, but only the newest candidate is considered. -/
theorem older_messages_change_nothing_where_they_match :
    let messages : List Message := [⟨.system, "You are helpful"⟩, ⟨.user, "Tell me about Paris"⟩,
      ⟨.assistant, "Paris is a city"⟩, ⟨.user, "Is Tokyo larger?"⟩]
    let older : List Message := [⟨.system, "You are brief"⟩, ⟨.user, "Is Tokyo large?"⟩,
      ⟨.assistant, "Tokyo is a large city"⟩]
    let settings : CondensingSettings := { recentMessages := 1, maxCandidates := 1 }
    IsEnough settings messages none ∧
      (condense settings {} (older ++ messages) none ⟨5, some 20⟩).messages =
        (condense settings {} messages none ⟨5, some 20⟩).messages ∧
      (condense settings {} messages none ⟨5, some 20⟩).messages.map (·.content) =
        ["You are helpful", "Paris is a city", "Is Tokyo larger?"] := by
  intro messages older settings
  have enough : IsEnough settings messages none :=
    { system := by decide
      recent := by decide
      optional := by decide
      compared := by decide }
  refine ⟨enough, ?_, ?_⟩
  · exact (older_messages_change_nothing enough {} ⟨5, some 20⟩ older).1
  · decide +kernel

end

end ChatMemory
