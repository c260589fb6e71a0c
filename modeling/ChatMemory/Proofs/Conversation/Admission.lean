import ChatMemory.Proofs.Conversation.Slots

/-!
The order in which candidates are admitted, and how many of them are. Main statements: the ranking
only rearranges the candidates, what is admitted fits the budget, what fits is admitted in any
order, and what is left out would not have fitted, while anything admitted after it is smaller.
-/

namespace ChatMemory

structure Budget.Within (budget wider : Budget) : Prop where
  messages : budget.maxMessages ≤ wider.maxMessages
  tokens : wider.maxTokens = none ∨ ∃ limit widerLimit, budget.maxTokens = some limit ∧
    wider.maxTokens = some widerLimit ∧ limit ≤ widerLimit

variable {budget wider : Budget}

theorem Budget.allowsTokens_iff {tokens : Nat} :
    budget.allowsTokens tokens = true ↔ ∀ limit ∈ budget.maxTokens, tokens ≤ limit := by
  rw [allowsTokens]
  cases budget.maxTokens with
  | none => simp
  | some limit => simp

theorem Budget.allowsTokens_eq_false_iff {tokens : Nat} :
    budget.allowsTokens tokens = false ↔ ∃ limit ∈ budget.maxTokens, limit < tokens := by
  rw [← Bool.not_eq_true, allowsTokens_iff]
  simp

private theorem Budget.allowsTokens_mono {tokens fewer : Nat} (less : fewer ≤ tokens)
    (allowed : budget.allowsTokens tokens = true) : budget.allowsTokens fewer = true := by
  rw [allowsTokens_iff] at allowed ⊢
  exact fun limit given => Nat.le_trans less (allowed limit given)

theorem Budget.Within.allowsTokens (within : budget.Within wider) {tokens : Nat}
    (allowed : budget.allowsTokens tokens = true) : wider.allowsTokens tokens = true := by
  rw [allowsTokens_iff] at allowed ⊢
  intro given isGiven
  rcases within.tokens with unlimited | ⟨limit, widerLimit, limited, widerLimited, le⟩
  · rw [unlimited] at isGiven
    cases isGiven
  · rw [widerLimited] at isGiven
    cases isGiven
    exact Nat.le_trans (allowed limit limited) le

namespace Condensing

/-! ## Tokens -/

@[simp] private theorem tokensOf_cons (slot : Slot) (rest : List Slot) :
    tokensOf (slot :: rest) = slot.tokens + tokensOf rest :=
  rfl

@[simp] theorem tokensOf_append (first second : List Slot) :
    tokensOf (first ++ second) = tokensOf first + tokensOf second := by
  induction first with
  | nil => exact (Nat.zero_add _).symm
  | cons slot rest induction =>
      rw [List.cons_append, tokensOf_cons, tokensOf_cons, induction, Nat.add_assoc]

theorem tokensOf_le_of_sublist {fewer slots : List Slot} (sublist : fewer.Sublist slots) :
    tokensOf fewer ≤ tokensOf slots := by
  induction sublist with
  | slnil => exact Nat.le_refl _
  | cons slot _ induction =>
      rw [tokensOf_cons]
      omega
  | cons_cons slot _ induction =>
      rw [tokensOf_cons, tokensOf_cons]
      omega

private theorem tokens_le_tokensOf {slots : List Slot} {slot : Slot} (member : slot ∈ slots) :
    slot.tokens ≤ tokensOf slots :=
  tokensOf_le_of_sublist (List.singleton_sublist.mpr member)

theorem tokensOf_perm {first second : List Slot} (perm : first.Perm second) :
    tokensOf first = tokensOf second := by
  induction perm with
  | nil => rfl
  | cons slot _ induction => rw [tokensOf_cons, tokensOf_cons, induction]
  | swap first second rest =>
      simp only [tokensOf_cons]
      omega
  | trans _ _ first second => rw [first, second]

/-! ## Ranking -/

section

variable {scoring : ScoringSettings} {probe : Probe} {slots candidates : List Slot}

@[simp] theorem map_position_scores :
    (scores scoring probe slots candidates).map (·.position) = candidates.map (·.position) := by
  rw [scores]
  split
  · rw [List.map_map]
    rfl
  · dsimp only
    rw [← List.map_prod_left_eq_zip, List.map_map, List.map_map]
    rfl

private theorem find?_position (distinct : (candidates.map (·.position)).Nodup) {slot : Slot}
    (member : slot ∈ candidates) :
    candidates.find? (·.position == slot.position) = some slot := by
  cases found : candidates.find? (·.position == slot.position) with
  | none =>
      have missing := List.find?_eq_none.mp found slot member
      simp at missing
  | some other =>
      have equal : other.position = slot.position := by simpa using List.find?_some found
      rw [List.inj_on_of_nodup_map distinct (List.mem_of_find?_eq_some found) member equal]

theorem rankedCandidates_perm (distinct : (candidates.map (·.position)).Nodup) :
    (rankedCandidates scoring probe slots candidates).Perm candidates := by
  have sorted : (sortByScore (scores scoring probe slots candidates)).Perm
      (scores scoring probe slots candidates) := List.mergeSort_perm _ _
  have looked : ((scores scoring probe slots candidates).filterMap fun scored =>
      candidates.find? (·.position == scored.position)) = candidates := by
    calc
      _ = ((scores scoring probe slots candidates).map (·.position)).filterMap fun position =>
          candidates.find? (·.position == position) := by rw [List.filterMap_map]; rfl
      _ = candidates.filterMap fun slot => candidates.find? (·.position == slot.position) := by
        rw [map_position_scores, List.filterMap_map]
        rfl
      _ = candidates.filterMap some :=
        List.filterMap_congr fun slot member => find?_position distinct member
      _ = candidates := List.filterMap_some
  have ranked := sorted.filterMap fun scored =>
    candidates.find? (·.position == scored.position)
  rw [looked] at ranked
  exact ranked

end

/-! ## Admission -/

def admitted (budget : Budget) (count tokens : Nat) (ranked : List Slot) : List Slot :=
  (admission budget count tokens ranked).1

theorem admitted_cons (budget : Budget) (count tokens : Nat) (slot : Slot) (rest : List Slot) :
    admitted budget count tokens (slot :: rest) =
      if budget.maxMessages ≤ count then []
      else if budget.allowsTokens (tokens + slot.tokens) then
        slot :: admitted budget (count + 1) (tokens + slot.tokens) rest
      else admitted budget count tokens rest := by
  rw [admitted, admission]
  split
  · rfl
  · split <;> rfl

theorem tokens_admission (budget : Budget) (count tokens : Nat) (ranked : List Slot) :
    (admission budget count tokens ranked).2 =
      tokens + tokensOf (admitted budget count tokens ranked) := by
  induction ranked generalizing count tokens with
  | nil => rfl
  | cons slot rest induction =>
      rw [admitted_cons, admission]
      split
      · rfl
      · split
        · rw [tokensOf_cons, ← Nat.add_assoc]
          exact induction (count + 1) (tokens + slot.tokens)
        · exact induction count tokens

/-- The slots fit into the budget beside what is kept already. None always fit. -/
def Fits (budget : Budget) (count tokens : Nat) (slots : List Slot) : Prop :=
  slots = [] ∨ (count + slots.length ≤ budget.maxMessages ∧
    budget.allowsTokens (tokens + tokensOf slots) = true)

theorem admitted_sublist (budget : Budget) (count tokens : Nat) (ranked : List Slot) :
    (admitted budget count tokens ranked).Sublist ranked := by
  induction ranked generalizing count tokens with
  | nil => exact .slnil
  | cons slot rest induction =>
      rw [admitted_cons]
      split
      · exact List.nil_sublist _
      · split
        · exact (induction _ _).cons_cons slot
        · exact (induction _ _).cons slot

theorem fits_admitted (budget : Budget) (count tokens : Nat) (ranked : List Slot) :
    Fits budget count tokens (admitted budget count tokens ranked) := by
  induction ranked generalizing count tokens with
  | nil => exact .inl rfl
  | cons slot rest induction =>
      rw [admitted_cons]
      split
      · exact .inl rfl
      · rename_i room
        split
        · rename_i allowed
          right
          rcases induction (count + 1) (tokens + slot.tokens) with none | ⟨fewer, cheaper⟩
          · rw [none, tokensOf_cons]
            exact ⟨Nat.lt_of_not_le room, allowed⟩
          · rw [tokensOf_cons, ← Nat.add_assoc, List.length_cons]
            exact ⟨by omega, cheaper⟩
        · exact induction count tokens

theorem admitted_eq_self {count tokens : Nat} {ranked : List Slot}
    (fits : Fits budget count tokens ranked) : admitted budget count tokens ranked = ranked := by
  induction ranked generalizing count tokens with
  | nil => rfl
  | cons slot rest induction =>
      rcases fits with none | ⟨fewer, cheaper⟩
      · cases none
      · rw [tokensOf_cons, ← Nat.add_assoc] at cheaper
        rw [List.length_cons] at fewer
        have room : ¬budget.maxMessages ≤ count := by omega
        have allowed := Budget.allowsTokens_mono (Nat.le_add_right _ (tokensOf rest)) cheaper
        have restFits : Fits budget (count + 1) (tokens + slot.tokens) rest :=
          .inr ⟨by omega, cheaper⟩
        rw [admitted_cons, if_neg room, if_pos allowed, induction restFits]

theorem not_allowed_of_notMem_admitted {count tokens : Nat} {ranked : List Slot} {slot : Slot}
    (member : slot ∈ ranked) (leftOut : slot ∉ admitted budget count tokens ranked)
    (room : count + (admitted budget count tokens ranked).length < budget.maxMessages) :
    budget.allowsTokens (tokens + tokensOf (admitted budget count tokens ranked) + slot.tokens) =
      false := by
  induction ranked generalizing count tokens with
  | nil => cases member
  | cons head rest induction =>
      rw [admitted_cons] at leftOut room ⊢
      split at leftOut
      · rename_i full
        rw [if_pos full, List.length_nil] at room
        omega
      · rename_i free
        rw [if_neg free] at room ⊢
        split at leftOut
        · rename_i allowed
          rw [if_pos allowed, List.length_cons] at room
          rcases not_or.mp (mt List.mem_cons.mpr leftOut) with ⟨different, later⟩
          have exceeds := induction ((List.mem_cons.mp member).resolve_left different) later
            (by omega)
          rw [if_pos allowed, tokensOf_cons, ← Nat.add_assoc]
          exact exceeds
        · rename_i refused
          rw [if_neg refused] at room ⊢
          rcases List.mem_cons.mp member with rfl | later
          · rw [← Bool.not_eq_true]
            intro allowed
            exact refused (Budget.allowsTokens_mono (by omega) allowed)
          · exact induction later leftOut room

theorem pairwise_admitted (count tokens : Nat) {ranked : List Slot} (distinct : ranked.Nodup) :
    ranked.Pairwise fun earlier later =>
      earlier ∉ admitted budget count tokens ranked →
        later ∈ admitted budget count tokens ranked → later.tokens < earlier.tokens := by
  induction ranked generalizing count tokens with
  | nil => exact .nil
  | cons head rest induction =>
      rcases List.nodup_cons.mp distinct with ⟨fresh, restDistinct⟩
      rw [admitted_cons]
      split
      · exact List.pairwise_of_forall fun _ _ _ kept => absurd kept List.not_mem_nil
      · split
        · apply List.pairwise_cons.mpr
          constructor
          · exact fun _ _ leftOut => absurd List.mem_cons_self leftOut
          · apply (induction (count + 1) (tokens + head.tokens) restDistinct).imp_of_mem
            intro earlier later _ laterMember smaller leftOut kept
            have different : later ≠ head := fun equal => fresh (equal ▸ laterMember)
            exact smaller (fun member => leftOut (List.mem_cons_of_mem head member))
              ((List.mem_cons.mp kept).resolve_left different)
        · rename_i refused
          apply List.pairwise_cons.mpr
          constructor
          · intro later _ _ kept
            -- What is admitted fits beside what is kept so far, which the head does not.
            rcases fits_admitted budget count tokens rest with none | ⟨-, cheaper⟩
            · rw [none] at kept
              cases kept
            · by_contra larger
              apply refused
              have part := tokens_le_tokensOf kept
              exact Budget.allowsTokens_mono (by omega) cheaper
          · exact induction count tokens restDistinct

theorem Fits.of_same {count tokens : Nat} {slots others : List Slot}
    (fits : Fits budget count tokens slots) (within : budget.Within wider)
    (sameLength : others.length = slots.length) (sameTokens : tokensOf others = tokensOf slots) :
    Fits wider count tokens others := by
  rcases fits with none | ⟨fewer, cheaper⟩
  · rw [none] at sameLength
    exact .inl (List.eq_nil_of_length_eq_zero sameLength)
  · right
    rw [sameLength, sameTokens]
    exact ⟨Nat.le_trans fewer within.messages, within.allowsTokens cheaper⟩

end Condensing

end ChatMemory
