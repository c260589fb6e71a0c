import ChatMemory.Proofs.Conversation.Selection
import Mathlib.Data.List.Range

/-!
Which messages have to stay and which may be admitted, told by what follows them. Main statements:
the slots are marked in just this way, and the candidates are just the slots that may be admitted.
-/

namespace ChatMemory.Condensing

/-! ## The last items of a rising list -/

section

variable {α : Type _} {key : α → Nat} {items : List α} {item : α}

private theorem takeLast_cons (count : Nat) (first : α) (rest : List α) :
    takeLast count (first :: rest) =
      if rest.length < count then first :: rest else takeLast count rest := by
  rw [takeLast, List.length_cons]
  split
  · rename_i whole
    rw [Nat.sub_eq_zero_of_le whole, List.drop_zero]
  · rename_i cut
    have length : rest.length + 1 - count = rest.length - count + 1 := by omega
    rw [length, List.drop_succ_cons, takeLast]

private theorem mem_takeLast_iff
    (rising : items.Pairwise fun first second => key first < key second) (count : Nat) :
    item ∈ takeLast count items ↔
      item ∈ items ∧ items.countP (fun other => decide (key item < key other)) < count := by
  induction items with
  | nil => simp [takeLast]
  | cons first rest induction =>
      rcases List.pairwise_cons.mp rising with ⟨above, restRising⟩
      have uncounted (member : item ∈ first :: rest) :
          (first :: rest).countP (fun other => decide (key item < key other)) =
            rest.countP (fun other => decide (key item < key other)) := by
        apply List.countP_cons_of_neg
        rw [decide_eq_true_eq]
        rcases List.mem_cons.mp member with equal | later
        · simp [equal]
        · exact Nat.not_lt_of_lt (above item later)
      rw [takeLast_cons]
      split
      · rename_i whole
        rw [iff_self_and]
        intro member
        rw [uncounted member]
        exact Nat.lt_of_le_of_lt List.countP_le_length whole
      · rename_i cut
        rw [induction restRising]
        constructor
        · intro later
          have member := List.mem_cons_of_mem first later.1
          rw [uncounted member]
          exact ⟨member, later.2⟩
        · intro few
          rw [uncounted few.1] at few
          refine ⟨(List.mem_cons.mp few.1).resolve_left ?_, few.2⟩
          -- The first item is exceeded by all others, and these are too many.
          intro equal
          apply cut
          calc
            rest.length = rest.countP (fun other => decide (key item < key other)) := by
              symm
              rw [List.countP_eq_length, equal]
              exact fun other member => decide_eq_true (above other member)
            _ < count := few.2

end

/-! ## Messages that have to stay -/

variable {settings : CondensingSettings} {messages : List Message}

/-- Whether the message at the position has to stay: it is the newest system message, or it is one
of the newest others. -/
def mustStay (settings : CondensingSettings) (messages : List Message) (position : Nat) : Bool :=
  match messages[position]? with
  | none => false
  | some message =>
    let newer := messages.drop (position + 1)
    if message.role.isSystem then settings.preserveSystem && newer.all (!·.role.isSystem)
    else decide (newer.countP (!·.role.isSystem) < settings.recentMessages)

/-- Whether the message at the position may be admitted: it need not stay, and only few of those
that follow it need not stay either. -/
def mayBeAdmitted (settings : CondensingSettings) (messages : List Message) (position : Nat) :
    Bool :=
  let others := (List.range messages.length).filter (!mustStay settings messages ·)
  decide (position ∈ others) &&
    decide (others.countP (fun other => decide (position < other)) < settings.maxCandidates)

private theorem getElem?_mandatoryFrom (system : Bool) (recent : Nat) (messages : List Message)
    (index : Nat) :
    (mandatoryFrom system recent messages)[index]? = messages[index]?.map fun message =>
      if message.role.isSystem then system && (messages.take index).all (!·.role.isSystem)
      else decide ((messages.take index).countP (!·.role.isSystem) < recent) := by
  induction messages generalizing system recent index with
  | nil => rfl
  | cons first older induction =>
      cases index with
      | zero =>
          by_cases isSystem : first.role.isSystem = true
          · simp [mandatoryFrom, isSystem]
          · rw [mandatoryFrom, if_neg isSystem, List.getElem?_cons_zero, List.getElem?_cons_zero,
              Option.map_some, if_neg isSystem]
            rfl
      | succ index =>
          rw [mandatoryFrom]
          split
          · rename_i isSystem
            simp [induction, isSystem]
          · rename_i isOther
            simp only [List.getElem?_cons_succ, induction, List.take_succ_cons, List.all_cons,
              List.countP_cons, isOther]
            congr 1
            funext message
            split
            · simp
            · rw [decide_eq_decide]
              simp only [Bool.not_false, if_true]
              omega

private theorem flags_eq_map_mustStay :
    flags settings messages = (List.range messages.length).map (mustStay settings messages) := by
  apply List.ext_getElem?
  intro index
  rw [List.getElem?_map, flags]
  by_cases inside : index < messages.length
  · have backwards : messages.length - (messages.length - 1 - index) = index + 1 := by omega
    have there : messages.reverse[messages.length - 1 - index]? = some messages[index] := by
      have again := List.getElem?_reverse (l := messages.reverse) (by rwa [List.length_reverse])
      rw [List.reverse_reverse, List.length_reverse, List.getElem?_eq_getElem inside] at again
      exact again.symm
    rw [List.getElem?_reverse (by rwa [length_mandatoryFrom, List.length_reverse]),
      length_mandatoryFrom, List.length_reverse, getElem?_mandatoryFrom, there, List.take_reverse,
      backwards, List.getElem?_range inside, Option.map_some, Option.map_some, mustStay,
      List.getElem?_eq_getElem inside]
    simp
  · have outside := Nat.le_of_not_lt inside
    rw [List.getElem?_eq_none (by
      rwa [List.length_reverse, length_mandatoryFrom, List.length_reverse]),
      List.getElem?_eq_none (by rwa [List.length_range])]
    rfl

theorem mandatory_of_mem_slots {slot : Slot} (member : slot ∈ slots settings messages) :
    slot.mandatory = mustStay settings messages slot.position := by
  have marked : (slots settings messages).map (·.mandatory) =
      (slots settings messages).map fun slot => mustStay settings messages slot.position := by
    calc
      _ = (List.range messages.length).map (mustStay settings messages) := by
        rw [map_mandatory_slots, flags_eq_map_mustStay]
      _ = _ := by
        rw [← map_position_slots settings, List.map_map]
        rfl
  exact List.map_inj_left.mp marked slot member

private theorem position_lt_of_mem_slots {slot : Slot} (member : slot ∈ slots settings messages) :
    slot.position < messages.length := by
  rw [← List.mem_range, ← map_position_slots settings]
  exact List.mem_map_of_mem member

/-! ## Messages that may be admitted -/

theorem map_position_filter_slots :
    ((slots settings messages).filter (!·.mandatory)).map (·.position) =
      (List.range messages.length).filter (!mustStay settings messages ·) := by
  rw [← map_position_slots settings, List.filter_map]
  congr 1
  apply List.filter_congr
  intro slot member
  rw [mandatory_of_mem_slots member]
  rfl

theorem mem_candidates_iff {slot : Slot} :
    slot ∈ candidates settings (slots settings messages) ↔
      slot ∈ slots settings messages ∧ mayBeAdmitted settings messages slot.position = true := by
  have rising : ((slots settings messages).filter (!·.mandatory)).Pairwise
      fun first second => first.position < second.position := by
    rw [← List.pairwise_map (f := Slot.position), map_position_filter_slots]
    exact List.Pairwise.filter _ List.pairwise_lt_range
  rw [candidates, mem_takeLast_iff rising, mayBeAdmitted,
    Bool.and_eq_true, decide_eq_true_eq, decide_eq_true_eq, ← map_position_filter_slots,
    List.countP_map, ← and_assoc]
  apply and_congr_left'
  rw [map_position_filter_slots, List.mem_filter, List.mem_filter, List.mem_range]
  apply and_congr_right
  intro member
  rw [mandatory_of_mem_slots member]
  exact (and_iff_right (position_lt_of_mem_slots member)).symm

end ChatMemory.Condensing
