import ChatMemory.Conversation.Condensing
import Mathlib.Data.List.Nodup

/-!
The messages of a history in their slots. Main statement: which messages have to stay is decided in
the same way for what is left of a history, if none that has to stay is taken away.
-/

namespace ChatMemory.Condensing

variable {settings : CondensingSettings} {messages : List Message}

@[simp] theorem length_mandatoryFrom (system : Bool) (recent : Nat) (messages : List Message) :
    (mandatoryFrom system recent messages).length = messages.length := by
  induction messages generalizing system recent with
  | nil => rfl
  | cons message older induction =>
      rw [mandatoryFrom]
      split
      · rw [List.length_cons, List.length_cons, induction]
      · rw [List.length_cons, List.length_cons, induction]

def flags (settings : CondensingSettings) (messages : List Message) : List Bool :=
  (mandatoryFrom settings.preserveSystem settings.recentMessages messages.reverse).reverse

@[simp] private theorem length_flags : (flags settings messages).length = messages.length := by
  rw [flags, List.length_reverse, length_mandatoryFrom, List.length_reverse]

@[simp] theorem map_message_slots (settings : CondensingSettings) (messages : List Message) :
    (slots settings messages).map (·.message) = messages := by
  rw [slots, ← flags, List.map_map]
  calc
    _ = (messages.zip (flags settings messages)).zipIdx.map (Prod.fst ∘ Prod.fst) := rfl
    _ = (messages.zip (flags settings messages)).map Prod.fst := by
      rw [← List.map_map, List.zipIdx_map_fst]
    _ = messages := List.map_fst_zip (Nat.le_of_eq length_flags.symm)

@[simp] theorem map_mandatory_slots :
    (slots settings messages).map (·.mandatory) = flags settings messages := by
  rw [slots, ← flags, List.map_map]
  calc
    _ = (messages.zip (flags settings messages)).zipIdx.map (Prod.snd ∘ Prod.fst) := rfl
    _ = (messages.zip (flags settings messages)).map Prod.snd := by
      rw [← List.map_map, List.zipIdx_map_fst]
    _ = flags settings messages := List.map_snd_zip (Nat.le_of_eq length_flags)

@[simp] theorem map_position_slots (settings : CondensingSettings) (messages : List Message) :
    (slots settings messages).map (·.position) = List.range messages.length := by
  rw [slots, ← flags, List.map_map]
  calc
    _ = (messages.zip (flags settings messages)).zipIdx.map Prod.snd := rfl
    _ = List.range messages.length := by
      rw [List.zipIdx_map_snd, List.length_zip, length_flags, Nat.min_self, List.range_eq_range']

theorem nodup_position_slots : ((slots settings messages).map (·.position)).Nodup := by
  rw [map_position_slots]
  exact List.nodup_range

theorem eq_of_position {slot other : Slot} (member : slot ∈ slots settings messages)
    (otherMember : other ∈ slots settings messages) (equal : slot.position = other.position) :
    slot = other :=
  List.inj_on_of_nodup_map nodup_position_slots member otherMember equal

/-! ## Taking slots away -/

private theorem exists_mandatoryFrom_cons (system : Bool) (recent : Nat) (message : Message) :
    ∃ flag systemLeft recentLeft,
      (∀ older, mandatoryFrom system recent (message :: older) =
        flag :: mandatoryFrom systemLeft recentLeft older) ∧
      (flag = false → systemLeft = system ∧ recentLeft = recent) := by
  by_cases isSystem : message.role.isSystem = true
  · refine ⟨system, false, recent, ?_, ?_⟩
    · intro older
      rw [mandatoryFrom, if_pos isSystem]
    · intro unneeded
      exact ⟨unneeded.symm, rfl⟩
  · refine ⟨decide (0 < recent), system, recent - 1, ?_, ?_⟩
    · intro older
      rw [mandatoryFrom, if_neg isSystem]
    · intro unneeded
      have used : ¬0 < recent := of_decide_eq_false unneeded
      exact ⟨rfl, by omega⟩

private theorem mandatoryFrom_filter {slots : List Slot} {system : Bool} {recent : Nat}
    {keep : Slot → Bool}
    (flagged : slots.map (·.mandatory) = mandatoryFrom system recent (slots.map (·.message)))
    (whole : ∀ slot ∈ slots, slot.mandatory = true → keep slot = true) :
    (slots.filter keep).map (·.mandatory) =
      mandatoryFrom system recent ((slots.filter keep).map (·.message)) := by
  induction slots generalizing system recent with
  | nil => rfl
  | cons slot older induction =>
      rcases List.forall_mem_cons.mp whole with ⟨slotWhole, olderWhole⟩
      rcases exists_mandatoryFrom_cons system recent slot.message
        with ⟨flag, systemLeft, recentLeft, step, unchanged⟩
      rw [List.map_cons, List.map_cons, step] at flagged
      rcases List.cons.inj flagged with ⟨slotFlag, olderFlags⟩
      have rest := induction olderFlags olderWhole
      cases choice : keep slot with
      | true =>
          rw [List.filter_cons_of_pos choice, List.map_cons, List.map_cons, step, slotFlag, rest]
      | false =>
          have unneeded : flag = false := by
            rw [← slotFlag]
            by_contra stays
            rw [slotWhole (by simpa using stays)] at choice
            cases choice
          rcases unchanged unneeded with ⟨sameSystem, sameRecent⟩
          rw [List.filter_cons_of_neg (by simp [choice]), rest, sameSystem, sameRecent]

theorem flags_filter_slots {keep : Slot → Bool}
    (whole : ∀ slot ∈ slots settings messages, slot.mandatory = true → keep slot = true) :
    flags settings (((slots settings messages).filter keep).map (·.message)) =
      ((slots settings messages).filter keep).map (·.mandatory) := by
  have flagged : (slots settings messages).reverse.map (·.mandatory) =
      mandatoryFrom settings.preserveSystem settings.recentMessages
        ((slots settings messages).reverse.map (·.message)) := by
    rw [List.map_reverse, List.map_reverse, map_mandatory_slots, map_message_slots, flags,
      List.reverse_reverse]
  have filtered := mandatoryFrom_filter flagged
    (fun slot member => whole slot (List.mem_reverse.mp member))
  rw [List.filter_reverse, List.map_reverse, List.map_reverse] at filtered
  rw [flags, ← filtered, List.reverse_reverse]

end ChatMemory.Condensing
