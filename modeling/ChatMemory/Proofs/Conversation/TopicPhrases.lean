import ChatMemory.Conversation.Topic
import Mathlib.Data.List.Infix

/-!
The phrases that a message raises. Main statements: a message raises each of its phrases once, in
the order of their first occurrences, and each is made of significant words.
-/

namespace ChatMemory

namespace Topic

/-! ## First occurrences -/

section FirstOccurrences

variable {α : Type _} [BEq α] [LawfulBEq α]

theorem eraseDups_concat (items : List α) (item : α) :
    (items ++ [item]).eraseDups =
      if items.contains item then items.eraseDups else items.eraseDups ++ [item] := by
  rw [List.eraseDups_append]
  by_cases known : item ∈ items
  · simp [List.removeAll, known]
  · simp [List.removeAll, known, List.eraseDups_cons]

theorem idxOf_eraseDups_concat {items : List α} {other : α} (listed : other ∈ items) (item : α) :
    (items ++ [item]).eraseDups.idxOf other = items.eraseDups.idxOf other := by
  rw [eraseDups_concat]
  split
  · rfl
  · rw [List.idxOf_append, if_pos (List.mem_eraseDups.mpr listed)]

theorem pairwise_idxOf_eraseDups (items : List α) :
    items.eraseDups.Pairwise fun first second => items.idxOf first < items.idxOf second := by
  induction items using List.reverseRecOn with
  | nil => exact List.Pairwise.nil
  | append_singleton items item induction =>
      have kept : items.eraseDups.Pairwise fun first second =>
          (items ++ [item]).idxOf first < (items ++ [item]).idxOf second := by
        refine induction.imp_of_mem fun {first second} firstMember secondMember less => ?_
        rw [List.mem_eraseDups] at firstMember secondMember
        rwa [List.idxOf_append, List.idxOf_append, if_pos firstMember, if_pos secondMember]
      rw [eraseDups_concat]
      split
      · exact kept
      · rename_i new
        rw [List.contains_iff_mem] at new
        refine List.pairwise_append.mpr ⟨kept, List.pairwise_singleton _ _, ?_⟩
        intro first firstMember second secondMember
        rw [List.mem_eraseDups] at firstMember
        rw [List.mem_singleton.mp secondMember, List.idxOf_append, List.idxOf_append,
          if_pos firstMember, if_neg new]
        exact Nat.lt_add_left _ (List.idxOf_lt_length_iff.mpr firstMember)

theorem nodup_eraseDups (items : List α) : items.eraseDups.Nodup :=
  (pairwise_idxOf_eraseDups items).imp fun less => ne_of_apply_ne items.idxOf (Nat.ne_of_lt less)

theorem getElem?_eraseDups_eq_some_iff {items : List α} {item : α} {place : Nat} :
    items.eraseDups[place]? = some item ↔ item ∈ items ∧ place = items.eraseDups.idxOf item := by
  constructor
  · intro found
    rcases List.getElem?_eq_some_iff.mp found with ⟨bound, here⟩
    refine ⟨List.mem_eraseDups.mp (List.mem_of_getElem? found), ?_⟩
    rw [← here, (nodup_eraseDups items).idxOf_getElem]
  · rintro ⟨listed, rfl⟩
    rw [← List.mem_eraseDups] at listed
    rw [List.getElem?_eq_getElem (List.idxOf_lt_length_iff.mpr listed), List.getElem_idxOf]

theorem rel_of_idxOf_lt {relation : α → α → Prop} {items : List α} {first second : α}
    (ordered : items.Pairwise relation) (member : second ∈ items)
    (less : items.idxOf first < items.idxOf second) : relation first second := by
  have secondBound := List.idxOf_lt_length_iff.mpr member
  have related := List.pairwise_iff_getElem.mp ordered _ _ (less.trans secondBound) secondBound less
  rwa [List.getElem_idxOf, List.getElem_idxOf] at related

private theorem exists_place_of_idxOf_lt {β : Type _} {read : β → Option α} {items : List β}
    {first second : α} (less : (items.filterMap read).idxOf first <
      (items.filterMap read).idxOf second) :
    ∃ place : Nat, (items[place]?).bind read = some first ∧
      ∀ other : Nat, (items[other]?).bind read = some second → place < other := by
  induction items with
  | nil => exact absurd less (Nat.lt_irrefl 0)
  | cons item rest induction =>
      cases here : read item with
      | none =>
          rw [List.filterMap_cons_none here] at less
          rcases induction less with ⟨place, found, before⟩
          refine ⟨place + 1, found, fun other otherFound => ?_⟩
          cases other with
          | zero =>
              rw [List.getElem?_cons_zero, Option.bind_some, here] at otherFound
              cases otherFound
          | succ other => exact Nat.succ_lt_succ (before other otherFound)
      | some value =>
          rw [List.filterMap_cons_some here, List.idxOf_cons, List.idxOf_cons] at less
          by_cases isFirst : value = first
          · refine ⟨0, by rw [List.getElem?_cons_zero, Option.bind_some, here, isFirst], ?_⟩
            intro other otherFound
            refine Nat.pos_of_ne_zero ?_
            rintro rfl
            rw [List.getElem?_cons_zero, Option.bind_some, here, Option.some_inj] at otherFound
            rw [← isFirst, ← otherFound] at less
            exact absurd less (Nat.lt_irrefl _)
          · have notSecond : value ≠ second := by
              rintro rfl
              simp at less
            rw [beq_false_of_ne isFirst, beq_false_of_ne notSecond, cond_false, cond_false] at less
            rcases induction (Nat.lt_of_succ_lt_succ less) with ⟨place, found, before⟩
            refine ⟨place + 1, found, fun other otherFound => ?_⟩
            cases other with
            | zero =>
                rw [List.getElem?_cons_zero, Option.bind_some, here, Option.some_inj] at otherFound
                exact absurd otherFound notSecond
            | succ other => exact Nat.succ_lt_succ (before other otherFound)

end FirstOccurrences

/-! ## Raising a phrase -/

variable {settings : TopicSettings} {message : Message} {phrase first second : String}

def CuedAt (settings : TopicSettings) (words : List String) (place : Nat) (phrase : String) :
    Prop :=
  ∃ cue rest, words.drop place = cue :: rest ∧ isCue cue = true ∧
    phraseAfterCue settings rest ≠ [] ∧ phrase = " ".intercalate (phraseAfterCue settings rest)

/-- The message raises the phrase by its word at the place. Significant words count for themselves
only if no cue has a phrase after it. -/
def RaisedAt (settings : TopicSettings) (message : Message) (place : Nat) (phrase : String) :
    Prop :=
  CuedAt settings (Text.words message.content) place phrase ∨
    (∀ other cued, ¬CuedAt settings (Text.words message.content) other cued) ∧
      (Text.words message.content)[place]? = some phrase ∧ isSignificant settings phrase = true

def Raises (settings : TopicSettings) (message : Message) (phrase : String) : Prop :=
  ∃ place, RaisedAt settings message place phrase

def RaisedBefore (settings : TopicSettings) (message : Message) (first second : String) : Prop :=
  ∃ place, RaisedAt settings message place first ∧
    ∀ other, RaisedAt settings message other second → place < other

def IsPhrase (settings : TopicSettings) (phrase : String) : Prop :=
  ∃ words : List String, words ≠ [] ∧ words.length ≤ settings.maxWords ∧
    (∀ word ∈ words, isSignificant settings word = true) ∧ phrase = " ".intercalate words

theorem RaisedAt.isPhrase {place : Nat} (positive : 0 < settings.maxWords)
    (raised : RaisedAt settings message place phrase) : IsPhrase settings phrase := by
  rcases raised with ⟨cue, rest, -, -, some, named⟩ | ⟨-, -, significant⟩
  · refine ⟨phraseAfterCue settings rest, some, ?_, ?_, named⟩
    · exact (List.length_filter_le _ _).trans (List.length_take_le _ _)
    · exact fun word member => (List.mem_filter.mp member).2
  · refine ⟨[phrase], List.cons_ne_nil _ _, positive, ?_, String.intercalate_singleton.symm⟩
    exact List.forall_mem_singleton.mpr significant

/-! ## Reading a message -/

def readCued (settings : TopicSettings) : List String → Option String
  | [] => none
  | word :: rest =>
    if isCue word && !(phraseAfterCue settings rest).isEmpty then
      some (" ".intercalate (phraseAfterCue settings rest))
    else none

def readSignificant (settings : TopicSettings) : List String → Option String
  | [] => none
  | word :: _ => if isSignificant settings word then some word else none

private theorem cuedPhrases_eq_filterMap (settings : TopicSettings) (words : List String) :
    (cuedPhrases settings words).map (" ".intercalate ·) =
      words.tails.filterMap (readCued settings) := by
  induction words with
  | nil => rfl
  | cons word rest induction =>
      rw [cuedPhrases, List.tails_cons, List.filterMap_cons, readCued, ← induction]
      split <;> rfl

private theorem filter_eq_filterMap (settings : TopicSettings) (words : List String) :
    words.filter (isSignificant settings) = words.tails.filterMap (readSignificant settings) := by
  induction words with
  | nil => rfl
  | cons word rest induction =>
      rw [List.filter_cons, List.tails_cons, List.filterMap_cons, readSignificant, ← induction]
      split <;> rfl

private theorem getElem?_tails_bind {read : List String → Option String} (ended : read [] = none)
    (words : List String) (place : Nat) :
    (words.tails[place]?).bind read = read (words.drop place) := by
  by_cases within : place < words.tails.length
  · rw [List.getElem?_eq_getElem within, List.getElem_tails, Option.bind_some]
  · rw [List.getElem?_eq_none (Nat.le_of_not_lt within), Option.bind_none,
      List.drop_eq_nil_of_le (by rw [List.length_tails] at within; omega), ended]

private theorem readCued_eq_some_iff {words : List String} {place : Nat} :
    readCued settings (words.drop place) = some phrase ↔ CuedAt settings words place phrase := by
  rw [CuedAt]
  cases words.drop place with
  | nil => simp [readCued]
  | cons cue rest =>
      rw [readCued, Option.ite_none_right_eq_some]
      simp only [Bool.and_eq_true, Bool.not_eq_true', List.isEmpty_eq_false_iff, Option.some_inj,
        List.cons.injEq]
      constructor
      · rintro ⟨⟨isCue, some⟩, named⟩
        exact ⟨cue, rest, ⟨rfl, rfl⟩, isCue, some, named.symm⟩
      · rintro ⟨_, _, ⟨rfl, rfl⟩, isCue, some, named⟩
        exact ⟨⟨isCue, some⟩, named.symm⟩

private theorem readSignificant_eq_some_iff {words : List String} {place : Nat} :
    readSignificant settings (words.drop place) = some phrase ↔
      words[place]? = some phrase ∧ isSignificant settings phrase = true := by
  rw [← List.head?_drop]
  cases words.drop place with
  | nil => simp [readSignificant]
  | cons word rest =>
      rw [readSignificant, Option.ite_none_right_eq_some, List.head?_cons, Option.some_inj]
      constructor
      · rintro ⟨significant, rfl⟩
        exact ⟨rfl, significant⟩
      · rintro ⟨rfl, significant⟩
        exact ⟨significant, rfl⟩

private theorem cuedPhrases_eq_nil_iff {words : List String} :
    cuedPhrases settings words = [] ↔ ∀ place phrase, ¬CuedAt settings words place phrase := by
  rw [← List.map_eq_nil_iff (f := (" ".intercalate ·)), cuedPhrases_eq_filterMap,
    List.filterMap_eq_nil_iff]
  simp only [← readCued_eq_some_iff]
  constructor
  · intro none place phrase found
    have suffix := (List.mem_tails _ _).mpr (List.drop_suffix place words)
    rw [none _ suffix] at found
    cases found
  · intro none rest member
    obtain ⟨before, rfl⟩ := (List.mem_tails _ _).mp member
    have found := none before.length
    rw [List.drop_left] at found
    exact Option.eq_none_iff_forall_ne_some.mpr found

private theorem exists_reading (settings : TopicSettings) (message : Message) :
    ∃ read : List String → Option String,
      phrasesOf settings message =
        ((Text.words message.content).tails.filterMap read).eraseDups ∧
      ∀ place phrase, ((Text.words message.content).tails[place]?).bind read = some phrase ↔
        RaisedAt settings message place phrase := by
  by_cases uncued : cuedPhrases settings (Text.words message.content) = []
  · refine ⟨readSignificant settings, ?_, fun place phrase => ?_⟩
    · rw [phrasesOf, uncued, List.isEmpty_nil, if_pos rfl, filter_eq_filterMap]
    · have none := cuedPhrases_eq_nil_iff.mp uncued
      rw [getElem?_tails_bind rfl, readSignificant_eq_some_iff, RaisedAt]
      exact ⟨fun own => .inr ⟨none, own⟩, fun raised =>
        (raised.resolve_left (none place phrase)).2⟩
  · refine ⟨readCued settings, ?_, fun place phrase => ?_⟩
    · rw [phrasesOf, if_neg (by rwa [List.isEmpty_iff]), cuedPhrases_eq_filterMap]
    · have some := cuedPhrases_eq_nil_iff.not.mp uncued
      rw [getElem?_tails_bind rfl, readCued_eq_some_iff, RaisedAt]
      exact ⟨.inl, fun raised => raised.resolve_right fun own => some own.1⟩

@[simp] theorem mem_phrasesOf :
    phrase ∈ phrasesOf settings message ↔ Raises settings message phrase := by
  rcases exists_reading settings message with ⟨read, phrases, raised⟩
  rw [phrases, List.mem_eraseDups, List.mem_filterMap, Raises]
  simp only [← raised, Option.bind_eq_some_iff, List.mem_iff_getElem?]
  constructor
  · rintro ⟨rest, ⟨place, found⟩, named⟩
    exact ⟨place, rest, found, named⟩
  · rintro ⟨place, rest, found, named⟩
    exact ⟨rest, ⟨place, found⟩, named⟩

instance : Decidable (Raises settings message phrase) :=
  decidable_of_iff (phrase ∈ phrasesOf settings message) mem_phrasesOf

theorem nodup_phrasesOf (settings : TopicSettings) (message : Message) :
    (phrasesOf settings message).Nodup := by
  rcases exists_reading settings message with ⟨_, phrases, -⟩
  rw [phrases]
  exact nodup_eraseDups _

theorem pairwise_phrasesOf (settings : TopicSettings) (message : Message) :
    (phrasesOf settings message).Pairwise (RaisedBefore settings message) := by
  rcases exists_reading settings message with ⟨read, phrases, raised⟩
  rw [phrases]
  refine (pairwise_idxOf_eraseDups _).imp fun {first second} less => ?_
  rcases exists_place_of_idxOf_lt less with ⟨place, found, before⟩
  exact ⟨place, (raised place first).mp found,
    fun other otherRaised => before other ((raised other second).mpr otherRaised)⟩

theorem Raises.isPhrase (positive : 0 < settings.maxWords)
    (raises : Raises settings message phrase) : IsPhrase settings phrase := by
  rcases raises with ⟨_, raised⟩
  exact raised.isPhrase positive

end Topic

end ChatMemory
