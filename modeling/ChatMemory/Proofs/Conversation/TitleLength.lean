import ChatMemory.Proofs.Conversation.TitleFallback

/-!
The length of titles. Main statement: titles keep the limit of characters just if the texts that
they are taken from have no character that becomes longer in a title.
-/

namespace ChatMemory

open Unicode

namespace Title

/-! ## Characters that do not become longer -/

private theorem length_toUppercase_sigma :
    (toUppercase 'ς').length = 1 ∧ (toUppercase 'σ').length = 1 := by
  decide

private theorem lowercase_of_not_grows {text : List Char}
    (steady : ∀ character ∈ text, ¬Grows character) :
    (lowercase text).length = text.length ∧
      ∀ lowered ∈ lowercase text, (toUppercase lowered).length = 1 := by
  have lowers := isLowered_lowercase text
  constructor
  · apply lowers.length
    intro character member
    exact length_toLowercase fun dotted => steady character member (.inr (.inl dotted))
  · intro lowered member
    rcases lowers.source lowered member with ⟨original, listed, origin | ⟨-, rfl | rfl⟩⟩
    · exact length_toUppercase_of_mem_toLowercase (steady original listed) origin
    · exact length_toUppercase_sigma.1
    · exact length_toUppercase_sigma.2

private theorem smallWords_undotted : ∀ word ∈ smallWords, '\u0307' ∉ word := by
  decide

private theorem length_lowercase_of_small {word : List Char}
    (small : smallWords.contains (lowercase word) = true) :
    (lowercase word).length = word.length := by
  have lowers := isLowered_lowercase word
  apply lowers.length
  intro character member
  apply length_toLowercase
  rintro rfl
  rcases lowers.keeps 'İ' member with sigma | kept
  · exact absurd sigma (by decide)
  · exact smallWords_undotted _ (List.contains_iff_mem.mp small) (kept (by decide))

private theorem length_capitalizeWord_le {word : List Char} (isFirst : Bool)
    (single : ∀ character ∈ word, (toUppercase character).length = 1) :
    (capitalizeWord isFirst word).length ≤ word.length := by
  rw [capitalizeWord]
  split
  · exact le_rfl
  · split
    · rename_i small
      exact (length_lowercase_of_small (Bool.and_eq_true_iff.mp small).2).le
    · cases word with
      | nil => exact le_rfl
      | cons first rest =>
          have head := single first List.mem_cons_self
          rw [capitalize, List.length_append, head, List.length_cons, Nat.add_comm]

private theorem length_joinWithSpaces_mapIdx_le {words : List (List Char)}
    {change : Nat → List Char → List Char}
    (short : ∀ index, ∀ word ∈ words, (change index word).length ≤ word.length) :
    (Text.joinWithSpaces (words.mapIdx change)).length ≤ (Text.joinWithSpaces words).length := by
  induction words generalizing change with
  | nil => exact le_rfl
  | cons word rest induction =>
      have head := short 0 word List.mem_cons_self
      have tail : (Text.joinWithSpaces (rest.mapIdx fun index => change (index + 1))).length ≤
          (Text.joinWithSpaces rest).length :=
        induction fun index other member =>
          short (index + 1) other (List.mem_cons_of_mem word member)
      rw [List.mapIdx_cons]
      by_cases some : rest = []
      · rw [some]
        exact head
      · rw [Text.joinWithSpaces_cons_of_ne_nil word some,
          Text.joinWithSpaces_cons_of_ne_nil _ (List.mapIdx_ne_nil_iff.mpr some)]
        simp only [List.length_append, List.length_cons]
        omega

private theorem length_capitalizePhrase_le {phrase : List Char}
    (steady : ∀ character ∈ phrase, ¬Grows character) :
    (capitalizePhrase phrase).length ≤ phrase.length := by
  obtain ⟨cased, isCased, same, single⟩ : ∃ cased : List Char,
      (if phrase.any isLowercase then phrase else lowercase phrase) = cased ∧
      cased.length = phrase.length ∧
      ∀ character ∈ cased, (toUppercase character).length = 1 := by
    split
    · exact ⟨phrase, rfl, rfl, fun character member =>
        length_toUppercase_of_not_grows (steady character member)⟩
    · exact ⟨lowercase phrase, rfl, lowercase_of_not_grows steady⟩
  rw [capitalizePhrase, isCased, ← same]
  calc (Text.joinWithSpaces ((splitAtSpaces cased).mapIdx fun index word =>
          capitalizeWord (index == 0) word)).length
      ≤ (Text.joinWithSpaces (splitAtSpaces cased)).length := by
        apply length_joinWithSpaces_mapIdx_le
        intro index word member
        apply length_capitalizeWord_le
        intro character inside
        have listed := Text.subset_joinWithSpaces member inside
        rw [joinWithSpaces_splitAtSpaces] at listed
        exact single character listed
    _ = cased.length := by rw [joinWithSpaces_splitAtSpaces]

/-! ## The characters of a title -/

private theorem mem_of_mem_sourceWords {settings : TitleSettings} {content word : List Char}
    (member : word ∈ sourceWords settings content) {character : Char} (inside : character ∈ word) :
    character ∈ content := by
  have piece := (List.mem_filter.mp (List.mem_of_mem_take member)).1
  have listed := List.mem_flatten.mpr ⟨word, piece, inside⟩
  rw [flatten_blankFreePieces] at listed
  exact (List.dropWhile_suffix _).subset (List.mem_filter.mp listed).1

private theorem mem_of_mem_addWords {limit : Nat} {words : List (List Char)} {character : Char}
    (areWords : ∀ word ∈ words, IsWord word) (member : character ∈ addWords limit [] words) :
    character = ' ' ∨ ∃ word ∈ words, character ∈ word := by
  cases words with
  | nil => cases member
  | cons first rest =>
      rcases addWords_cons (areWords first List.mem_cons_self).1 rest with
        ⟨-, cut⟩ | ⟨-, added, begins, joined, -⟩
      · rw [cut] at member
        exact .inr ⟨first, List.mem_cons_self, List.mem_of_mem_take member⟩
      · rw [joined] at member
        refine (Text.mem_joinWithSpaces member).imp_right ?_
        rintro ⟨word, listed, inside⟩
        exact ⟨word, ((List.prefix_cons_inj first).mpr begins).subset listed, inside⟩

private theorem mem_of_mem_plainTitle {settings : TitleSettings} {content : List Char}
    {character : Char} (member : character ∈ plainTitle settings content) :
    character = ' ' ∨ character ∈ content := by
  refine (mem_of_mem_addWords (fun _ listed => (of_mem_sourceWords listed).1)
    ((isPrefix_trimEnd _).subset member)).imp_right ?_
  rintro ⟨word, listed, inside⟩
  exact mem_of_mem_sourceWords listed inside

private theorem length_plainTitle_le (settings : TitleSettings) (content : List Char) :
    (plainTitle settings content).length ≤ settings.maxChars :=
  (isPrefix_trimEnd _).length_le.trans
    (length_addWords_le fun _ member => (of_mem_sourceWords member).1)

private theorem not_grows_space : ¬Grows ' ' := by
  rintro (long | dotted | sharp)
  · exact absurd long (by decide)
  · exact absurd dotted (by decide)
  · exact absurd sharp (by decide)

private theorem length_ofContent_le (settings : TitleSettings) {content : String}
    (steady : ∀ character ∈ content.toList, ¬Grows character) :
    (ofContent settings content).length ≤ settings.maxChars := by
  rw [ofContent_eq, String.length_ofList]
  refine (length_capitalizePhrase_le ?_).trans (length_plainTitle_le settings content.toList)
  intro character member
  rcases mem_of_mem_plainTitle member with rfl | inside
  · exact not_grows_space
  · exact steady character inside

/-! ## Characters that become longer -/

private theorem length_capitalizePhrase_of_mem_growingPoints :
    ∀ point ∈ growingPoints, 1 < (capitalizePhrase [Char.ofNat point]).length := by
  decide +kernel

private theorem plainTitle_singleton {settings : TitleSettings} {character : Char}
    (words : settings.maxWords = 1) (room : settings.maxChars = 1)
    (alphanumeric : isAlphanumeric character = true) :
    plainTitle settings [character] = [character] := by
  have unblank := isBlank_of_isAlphanumeric alphanumeric
  have unmarked : character ∉ leadingMarks := by
    intro mark
    rw [isAlphanumeric_of_mem_leadingMarks character mark] at alphanumeric
    exact Bool.noConfusion alphanumeric
  have source : sourceWords settings [character] = [[character]] := by
    simp [sourceWords, blankFreePieces, blankFreePiecesFrom, words, unmarked, unblank, alphanumeric]
  rw [plainTitle, source, room]
  simp [addWords, trimEnd, alphanumeric]

private theorem ofMessages_eq_fallback_or_length_le {settings : TitleSettings}
    {messages : List Message}
    (steady : ∀ message ∈ messages, ∀ character ∈ message.content.toList, ¬Grows character) :
    ofMessages settings messages = settings.fallback ∨
      (ofMessages settings messages).length ≤ settings.maxChars := by
  by_cases given : ∃ message, IsSource messages message
  · rcases given with ⟨message, source⟩
    have short := length_ofContent_le settings (steady message source.mem)
    rw [ofMessages_of_isSource source]
    split
    · exact .inl rfl
    · exact .inr short
  · exact .inl (ofMessages_of_no_source (not_exists.mp given))

/-- The titles of texts in an alphabet keep every limit just if no character of the alphabet becomes
longer in a title. -/
theorem titles_keep_limit_iff (alphabet : Char → Prop) :
    (∀ settings : Settings, settings.validate = .ok () → ∀ messages : List Message,
      (∀ message ∈ messages, ∀ character ∈ message.content.toList, alphabet character) →
      ofMessages settings.title messages = settings.title.fallback ∨
        (ofMessages settings.title messages).length ≤ settings.title.maxChars) ↔
    ∀ character, alphabet character → ¬Grows character := by
  constructor
  · intro keeps character inside grows
    let settings : Settings := { title := { maxWords := 1, maxChars := 1, fallback := "x" } }
    have faultless : settings.fault? = none := by decide
    have valid : settings.validate = .ok () := by rw [Settings.validate, faultless]
    let asked : Message := ⟨.user, String.singleton character⟩
    have alphanumeric := isAlphanumeric_of_grows grows
    have written : ofContent settings.title asked.content =
        String.ofList (capitalizePhrase [character]) := by
      rw [ofContent_eq, String.toList_singleton, plainTitle_singleton rfl rfl alphanumeric]
    have long := length_capitalizePhrase_of_mem_growingPoints _ (toNat_mem_growingPoints grows)
    rw [Char.ofNat_toNat, ← String.length_ofList, ← written] at long
    have substantial : isUsers asked = true := by
      simp [isUsers, asked, Role.isUser, Message.hasSubstance, Text.hasSubstance, alphanumeric]
    have source : IsSource [asked] asked := .inl ⟨[], [], rfl, substantial, by simp⟩
    have filled : (ofContent settings.title asked.content).isEmpty = false := by
      rw [Bool.eq_false_iff, ne_eq, String.isEmpty_iff]
      intro empty
      rw [empty] at long
      exact absurd long (by decide)
    have kept := keeps settings valid [asked] (by simp [asked, inside])
    rw [ofMessages_of_isSource source, filled, if_neg Bool.false_ne_true] at kept
    rcases kept with fallback | short
    · rw [fallback] at long
      exact absurd long (by decide)
    · exact absurd (long.trans_le short) (Nat.lt_irrefl 1)
  · intro steady settings _ messages within
    exact ofMessages_eq_fallback_or_length_le fun message member character inside =>
      steady character (within message member character inside)

/-- Sixty letters fit into the limit, but the first of them becomes two in capitals. -/
theorem title_may_exceed_limit :
    let asked : Message :=
      ⟨.user, "ßßßßßßßßßßßßßßßßßßßßßßßßßßßßßßßßßßßßßßßßßßßßßßßßßßßßßßßßßßßß"⟩
    ({} : Settings).validate = .ok () ∧ asked.content.length = 60 ∧
    ofMessages {} [asked] = "SSßßßßßßßßßßßßßßßßßßßßßßßßßßßßßßßßßßßßßßßßßßßßßßßßßßßßßßßßßßß" ∧
    ofMessages {} [asked] ≠ ({} : Settings).title.fallback ∧
    ({} : Settings).title.maxChars = 60 ∧ (ofMessages {} [asked]).length = 61 := by
  intro asked
  have faultless : ({} : Settings).fault? = none := by decide
  have title : ofMessages {} [asked] =
      "SSßßßßßßßßßßßßßßßßßßßßßßßßßßßßßßßßßßßßßßßßßßßßßßßßßßßßßßßßßßß" := by
    decide +kernel
  rw [title]
  refine ⟨by rw [Settings.validate, faultless], ?_, rfl, ?_, rfl, ?_⟩
  · decide +kernel
  · decide
  · decide +kernel

end Title

end ChatMemory
