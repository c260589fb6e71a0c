import ChatMemory.Conversation.Title
import ChatMemory.Proofs.Text.Blank
import ChatMemory.Proofs.Unicode.CaseMapping
import Mathlib.Data.List.DropRight

/-!
The form of titles. Main statement: a title is the fallback or a row of words with single spaces
between them, and only one message of the conversation counts for it.
-/

namespace ChatMemory

open Unicode

namespace Title

def IsWord (piece : List Char) : Prop :=
  piece ≠ [] ∧ ∀ character ∈ piece, isBlank character = false

private theorem IsWord.space_notMem {word : List Char} (isWord : IsWord word) : ' ' ∉ word := by
  intro member
  have plain := isWord.2 ' ' member
  rw [isBlank_space] at plain
  exact Bool.noConfusion plain

private theorem IsWord.of_prefix {part word : List Char} (isWord : IsWord word)
    (begins : part <+: word) (some : part ≠ []) : IsWord part :=
  ⟨some, fun character member => isWord.2 character (begins.subset member)⟩

/-! ## Rows of words -/

private theorem splitAtSpaces_eq_splitOn (text : List Char) :
    splitAtSpaces text = text.splitOn ' ' := by
  induction text with
  | nil => rfl
  | cons character rest induction =>
      rw [splitAtSpaces, induction, List.splitOn, List.splitOn,
        List.splitOnP_cons_eq_if_modifyHead]
      split
      · rfl
      · cases pieces : rest.splitOnP (· == ' ') with
        | nil => exact absurd pieces (List.splitOnP_ne_nil _ rest)
        | cons piece later => rfl

@[simp] theorem joinWithSpaces_splitAtSpaces (text : List Char) :
    Text.joinWithSpaces (splitAtSpaces text) = text := by
  rw [Text.joinWithSpaces_eq_intercalate, splitAtSpaces_eq_splitOn, List.intercalate_splitOn]

private theorem splitAtSpaces_joinWithSpaces {words : List (List Char)} (some : words ≠ [])
    (areWords : ∀ word ∈ words, IsWord word) :
    splitAtSpaces (Text.joinWithSpaces words) = words := by
  rw [Text.joinWithSpaces_eq_intercalate, splitAtSpaces_eq_splitOn]
  exact List.splitOn_intercalate ' ' (fun word member => (areWords word member).space_notMem) some

private theorem joinWithSpaces_ne_nil {words : List (List Char)} (some : words ≠ [])
    (areWords : ∀ word ∈ words, IsWord word) : Text.joinWithSpaces words ≠ [] := by
  cases words with
  | nil => exact absurd rfl some
  | cons word rest =>
      exact (Text.prefix_joinWithSpaces word rest).ne_nil (areWords word List.mem_cons_self).1

/-! ## The words of a message -/

private theorem isWord_reverse {pending : List Char} (begun : ¬pending.isEmpty)
    (plain : ∀ character ∈ pending, isBlank character = false) : IsWord pending.reverse :=
  ⟨fun empty => begun (by simpa using empty),
    fun character listed => plain character (List.mem_reverse.mp listed)⟩

private theorem isWord_of_mem_blankFreePiecesFrom {pending text piece : List Char}
    (plain : ∀ character ∈ pending, isBlank character = false)
    (member : piece ∈ blankFreePiecesFrom pending text) : IsWord piece := by
  induction text generalizing pending with
  | nil =>
      rw [blankFreePiecesFrom] at member
      split at member
      · cases member
      · rename_i begun
        rw [List.mem_singleton.mp member]
        exact isWord_reverse begun plain
  | cons character rest induction =>
      have plainNil : ∀ other ∈ ([] : List Char), isBlank other = false :=
        fun _ listed => absurd listed List.not_mem_nil
      rw [blankFreePiecesFrom] at member
      split at member
      · split at member
        · exact induction plainNil member
        · rename_i begun
          rcases List.mem_cons.mp member with rfl | later
          · exact isWord_reverse begun plain
          · exact induction plainNil later
      · rename_i unblank
        exact induction (List.forall_mem_cons.mpr ⟨eq_false_of_ne_true unblank, plain⟩) member

private theorem isWord_of_mem_blankFreePieces {text piece : List Char}
    (member : piece ∈ blankFreePieces text) : IsWord piece :=
  isWord_of_mem_blankFreePiecesFrom (fun _ listed => absurd listed List.not_mem_nil) member

/-- The words that a title is made of, with the mark-up before them and all pieces without letters
and digits left out. -/
theorem of_mem_sourceWords {settings : TitleSettings} {content word : List Char}
    (member : word ∈ sourceWords settings content) :
    IsWord word ∧ word.any isAlphanumeric = true := by
  rcases List.mem_filter.mp (List.mem_of_mem_take member) with ⟨piece, substantial⟩
  exact ⟨isWord_of_mem_blankFreePieces piece, substantial⟩

private theorem length_sourceWords_le (settings : TitleSettings) (content : List Char) :
    (sourceWords settings content).length ≤ settings.maxWords :=
  List.length_take_le _ _

/-! ## The limit of characters -/

private theorem addWords_of_begun {limit : Nat} {title : List Char} (begun : title ≠ [])
    (within : title.length ≤ limit) (words : List (List Char)) :
    ∃ added, added <+: words ∧
      addWords limit title words = Text.joinWithSpaces (title :: added) ∧
      (addWords limit title words).length ≤ limit := by
  induction words generalizing title with
  | nil => exact ⟨[], List.prefix_rfl, rfl, within⟩
  | cons word rest induction =>
      have notEmpty : title.isEmpty = false := List.isEmpty_eq_false_iff.mpr begun
      by_cases exceeds : limit < (title ++ ' ' :: word).length
      · have stopped : addWords limit title (word :: rest) = title := by
          simp only [addWords, notEmpty, Bool.false_eq_true, if_false, if_pos exceeds]
        rw [stopped]
        exact ⟨[], List.nil_prefix, rfl, within⟩
      · have continued : addWords limit title (word :: rest) =
            addWords limit (title ++ ' ' :: word) rest := by
          simp only [addWords, notEmpty, Bool.false_eq_true, if_false, if_neg exceeds]
        have longer : title ++ ' ' :: word ≠ [] := List.append_ne_nil_of_left_ne_nil begun _
        rcases induction longer (Nat.le_of_not_lt exceeds) with ⟨added, begins, joined, short⟩
        rw [continued]
        refine ⟨word :: added, (List.prefix_cons_inj word).mpr begins, ?_, short⟩
        rw [joined, Text.joinWithSpaces_append_space]

theorem addWords_cons {limit : Nat} {first : List Char} (some : first ≠ [])
    (rest : List (List Char)) :
    limit < first.length ∧ addWords limit [] (first :: rest) = first.take limit ∨
    first.length ≤ limit ∧ ∃ added, added <+: rest ∧
      addWords limit [] (first :: rest) = Text.joinWithSpaces (first :: added) ∧
      (addWords limit [] (first :: rest)).length ≤ limit := by
  by_cases exceeds : limit < first.length
  · exact .inl ⟨exceeds, by simp [addWords, exceeds]⟩
  · have begun : addWords limit [] (first :: rest) = addWords limit first rest := by
      simp [addWords, exceeds]
    rw [begun]
    exact .inr ⟨Nat.le_of_not_lt exceeds,
      addWords_of_begun some (Nat.le_of_not_lt exceeds) rest⟩

theorem length_addWords_le {limit : Nat} {words : List (List Char)}
    (areWords : ∀ word ∈ words, IsWord word) : (addWords limit [] words).length ≤ limit := by
  cases words with
  | nil => exact Nat.zero_le limit
  | cons first rest =>
      rcases addWords_cons (areWords first List.mem_cons_self).1 rest with
        ⟨-, cut⟩ | ⟨-, added, -, -, short⟩
      · rw [cut]
        exact List.length_take_le _ _
      · exact short

/-! ## The end of a title -/

private theorem trimEnd_eq_rdropWhile (text : List Char) :
    trimEnd text = text.rdropWhile (!isAlphanumeric ·) := rfl

theorem isPrefix_trimEnd (text : List Char) : trimEnd text <+: text :=
  List.rdropWhile_prefix _ text

theorem trimEnd_eq_nil_iff {text : List Char} :
    trimEnd text = [] ↔ ∀ character ∈ text, isAlphanumeric character = false := by
  rw [trimEnd_eq_rdropWhile, List.rdropWhile_eq_nil_iff]
  simp only [Bool.not_eq_true']

theorem trimEnd_ne_nil {text : List Char} (substantial : text.any isAlphanumeric = true) :
    trimEnd text ≠ [] := by
  rcases List.any_eq_true.mp substantial with ⟨character, member, alphanumeric⟩
  intro none
  rw [trimEnd_eq_nil_iff.mp none character member] at alphanumeric
  exact Bool.noConfusion alphanumeric

private theorem trimEnd_append {before after : List Char}
    (substantial : after.any isAlphanumeric = true) :
    trimEnd (before ++ after) = before ++ trimEnd after := by
  have left : after.reverse.dropWhile (!isAlphanumeric ·) ≠ [] :=
    fun none => trimEnd_ne_nil substantial (by rw [trimEnd, none, List.reverse_nil])
  rw [trimEnd, List.reverse_append, List.dropWhile_append,
    if_neg (by rwa [List.isEmpty_iff]), List.reverse_append, List.reverse_reverse]
  rfl

private theorem exists_trimmed_row {words : List (List Char)} (some : words ≠ [])
    (substantial : ∀ word ∈ words, IsWord word ∧ word.any isAlphanumeric = true) :
    ∃ trimmed, trimmed.length = words.length ∧ (∀ word ∈ trimmed, IsWord word) ∧
      trimEnd (Text.joinWithSpaces words) = Text.joinWithSpaces trimmed := by
  rcases List.eq_nil_or_concat words with rfl | ⟨before, last, rfl⟩
  · exact absurd rfl some
  · rw [List.concat_eq_append] at substantial ⊢
    rcases List.forall_mem_append.mp substantial with ⟨ofBefore, ofLast⟩
    rcases List.forall_mem_singleton.mp ofLast with ⟨lastWord, lastSubstantial⟩
    refine ⟨before ++ [trimEnd last], by simp, ?_, ?_⟩
    · rw [List.forall_mem_append, List.forall_mem_singleton]
      exact ⟨fun word listed => (ofBefore word listed).1,
        lastWord.of_prefix (isPrefix_trimEnd last) (trimEnd_ne_nil lastSubstantial)⟩
    · rw [Text.joinWithSpaces_concat, Text.joinWithSpaces_concat, trimEnd_append lastSubstantial]

def plainTitle (settings : TitleSettings) (content : List Char) : List Char :=
  trimEnd (addWords settings.maxChars [] (sourceWords settings content))

theorem ofContent_eq (settings : TitleSettings) (content : String) :
    ofContent settings content =
      String.ofList (capitalizePhrase (plainTitle settings content.toList)) := rfl

private theorem exists_words_plainTitle {settings : TitleSettings}
    (positive : 0 < settings.maxWords) (content : List Char) :
    ∃ words, (∀ word ∈ words, IsWord word) ∧ words.length ≤ settings.maxWords ∧
      plainTitle settings content = Text.joinWithSpaces words := by
  have ofSource : ∀ word ∈ sourceWords settings content,
      IsWord word ∧ word.any isAlphanumeric = true := fun _ => of_mem_sourceWords
  have bounded := length_sourceWords_le settings content
  have none : ∀ word ∈ ([] : List (List Char)), IsWord word :=
    fun _ listed => absurd listed List.not_mem_nil
  rw [plainTitle]
  cases source : sourceWords settings content with
  | nil => exact ⟨[], none, Nat.zero_le _, rfl⟩
  | cons first rest =>
      rw [source] at ofSource bounded
      have firstWord := (ofSource first List.mem_cons_self).1
      rcases addWords_cons firstWord.1 rest with ⟨-, cut⟩ | ⟨-, added, begins, joined, -⟩
      · -- The beginning of a word can be without letters, and then nothing is left of it.
        have begins := (isPrefix_trimEnd (first.take settings.maxChars)).trans
          (List.take_prefix settings.maxChars first)
        rw [cut]
        by_cases left : trimEnd (first.take settings.maxChars) = []
        · exact ⟨[], none, Nat.zero_le _, left⟩
        · refine ⟨[trimEnd (first.take settings.maxChars)], ?_, positive, rfl⟩
          exact List.forall_mem_singleton.mpr (firstWord.of_prefix begins left)
      · have kept := (List.prefix_cons_inj first).mpr begins
        rcases exists_trimmed_row (List.cons_ne_nil first added)
          (fun word listed => ofSource word (kept.subset listed)) with
          ⟨trimmed, same, areWords, trims⟩
        refine ⟨trimmed, areWords, same.le.trans (kept.length_le.trans bounded), ?_⟩
        rw [joined, trims]

/-! ## Capitals -/

theorem IsWord.lowered {word lowered : List Char} (isWord : IsWord word)
    (lowers : IsLowered word lowered) : IsWord lowered :=
  ⟨lowers.filled isWord.1, fun _ member => lowers.isBlank_of_mem isWord.2 member⟩

private theorem exists_words_lowercaseFrom {words : List (List Char)} (before : List Char)
    (areWords : ∀ word ∈ words, IsWord word) :
    ∃ lowered, lowered.length = words.length ∧ (∀ word ∈ lowered, IsWord word) ∧
      lowercaseFrom before (Text.joinWithSpaces words) = Text.joinWithSpaces lowered := by
  induction words generalizing before with
  | nil => exact ⟨[], rfl, areWords, rfl⟩
  | cons word rest induction =>
      rcases List.forall_mem_cons.mp areWords with ⟨isWord, ofRest⟩
      cases rest with
      | nil =>
          rcases exists_isLowered before word [] with ⟨lowered, lowers, equal⟩
          refine ⟨[lowered], rfl, List.forall_mem_singleton.mpr (isWord.lowered lowers), ?_⟩
          rw [List.append_nil] at equal
          rw [Text.joinWithSpaces, equal, lowercaseFrom, List.append_nil]
          rfl
      | cons next rest =>
          rcases exists_isLowered before word (' ' :: Text.joinWithSpaces (next :: rest)) with
            ⟨lowered, lowers, equal⟩
          rcases induction (' ' :: (word.reverse ++ before)) ofRest with
            ⟨later, same, ofLater, follows⟩
          refine ⟨lowered :: later, ?_, ?_, ?_⟩
          · rw [List.length_cons, same, List.length_cons (a := word)]
          · exact List.forall_mem_cons.mpr ⟨isWord.lowered lowers, ofLater⟩
          · have some : later ≠ [] := List.ne_nil_of_length_eq_add_one same
            rw [Text.joinWithSpaces_cons_of_ne_nil word (List.cons_ne_nil next rest), equal,
              Text.joinWithSpaces_cons_of_ne_nil lowered some, lowercaseFrom, follows]
            rfl

theorem IsWord.capitalize {word : List Char} (isWord : IsWord word) :
    IsWord (Unicode.capitalize word) := by
  cases word with
  | nil => exact absurd rfl isWord.1
  | cons first rest =>
      rcases List.forall_mem_cons.mp isWord.2 with ⟨firstPlain, restPlain⟩
      refine ⟨List.append_ne_nil_of_left_ne_nil (toUppercase_ne_nil first) rest, ?_⟩
      rw [Unicode.capitalize, List.forall_mem_append]
      refine ⟨fun character member => ?_, restPlain⟩
      rw [Bool.eq_false_iff]
      intro blank
      rw [eq_of_isBlank_of_mem_toUppercase member blank, firstPlain] at blank
      exact Bool.noConfusion blank

theorem IsWord.capitalizeWord {word : List Char} (isWord : IsWord word) (isFirst : Bool) :
    IsWord (capitalizeWord isFirst word) := by
  rw [Title.capitalizeWord]
  split
  · exact isWord
  · split
    · exact isWord.lowered (isLowered_lowercase word)
    · exact isWord.capitalize

private theorem exists_words_capitalizePhrase {words : List (List Char)} (some : words ≠ [])
    (areWords : ∀ word ∈ words, IsWord word) :
    ∃ capitalized, capitalized.length = words.length ∧ (∀ word ∈ capitalized, IsWord word) ∧
      capitalizePhrase (Text.joinWithSpaces words) = Text.joinWithSpaces capitalized := by
  obtain ⟨cased, same, ofCased, phrase⟩ : ∃ cased : List (List Char),
      cased.length = words.length ∧ (∀ word ∈ cased, IsWord word) ∧
      (if (Text.joinWithSpaces words).any isLowercase then Text.joinWithSpaces words
        else lowercase (Text.joinWithSpaces words)) = Text.joinWithSpaces cased := by
    split
    · exact ⟨words, rfl, areWords, rfl⟩
    · exact exists_words_lowercaseFrom [] areWords
  have someCased : cased ≠ [] := by
    rw [← List.length_pos_iff, same, List.length_pos_iff]
    exact some
  refine ⟨cased.mapIdx fun index word => capitalizeWord (index == 0) word, ?_, ?_, ?_⟩
  · rw [List.length_mapIdx, same]
  · intro word member
    rcases List.mem_mapIdx.mp member with ⟨index, _, rfl⟩
    exact (ofCased _ (List.getElem_mem _)).capitalizeWord _
  · rw [capitalizePhrase, phrase, splitAtSpaces_joinWithSpaces someCased ofCased]

/-! ## The message that gives the title -/

def IsFirst (property : Message → Bool) (messages : List Message) (message : Message) : Prop :=
  ∃ before after, messages = before ++ message :: after ∧ property message = true ∧
    ∀ earlier ∈ before, property earlier = false

def isUsers (message : Message) : Bool :=
  message.role.isUser && message.hasSubstance

def isSpoken (message : Message) : Bool :=
  !message.role.isSystem && message.hasSubstance

/-- The message that a title is taken from: the first substantial one of the user, or the first of
anyone but the system if the user has none. -/
def IsSource (messages : List Message) (message : Message) : Prop :=
  IsFirst isUsers messages message ∨
    (∀ other ∈ messages, isUsers other = false) ∧ IsFirst isSpoken messages message

private theorem find?_eq_some_iff_isFirst {property : Message → Bool} {messages : List Message}
    {message : Message} :
    messages.find? property = some message ↔ IsFirst property messages message := by
  rw [List.find?_eq_some_iff_append, IsFirst]
  simp only [Bool.not_eq_true']
  constructor
  · rintro ⟨holds, before, after, equal, earlier⟩
    exact ⟨before, after, equal, holds, earlier⟩
  · rintro ⟨before, after, equal, holds, earlier⟩
    exact ⟨holds, before, after, equal, earlier⟩

theorem source?_eq_some_iff {messages : List Message} {message : Message} :
    source? messages = some message ↔ IsSource messages message := by
  rw [source?, Option.or_eq_some_iff, IsSource, ← find?_eq_some_iff_isFirst,
    ← find?_eq_some_iff_isFirst, List.find?_eq_none]
  simp only [Bool.not_eq_true]
  rfl

/-- A title of at least one and at most `limit` words, with single spaces between them and no other
white space. -/
def IsRow (limit : Nat) (title : String) : Prop :=
  ∃ words : List String, words ≠ [] ∧ words.length ≤ limit ∧
    (∀ word ∈ words, word ≠ "" ∧ ∀ character ∈ word.toList, isBlank character = false) ∧
    title = " ".intercalate words

private theorem isRow_joinWithSpaces {limit : Nat} {words : List (List Char)} (some : words ≠ [])
    (within : words.length ≤ limit) (areWords : ∀ word ∈ words, IsWord word) :
    IsRow limit (String.ofList (Text.joinWithSpaces words)) := by
  refine ⟨words.map String.ofList, by simpa using some, by simpa using within, ?_, ?_⟩
  · intro word member
    rcases List.mem_map.mp member with ⟨characters, listed, rfl⟩
    rw [ne_eq, String.ofList_eq_empty_iff, String.toList_ofList]
    exact areWords characters listed
  · rw [← String.toList_inj, String.toList_intercalate, String.toList_ofList,
      Text.joinWithSpaces_eq_intercalate, List.map_map]
    simp

theorem IsRow.isAllBlank_eq_false {limit : Nat} {title : String} (row : IsRow limit title) :
    isAllBlank title = false := by
  rcases row with ⟨words, some, -, areWords, rfl⟩
  cases words with
  | nil => exact absurd rfl some
  | cons word rest =>
      rcases areWords word List.mem_cons_self with ⟨filled, plain⟩
      rcases List.exists_mem_of_ne_nil _ (String.toList_eq_nil_iff.not.mpr filled) with
        ⟨character, member⟩
      have begins : word.toList <+: (" ".intercalate (word :: rest)).toList := by
        have space : " ".toList = [' '] := rfl
        rw [String.toList_intercalate, space, ← Text.joinWithSpaces_eq_intercalate]
        exact Text.prefix_joinWithSpaces _ _
      rw [isAllBlank, List.all_eq_false]
      exact ⟨character, begins.subset member, ne_true_of_eq_false (plain character member)⟩

theorem ofContent_cases {settings : TitleSettings} (positive : 0 < settings.maxWords)
    (content : String) :
    plainTitle settings content.toList = [] ∧ ofContent settings content = "" ∨
      plainTitle settings content.toList ≠ [] ∧
        IsRow settings.maxWords (ofContent settings content) := by
  rcases exists_words_plainTitle positive content.toList with ⟨words, areWords, within, plain⟩
  rw [ofContent_eq, plain]
  by_cases some : words = []
  · rw [some]
    exact .inl ⟨rfl, rfl⟩
  · rcases exists_words_capitalizePhrase some areWords with ⟨written, same, areWritten, phrase⟩
    have someWritten : written ≠ [] := by
      rw [← List.length_pos_iff, same, List.length_pos_iff]
      exact some
    rw [phrase]
    exact .inr ⟨joinWithSpaces_ne_nil some areWords,
      isRow_joinWithSpaces someWritten (same.le.trans within) areWritten⟩

end Title

/-! ## Settings that are accepted -/

private theorem of_ite_eq_none {α : Type _} {condition : Prop} [Decidable condition] {value : α}
    {rest : Option α} (absent : (if condition then some value else rest) = none) :
    ¬condition ∧ rest = none := by
  split at absent
  · cases absent
  · exact ⟨‹¬condition›, absent⟩

theorem Settings.title_of_validate {settings : Settings} (valid : settings.validate = .ok ()) :
    0 < settings.title.maxWords ∧ 0 < settings.title.maxChars ∧
      isAllBlank settings.title.fallback = false := by
  have faultless : settings.fault? = none := by
    rw [Settings.validate] at valid
    split at valid
    · cases valid
    · assumption
  rw [Settings.fault?] at faultless
  rcases of_ite_eq_none faultless with ⟨-, faultless⟩
  rcases of_ite_eq_none faultless with ⟨-, faultless⟩
  rcases of_ite_eq_none faultless with ⟨-, faultless⟩
  rcases of_ite_eq_none faultless with ⟨-, faultless⟩
  rcases of_ite_eq_none faultless with ⟨-, faultless⟩
  rcases of_ite_eq_none faultless with ⟨-, faultless⟩
  rcases of_ite_eq_none faultless with ⟨limits, faultless⟩
  rcases of_ite_eq_none faultless with ⟨fallback, -⟩
  rw [Bool.or_eq_true, beq_iff_eq, beq_iff_eq, not_or] at limits
  exact ⟨Nat.pos_of_ne_zero limits.1, Nat.pos_of_ne_zero limits.2,
    eq_false_of_ne_true fallback⟩

namespace Title

theorem ofMessages_of_isSource {settings : TitleSettings} {messages : List Message}
    {message : Message} (source : IsSource messages message) :
    ofMessages settings messages =
      if (ofContent settings message.content).isEmpty then settings.fallback
      else ofContent settings message.content := by
  rw [ofMessages, source?_eq_some_iff.mpr source]

theorem ofMessages_of_no_source {settings : TitleSettings} {messages : List Message}
    (none : ∀ message, ¬IsSource messages message) :
    ofMessages settings messages = settings.fallback := by
  rw [ofMessages]
  cases found : source? messages with
  | none => rfl
  | some message => exact absurd (source?_eq_some_iff.mp found) (none message)

private theorem ofMessages_eq_fallback_or_isRow {settings : TitleSettings}
    (positive : 0 < settings.maxWords) (messages : List Message) :
    ofMessages settings messages = settings.fallback ∨
      IsRow settings.maxWords (ofMessages settings messages) := by
  by_cases given : ∃ message, IsSource messages message
  · rcases given with ⟨message, source⟩
    rw [ofMessages_of_isSource source]
    rcases ofContent_cases positive message.content with ⟨-, empty⟩ | ⟨-, row⟩
    · rw [empty]
      exact .inl rfl
    · split
      · exact .inl rfl
      · exact .inr row
  · exact .inl (ofMessages_of_no_source (not_exists.mp given))

/-- The title of a conversation is the fallback or a row of not too many words, and never blank. It
is given by the content of one message alone, if there is one to give it. -/
theorem titles_are_rows_of_words {settings : Settings} (valid : settings.validate = .ok ()) :
    (∀ messages : List Message,
      (ofMessages settings.title messages = settings.title.fallback ∨
        IsRow settings.title.maxWords (ofMessages settings.title messages)) ∧
      isAllBlank (ofMessages settings.title messages) = false) ∧
    (∀ (messages others : List Message) (message other : Message),
      IsSource messages message → IsSource others other → message.content = other.content →
        ofMessages settings.title messages = ofMessages settings.title others) ∧
    ∀ messages : List Message, (∀ message, ¬IsSource messages message) →
      ofMessages settings.title messages = settings.title.fallback := by
  rcases Settings.title_of_validate valid with ⟨positive, -, unblank⟩
  refine ⟨fun messages => ?_, ?_, fun messages => ofMessages_of_no_source⟩
  · have form := ofMessages_eq_fallback_or_isRow positive messages
    refine ⟨form, ?_⟩
    rcases form with fallback | row
    · rw [fallback]
      exact unblank
    · exact row.isAllBlank_eq_false
  · intro messages others message other source otherSource same
    rw [ofMessages_of_isSource source, ofMessages_of_isSource otherSource, same]

/-- The user has said nothing substantial in the first of the two conversations, so that its title
comes from the answer. -/
theorem titles_are_rows_of_words_beside_punctuation :
    let asked : Message := ⟨.user, "well,\u00a0 HELLO there!"⟩
    let answered : Message := ⟨.assistant, "well,\u00a0 HELLO there!"⟩
    ({} : Settings).validate = .ok () ∧
    IsSource [⟨.user, "?!"⟩, answered] answered ∧ IsSource [asked, ⟨.user, "goodbye"⟩] asked ∧
    IsRow 6 (ofMessages {} [⟨.user, "?!"⟩, answered]) ∧
    ofMessages {} [⟨.user, "?!"⟩, answered] = ofMessages {} [asked, ⟨.user, "goodbye"⟩] := by
  intro asked answered
  have faultless : ({} : Settings).fault? = none := by decide
  have valid : ({} : Settings).validate = .ok () := by rw [Settings.validate, faultless]
  have answeredFirst : source? [⟨.user, "?!"⟩, answered] = some answered := by decide
  have askedFirst : source? [asked, ⟨.user, "goodbye"⟩] = some asked := by decide
  have titled : ofMessages {} [⟨.user, "?!"⟩, answered] ≠ "New Conversation" := by decide
  rcases titles_are_rows_of_words valid with ⟨form, same, -⟩
  rw [source?_eq_some_iff] at answeredFirst askedFirst
  exact ⟨valid, answeredFirst, askedFirst, (form _).1.resolve_left titled,
    same _ _ _ _ answeredFirst askedFirst rfl⟩

end Title

end ChatMemory
