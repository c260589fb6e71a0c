import ChatMemory.Proofs.Conversation.TitleWords

/-!
Conversations without a title of their own. Main statement: besides the conversations in which
nothing substantial is said, these are just the ones whose title would be taken from a word that
begins with too many characters other than letters and digits.
-/

namespace ChatMemory

open Unicode

namespace Title

def firstWord? (content : List Char) : Option (List Char) :=
  (blankFreePieces (content.dropWhile fun character =>
    leadingMarks.contains character || isBlank character)).find? (·.any isAlphanumeric)

theorem isAlphanumeric_of_mem_leadingMarks :
    ∀ mark ∈ leadingMarks, isAlphanumeric mark = false := by
  have plain : leadingMarks.all (!isAlphanumeric ·) = true := by decide
  simpa only [List.all_eq_true, Bool.not_eq_true'] using plain

private theorem any_isAlphanumeric_dropWhile (content : List Char) :
    (content.dropWhile fun character =>
      leadingMarks.contains character || isBlank character).any isAlphanumeric =
        content.any isAlphanumeric := by
  have dropped : (content.takeWhile fun character =>
      leadingMarks.contains character || isBlank character).any isAlphanumeric = false := by
    rw [List.any_eq_false]
    intro character member
    have passed := List.mem_takeWhile_imp member
    rw [Bool.or_eq_true, List.contains_iff_mem] at passed
    rw [Bool.not_eq_true]
    rcases passed with mark | blank
    · exact isAlphanumeric_of_mem_leadingMarks character mark
    · rw [Bool.eq_false_iff]
      intro alphanumeric
      rw [isBlank_of_isAlphanumeric alphanumeric] at blank
      exact Bool.noConfusion blank
  conv_rhs => rw [← List.takeWhile_append_dropWhile
    (p := fun character => leadingMarks.contains character || isBlank character) (l := content)]
  rw [List.any_append, dropped, Bool.false_or]

private theorem exists_firstWord? {content : List Char}
    (substantial : content.any isAlphanumeric = true) :
    ∃ word, firstWord? content = some word := by
  rw [← any_isAlphanumeric_dropWhile] at substantial
  rw [← Option.isSome_iff_exists, firstWord?, List.find?_isSome]
  rcases List.any_eq_true.mp substantial with ⟨character, member, alphanumeric⟩
  have unblank := isBlank_of_isAlphanumeric alphanumeric
  have kept : character ∈ List.filter (!isBlank ·) _ :=
    List.mem_filter.mpr ⟨member, by rw [unblank]; rfl⟩
  rw [← flatten_blankFreePieces] at kept
  rcases List.mem_flatten.mp kept with ⟨piece, listed, inside⟩
  exact ⟨piece, listed, List.any_eq_true.mpr ⟨character, inside, alphanumeric⟩⟩

/-- The first word begins with as many characters other than letters and digits as a title may
have. -/
def IsCutBeforeLetters (limit : Nat) (content : List Char) : Prop :=
  ∃ word, firstWord? content = some word ∧
    ∀ character ∈ word.take limit, isAlphanumeric character = false

private theorem exists_sourceWords_eq_cons {settings : TitleSettings}
    (positive : 0 < settings.maxWords)
    {content first : List Char} (found : firstWord? content = some first) :
    ∃ rest, sourceWords settings content = first :: rest := by
  rw [firstWord?, ← List.head?_filter, List.head?_eq_some_iff] at found
  rcases found with ⟨rest, filtered⟩
  obtain ⟨more, size⟩ := Nat.exists_eq_add_one_of_ne_zero (Nat.ne_of_gt positive)
  refine ⟨rest.take more, ?_⟩
  rw [sourceWords, filtered, size, List.take_succ_cons]

/-- Nothing is left of a title just if it is cut inside the first word, before the first letter or
digit. -/
theorem plainTitle_eq_nil_iff {settings : TitleSettings} (positive : 0 < settings.maxWords)
    {content first : List Char} (found : firstWord? content = some first) :
    plainTitle settings content = [] ↔
      ∀ character ∈ first.take settings.maxChars, isAlphanumeric character = false := by
  rcases exists_sourceWords_eq_cons positive found with ⟨rest, source⟩
  have firstSource : first ∈ sourceWords settings content := source ▸ List.mem_cons_self
  rcases of_mem_sourceWords firstSource with ⟨firstWord, substantial⟩
  rw [plainTitle, source]
  rcases addWords_cons firstWord.1 rest with ⟨-, cut⟩ | ⟨within, added, -, joined, -⟩
  · rw [cut, trimEnd_eq_nil_iff]
  · rw [joined, List.take_of_length_le within]
    rcases List.any_eq_true.mp substantial with ⟨character, member, alphanumeric⟩
    have kept : (Text.joinWithSpaces (first :: added)).any isAlphanumeric = true :=
      List.any_eq_true.mpr ⟨character, (Text.prefix_joinWithSpaces first added).subset member,
        alphanumeric⟩
    constructor
    · intro none
      exact absurd none (trimEnd_ne_nil kept)
    · intro plain
      rw [plain character member] at alphanumeric
      exact Bool.noConfusion alphanumeric

private theorem ofContent_eq_empty_iff {settings : TitleSettings} (positive : 0 < settings.maxWords)
    {content : String} (substantial : Text.hasSubstance content = true) :
    ofContent settings content = "" ↔ IsCutBeforeLetters settings.maxChars content.toList := by
  rcases exists_firstWord? substantial with ⟨word, found⟩
  have plain := plainTitle_eq_nil_iff positive found
  have cut : IsCutBeforeLetters settings.maxChars content.toList ↔
      plainTitle settings content.toList = [] := by
    rw [plain, IsCutBeforeLetters, found]
    simp
  rw [cut]
  rcases ofContent_cases positive content with ⟨none, empty⟩ | ⟨some, row⟩
  · exact ⟨fun _ => none, fun _ => empty⟩
  · refine ⟨fun empty => ?_, fun none => absurd none some⟩
    have blank := row.isAllBlank_eq_false
    rw [empty] at blank
    exact Bool.noConfusion blank

/-! ## Conversations -/

theorem IsSource.hasSubstance {messages : List Message} {message : Message}
    (source : IsSource messages message) : message.hasSubstance = true := by
  rcases source with ⟨-, -, -, holds, -⟩ | ⟨-, -, -, -, holds, -⟩
  · exact (Bool.and_eq_true_iff.mp holds).2
  · exact (Bool.and_eq_true_iff.mp holds).2

theorem IsSource.mem {messages : List Message} {message : Message}
    (source : IsSource messages message) : message ∈ messages := by
  rcases source with ⟨_, _, rfl, -⟩ | ⟨-, _, _, rfl, -⟩
  · exact List.mem_append_cons_self
  · exact List.mem_append_cons_self

private theorem isSpoken_of_isUsers {message : Message} (users : isUsers message = true) :
    isSpoken message = true := by
  rcases message with ⟨role, content⟩
  cases role with
  | user => exact users
  | system => cases users
  | assistant => cases users
  | other tag => cases users

private theorem exists_isSource_iff {messages : List Message} :
    (∃ message, IsSource messages message) ↔
      ∃ message ∈ messages, message.hasSubstance = true ∧ message.role.isSystem = false := by
  have spoken : (source? messages).isSome ↔ ∃ message ∈ messages, isSpoken message = true := by
    rw [source?, Option.isSome_or, Bool.or_eq_true, List.find?_isSome, List.find?_isSome]
    constructor
    · rintro (⟨message, member, users⟩ | found)
      · exact ⟨message, member, isSpoken_of_isUsers users⟩
      · exact found
    · exact .inr
  rw [Option.isSome_iff_exists] at spoken
  simp only [source?_eq_some_iff, isSpoken, Bool.and_eq_true, Bool.not_eq_true'] at spoken
  rw [spoken]
  simp only [And.comm]

def FallsBack (settings : TitleSettings) (messages : List Message) : Prop :=
  ∀ fallback, ofMessages { settings with fallback } messages = fallback

private theorem fallsBack_iff_of_isSource {settings : TitleSettings} {messages : List Message}
    {message : Message} (source : IsSource messages message) :
    FallsBack settings messages ↔ ofContent settings message.content = "" := by
  constructor
  · intro falls
    have same := falls ""
    rw [ofMessages_of_isSource source] at same
    split at same
    · rename_i empty
      exact String.isEmpty_iff.mp empty
    · exact same
  · intro empty fallback
    have sameContent : ofContent { settings with fallback } message.content = "" := empty
    rw [ofMessages_of_isSource source, sameContent]
    rfl

/-- A conversation goes without a title of its own if nobody but the system says anything
substantial, and otherwise just if the message that gives the title begins with a word that is cut
before its first letter or digit. -/
theorem falls_back_iff {settings : Settings} (valid : settings.validate = .ok ())
    (messages : List Message) :
    ((∃ message, IsSource messages message) ↔
      ∃ message ∈ messages, message.hasSubstance = true ∧ message.role.isSystem = false) ∧
    (∀ message, IsSource messages message →
      (ofContent settings.title message.content = "" ↔
        IsCutBeforeLetters settings.title.maxChars message.content.toList)) ∧
    (FallsBack settings.title messages ↔
      (∀ message ∈ messages, message.hasSubstance = true → message.role.isSystem = true) ∨
      ∃ message, IsSource messages message ∧
        IsCutBeforeLetters settings.title.maxChars message.content.toList) := by
  have positive := (Settings.title_of_validate valid).1
  have cut {message : Message} (source : IsSource messages message) :
      ofContent settings.title message.content = "" ↔
        IsCutBeforeLetters settings.title.maxChars message.content.toList :=
    ofContent_eq_empty_iff positive source.hasSubstance
  refine ⟨exists_isSource_iff, fun message => cut, ?_⟩
  by_cases given : ∃ message, IsSource messages message
  · have spoken := exists_isSource_iff.mp given
    rcases given with ⟨message, source⟩
    rw [fallsBack_iff_of_isSource source, cut source]
    constructor
    · exact fun isCut => .inr ⟨message, source, isCut⟩
    · rintro (silent | ⟨other, otherSource, isCut⟩)
      · rcases spoken with ⟨other, member, substantial, notSystem⟩
        rw [silent other member substantial] at notSystem
        cases notSystem
      · have same := source?_eq_some_iff.mpr otherSource
        rw [source?_eq_some_iff.mpr source] at same
        cases same
        exact isCut
  · have silent : ∀ message ∈ messages, message.hasSubstance = true →
        message.role.isSystem = true := by
      intro message member substantial
      refine eq_true_of_ne_false fun notSystem => ?_
      exact given (exists_isSource_iff.mpr ⟨message, member, substantial, notSystem⟩)
    exact ⟨fun _ => .inl silent, fun _ fallback => ofMessages_of_no_source (not_exists.mp given)⟩

/-- The limit leaves one letter of the first word. In the second conversation only the system
speaks. -/
theorem falls_back_iff_beside_brackets :
    let settings : Settings := { title := { maxChars := 2 } }
    let asked : Message := ⟨.user, "> (what) is this"⟩
    settings.validate = .ok () ∧ IsSource [asked] asked ∧
    ofContent settings.title asked.content ≠ "" ∧ ¬FallsBack settings.title [asked] ∧
    FallsBack settings.title [⟨.system, "Be terse"⟩] := by
  intro settings asked
  have faultless : settings.fault? = none := by decide
  have valid : settings.validate = .ok () := by rw [Settings.validate, faultless]
  have first : source? [asked] = some asked := by decide
  have word : firstWord? asked.content.toList = some "(what)".toList := by decide
  have letter : isAlphanumeric 'w' = true := by decide
  rw [source?_eq_some_iff] at first
  have uncut : ¬IsCutBeforeLetters 2 asked.content.toList := by
    rintro ⟨cut, found, plain⟩
    rw [word] at found
    cases found
    have none := plain 'w' (by decide)
    rw [letter] at none
    cases none
  have titled := (falls_back_iff valid [asked]).2.1 asked first
  refine ⟨valid, first, titled.not.mpr uncut, ?_, ?_⟩
  · exact fun falls => titled.not.mpr uncut ((fallsBack_iff_of_isSource first).mp falls)
  · refine (falls_back_iff valid _).2.2.mpr (.inl fun message member _ => ?_)
    rw [List.mem_singleton.mp member]
    rfl

/-- A row of sixty signs is all that the limit leaves of the only word. -/
theorem title_may_be_cut_before_letters :
    let asked : Message :=
      ⟨.user, "============================================================notes"⟩
    ({} : Settings).validate = .ok () ∧ asked.hasSubstance = true ∧
    asked.role.isSystem = false ∧ IsSource [asked] asked ∧ ofContent {} asked.content = "" ∧
    ofMessages {} [asked] = "New Conversation" := by
  intro asked
  have faultless : ({} : Settings).fault? = none := by decide
  have first : source? [asked] = some asked := by decide
  have empty : ofContent {} asked.content = "" := by decide
  rw [source?_eq_some_iff] at first
  refine ⟨by rw [Settings.validate, faultless], first.hasSubstance, rfl, first, empty, ?_⟩
  rw [ofMessages_of_isSource first, empty]
  rfl

end Title

end ChatMemory
