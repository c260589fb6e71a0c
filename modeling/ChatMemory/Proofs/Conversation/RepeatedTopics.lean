import ChatMemory.Proofs.Conversation.TopicRanking
import ChatMemory.Proofs.Text.Blank
import ChatMemory.Proofs.Text.Words
import ChatMemory.Proofs.Unicode.Capitals
import Mathlib.Data.List.Nodup

/-!
Topics that occur twice. Phrases are told apart before they get their capitals, and different
phrases may have one and the same form with a capital. Main statement: topics are distinct just if
no two reported phrases coincide in this way; and the topics of all texts in an alphabet are
distinct just if the alphabet has no rival letters.
-/

namespace ChatMemory

open Unicode

namespace Topic

variable {settings : TopicSettings} {messages : List Message} {alphabet : Char → Prop}

/-! ## Reported phrases -/

def reported (settings : TopicSettings) (messages : List Message) : List String :=
  (((counts settings messages).mergeSort fun first second =>
    decide (second.2 ≤ first.2)).take settings.maxTopics).map (·.1)

private theorem ofMessages_eq_map_display (settings : TopicSettings) (messages : List Message) :
    ofMessages settings messages = (reported settings messages).map display := by
  rw [reported, List.map_map]
  rfl

private theorem map_counts (settings : TopicSettings) (messages : List Message) :
    (counts settings messages).map (·.1) =
      ((sources settings messages).flatMap (phrasesOf settings)).eraseDups := by
  rw [counts, foldl_tally, List.map_map]
  exact List.map_id _

private theorem exists_subperm_reported (settings : TopicSettings) (messages : List Message) :
    ∃ sorted : List String, (reported settings messages).Sublist sorted ∧
      sorted.Perm ((sources settings messages).flatMap (phrasesOf settings)).eraseDups := by
  refine ⟨_, (List.take_sublist settings.maxTopics _).map _, ?_⟩
  rw [← map_counts]
  exact (List.mergeSort_perm _ _).map _

private theorem nodup_reported (settings : TopicSettings) (messages : List Message) :
    (reported settings messages).Nodup := by
  rcases exists_subperm_reported settings messages with ⟨sorted, part, reordered⟩
  exact (reordered.nodup_iff.mpr (nodup_eraseDups _)).sublist part

private theorem exists_raises_of_mem_reported {phrase : String}
    (member : phrase ∈ reported settings messages) :
    ∃ message ∈ messages, Raises settings message phrase := by
  rcases exists_subperm_reported settings messages with ⟨sorted, part, reordered⟩
  have listed := reordered.mem_iff.mp (part.subset member)
  rw [List.mem_eraseDups, List.mem_flatMap] at listed
  rcases listed with ⟨message, looked, raised⟩
  have given := (List.mem_filter.mp (List.mem_of_mem_take looked)).1
  exact ⟨message, List.mem_reverse.mp given, mem_phrasesOf.mp raised⟩

/-! ## How phrases are written -/

def IsLetterOf (alphabet : Char → Prop) (character : Char) : Prop :=
  alphabet character ∧ isAlphanumeric character = true

def IsLetterOrSpaceOf (alphabet : Char → Prop) (character : Char) : Prop :=
  character = ' ' ∨ IsLetterOf alphabet character

/-- A letter of the alphabet and more letters and spaces after it, all in lower case. -/
def IsWrittenIn (alphabet : Char → Prop) (text : List Char) : Prop :=
  ∃ letter rest, IsLetterOf alphabet letter ∧ IsLowerCaseOf (IsLetterOrSpaceOf alphabet) rest ∧
    text = toLowercase letter ++ rest

private theorem IsWrittenIn.lowerCase {text : List Char} (written : IsWrittenIn alphabet text) :
    IsLowerCaseOf IsWordCharacter text := by
  rcases written with ⟨letter, rest, isLetter, restLower, rfl⟩
  refine .append (.letter (.inr isLetter.2)) (restLower.imp ?_)
  exact fun character => Or.imp_right And.right

private theorem Raises.exists_words {message : Message} {phrase : String}
    (raises : Raises settings message phrase) :
    ∃ words : List String, words ≠ [] ∧ words ⊆ Text.words message.content ∧
      phrase = " ".intercalate words := by
  rcases raises with ⟨place, ⟨cue, rest, found, -, some, named⟩ | ⟨-, found, -⟩⟩
  · refine ⟨phraseAfterCue settings rest, some, fun word member => ?_, named⟩
    have inRest := (List.takeWhile_sublist _).subset
      (List.mem_of_mem_take (List.mem_filter.mp member).1)
    have inRow : word ∈ (Text.words message.content).drop place := by
      rw [found]
      exact List.mem_cons_of_mem cue inRest
    exact List.mem_of_mem_drop inRow
  · refine ⟨[phrase], List.cons_ne_nil _ _, ?_, String.intercalate_singleton.symm⟩
    exact List.cons_subset.mpr ⟨List.mem_of_getElem? found, List.nil_subset _⟩

private theorem toList_intercalate_space (words : List String) :
    (" ".intercalate words).toList = Text.joinWithSpaces (words.map String.toList) := by
  rw [String.toList_intercalate, Text.joinWithSpaces_eq_intercalate]
  rfl

private theorem isLowerCaseOf_spaced {words : List (List Char)}
    (lower : ∀ word ∈ words, IsLowerCaseOf (IsLetterOf alphabet) word) :
    IsLowerCaseOf (IsLetterOrSpaceOf alphabet) (words.flatMap (' ' :: ·)) := by
  induction words with
  | nil => exact .nil
  | cons word rest induction =>
      rcases List.forall_mem_cons.mp lower with ⟨wordLower, restLower⟩
      have space : IsLowerCaseOf (IsLetterOrSpaceOf alphabet) (toLowercase ' ') :=
        .letter (Or.inl rfl)
      exact (space.append (wordLower.imp fun _ => .inr)).append (induction restLower)

private theorem Raises.isWrittenIn {message : Message} {phrase : String}
    (within : ∀ character ∈ message.content.toList, alphabet character)
    (raises : Raises settings message phrase) : IsWrittenIn alphabet phrase.toList := by
  have wordLower : ∀ word ∈ Text.words message.content,
      IsLowerCaseOf (IsLetterOf alphabet) word.toList := fun word member =>
    (Text.isLowerCaseOf_of_mem_words member).imp fun letter given =>
      ⟨within letter given.1, given.2⟩
  rcases raises.exists_words with ⟨words, some, listed, rfl⟩
  rcases List.exists_cons_of_ne_nil some with ⟨first, others, rfl⟩
  rcases List.cons_subset.mp listed with ⟨firstListed, othersListed⟩
  have filled : first.toList ≠ [] := by
    rw [ne_eq, String.toList_eq_nil_iff]
    exact ne_of_mem_of_not_mem firstListed (Text.empty_notMem_words _)
  rcases (wordLower first firstListed).exists_append filled with
    ⟨letter, rest, isLetter, restLower, lowered⟩
  have othersLower : ∀ word ∈ others.map String.toList,
      IsLowerCaseOf (IsLetterOf alphabet) word :=
    List.forall_mem_map.mpr fun word member => wordLower word (othersListed member)
  rw [toList_intercalate_space, List.map_cons, Text.joinWithSpaces_cons, lowered,
    List.append_assoc]
  exact ⟨letter, _, isLetter,
    (restLower.imp fun _ => .inr).append (isLowerCaseOf_spaced othersLower), rfl⟩

private theorem isWrittenIn_of_mem_reported
    (within : ∀ message ∈ messages, ∀ character ∈ message.content.toList, alphabet character)
    {phrase : String} (member : phrase ∈ reported settings messages) :
    IsWrittenIn alphabet phrase.toList := by
  rcases exists_raises_of_mem_reported member with ⟨message, given, raises⟩
  exact raises.isWrittenIn (within message given)

/-! ## Phrases that coincide -/

private theorem display_eq_iff {first second : String} :
    display first = display second ↔ capitalize first.toList = capitalize second.toList := by
  rw [display, display, String.ofList_inj]

private theorem nodup_ofMessages_iff : (ofMessages settings messages).Nodup ↔
    ∀ first ∈ reported settings messages, ∀ second ∈ reported settings messages,
      ¬Coincide first.toList second.toList := by
  rw [ofMessages_eq_map_display, List.nodup_map_iff_inj_on (nodup_reported settings messages)]
  have lower : ∀ phrase ∈ reported settings messages,
      IsLowerCaseOf IsWordCharacter phrase.toList := by
    intro phrase member
    have written : IsWrittenIn (fun _ => True) phrase.toList :=
      isWrittenIn_of_mem_reported (fun _ _ _ _ => trivial) member
    exact written.lowerCase
  constructor
  · intro injective first firstReported second secondReported coincide
    have same := injective first firstReported second secondReported
      (display_eq_iff.mpr coincide.capitalize_eq)
    exact coincide.ne (congrArg String.toList same)
  · intro apart first firstReported second secondReported same
    refine Decidable.byContradiction fun different => ?_
    rcases coincide_of_capitalize_eq (lower first firstReported) (lower second secondReported)
      (String.toList_inj.not.mpr different) (display_eq_iff.mp same) with forth | back
    · exact apart first firstReported second secondReported forth
    · exact apart second secondReported first firstReported back

/-! ## Alphabets -/

def Writes (alphabet : Char → Prop) (lowered : Char) : Prop :=
  ∃ letter, IsLetterOf alphabet letter ∧ toLowercase letter = [lowered]

/-- What the alphabet writes in lower case has different characters with one capital, or those that
the capital of `ẚ` consists of. -/
inductive HasRivals (alphabet : Char → Prop) : Prop
  | letters {first second : Char} (firstWritten : Writes alphabet first)
      (secondWritten : Writes alphabet second) (different : first ≠ second)
      (capital : toUppercase first = toUppercase second)
  | halfRing (whole : Writes alphabet 'ẚ') (letter : Writes alphabet 'a')
      (ring : Writes alphabet 'ʾ')

theorem IsWrittenIn.cons {lowered : Char} {rest : List Char}
    (written : IsWrittenIn alphabet (lowered :: rest)) :
    Writes alphabet lowered ∧ IsLowerCaseOf (IsLetterOrSpaceOf alphabet) rest ∨
      lowered = 'i' ∧ ∃ later, rest = '\u0307' :: later := by
  rcases written with ⟨letter, later, isLetter, lower, same⟩
  rcases cons_eq_toLowercase_append same with ⟨single, rfl⟩ | ⟨dotted, remains⟩
  · exact .inl ⟨⟨letter, isLetter, single⟩, lower⟩
  · exact .inr ⟨dotted, later, remains⟩

private theorem writes_of_isLowerCaseOf {lowered : Char} {rest : List Char}
    (notSpace : lowered ≠ ' ') (undotted : lowered ≠ 'i')
    (lower : IsLowerCaseOf (IsLetterOrSpaceOf alphabet) (lowered :: rest)) :
    Writes alphabet lowered := by
  rcases lower.exists_append (List.cons_ne_nil _ _) with ⟨letter, later, origin, -, same⟩
  have single := ((cons_eq_toLowercase_append same).resolve_right fun dotted =>
    undotted dotted.1).1
  refine ⟨letter, origin.resolve_left ?_, single⟩
  rintro rfl
  exact notSpace (List.singleton_inj.mp single).symm

theorem Writes.notMem_unloweredPoints {lowered : Char} (writes : Writes alphabet lowered) :
    lowered.toNat ∉ unloweredPoints := by
  rcases writes with ⟨letter, isLetter, lower⟩
  exact Unicode.notMem_unloweredPoints (.inr isLetter.2) lower

private theorem not_isLowerCaseOf_dot {rest : List Char} :
    ¬IsLowerCaseOf (IsLetterOrSpaceOf alphabet) ('\u0307' :: rest) := by
  intro lower
  have writes := writes_of_isLowerCaseOf (by decide) (by decide) lower
  exact writes.notMem_unloweredPoints List.mem_cons_self

private theorem hasRivals_of_coincide {first second : List Char}
    (firstWritten : IsWrittenIn alphabet first)
    (secondWritten : IsWrittenIn alphabet second) (coincide : Coincide first second) :
    HasRivals alphabet := by
  cases coincide with
  | letter rest different capital =>
      rcases firstWritten.cons with ⟨firstWrites, firstLower⟩ | ⟨firstDotted, later, dot⟩
      · rcases secondWritten.cons with ⟨secondWrites, -⟩ | ⟨-, later, dot⟩
        · exact .letters firstWrites secondWrites different capital
        · exact absurd (dot ▸ firstLower) not_isLowerCaseOf_dot
      · rcases secondWritten.cons with ⟨-, secondLower⟩ | ⟨secondDotted, -⟩
        · exact absurd (dot ▸ secondLower) not_isLowerCaseOf_dot
        · exact absurd (firstDotted.trans secondDotted.symm) different
  | halfRing rest =>
      rcases firstWritten.cons with ⟨whole, -⟩ | ⟨dotted, -⟩
      · rcases secondWritten.cons with ⟨letter, lower⟩ | ⟨dotted, -⟩
        · exact .halfRing whole letter (writes_of_isLowerCaseOf (by decide) (by decide) lower)
        · exact absurd dotted (by decide)
      · exact absurd dotted (by decide)

/-! ## Texts with rivals -/

private theorem exists_letters {lowered : List Char}
    (written : ∀ character ∈ lowered, Writes alphabet character) :
    ∃ letters : List Char, (∀ letter ∈ letters, IsLetterOf alphabet letter) ∧
      letters.flatMap toLowercase = lowered := by
  induction lowered with
  | nil => exact ⟨[], fun _ inside => absurd inside List.not_mem_nil, rfl⟩
  | cons character rest induction =>
      rcases List.forall_mem_cons.mp written with ⟨⟨letter, isLetter, lower⟩, restWritten⟩
      rcases induction restWritten with ⟨letters, areLetters, same⟩
      refine ⟨letter :: letters, List.forall_mem_cons.mpr ⟨isLetter, areLetters⟩, ?_⟩
      rw [List.flatMap_cons, lower, same]
      rfl

private theorem common_words_ascii : ∀ word ∈ Text.stopWords ++ questionCues ++ subjectCues,
    (word.toList.all fun character => Nat.blt character.toNat 0x80) = true := by
  decide

private theorem isSignificant_of_notAscii {word : List Char} {character : Char}
    (long : 3 ≤ word.length) (member : character ∈ word) (notAscii : 0x80 ≤ character.toNat) :
    isSignificant {} (String.ofList word) = true := by
  have uncommon : String.ofList word ∉ Text.stopWords ++ questionCues ++ subjectCues := by
    intro common
    have ascii := List.all_eq_true.mp (common_words_ascii _ common) character
      (by rwa [String.toList_ofList])
    rw [Nat.blt_eq] at ascii
    omega
  have letters : word.all Char.isDigit = false := by
    rw [List.all_eq_false]
    refine ⟨character, member, fun digit => ?_⟩
    have small : character.toNat ≤ 0x39 := (Char.isDigit_iff_toNat.mp digit).2
    omega
  simp only [List.mem_append, not_or] at uncommon
  simp [isSignificant, Text.isStopWord, isCue, uncommon, letters, long]

private theorem phrasesOf_letters {letters lowered : List Char} (some : letters ≠ [])
    (alphanumeric : ∀ letter ∈ letters, isAlphanumeric letter = true)
    (lower : letters.flatMap toLowercase = lowered)
    (significant : isSignificant {} (String.ofList lowered) = true) :
    phrasesOf {} ⟨.user, String.ofList letters⟩ = [String.ofList lowered] := by
  rw [phrasesOf, Text.words_letters some alphanumeric, lower]
  simp [cuedPhrases, phraseAfterCue, significant, List.eraseDups_cons]

private theorem reported_pair {first second : Message} {firstPhrase secondPhrase : String}
    (firstLooked : (!first.role.isSystem && first.hasSubstance) = true)
    (secondLooked : (!second.role.isSystem && second.hasSubstance) = true)
    (firstRaises : phrasesOf {} first = [firstPhrase])
    (secondRaises : phrasesOf {} second = [secondPhrase]) (different : firstPhrase ≠ secondPhrase) :
    reported {} [first, second] = [secondPhrase, firstPhrase] := by
  have looked : sources {} [first, second] = [second, first] := by
    simp [sources, List.filter, firstLooked, secondLooked]
  have counted : counts {} [first, second] = [(secondPhrase, 1), (firstPhrase, 1)] := by
    simp [counts, looked, firstRaises, secondRaises, tally, different.symm]
  rw [reported, counted, List.mergeSort_of_pairwise (by simp)]
  rfl

private theorem exists_raising {lowered : List Char}
    (written : ∀ character ∈ lowered, Writes alphabet character) (some : lowered ≠ [])
    (significant : isSignificant {} (String.ofList lowered) = true) : ∃ message : Message,
      (∀ character ∈ message.content.toList, alphabet character) ∧
      (!message.role.isSystem && message.hasSubstance) = true ∧
      phrasesOf {} message = [String.ofList lowered] := by
  rcases exists_letters written with ⟨letters, areLetters, lower⟩
  have filled : letters ≠ [] := by
    rintro rfl
    exact some lower.symm
  refine ⟨⟨.user, String.ofList letters⟩, ?_, ?_, ?_⟩
  · rw [String.toList_ofList]
    exact fun letter member => (areLetters letter member).1
  · rcases List.exists_mem_of_ne_nil letters filled with ⟨letter, member⟩
    simpa [Role.isSystem, Message.hasSubstance, Text.hasSubstance] using
      ⟨letter, member, (areLetters letter member).2⟩
  · exact phrasesOf_letters filled (fun letter member => (areLetters letter member).2) lower
      significant

private theorem exists_not_nodup_of_coincide {first second : List Char}
    (coincide : Coincide first second)
    (firstWritten : ∀ character ∈ first, Writes alphabet character)
    (secondWritten : ∀ character ∈ second, Writes alphabet character)
    (firstSignificant : isSignificant {} (String.ofList first) = true)
    (secondSignificant : isSignificant {} (String.ofList second) = true) :
    ∃ messages : List Message,
      (∀ message ∈ messages, ∀ character ∈ message.content.toList, alphabet character) ∧
      ¬(ofMessages {} messages).Nodup := by
  have firstSome : first ≠ [] := by cases coincide <;> exact List.cons_ne_nil _ _
  have secondSome : second ≠ [] := by cases coincide <;> exact List.cons_ne_nil _ _
  rcases exists_raising firstWritten firstSome firstSignificant with
    ⟨asked, within, looked, raises⟩
  rcases exists_raising secondWritten secondSome secondSignificant with
    ⟨other, otherWithin, otherLooked, otherRaises⟩
  have both := reported_pair looked otherLooked raises otherRaises
    (String.ofList_inj.not.mpr coincide.ne)
  refine ⟨[asked, other], ?_, fun distinct => ?_⟩
  · exact List.forall_mem_cons.mpr ⟨within, List.forall_mem_singleton.mpr otherWithin⟩
  · refine nodup_ofMessages_iff.mp distinct (String.ofList first) (by simp [both])
      (String.ofList second) (by simp [both]) ?_
    rwa [String.toList_ofList, String.toList_ofList]

private theorem HasRivals.exists_not_nodup (rivals : HasRivals alphabet) : ∃ messages : List
    Message,
    (∀ message ∈ messages, ∀ character ∈ message.content.toList, alphabet character) ∧
    ¬(ofMessages {} messages).Nodup := by
  cases rivals with
  | @letters first second firstWritten secondWritten different capital =>
      -- One of the two is not in ASCII. Written after either, it makes two significant words.
      have common : ∃ common, Writes alphabet common ∧ 0x80 ≤ common.toNat := by
        rcases notAscii_of_toUppercase_eq firstWritten.notMem_unloweredPoints
          secondWritten.notMem_unloweredPoints different capital with notAscii | notAscii
        · exact ⟨first, firstWritten, notAscii⟩
        · exact ⟨second, secondWritten, notAscii⟩
      rcases common with ⟨common, written, notAscii⟩
      exact exists_not_nodup_of_coincide (.letter [common, common] different capital)
        (by simp [firstWritten, written]) (by simp [secondWritten, written])
        (isSignificant_of_notAscii (Nat.le_refl 3) (by simp) notAscii)
        (isSignificant_of_notAscii (Nat.le_refl 3) (by simp) notAscii)
  | halfRing whole letter ring =>
      have notAscii : 0x80 ≤ 'ẚ'.toNat := by decide
      exact exists_not_nodup_of_coincide (.halfRing ['ẚ', 'ẚ']) (by simp [whole])
        (by simp [whole, letter, ring])
        (isSignificant_of_notAscii (by decide) (by simp) notAscii)
        (isSignificant_of_notAscii (by decide) (by simp) notAscii)

private theorem nodup_ofMessages_of_not_hasRivals (unrivalled : ¬HasRivals alphabet)
    (within : ∀ message ∈ messages, ∀ character ∈ message.content.toList, alphabet character) :
    (ofMessages settings messages).Nodup := by
  rw [nodup_ofMessages_iff]
  intro first firstReported second secondReported coincide
  exact unrivalled (hasRivals_of_coincide (isWrittenIn_of_mem_reported within firstReported)
    (isWrittenIn_of_mem_reported within secondReported) coincide)

private theorem toLowercase_ascii : ∀ point < 0x80,
    ((toLowercase (Char.ofNat point)).all fun lowered => Nat.blt lowered.toNat 0x80) = true := by
  decide

private theorem not_hasRivals_ascii : ¬HasRivals (·.toNat < 0x80) := by
  have ascii : ∀ lowered, Writes (·.toNat < 0x80) lowered → lowered.toNat < 0x80 := by
    rintro lowered ⟨letter, ⟨within, -⟩, lower⟩
    have stays := toLowercase_ascii letter.toNat within
    rw [Char.ofNat_toNat, lower, List.all_eq_true] at stays
    exact Nat.blt_eq.mp (stays lowered List.mem_cons_self)
  rintro (⟨firstWritten, secondWritten, different, capital⟩ | ⟨whole, -, -⟩)
  · rcases notAscii_of_toUppercase_eq firstWritten.notMem_unloweredPoints
      secondWritten.notMem_unloweredPoints different capital with notAscii | notAscii
    · exact Nat.not_lt.mpr notAscii (ascii _ firstWritten)
    · exact Nat.not_lt.mpr notAscii (ascii _ secondWritten)
  · exact absurd (ascii _ whole) (by decide)

/-- Texts in ASCII have distinct topics. -/
theorem nodup_ofMessages_of_ascii
    (within : ∀ message ∈ messages, ∀ character ∈ message.content.toList,
      character.toNat < 0x80) : (ofMessages settings messages).Nodup :=
  nodup_ofMessages_of_not_hasRivals not_hasRivals_ascii within

/-- Topics are distinct just if no two reported phrases coincide with their capitals. Those of all
texts in an alphabet are distinct just if the alphabet has no rivals. -/
theorem topics_distinct_iff (settings : TopicSettings) (messages : List Message) :
    ((ofMessages settings messages).Nodup ↔
      ∀ first ∈ reported settings messages, ∀ second ∈ reported settings messages,
        ¬Coincide first.toList second.toList) ∧
    ∀ alphabet : Char → Prop,
      (∀ (settings : TopicSettings) (messages : List Message),
        (∀ message ∈ messages, ∀ character ∈ message.content.toList, alphabet character) →
        (ofMessages settings messages).Nodup) ↔ ¬HasRivals alphabet := by
  refine ⟨nodup_ofMessages_iff, fun alphabet => ⟨fun distinct rivals => ?_, ?_⟩⟩
  · rcases rivals.exists_not_nodup with ⟨messages, within, repeated⟩
    exact repeated (distinct {} messages within)
  · intro unrivalled settings messages within
    exact nodup_ofMessages_of_not_hasRivals unrivalled within

/-- The two words differ in lower case, where one begins with `ı` and the other one with `i`. -/
theorem topics_may_occur_twice :
    let asked : Message := ⟨.user, "ırak irak"⟩
    ofMessages {} [asked] = ["Irak", "Irak"] ∧ ¬(ofMessages {} [asked]).Nodup := by
  intro asked
  have counted : counts {} [asked] = [("ırak", 1), ("irak", 1)] := by
    decide
  have topics : ofMessages {} [asked] = ["Irak", "Irak"] := by
    rw [ofMessages, counted, List.mergeSort_of_pairwise (by decide)]
    decide
  rw [topics]
  exact ⟨rfl, by decide⟩

end Topic

end ChatMemory
