import ChatMemory.Proofs.Unicode.CaseMapping
import ChatMemory.Text.Word
import Mathlib.Data.List.Basic

/-!
What words are made of. Main statements: a word is the lower case of letters and digits of its text;
and no word holds a space, in whatever script the text is written, so words stay apart when they are
written in a row.
-/

namespace ChatMemory

namespace Text

open Unicode

private theorem isLowerCaseOf_of_mem_wordsFrom {source : Char → Prop} {pending text : List Char}
    (given : ∀ letter ∈ text, isAlphanumeric letter = true → source letter)
    (begun : IsLowerCaseOf source pending.reverse) :
    ∀ word ∈ wordsFrom pending text, IsLowerCaseOf source word := by
  induction text generalizing pending with
  | nil =>
      intro word member
      rw [wordsFrom] at member
      split at member
      · cases member
      · rwa [List.mem_singleton.mp member]
  | cons character rest induction =>
      rcases List.forall_mem_cons.mp given with ⟨characterGiven, restGiven⟩
      intro word member
      rw [wordsFrom] at member
      split at member
      · rename_i alphanumeric
        refine induction restGiven ?_ word member
        rw [List.reverse_append, List.reverse_reverse]
        exact begun.append (.letter (characterGiven alphanumeric))
      · split at member
        · exact induction restGiven begun word member
        · split at member
          · exact induction restGiven .nil word member
          · rcases List.mem_cons.mp member with ended | later
            · rwa [ended]
            · exact induction restGiven .nil word later

theorem isLowerCaseOf_of_mem_words {text word : String} (member : word ∈ words text) :
    IsLowerCaseOf (fun letter => letter ∈ text.toList ∧ isAlphanumeric letter = true)
      word.toList := by
  rw [words, List.mem_map] at member
  rcases member with ⟨characters, listed, rfl⟩
  rw [String.toList_ofList]
  exact isLowerCaseOf_of_mem_wordsFrom (fun _ inside isLetter => ⟨inside, isLetter⟩) .nil
    characters listed

theorem space_notMem_of_mem_words {text word : String} (member : word ∈ words text) :
    ' ' ∉ word.toList := by
  intro inside
  rcases (isLowerCaseOf_of_mem_words member).exists_of_mem inside with
    ⟨letter, ⟨-, alphanumeric⟩, lowered⟩
  have notSpace : letter ≠ ' ' := by
    rintro rfl
    exact absurd alphanumeric (by decide)
  exact space_notMem_toLowercase notSpace lowered

private theorem nil_notMem_wordsFrom (pending text : List Char) : [] ∉ wordsFrom pending text := by
  induction text generalizing pending with
  | nil =>
      rw [wordsFrom]
      split
      · exact List.not_mem_nil
      · simp_all
  | cons character rest induction =>
      rw [wordsFrom]
      split
      · exact induction _
      · split
        · exact induction _
        · split
          · exact induction _
          · rename_i started
            rw [List.mem_cons, not_or]
            exact ⟨fun empty => started (by simpa using empty.symm), induction _⟩

theorem empty_notMem_words (text : String) : "" ∉ words text := by
  rw [words, List.mem_map]
  rintro ⟨characters, listed, empty⟩
  rw [String.ofList_eq_empty_iff] at empty
  exact nil_notMem_wordsFrom [] text.toList (empty ▸ listed)

private theorem length_wordsFrom_le (pending text : List Char) :
    (wordsFrom pending text).length ≤ text.length + if pending.isEmpty then 0 else 1 := by
  induction text generalizing pending with
  | nil =>
      rw [wordsFrom]
      split <;> simp
  | cons character rest induction =>
      rw [wordsFrom, List.length_cons]
      have begun := induction pending
      have fresh := induction []
      rw [List.isEmpty_nil, if_pos rfl] at fresh
      split
      · have longer := induction ((toLowercase character).reverse ++ pending)
        split_ifs at longer ⊢ <;> omega
      · split
        · omega
        · split
          · omega
          · rw [List.length_cons]
            omega

theorem length_words_le (text : String) : (words text).length ≤ text.length := by
  rw [words, List.length_map, ← String.length_toList]
  exact length_wordsFrom_le [] text.toList

private theorem wordsFrom_letters {pending letters : List Char} (begun : pending ++ letters ≠ [])
    (alphanumeric : ∀ letter ∈ letters, isAlphanumeric letter = true) :
    wordsFrom pending letters = [pending.reverse ++ letters.flatMap toLowercase] := by
  induction letters generalizing pending with
  | nil =>
      rw [List.append_nil] at begun
      rw [wordsFrom, if_neg (by rwa [List.isEmpty_iff]), List.flatMap_nil, List.append_nil]
  | cons letter rest induction =>
      rcases List.forall_mem_cons.mp alphanumeric with ⟨isLetter, restLetters⟩
      have lowered := toLowercase_ne_nil letter
      rw [wordsFrom, if_pos isLetter, induction (by simp [lowered]) restLetters,
        List.flatMap_cons, List.reverse_append, List.reverse_reverse, List.append_assoc]

theorem words_letters {letters : List Char} (some : letters ≠ [])
    (alphanumeric : ∀ letter ∈ letters, isAlphanumeric letter = true) :
    words (String.ofList letters) = [String.ofList (letters.flatMap toLowercase)] := by
  have begun : [] ++ letters ≠ [] := some
  rw [words, String.toList_ofList, wordsFrom_letters begun alphanumeric]
  rfl

end Text

end ChatMemory
