import ChatMemory.Text.Word
import Std.Data.ExtTreeSet

/-!
Terms are the words that say what a text is about: words of two characters or more that are no stop
words.
-/

namespace ChatMemory.Text

abbrev TermSet := Std.ExtTreeSet String

def stopWords : List String :=
  ["a", "about", "am", "an", "and", "are", "as", "at", "be", "been", "being", "but", "by",
    "can", "could", "did", "do", "does", "for", "from", "had", "has", "have", "he", "her",
    "him", "his", "i", "if", "in", "is", "it", "its", "me", "might", "must", "my", "of", "on",
    "or", "our", "shall", "she", "should", "so", "that", "the", "their", "them", "these",
    "they", "this", "those", "to", "us", "was", "we", "were", "will", "with", "would", "you",
    "your"]

def isStopWord (word : String) : Bool :=
  stopWords.contains word

def isTerm (word : String) : Bool :=
  decide (2 ≤ word.length) && !isStopWord word

def terms (text : String) : List String :=
  (words text).filter isTerm

def termSet (text : String) : TermSet :=
  .ofList (terms text)

example : terms "What is Paris?" = ["what", "paris"] := by decide

@[simp] theorem mem_terms {text word : String} :
    word ∈ terms text ↔ word ∈ words text ∧ isTerm word = true := by
  simp [terms]

@[simp] theorem mem_termSet {text word : String} :
    word ∈ termSet text ↔ word ∈ terms text := by
  simp [termSet, Std.ExtTreeSet.mem_ofList]

def fragmentLength : Nat := 3

def isFragment (term : String) : Bool :=
  decide (fragmentLength ≤ term.length)

end ChatMemory.Text
