import ChatMemory.Relevance.Analysis
import ChatMemory.Text.Trigram
import Std.Data.ExtTreeMap

/-!
How many documents there are and how many of them hold each term. Documents can be added and taken
away one by one.
-/

namespace ChatMemory

structure Frequencies where
  /-- The number of documents. -/
  documents : Nat
  /-- For each term that occurs, the number of documents that hold it. -/
  holding : Std.ExtTreeMap String Nat

namespace Frequencies

def empty : Frequencies := ⟨0, ∅⟩

def raise (holding : Std.ExtTreeMap String Nat) (term : String) : Std.ExtTreeMap String Nat :=
  holding.alter term fun count => some (count.getD 0 + 1)

/-- Counts one document less with the term. A term that no document holds any more is dropped. -/
def lower (holding : Std.ExtTreeMap String Nat) (term : String) : Std.ExtTreeMap String Nat :=
  holding.alter term fun
    | some (count + 2) => some (count + 1)
    | _ => none

def add (frequencies : Frequencies) (document : Analysis) : Frequencies :=
  ⟨frequencies.documents + 1, document.terms.toList.foldl raise frequencies.holding⟩

def remove (frequencies : Frequencies) (document : Analysis) : Frequencies :=
  ⟨frequencies.documents - 1, document.terms.toList.foldl lower frequencies.holding⟩

def ofDocuments (documents : List Analysis) : Frequencies :=
  documents.foldl add empty

def count (frequencies : Frequencies) (term : String) : Nat :=
  frequencies.holding[term]?.getD 0

def holds (frequencies : Frequencies) (term : String) : Bool :=
  frequencies.holding.contains term

/-- How much a term tells: the fewer documents hold it, the more. It is never less than one for
terms held by at most as many documents as there are. -/
def rarity (frequencies : Frequencies) (term : String) : Float32 :=
  (Text.ratio (frequencies.documents + 1) (frequencies.count term + 1)).log + 1

@[ext]
theorem ext {first second : Frequencies} (documents : first.documents = second.documents)
    (holding : ∀ term : String, first.holding[term]? = second.holding[term]?) :
    first = second := by
  cases first
  cases second
  congr
  exact Std.ExtTreeMap.ext_getElem? holding

end Frequencies

end ChatMemory
