import ChatMemory.Relevance.Frequency
import Mathlib.Data.List.Count
import Mathlib.Data.List.Perm.Basic

/-!
What it means that frequencies count a list of documents. Main statements: adding and taking away
documents one by one keeps this up, and frequencies that count a list are those computed from it
anew.
-/

namespace ChatMemory.Frequencies

def countIn (documents : List Analysis) (term : String) : Nat :=
  documents.countP (·.terms.contains term)

/-- The frequencies are those of the documents. A term that no document holds has no entry. -/
structure Counts (frequencies : Frequencies) (documents : List Analysis) : Prop where
  documents_eq : frequencies.documents = documents.length
  holding_eq (term : String) : frequencies.holding[term]? =
    if countIn documents term = 0 then none else some (countIn documents term)

/-! ## Passes over the terms of a document -/

private theorem nodup_toList (terms : Text.TermSet) : terms.toList.Nodup := by
  apply terms.distinct_toList.imp
  intro first second different equal
  subst equal
  simp at different

private theorem getElem?_foldl_alter (change : Option Nat → Option Nat) {terms : List String}
    (nodup : terms.Nodup) (holding : Std.ExtTreeMap String Nat) (term : String) :
    (terms.foldl (fun holding changed => holding.alter changed change) holding)[term]? =
      if term ∈ terms then change holding[term]? else holding[term]? := by
  induction terms generalizing holding with
  | nil => simp
  | cons head tail induction =>
      have parts := List.nodup_cons.mp nodup
      rw [List.foldl_cons, induction parts.2]
      by_cases atHead : head = term
      · subst atHead
        simp [parts.1]
      · have notHead : term ≠ head := fun equal => atHead equal.symm
        simp [Std.ExtTreeMap.getElem?_alter, atHead, notHead]

private theorem getElem?_add (frequencies : Frequencies) (document : Analysis) (term : String) :
    (frequencies.add document).holding[term]? =
      if term ∈ document.terms then some (frequencies.count term + 1)
      else frequencies.holding[term]? := by
  have pass := getElem?_foldl_alter (fun count => some (count.getD 0 + 1))
    (nodup_toList document.terms) frequencies.holding term
  simp only [Std.ExtTreeSet.mem_toList] at pass
  exact pass

private theorem getElem?_remove (frequencies : Frequencies) (document : Analysis) (term : String) :
    (frequencies.remove document).holding[term]? =
      if term ∈ document.terms then
        if frequencies.count term ≤ 1 then none else some (frequencies.count term - 1)
      else frequencies.holding[term]? := by
  refine (getElem?_foldl_alter _ (nodup_toList document.terms) frequencies.holding term).trans ?_
  simp only [Std.ExtTreeSet.mem_toList]
  by_cases held : term ∈ document.terms
  · rw [if_pos held, if_pos held, count]
    rcases frequencies.holding[term]? with _ | _ | _ | count <;> simp
  · rw [if_neg held, if_neg held]

/-! ## Counting -/

private theorem countIn_cons (document : Analysis) (documents : List Analysis) (term : String) :
    countIn (document :: documents) term =
      countIn documents term + if term ∈ document.terms then 1 else 0 := by
  simp [countIn, List.countP_cons]

private theorem countIn_pos_iff {documents : List Analysis} {term : String} :
    0 < countIn documents term ↔ ∃ document ∈ documents, term ∈ document.terms := by
  simp [countIn, List.countP_pos_iff]

namespace Counts

variable {frequencies : Frequencies} {documents : List Analysis}

private theorem count_eq (counts : frequencies.Counts documents) (term : String) :
    frequencies.count term = countIn documents term := by
  rw [count, counts.holding_eq]
  by_cases unheld : countIn documents term = 0
  · simp [unheld]
  · simp [unheld]

theorem empty : Frequencies.empty.Counts [] where
  documents_eq := rfl
  holding_eq term := by simp [Frequencies.empty, countIn]

theorem add (counts : frequencies.Counts documents) (document : Analysis) :
    (frequencies.add document).Counts (document :: documents) where
  documents_eq := by simp [Frequencies.add, counts.documents_eq]
  holding_eq term := by
    rw [getElem?_add, countIn_cons, counts.count_eq]
    by_cases held : term ∈ document.terms
    · simp [held]
    · simpa [held] using counts.holding_eq term

theorem remove {document : Analysis} (counts : frequencies.Counts (document :: documents)) :
    (frequencies.remove document).Counts documents where
  documents_eq := by simp [Frequencies.remove, counts.documents_eq]
  holding_eq term := by
    have before := countIn_cons document documents term
    rw [getElem?_remove, counts.count_eq, counts.holding_eq]
    by_cases held : term ∈ document.terms
    · rw [if_pos held] at before
      simp [held, before]
    · rw [if_neg held] at before
      simp [held, before]

theorem perm {others : List Analysis} (counts : frequencies.Counts documents)
    (permuted : documents.Perm others) : frequencies.Counts others where
  documents_eq := counts.documents_eq.trans permuted.length_eq
  holding_eq term := by
    have same : countIn documents term = countIn others term := permuted.countP_eq _
    rw [counts.holding_eq, same]

theorem addAll (counts : frequencies.Counts documents) (added : List Analysis) :
    (added.foldl Frequencies.add frequencies).Counts (documents ++ added) := by
  induction added generalizing frequencies documents with
  | nil => simpa using counts
  | cons head tail induction =>
      apply (induction (counts.add head)).perm
      rw [List.cons_append]
      exact List.perm_middle.symm

theorem removeAll {removed : List Analysis}
    (counts : frequencies.Counts (documents ++ removed)) :
    (removed.foldl Frequencies.remove frequencies).Counts documents := by
  induction removed generalizing frequencies with
  | nil => simpa using counts
  | cons head tail induction =>
      apply induction
      exact (counts.perm List.perm_middle).remove

theorem ofDocuments (documents : List Analysis) :
    (Frequencies.ofDocuments documents).Counts documents :=
  empty.addAll documents

theorem unique {other : Frequencies} (counts : frequencies.Counts documents)
    (otherCounts : other.Counts documents) : frequencies = other := by
  apply Frequencies.ext
  · rw [counts.documents_eq, otherCounts.documents_eq]
  · intro term
    rw [counts.holding_eq, otherCounts.holding_eq]

theorem eq_ofDocuments (counts : frequencies.Counts documents) :
    frequencies = .ofDocuments documents :=
  counts.unique (ofDocuments documents)

theorem holds_iff (counts : frequencies.Counts documents) (term : String) :
    frequencies.holds term = true ↔ ∃ document ∈ documents, term ∈ document.terms := by
  rw [holds, Std.ExtTreeMap.contains_eq_isSome_getElem?, counts.holding_eq,
    ← countIn_pos_iff]
  by_cases unheld : countIn documents term = 0
  · simp [unheld]
  · simp [unheld, Nat.pos_of_ne_zero unheld]

theorem count_le (counts : frequencies.Counts documents) (term : String) :
    frequencies.count term ≤ frequencies.documents := by
  rw [counts.count_eq, counts.documents_eq]
  exact List.countP_le_length

theorem entry_bounds (counts : frequencies.Counts documents) {term : String} {count : Nat}
    (found : frequencies.holding[term]? = some count) :
    0 < count ∧ count ≤ frequencies.documents := by
  rw [counts.holding_eq] at found
  have bound : countIn documents term ≤ documents.length := List.countP_le_length
  by_cases unheld : countIn documents term = 0
  · simp [unheld] at found
  · rw [if_neg unheld, Option.some.injEq] at found
    subst found
    exact ⟨Nat.pos_of_ne_zero unheld, counts.documents_eq ▸ bound⟩

end Counts

/-! ## Taking away only what is there -/

/-- Taking the document away never subtracts from zero: there is a document left to count, and each
of its terms still has a count when its turn comes. -/
def CanRemove (frequencies : Frequencies) (document : Analysis) : Prop :=
  0 < frequencies.documents ∧
    ∀ earlier term later, document.terms.toList = earlier ++ term :: later →
      0 < (earlier.foldl lower frequencies.holding)[term]?.getD 0

theorem Counts.canRemove {frequencies : Frequencies} {document : Analysis}
    {documents : List Analysis} (counts : frequencies.Counts (document :: documents)) :
    frequencies.CanRemove document := by
  constructor
  · simp [counts.documents_eq]
  · intro earlier term later split
    have distinct := nodup_toList document.terms
    rw [split] at distinct
    have earlierDistinct := (List.nodup_append.mp distinct).1
    have fresh : term ∉ earlier := fun member =>
      (List.nodup_append.mp distinct).2.2 term member term List.mem_cons_self rfl
    have held : term ∈ document.terms := by
      rw [← Std.ExtTreeSet.mem_toList, split]
      simp
    -- The terms are distinct, so lowering earlier ones leaves this one alone.
    have untouched : (earlier.foldl lower frequencies.holding)[term]? =
        frequencies.holding[term]? :=
      (getElem?_foldl_alter _ earlierDistinct frequencies.holding term).trans (if_neg fresh)
    rw [untouched]
    have positive : 0 < frequencies.count term := by
      rw [counts.count_eq, countIn_cons, if_pos held]
      omega
    exact positive

end ChatMemory.Frequencies
