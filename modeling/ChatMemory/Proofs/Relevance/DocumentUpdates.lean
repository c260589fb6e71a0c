import ChatMemory.Proofs.Number.Ratio
import ChatMemory.Proofs.Relevance.DocumentCounts
import Mathlib.Data.Multiset.Basic

/-!
Frequencies over runs of documents added and taken away, in whatever order. Main statement: they
depend only on which documents are left, each as often as it was added and not taken away.
-/

namespace ChatMemory.Frequencies

inductive Update
  | add (document : Analysis)
  | remove (document : Analysis)

def update (frequencies : Frequencies) : Update → Frequencies
  | .add document => frequencies.add document
  | .remove document => frequencies.remove document

def updateAll (frequencies : Frequencies) (updates : List Update) : Frequencies :=
  updates.foldl update frequencies

/-- The updates lead from some documents to others. Whatever document is taken away, it is one of
those that are there at that time, and not always the one that came last. -/
inductive Leads : Multiset Analysis → List Update → Multiset Analysis → Prop
  | nil {documents} : Leads documents [] documents
  | add {documents left document updates} (rest : Leads (document ::ₘ documents) updates left) :
      Leads documents (.add document :: updates) left
  | remove {documents left document updates} (rest : Leads documents updates left) :
      Leads (document ::ₘ documents) (.remove document :: updates) left

section

variable {frequencies : Frequencies} {documents left : Multiset Analysis} {document : Analysis}

private theorem toList_cons_perm (document : Analysis) (documents : Multiset Analysis) :
    (document :: documents.toList).Perm (document ::ₘ documents).toList := by
  rw [← Multiset.coe_eq_coe, ← Multiset.cons_coe, Multiset.coe_toList, Multiset.coe_toList]

theorem Leads.counts {updates : List Update} (leads : Leads documents updates left)
    (counts : frequencies.Counts documents.toList) :
    (frequencies.updateAll updates).Counts left.toList := by
  induction leads generalizing frequencies with
  | nil => exact counts
  | add _ induction =>
      apply induction
      exact (counts.add _).perm (toList_cons_perm _ _)
  | remove _ induction =>
      apply induction
      exact (counts.perm (toList_cons_perm _ _).symm).remove

theorem Leads.split {earlier later : List Update} {update : Update}
    (leads : Leads documents (earlier ++ update :: later) left) :
    ∃ between, Leads documents earlier between ∧ Leads between (update :: later) left := by
  induction earlier generalizing documents with
  | nil => exact ⟨documents, .nil, leads⟩
  | cons head tail induction =>
      cases leads with
      | add rest =>
          rcases induction rest with ⟨between, before, after⟩
          exact ⟨between, .add before, after⟩
      | remove rest =>
          rcases induction rest with ⟨between, before, after⟩
          exact ⟨between, .remove before, after⟩

theorem Leads.canRemove {earlier later : List Update}
    (leads : Leads documents (earlier ++ .remove document :: later) left)
    (counts : frequencies.Counts documents.toList) :
    (frequencies.updateAll earlier).CanRemove document := by
  rcases leads.split with ⟨between, before, after⟩
  have counted := before.counts counts
  cases after with
  | remove _ => exact (counted.perm (toList_cons_perm _ _).symm).canRemove

end

/-- After any run of updates the frequencies are those of the documents that are left, computed anew
in any order. No entry is zero or above the number of documents, so no quotient whose logarithm is
taken is less than one; and nothing is ever subtracted from zero. -/
theorem updates_count_documents_left {updates : List Update} {left : Multiset Analysis}
    (leads : Leads 0 updates left) :
    let frequencies := empty.updateAll updates
    (∀ documents : List Analysis, (documents : Multiset Analysis) = left →
      frequencies.Counts documents ∧ frequencies = ofDocuments documents) ∧
    (∀ (term : String) (count : Nat), frequencies.holding[term]? = some count →
      0 < count ∧ count ≤ frequencies.documents) ∧
    (frequencies.documents + 1 < 2 ^ 64 → ∀ term,
      let quotient := Text.ratio (frequencies.documents + 1) (frequencies.count term + 1)
      frequencies.rarity term = quotient.log + 1 ∧ 1 ≤ quotient) ∧
    ∀ earlier document later, updates = earlier ++ .remove document :: later →
      (empty.updateAll earlier).CanRemove document := by
  intro frequencies
  have start : empty.Counts (0 : Multiset Analysis).toList := by
    rw [Multiset.toList_zero]
    exact .empty
  have counts : frequencies.Counts left.toList := leads.counts start
  refine ⟨?_, fun term count found => counts.entry_bounds found, ?_, ?_⟩
  · rintro documents rfl
    have counted : frequencies.Counts documents :=
      counts.perm (Multiset.coe_eq_coe.mp (Multiset.coe_toList _))
    exact ⟨counted, counted.eq_ofDocuments⟩
  · intro counted term
    refine ⟨rfl, one_le_ratio (Nat.succ_pos _) ?_ counted⟩
    exact Nat.succ_le_succ (counts.count_le term)
  · rintro earlier document later rfl
    exact leads.canRemove start

/-- The first of two documents that share a term is taken away before the second. -/
theorem updates_count_document_left_of_two :
    let first := Analysis.ofText "borrow checker"
    let second := Analysis.ofText "checker errors"
    let updates : List Update := [.add first, .add second, .remove first]
    let frequencies := empty.updateAll updates
    Leads 0 updates {second} ∧ frequencies = ofDocuments [second] ∧
    frequencies.holding["borrow"]? = none ∧ frequencies.holding["checker"]? = some 1 ∧
    frequencies.documents = 1 ∧ frequencies.documents + 1 < 2 ^ 64 ∧
    frequencies.rarity "borrow" = (Text.ratio 2 1).log + 1 ∧ 1 ≤ Text.ratio 2 1 ∧
    (empty.updateAll [.add first, .add second]).CanRemove first := by
  intro first second updates frequencies
  have leads : Leads 0 updates {second} := by
    apply Leads.add
    apply Leads.add
    rw [Multiset.cons_swap]
    exact .remove .nil
  rcases updates_count_documents_left leads with ⟨anew, -, quotients, removable⟩
  have counts := (anew [second] rfl).1
  have left : frequencies.documents = 1 := counts.documents_eq
  have forgotten : frequencies.holding["borrow"]? = none := by
    rw [counts.holding_eq]
    decide
  have shared : frequencies.holding["checker"]? = some 1 := by
    rw [counts.holding_eq]
    decide
  have unheld : frequencies.count "borrow" = 0 := by
    rw [count, forgotten]
    rfl
  have counted : frequencies.documents + 1 < 2 ^ 64 := by
    rw [left]
    decide
  have quotient := quotients counted "borrow"
  rw [left, unheld] at quotient
  exact ⟨leads, (anew [second] rfl).2, forgotten, shared, left, counted, quotient.1, quotient.2,
    removable _ first [] rfl⟩

end ChatMemory.Frequencies
