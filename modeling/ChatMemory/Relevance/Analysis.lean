import ChatMemory.Text.Term
import ChatMemory.Text.Stem

/-!
Texts taken apart for comparison: a candidate is known by its terms and their stems, a probe by its
terms, each with its stem.
-/

namespace ChatMemory

structure Analysis where
  terms : Text.TermSet
  stems : Std.ExtTreeSet String

namespace Analysis

def ofText (text : String) : Analysis :=
  let terms := Text.termSet text
  ⟨terms, .ofList (terms.toList.map Text.stem)⟩

def isEmpty (analysis : Analysis) : Bool :=
  analysis.terms.isEmpty

@[simp] theorem mem_terms_ofText {text term : String} :
    term ∈ (ofText text).terms ↔ term ∈ Text.terms text :=
  Text.mem_termSet

@[simp] theorem mem_stems_ofText {text stem : String} :
    stem ∈ (ofText text).stems ↔ ∃ term ∈ Text.terms text, Text.stem term = stem := by
  simp [ofText, Std.ExtTreeSet.mem_ofList, Text.mem_termSet]

end Analysis

structure ProbeTerm where
  term : String
  stem : String
  deriving Repr, DecidableEq

def ProbeTerm.ofTerm (term : String) : ProbeTerm :=
  ⟨term, Text.stem term⟩

structure Probe where
  terms : List ProbeTerm
  deriving Repr, DecidableEq

namespace Probe

def ofText (text : String) : Probe :=
  ⟨(Text.termSet text).toList.map .ofTerm⟩

def isEmpty (probe : Probe) : Bool :=
  probe.terms.isEmpty

example : (ofText "The cities of Paris").terms = [⟨"cities", "city"⟩, ⟨"paris", "pari"⟩] := by
  decide

@[simp] theorem mem_terms_ofText {text : String} {probeTerm : ProbeTerm} :
    probeTerm ∈ (ofText text).terms ↔
      ∃ term ∈ Text.terms text, ProbeTerm.ofTerm term = probeTerm := by
  simp [ofText, Text.mem_termSet]

end Probe

end ChatMemory
