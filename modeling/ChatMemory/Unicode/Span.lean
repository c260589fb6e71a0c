/-!
Sets of code points, written as the spans they consist of.
-/

namespace ChatMemory.Unicode

structure Span where
  first : Nat
  last : Nat
  deriving Repr, DecidableEq

def Span.holds (span : Span) (point : Nat) : Bool :=
  decide (span.first ≤ point) && decide (point ≤ span.last)

/-- Every `step`-th code point from `first` to `last`. Scripts that write the two cases of a letter
side by side have strides of step two. -/
structure Stride where
  first : Nat
  last : Nat
  step : Nat
  deriving Repr, DecidableEq

def Stride.holds (stride : Stride) (point : Nat) : Bool :=
  decide (stride.first ≤ point) && decide (point ≤ stride.last) &&
    (point - stride.first) % stride.step == 0

def inSpans (spans : List Span) (character : Char) : Bool :=
  spans.any (·.holds character.toNat)

def inStrides (strides : List Stride) (character : Char) : Bool :=
  strides.any (·.holds character.toNat)

example : inSpans [⟨0x61, 0x7A⟩] 'q' = true := rfl

example : inStrides [⟨0x61, 0x7A, 2⟩] 'b' = false := rfl

@[simp] theorem inSpans_eq_true_iff {spans : List Span} {character : Char} :
    inSpans spans character = true ↔
      ∃ span ∈ spans, span.first ≤ character.toNat ∧ character.toNat ≤ span.last := by
  simp [inSpans, Span.holds]

end ChatMemory.Unicode
