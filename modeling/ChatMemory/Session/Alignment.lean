/-!
How a supplied history continues a stored one. Callers may supply the whole history, only its
newest part, or one that has taken another turn.
-/

namespace ChatMemory

section

variable {α : Type _} [DecidableEq α]

def sharedLength : List α → List α → Nat
  | first :: firsts, second :: seconds =>
    if first = second then sharedLength firsts seconds + 1 else 0
  | _, _ => 0

theorem sharedLength_le_left (first second : List α) :
    sharedLength first second ≤ first.length := by
  fun_induction sharedLength first second <;> simp_all

theorem take_sharedLength (first second : List α) :
    first.take (sharedLength first second) = second.take (sharedLength first second) := by
  fun_induction sharedLength first second <;> simp_all

def overlapLength (supplied : List α) : List α → Nat
  | [] => 0
  | first :: rest =>
    if (first :: rest).isPrefixOf supplied then (first :: rest).length
    else overlapLength supplied rest

/-- How two histories fit together: the first `kept` stored messages are kept, and the supplied ones
from `taken` on follow them. -/
structure Alignment where
  kept : Nat
  taken : Nat
  deriving Repr, DecidableEq

/-- How a supplied history continues a stored one, or nothing if it is a beginning of it. An overlap
is preferred when it is longer than the common beginning. -/
def align? (stored supplied : List α) : Option Alignment :=
  let shared := sharedLength stored supplied
  if shared = supplied.length then none
  else if shared = stored.length then some ⟨shared, shared⟩
  else if shared < overlapLength supplied stored then
    some ⟨stored.length, overlapLength supplied stored⟩
  else some ⟨shared, shared⟩

end

example : align? ['a', 'b'] ['a', 'b', 'c'] = some ⟨2, 2⟩ := by decide

example : align? ['a', 'b', 'c'] ['b', 'c', 'd'] = some ⟨3, 2⟩ := by decide

example : align? ['a', 'b'] ['a', 'x'] = some ⟨1, 1⟩ := by decide

end ChatMemory
