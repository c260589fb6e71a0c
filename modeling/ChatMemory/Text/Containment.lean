/-!
Search for one run of characters inside another.
-/

namespace ChatMemory.Text

def occursIn (part : List Char) : List Char → Bool
  | [] => part.isEmpty
  | character :: rest => part.isPrefixOf (character :: rest) || occursIn part rest

def contains (text part : String) : Bool :=
  occursIn part.toList text.toList

example : contains "population" "pop" = true := by decide

example : contains "golang" "og" = false := by decide

@[simp] theorem occursIn_eq_true_iff {part text : List Char} :
    occursIn part text = true ↔ part <:+: text := by
  induction text with
  | nil => simp [occursIn]
  | cons character rest induction =>
    simp [occursIn, List.infix_cons_iff, induction]

end ChatMemory.Text
