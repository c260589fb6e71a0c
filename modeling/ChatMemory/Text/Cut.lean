/-!
Cutting texts at places that are counted in bytes of UTF-8. A place inside a character is none to
cut at. Main statements: a cut after a whole part of a text gives that part and leaves the other.
-/

namespace ChatMemory.Text

def byteLength (text : List Char) : Nat :=
  text.foldr (fun character length => character.utf8Size + length) 0

def dropBytes? : Nat → List Char → Option (List Char)
  | 0, text => some text
  | _, [] => none
  | count, character :: rest =>
    if character.utf8Size ≤ count then dropBytes? (count - character.utf8Size) rest else none

def takeBytes? : Nat → List Char → Option (List Char)
  | 0, _ => some []
  | _, [] => none
  | count, character :: rest =>
    if character.utf8Size ≤ count then
      (takeBytes? (count - character.utf8Size) rest).map (character :: ·)
    else none

@[simp] theorem byteLength_cons {character : Char} {rest : List Char} :
    byteLength (character :: rest) = character.utf8Size + byteLength rest := rfl

@[simp] theorem dropBytes?_byteLength_append {before after : List Char} :
    dropBytes? (byteLength before) (before ++ after) = some after := by
  induction before with
  | nil => simp [byteLength, dropBytes?]
  | cons character rest induction =>
    have positive := character.utf8Size_pos
    obtain ⟨count, counted⟩ : ∃ count, byteLength (character :: rest) = count + 1 :=
      ⟨byteLength (character :: rest) - 1, by rw [byteLength_cons]; omega⟩
    rw [counted, List.cons_append, dropBytes?]
    · rw [← counted, byteLength_cons, if_pos (Nat.le_add_right ..), Nat.add_sub_cancel_left,
        induction]
    · omega

@[simp] theorem takeBytes?_byteLength_append {before after : List Char} :
    takeBytes? (byteLength before) (before ++ after) = some before := by
  induction before with
  | nil => simp [byteLength, takeBytes?]
  | cons character rest induction =>
    have positive := character.utf8Size_pos
    obtain ⟨count, counted⟩ : ∃ count, byteLength (character :: rest) = count + 1 :=
      ⟨byteLength (character :: rest) - 1, by rw [byteLength_cons]; omega⟩
    rw [counted, List.cons_append, takeBytes?]
    · rw [← counted, byteLength_cons, if_pos (Nat.le_add_right ..), Nat.add_sub_cancel_left,
        induction, Option.map_some]
    · omega

example : dropBytes? 1 "éa".toList = none := by decide

example : dropBytes? 2 "éa".toList = some ['a'] := by decide

end ChatMemory.Text
