import ChatMemory.Text.Blank
import Mathlib.Data.List.TakeWhile

/-!
White space in texts. Main statements: trimming leaves nothing just of the texts of white space; the
pieces between white space hold all the rest of a text; and pieces that are joined with spaces are
all there is in the text that they give, but for the spaces.
-/

namespace ChatMemory.Unicode

private theorem trimBlanks_eq_nil_iff {text : List Char} :
    trimBlanks text = [] ↔ text.all isBlank := by
  rw [trimBlanks, List.reverse_eq_nil_iff, List.dropWhile_eq_nil_iff, List.all_eq_true]
  constructor
  · intro trailing
    -- What is left after the blanks at the start begins with no blank, so nothing is left.
    have leading : text.dropWhile isBlank = [] := by
      cases left : text.dropWhile isBlank with
      | nil => rfl
      | cons head tail =>
          have blank : isBlank head := trailing head (by simp [left])
          have unblank := List.head_dropWhile_not isBlank (l := text) (by simp [left])
          simp [left, blank] at unblank
    exact List.dropWhile_eq_nil_iff.mp leading
  · intro all character member
    exact all character ((List.dropWhile_sublist _).mem (List.mem_reverse.mp member))

@[simp] theorem isEmpty_trim (text : String) : (trim text).isEmpty = isAllBlank text := by
  rw [Bool.eq_iff_iff, String.isEmpty_iff, trim, isAllBlank, ← trimBlanks_eq_nil_iff,
    ← String.toList_eq_nil_iff, String.toList_ofList]

private theorem flatten_blankFreePiecesFrom (pending text : List Char) :
    (blankFreePiecesFrom pending text).flatten = pending.reverse ++ text.filter (!isBlank ·) := by
  induction text generalizing pending with
  | nil =>
      rw [blankFreePiecesFrom]
      split
      · rename_i none
        rw [List.isEmpty_iff.mp none]
        rfl
      · simp
  | cons character rest induction =>
      rw [blankFreePiecesFrom]
      split
      · rename_i blank
        have skipped : (character :: rest).filter (!isBlank ·) = rest.filter (!isBlank ·) :=
          List.filter_cons_of_neg (by simp [blank])
        rw [skipped]
        split
        · rename_i none
          rw [induction, List.isEmpty_iff.mp none]
        · rw [List.flatten_cons, induction]
          rfl
      · rename_i unblank
        have kept : (character :: rest).filter (!isBlank ·) =
            character :: rest.filter (!isBlank ·) :=
          List.filter_cons_of_pos (by simp [unblank])
        rw [induction, kept]
        simp

@[simp] theorem flatten_blankFreePieces (text : List Char) :
    (blankFreePieces text).flatten = text.filter (!isBlank ·) :=
  flatten_blankFreePiecesFrom [] text

end ChatMemory.Unicode

namespace ChatMemory.Text

theorem joinWithSpaces_cons (piece : List Char) (rest : List (List Char)) :
    joinWithSpaces (piece :: rest) = piece ++ rest.flatMap (' ' :: ·) := by
  induction rest generalizing piece with
  | nil => simp [joinWithSpaces]
  | cons next rest induction =>
      rw [joinWithSpaces, induction next]
      · simp
      · simp

theorem joinWithSpaces_cons_of_ne_nil (piece : List Char) {rest : List (List Char)}
    (some : rest ≠ []) :
    joinWithSpaces (piece :: rest) = piece ++ ' ' :: joinWithSpaces rest := by
  cases rest with
  | nil => exact absurd rfl some
  | cons next rest => rfl

theorem joinWithSpaces_append_space (title piece : List Char) (rest : List (List Char)) :
    joinWithSpaces ((title ++ ' ' :: piece) :: rest) = joinWithSpaces (title :: piece :: rest) := by
  rw [joinWithSpaces_cons, joinWithSpaces_cons, List.flatMap_cons, List.append_assoc]

theorem joinWithSpaces_concat (pieces : List (List Char)) (last : List Char) :
    joinWithSpaces (pieces ++ [last]) = pieces.flatMap (· ++ [' ']) ++ last := by
  induction pieces with
  | nil => rfl
  | cons piece rest induction =>
      rw [List.cons_append, joinWithSpaces_cons_of_ne_nil piece (by simp), induction]
      simp

theorem joinWithSpaces_eq_intercalate (pieces : List (List Char)) :
    joinWithSpaces pieces = [' '].intercalate pieces := by
  induction pieces with
  | nil => rfl
  | cons piece rest induction =>
      cases rest with
      | nil => rw [joinWithSpaces, List.intercalate_singleton]
      | cons next rest =>
          rw [joinWithSpaces_cons_of_ne_nil piece (List.cons_ne_nil next rest), induction,
            List.intercalate_cons_cons, List.append_assoc]
          rfl

theorem prefix_joinWithSpaces (piece : List Char) (rest : List (List Char)) :
    piece <+: joinWithSpaces (piece :: rest) := by
  rw [joinWithSpaces_cons]
  exact List.prefix_append piece _

theorem subset_joinWithSpaces {pieces : List (List Char)} {piece : List Char}
    (member : piece ∈ pieces) : piece ⊆ joinWithSpaces pieces := by
  intro character inside
  cases pieces with
  | nil => cases member
  | cons first rest =>
      rw [joinWithSpaces_cons, List.mem_append, List.mem_flatMap]
      rcases List.mem_cons.mp member with rfl | later
      · exact .inl inside
      · exact .inr ⟨piece, later, List.mem_cons_of_mem ' ' inside⟩

theorem mem_joinWithSpaces {pieces : List (List Char)} {character : Char}
    (member : character ∈ joinWithSpaces pieces) :
    character = ' ' ∨ ∃ piece ∈ pieces, character ∈ piece := by
  cases pieces with
  | nil => cases member
  | cons first rest =>
      rw [joinWithSpaces_cons, List.mem_append, List.mem_flatMap] at member
      rcases member with inFirst | ⟨piece, listed, inside⟩
      · exact .inr ⟨first, List.mem_cons_self, inFirst⟩
      · refine (List.mem_cons.mp inside).imp_right fun here => ?_
        exact ⟨piece, List.mem_cons_of_mem first listed, here⟩

end ChatMemory.Text
