import ChatMemory.Unicode.Alphanumeric
import ChatMemory.Unicode.Blank
import ChatMemory.Unicode.Lowercasing

/-!
What a change of case makes of characters and texts. Main statements: it makes no white space and
leaves something in place of every character; a text in lower case is made of the lower case of its
parts; and only few characters become longer.
-/

namespace ChatMemory.Unicode

private theorem blankSpans_positive :
    ∀ span ∈ blankSpans, 0 < span.first := by decide

def CaseShift.avoidsBlanks (shift : CaseShift) : Bool :=
  blankSpans.all fun span =>
    decide (shift.last + shift.distance < span.first) ||
      decide (span.last < shift.first + shift.distance)

private theorem avoidsBlanks_of_mem_shifts :
    ∀ shift ∈ lowercaseShifts ++ uppercaseShifts, shift.avoidsBlanks = true := by
  decide +kernel

private theorem expansions_plain : ∀ expansion ∈ lowercaseExpansions ++ uppercaseExpansions,
    expansion.2 ≠ [] ∧ ∀ point ∈ expansion.2, isBlank (Char.ofNat point) = false := by
  decide

private theorem ascii_facts : ∀ point < 0x80,
    (isBlank (Char.ofNat point).toLower = true →
      (Char.ofNat point).toLower = Char.ofNat point) ∧
    (isBlank (Char.ofNat point).toUpper = true →
      (Char.ofNat point).toUpper = Char.ofNat point) ∧
    (isAsciiAlphanumeric (Char.ofNat point) = true → isBlank (Char.ofNat point) = false) ∧
    (toUppercase (Char.ofNat point).toLower).length = 1 := by
  decide

private theorem CaseShift.bounds_of_holds {shift : CaseShift} {point : Nat}
    (holds : shift.holds point = true) : shift.first ≤ point ∧ point ≤ shift.last := by
  simp only [CaseShift.holds, Stride.holds, Bool.and_eq_true, decide_eq_true_eq] at holds
  exact holds.1

private theorem toNat_ofNat_or_eq_null (point : Nat) :
    (Char.ofNat point).toNat = point ∨ Char.ofNat point = '\x00' := by
  by_cases valid : point.isValidChar
  · have character : Char.ofNat point = Char.ofNatAux point valid := dif_pos valid
    exact .inl (character ▸ rfl)
  · exact .inr (dif_neg valid)

/-- A character without a shift stays; another one gets to where its shift leads, if there is a
character at all. -/
theorem shiftCase_cases (shifts : List CaseShift) (character : Char) :
    (shiftCase shifts character = character ∧
      ∀ shift ∈ shifts, ¬shift.holds character.toNat = true) ∨
    shiftCase shifts character = '\x00' ∨
    ∃ shift ∈ shifts, shift.holds character.toNat = true ∧
      (shiftCase shifts character).toNat = (character.toNat + shift.distance).toNat := by
  rw [shiftCase]
  cases found : shifts.find? (·.holds character.toNat) with
  | none => exact .inl ⟨rfl, List.find?_eq_none.mp found⟩
  | some shift =>
      have holds := List.find?_some found
      dsimp only
      rcases toNat_ofNat_or_eq_null (character.toNat + shift.distance).toNat with value | isNull
      · exact .inr (.inr ⟨shift, List.mem_of_find?_eq_some found, holds, value⟩)
      · exact .inr (.inl isNull)

section Mapping

variable {shifts : List CaseShift} {expansions : List (Nat × List Nat)} {character result : Char}

private theorem eq_of_isBlank_shiftCase (avoiding : ∀ shift ∈ shifts, shift.avoidsBlanks = true)
    (blank : isBlank (shiftCase shifts character) = true) :
    shiftCase shifts character = character := by
  rcases shiftCase_cases shifts character with
    ⟨stays, -⟩ | isNull | ⟨shift, listed, holds, lands⟩
  · exact stays
  · rw [isNull] at blank
    exact absurd blank (by decide)
  · have avoids := avoiding shift listed
    have bounds := CaseShift.bounds_of_holds holds
    rw [CaseShift.avoidsBlanks, List.all_eq_true] at avoids
    rcases inSpans_eq_true_iff.mp blank with ⟨span, spanListed, atLeast, atMost⟩
    have positive := blankSpans_positive span spanListed
    have apart := avoids span spanListed
    rw [Bool.or_eq_true, decide_eq_true_eq, decide_eq_true_eq] at apart
    omega

private theorem eq_of_isBlank_of_mem_mapped (avoiding : ∀ shift ∈ shifts, shift.avoidsBlanks = true)
    (listed : expansions ⊆ lowercaseExpansions ++ uppercaseExpansions)
    (member : result ∈ (expandCase expansions character).getD [shiftCase shifts character])
    (blank : isBlank result = true) : result = character := by
  cases found : expandCase expansions character with
  | none =>
      rw [found, Option.getD_none, List.mem_singleton] at member
      rw [member] at blank ⊢
      exact eq_of_isBlank_shiftCase avoiding blank
  | some expanded =>
      rw [found, Option.getD_some] at member
      rw [expandCase, Option.map_eq_some_iff] at found
      rcases found with ⟨expansion, first, rfl⟩
      rcases List.mem_map.mp member with ⟨point, pointListed, rfl⟩
      have plain := (expansions_plain expansion (listed (List.mem_of_find?_eq_some first))).2
      rw [plain point pointListed] at blank
      exact absurd blank Bool.false_ne_true

private theorem mapped_ne_nil (listed : expansions ⊆ lowercaseExpansions ++ uppercaseExpansions) :
    (expandCase expansions character).getD [shiftCase shifts character] ≠ [] := by
  cases found : expandCase expansions character with
  | none => exact List.cons_ne_nil _ _
  | some expanded =>
      rw [expandCase, Option.map_eq_some_iff] at found
      rcases found with ⟨expansion, first, rfl⟩
      rw [Option.getD_some, ne_eq, List.map_eq_nil_iff]
      exact (expansions_plain expansion (listed (List.mem_of_find?_eq_some first))).1

end Mapping

private theorem eq_of_isBlank_of_mem_toLowercase {character lowered : Char}
    (member : lowered ∈ toLowercase character) (blank : isBlank lowered = true) :
    lowered = character := by
  rw [toLowercase] at member
  split at member
  · rename_i ascii
    have same := (ascii_facts character.toNat ascii).1
    rw [Char.ofNat_toNat] at same
    rw [List.mem_singleton] at member
    rw [member] at blank ⊢
    exact same blank
  · refine eq_of_isBlank_of_mem_mapped (fun shift listed => ?_)
      (List.subset_append_left _ _) member blank
    exact avoidsBlanks_of_mem_shifts shift (List.mem_append_left _ listed)

theorem eq_of_isBlank_of_mem_toUppercase {character raised : Char}
    (member : raised ∈ toUppercase character) (blank : isBlank raised = true) :
    raised = character := by
  rw [toUppercase] at member
  split at member
  · rename_i ascii
    have same := (ascii_facts character.toNat ascii).2.1
    rw [Char.ofNat_toNat] at same
    rw [List.mem_singleton] at member
    rw [member] at blank ⊢
    exact same blank
  · refine eq_of_isBlank_of_mem_mapped (fun shift listed => ?_)
      (List.subset_append_right _ _) member blank
    exact avoidsBlanks_of_mem_shifts shift (List.mem_append_right _ listed)

theorem toLowercase_ne_nil (character : Char) : toLowercase character ≠ [] := by
  rw [toLowercase]
  split
  · exact List.cons_ne_nil _ _
  · exact mapped_ne_nil (List.subset_append_left _ _)

theorem toUppercase_ne_nil (character : Char) : toUppercase character ≠ [] := by
  rw [toUppercase]
  split
  · exact List.cons_ne_nil _ _
  · exact mapped_ne_nil (List.subset_append_right _ _)

theorem space_notMem_toLowercase {character : Char} (notSpace : character ≠ ' ') :
    ' ' ∉ toLowercase character :=
  fun member => notSpace (eq_of_isBlank_of_mem_toLowercase member isBlank_space).symm

/-! ## Letters and digits -/

def Span.isApart (first second : Span) : Bool :=
  Nat.blt first.last second.first || Nat.blt second.last first.first

private theorem alphanumericSpans_apart :
    (alphanumericSpans.all fun span => blankSpans.all span.isApart) = true := by
  decide +kernel

theorem isBlank_of_isAlphanumeric {character : Char}
    (alphanumeric : isAlphanumeric character = true) : isBlank character = false := by
  rw [isAlphanumeric] at alphanumeric
  split at alphanumeric
  · rename_i ascii
    have apart := (ascii_facts character.toNat ascii).2.2.1
    rw [Char.ofNat_toNat] at apart
    exact apart alphanumeric
  · rcases inSpans_eq_true_iff.mp alphanumeric with ⟨span, listed, atLeast, atMost⟩
    rw [Bool.eq_false_iff, ne_eq, isBlank, inSpans_eq_true_iff]
    rintro ⟨blank, blankListed, blankAtLeast, blankAtMost⟩
    have apart := List.all_eq_true.mp (List.all_eq_true.mp alphanumericSpans_apart span listed)
      blank blankListed
    rw [Span.isApart, Bool.or_eq_true, Nat.blt_eq, Nat.blt_eq] at apart
    omega

/-! ## Texts in lower case -/

/-- What is left of a part of a text once the text is in lower case. The text around the part only
decides between the two forms of a small sigma. -/
structure IsLowered (part lowered : List Char) : Prop where
  filled : part ≠ [] → lowered ≠ []
  source : ∀ character ∈ lowered,
    ∃ original ∈ part, character ∈ toLowercase original ∨
      original = 'Σ' ∧ (character = 'ς' ∨ character = 'σ')
  keeps : ∀ original ∈ part, original = 'Σ' ∨ toLowercase original ⊆ lowered
  length : (∀ character ∈ part, (toLowercase character).length = 1) → lowered.length = part.length

private theorem isLowered_nil : IsLowered [] [] where
  filled := absurd rfl
  source := fun _ member => absurd member List.not_mem_nil
  keeps := fun _ member => absurd member List.not_mem_nil
  length := fun _ => rfl

private theorem isLowered_letter (letter : Char) (final : Bool) :
    IsLowered [letter]
      (if letter == 'Σ' then [if final then 'ς' else 'σ'] else toLowercase letter) := by
  by_cases sigma : letter = 'Σ'
  · subst sigma
    refine ⟨fun _ => List.cons_ne_nil _ _, ?_, ?_, fun _ => rfl⟩
    · intro character member
      refine ⟨'Σ', List.mem_singleton_self _, .inr ⟨rfl, ?_⟩⟩
      cases final
      · exact .inr (List.mem_singleton.mp member)
      · exact .inl (List.mem_singleton.mp member)
    · exact List.forall_mem_singleton.mpr (.inl rfl)
  · rw [if_neg (mt eq_of_beq sigma)]
    refine ⟨fun _ => toLowercase_ne_nil letter, ?_, ?_, ?_⟩
    · exact fun character member => ⟨letter, List.mem_singleton_self _, .inl member⟩
    · exact List.forall_mem_singleton.mpr (.inr (List.Subset.refl _))
    · exact List.forall_mem_singleton.mp

private theorem IsLowered.append {first rest lowered later : List Char}
    (lowers : IsLowered first lowered) (restLowers : IsLowered rest later) :
    IsLowered (first ++ rest) (lowered ++ later) where
  filled := by
    intro some none
    rcases List.append_eq_nil_iff.mp none with ⟨loweredNone, laterNone⟩
    apply some
    rw [List.append_eq_nil_iff]
    exact ⟨Decidable.byContradiction fun kept => lowers.filled kept loweredNone,
      Decidable.byContradiction fun kept => restLowers.filled kept laterNone⟩
  source := by
    intro character member
    rcases List.mem_append.mp member with now | afterwards
    · rcases lowers.source character now with ⟨original, listed, origin⟩
      exact ⟨original, List.mem_append_left rest listed, origin⟩
    · rcases restLowers.source character afterwards with ⟨original, listed, origin⟩
      exact ⟨original, List.mem_append_right first listed, origin⟩
  keeps := by
    rw [List.forall_mem_append]
    constructor
    · intro original listed
      exact (lowers.keeps original listed).imp_right (List.subset_append_of_subset_left later)
    · intro original listed
      exact (restLowers.keeps original listed).imp_right
        (List.subset_append_of_subset_right lowered)
  length := by
    intro single
    rcases List.forall_mem_append.mp single with ⟨firstSingle, restSingle⟩
    rw [List.length_append, List.length_append, lowers.length firstSingle,
      restLowers.length restSingle]

theorem exists_isLowered (before part after : List Char) :
    ∃ lowered, IsLowered part lowered ∧
      lowercaseFrom before (part ++ after) =
        lowered ++ lowercaseFrom (part.reverse ++ before) after := by
  induction part generalizing before with
  | nil => exact ⟨[], isLowered_nil, rfl⟩
  | cons first rest induction =>
      rcases induction (first :: before) with ⟨later, lowers, equal⟩
      refine ⟨_, (isLowered_letter first (isFinalSigma before (rest ++ after))).append lowers, ?_⟩
      rw [List.cons_append, lowercaseFrom, equal, List.append_assoc, List.reverse_cons,
        List.append_assoc]
      rfl

theorem isLowered_lowercase (text : List Char) : IsLowered text (lowercase text) := by
  rcases exists_isLowered [] text [] with ⟨lowered, lowers, equal⟩
  rw [List.append_nil, lowercaseFrom, List.append_nil] at equal
  rw [lowercase, equal]
  exact lowers

theorem IsLowered.isBlank_of_mem {part lowered : List Char} (lowers : IsLowered part lowered)
    (plain : ∀ character ∈ part, isBlank character = false) {character : Char}
    (member : character ∈ lowered) : isBlank character = false := by
  rcases lowers.source character member with ⟨original, listed, origin | ⟨-, rfl | rfl⟩⟩
  · rw [Bool.eq_false_iff]
    intro blank
    rw [eq_of_isBlank_of_mem_toLowercase origin blank, plain original listed] at blank
    exact Bool.false_ne_true blank
  · decide
  · decide

def IsLowerCaseOf (source : Char → Prop) (text : List Char) : Prop :=
  ∃ letters : List Char, (∀ letter ∈ letters, source letter) ∧ text = letters.flatMap toLowercase

section LowerCaseOf

variable {source : Char → Prop} {first second : List Char}

theorem IsLowerCaseOf.nil : IsLowerCaseOf source [] :=
  ⟨[], fun _ inside => absurd inside List.not_mem_nil, rfl⟩

theorem IsLowerCaseOf.letter {letter : Char} (given : source letter) :
    IsLowerCaseOf source (toLowercase letter) :=
  ⟨[letter], List.forall_mem_singleton.mpr given, (List.flatMap_singleton _ _).symm⟩

theorem IsLowerCaseOf.append (firstLower : IsLowerCaseOf source first)
    (secondLower : IsLowerCaseOf source second) : IsLowerCaseOf source (first ++ second) := by
  rcases firstLower with ⟨firstLetters, firstGiven, rfl⟩
  rcases secondLower with ⟨secondLetters, secondGiven, rfl⟩
  exact ⟨firstLetters ++ secondLetters, List.forall_mem_append.mpr ⟨firstGiven, secondGiven⟩,
    List.flatMap_append.symm⟩

theorem IsLowerCaseOf.imp {other : Char → Prop} (implied : ∀ letter, source letter → other letter)
    (lower : IsLowerCaseOf source first) : IsLowerCaseOf other first := by
  rcases lower with ⟨letters, given, lowered⟩
  exact ⟨letters, fun letter inside => implied letter (given letter inside), lowered⟩

theorem IsLowerCaseOf.exists_append (lower : IsLowerCaseOf source first) (some : first ≠ []) :
    ∃ letter rest, source letter ∧ IsLowerCaseOf source rest ∧
      first = toLowercase letter ++ rest := by
  rcases lower with ⟨letters, given, rfl⟩
  cases letters with
  | nil => exact absurd rfl some
  | cons letter rest =>
      rcases List.forall_mem_cons.mp given with ⟨letterGiven, restGiven⟩
      exact ⟨letter, rest.flatMap toLowercase, letterGiven, ⟨rest, restGiven, rfl⟩,
        List.flatMap_cons⟩

theorem IsLowerCaseOf.exists_of_mem {character : Char} (lower : IsLowerCaseOf source first)
    (member : character ∈ first) : ∃ letter, source letter ∧ character ∈ toLowercase letter := by
  rcases lower with ⟨letters, given, rfl⟩
  rcases List.mem_flatMap.mp member with ⟨letter, listed, inside⟩
  exact ⟨letter, given letter listed, inside⟩

end LowerCaseOf

/-! ## Characters that become longer -/

/-- The characters that take more than one character in upper case, and two capitals that do so once
they have been in lower case. -/
def Grows (character : Char) : Prop :=
  1 < (toUppercase character).length ∨ character = 'İ' ∨ character = 'ẞ'

theorem toUppercase_cases (character : Char) :
    (character.toNat < 0x80 ∧ toUppercase character = [character.toUpper]) ∨
    (∃ expansion ∈ uppercaseExpansions, expansion.1 = character.toNat ∧
      toUppercase character = expansion.2.map Char.ofNat) ∨
    toUppercase character = [shiftCase uppercaseShifts character] := by
  rw [toUppercase]
  split
  · rename_i ascii
    exact .inl ⟨ascii, rfl⟩
  · cases found : expandCase uppercaseExpansions character with
    | none => exact .inr (.inr rfl)
    | some expanded =>
        rw [expandCase, Option.map_eq_some_iff] at found
        rcases found with ⟨expansion, first, rfl⟩
        have same := List.find?_some first
        exact .inr (.inl ⟨expansion, List.mem_of_find?_eq_some first, eq_of_beq same, rfl⟩)

private theorem exists_expansion_of_length {character : Char}
    (long : 1 < (toUppercase character).length) :
    ∃ expansion ∈ uppercaseExpansions, expansion.1 = character.toNat := by
  rcases toUppercase_cases character with
    ⟨-, single⟩ | ⟨expansion, listed, same, -⟩ | single
  · rw [single] at long
    exact absurd long (Nat.lt_irrefl 1)
  · exact ⟨expansion, listed, same⟩
  · rw [single] at long
    exact absurd long (Nat.lt_irrefl 1)

theorem length_toUppercase_of_not_grows {character : Char} (steady : ¬Grows character) :
    (toUppercase character).length = 1 := by
  have filled := List.length_pos_iff.mpr (toUppercase_ne_nil character)
  have short := (not_or.mp steady).1
  omega

theorem expandCase_lowercaseExpansions {character : Char} (undotted : character ≠ 'İ') :
    expandCase lowercaseExpansions character = none := by
  rw [expandCase, Option.map_eq_none_iff, List.find?_eq_none]
  intro expansion listed same
  rw [lowercaseExpansions, List.mem_singleton] at listed
  rw [listed, beq_iff_eq] at same
  apply undotted
  rw [← Char.ofNat_toNat character, ← same]

theorem length_toLowercase {character : Char} (undotted : character ≠ 'İ') :
    (toLowercase character).length = 1 := by
  rw [toLowercase, expandCase_lowercaseExpansions undotted]
  split <;> rfl

def CaseShift.mayReach (shift : CaseShift) (point : Nat) : Bool :=
  Nat.ble (shift.first + shift.distance).toNat point &&
    Nat.ble point (shift.last + shift.distance).toNat

theorem CaseShift.mayReach_of_holds {shift : CaseShift} {source : Nat}
    (holds : shift.holds source = true) :
    shift.mayReach (source + shift.distance).toNat = true := by
  have bounds := bounds_of_holds holds
  rw [mayReach, Bool.and_eq_true, Nat.ble_eq, Nat.ble_eq]
  omega

private theorem uppercaseExpansions_positive : ∀ expansion ∈ uppercaseExpansions, 0 < expansion.1 :=
    by
  decide

private theorem source_of_expansion : ∀ shift ∈ lowercaseShifts,
    ∀ expansion ∈ uppercaseExpansions.filter (shift.mayReach ·.1),
      shift.holds (expansion.1 - shift.distance).toNat = true →
        (expansion.1 - shift.distance).toNat = 'ẞ'.toNat ∨
          1 < (toUppercase (Char.ofNat (expansion.1 - shift.distance).toNat)).length := by
  decide +kernel

private theorem length_toUppercase_shiftCase {character : Char} (steady : ¬Grows character) :
    (toUppercase (shiftCase lowercaseShifts character)).length = 1 := by
  rcases shiftCase_cases lowercaseShifts character with
    ⟨stays, -⟩ | isNull | ⟨shift, listed, holds, lands⟩
  · rw [stays]
    exact length_toUppercase_of_not_grows steady
  · rw [isNull]
    rfl
  · have reaches := CaseShift.mayReach_of_holds holds
    rw [← lands] at reaches
    generalize shiftCase lowercaseShifts character = lowered at lands reaches ⊢
    have filled := List.length_pos_iff.mpr (toUppercase_ne_nil lowered)
    refine Decidable.byContradiction fun differs => ?_
    have long : 1 < (toUppercase lowered).length := by omega
    rcases exists_expansion_of_length long with ⟨expansion, expansionListed, same⟩
    -- The character is the only one that this shift takes to the expanded one.
    have expanded := uppercaseExpansions_positive expansion expansionListed
    have source : (expansion.1 - shift.distance).toNat = character.toNat := by omega
    have grown := source_of_expansion shift listed expansion
      (List.mem_filter.mpr ⟨expansionListed, by rwa [same]⟩)
    rw [source, Char.ofNat_toNat] at grown
    rcases grown holds with sharp | longer
    · exact steady (.inr (.inr (Char.toNat_inj.mp sharp)))
    · exact steady (.inl longer)

theorem length_toUppercase_of_mem_toLowercase {character lowered : Char}
    (steady : ¬Grows character) (member : lowered ∈ toLowercase character) :
    (toUppercase lowered).length = 1 := by
  rw [toLowercase] at member
  split at member
  · rename_i ascii
    have single := (ascii_facts character.toNat ascii).2.2.2
    rw [Char.ofNat_toNat] at single
    rw [List.mem_singleton.mp member]
    exact single
  · have undotted : character ≠ 'İ' := fun dotted => steady (.inr (.inl dotted))
    rw [expandCase_lowercaseExpansions undotted, Option.getD_none, List.mem_singleton] at member
    rw [member]
    exact length_toUppercase_shiftCase steady

def growingPoints : List Nat :=
  'İ'.toNat :: 'ẞ'.toNat :: uppercaseExpansions.map (·.1)

theorem toNat_mem_growingPoints {character : Char} (grows : Grows character) :
    character.toNat ∈ growingPoints := by
  rw [growingPoints, List.mem_cons, List.mem_cons]
  rcases grows with long | rfl | rfl
  · rcases exists_expansion_of_length long with ⟨expansion, listed, same⟩
    exact .inr (.inr (List.mem_map.mpr ⟨expansion, listed, same⟩))
  · exact .inl rfl
  · exact .inr (.inl rfl)

private theorem growingPoints_alphanumeric : ∀ point ∈ growingPoints, 0x80 ≤ point ∧
    alphanumericSpans.any (fun span => Nat.ble span.first point && Nat.ble point span.last) =
      true := by
  decide +kernel

theorem isAlphanumeric_of_grows {character : Char} (grows : Grows character) :
    isAlphanumeric character = true := by
  rcases growingPoints_alphanumeric _ (toNat_mem_growingPoints grows) with ⟨notAscii, within⟩
  rcases List.any_eq_true.mp within with ⟨span, listed, bounds⟩
  rw [Bool.and_eq_true, Nat.ble_eq, Nat.ble_eq] at bounds
  rw [isAlphanumeric, if_neg (Nat.not_lt.mpr notAscii), inSpans_eq_true_iff]
  exact ⟨span, listed, bounds⟩

end ChatMemory.Unicode
