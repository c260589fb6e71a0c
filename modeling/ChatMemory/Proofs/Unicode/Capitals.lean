import ChatMemory.Proofs.Unicode.CaseMapping

/-!
Which texts in lower case become equal once their first characters are capitals. Main statement:
they differ in their first characters alone, which have the same capital; or one begins with `ẚ`,
which has a capital of two characters, and the other one with these two in lower case.
-/

namespace ChatMemory.Unicode

/-! ## Characters that are never lower case -/

/-- The points after the first one in all expansions but that of `ẚ`. -/
def laterCapitalPoints : List Nat :=
  (uppercaseExpansions.filter (·.1 != 'ẚ'.toNat)).flatMap (·.2.tail)

/-- Points of characters that are alone the lower case of no letter or digit: the capitals that the
upper case of other characters consists of, and the dot that remains of `İ`. -/
def unloweredPoints : List Nat :=
  '\u0307'.toNat :: List.range' 'A'.toNat 26 ++ laterCapitalPoints

private theorem unloweredPoints_unreachable :
    (unloweredPoints.all fun point => lowercaseShifts.all (!·.mayReach point)) = true := by
  decide +kernel

private theorem unloweredPoints_shifted_or_unlettered :
    (unloweredPoints.all fun point => lowercaseShifts.any (·.holds point) ||
      Nat.blt point 0x80 || alphanumericSpans.all (·.isApart ⟨point, point⟩)) = true := by
  decide +kernel

private theorem unloweredPoints_valid :
    ∀ point ∈ unloweredPoints, (Char.ofNat point).toNat = point ∧ point ≠ 0 := by
  decide +kernel

private theorem toNat_toLower_notMem_unloweredPoints :
    ∀ point < 0x80, (Char.ofNat point).toLower.toNat ∉ unloweredPoints := by
  decide +kernel

def IsWordCharacter (character : Char) : Prop :=
  character = ' ' ∨ isAlphanumeric character = true

section Lowered

variable {original character : Char}

private theorem shiftCase_notMem_unloweredPoints (notAscii : 0x80 ≤ original.toNat)
    (alphanumeric : isAlphanumeric original = true) :
    (shiftCase lowercaseShifts original).toNat ∉ unloweredPoints := by
  intro listed
  rcases shiftCase_cases lowercaseShifts original with
    ⟨stays, unshifted⟩ | isNull | ⟨shift, shiftListed, holds, lands⟩
  · rw [stays] at listed
    have known := List.all_eq_true.mp unloweredPoints_shifted_or_unlettered _ listed
    rw [isAlphanumeric, if_neg (Nat.not_lt.mpr notAscii), inSpans_eq_true_iff] at alphanumeric
    rcases alphanumeric with ⟨span, spanListed, atLeast, atMost⟩
    rw [Bool.or_eq_true, Bool.or_eq_true, List.any_eq_true, Nat.blt_eq, List.all_eq_true] at known
    rcases known with (⟨shift, shiftListed, holds⟩ | ascii) | unlettered
    · exact unshifted shift shiftListed holds
    · omega
    · have apart := unlettered span spanListed
      rw [Span.isApart, Bool.or_eq_true, Nat.blt_eq, Nat.blt_eq] at apart
      dsimp only at apart
      omega
  · rw [isNull] at listed
    exact (unloweredPoints_valid _ listed).2 rfl
  · have unreachable := List.all_eq_true.mp
      (List.all_eq_true.mp unloweredPoints_unreachable _ listed) shift shiftListed
    rw [lands, CaseShift.mayReach_of_holds holds] at unreachable
    exact absurd unreachable Bool.false_ne_true

private theorem toLowercase_dotted : toLowercase 'İ' = ['i', '\u0307'] := by
  decide

theorem notMem_unloweredPoints (isWord : IsWordCharacter original)
    (lowered : toLowercase original = [character]) : character.toNat ∉ unloweredPoints := by
  have undotted : original ≠ 'İ' := by
    rintro rfl
    rw [toLowercase_dotted] at lowered
    cases lowered
  rw [toLowercase, expandCase_lowercaseExpansions undotted, Option.getD_none] at lowered
  split at lowered
  · rename_i ascii
    have unlisted := toNat_toLower_notMem_unloweredPoints original.toNat ascii
    rw [Char.ofNat_toNat] at unlisted
    rwa [← List.singleton_inj.mp lowered]
  · rename_i notAscii
    have alphanumeric : isAlphanumeric original = true :=
      isWord.resolve_left (by rintro rfl; exact notAscii (by decide))
    rw [← List.singleton_inj.mp lowered]
    exact shiftCase_notMem_unloweredPoints (Nat.not_lt.mp notAscii) alphanumeric

private theorem toLowercase_eq_singleton (undotted : original ≠ 'İ')
    (member : character ∈ toLowercase original) : toLowercase original = [character] := by
  rcases List.length_eq_one_iff.mp (length_toLowercase undotted) with ⟨single, lowered⟩
  rw [lowered, List.mem_singleton] at member
  rw [lowered, member]

theorem cons_eq_toLowercase_append {rest later : List Char}
    (same : character :: rest = toLowercase original ++ later) :
    toLowercase original = [character] ∧ rest = later ∨
      character = 'i' ∧ rest = '\u0307' :: later := by
  by_cases dotted : original = 'İ'
  · rw [dotted, toLowercase_dotted] at same
    exact .inr (List.cons.inj same)
  · rcases List.length_eq_one_iff.mp (length_toLowercase dotted) with ⟨single, lowered⟩
    rw [lowered] at same
    rcases List.cons.inj same with ⟨rfl, rfl⟩
    exact .inl ⟨lowered, rfl⟩

private theorem eq_dot_of_mem_unloweredPoints (isWord : IsWordCharacter original)
    (member : character ∈ toLowercase original) (listed : character.toNat ∈ unloweredPoints) :
    character = '\u0307' := by
  by_cases dotted : original = 'İ'
  · subst dotted
    rw [toLowercase_dotted, List.mem_cons, List.mem_singleton] at member
    rcases member with rfl | rfl
    · exact absurd listed (by decide)
    · rfl
  · exact absurd listed (notMem_unloweredPoints isWord (toLowercase_eq_singleton dotted member))

end Lowered

/-! ## Capitals of several characters -/

private theorem uppercaseExpansions_long :
    ∀ expansion ∈ uppercaseExpansions, 2 ≤ expansion.2.length := by
  decide

private theorem expansion_of_halfRing : ∀ expansion ∈ uppercaseExpansions,
    expansion.1 = 'ẚ'.toNat → expansion.2 = ['A'.toNat, 'ʾ'.toNat] := by
  decide

private theorem dot_notMem_laterCapitalPoints : '\u0307'.toNat ∉ laterCapitalPoints := by
  decide

private theorem uppercaseShifts_avoid_capital_a :
    (uppercaseShifts.all (!·.mayReach 'A'.toNat)) = true := by
  decide

private theorem eq_of_toUpper_eq_capital_a : ∀ point < 0x80,
    (Char.ofNat point).toUpper = 'A' →
      Char.ofNat point = 'a' ∨ Char.ofNat point = 'A' := by
  decide

variable {character : Char}

/-- What follows the first character of a capital is never lower case, except in the capital of
`ẚ`. -/
theorem later_of_mem_tail {later : Char} (member : later ∈ (toUppercase character).tail) :
    later.toNat ∈ laterCapitalPoints ∨ character = 'ẚ' ∧ toUppercase character = ['A', 'ʾ'] := by
  rcases toUppercase_cases character with
    ⟨-, capital⟩ | ⟨expansion, listed, same, capital⟩ | capital
  · rw [capital] at member
    cases member
  · by_cases halfRing : expansion.1 = 'ẚ'.toNat
    · rw [expansion_of_halfRing expansion listed halfRing] at capital
      exact .inr ⟨Char.toNat_inj.mp (same ▸ halfRing), capital⟩
    · rw [capital, ← List.map_tail, List.mem_map] at member
      rcases member with ⟨point, inTail, rfl⟩
      have isLater : point ∈ laterCapitalPoints := List.mem_flatMap.mpr
        ⟨expansion, List.mem_filter.mpr ⟨listed, bne_iff_ne.mpr halfRing⟩, inTail⟩
      rw [(unloweredPoints_valid point (List.mem_append_right _ isLater)).1]
      exact .inl isLater
  · rw [capital] at member
    cases member

private theorem eq_of_toUppercase_eq_capital_a (isCapitalA : toUppercase character = ['A']) :
    character = 'a' ∨ character = 'A' := by
  rcases toUppercase_cases character with
    ⟨ascii, capital⟩ | ⟨expansion, listed, -, capital⟩ | capital
  · have known := eq_of_toUpper_eq_capital_a character.toNat ascii
    rw [Char.ofNat_toNat] at known
    exact known (List.singleton_inj.mp (capital.symm.trans isCapitalA))
  · have long := uppercaseExpansions_long expansion listed
    have short := congrArg List.length (capital.symm.trans isCapitalA)
    rw [List.length_map, List.length_singleton] at short
    omega
  · have shifted := List.singleton_inj.mp (capital.symm.trans isCapitalA)
    rcases shiftCase_cases uppercaseShifts character with
      ⟨stays, -⟩ | isNull | ⟨shift, listed, holds, lands⟩
    · exact .inr (stays.symm.trans shifted)
    · exact absurd (isNull.symm.trans shifted) (by decide)
    · have avoided := List.all_eq_true.mp uppercaseShifts_avoid_capital_a shift listed
      rw [← shifted, lands, CaseShift.mayReach_of_holds holds] at avoided
      exact absurd avoided Bool.false_ne_true

/-! ## Texts that become equal -/

/-- Two different texts with one and the same form once they begin with a capital. -/
inductive Coincide : List Char → List Char → Prop
  | letter {first second : Char} (rest : List Char) (different : first ≠ second)
      (capital : toUppercase first = toUppercase second) :
      Coincide (first :: rest) (second :: rest)
  | halfRing (rest : List Char) : Coincide ('ẚ' :: rest) ('a' :: 'ʾ' :: rest)

variable {first second : List Char}

theorem Coincide.capitalize_eq (coincide : Coincide first second) :
    capitalize first = capitalize second := by
  cases coincide with
  | letter rest _ capital => rw [capitalize, capitalize, capital]
  | halfRing rest =>
      have capital : toUppercase 'ẚ' = ['A', 'ʾ'] := by decide
      rw [capitalize, capitalize, capital]
      rfl

theorem Coincide.ne (coincide : Coincide first second) : first ≠ second := by
  cases coincide with
  | letter rest different => exact fun same => different (List.cons.inj same).1
  | halfRing rest => exact fun same => absurd (List.cons.inj same).1 (by decide)

def OccursInLowerCase (character : Char) : Prop :=
  ∃ original, IsWordCharacter original ∧ character ∈ toLowercase original

private theorem coincide_of_longer_capital {short long next : Char} {spare : List Char}
    (rest : List Char)
    (shortLowered : OccursInLowerCase short) (nextLowered : OccursInLowerCase next)
    (capital : toUppercase long = toUppercase short ++ next :: spare) :
    Coincide (long :: rest) (short :: next :: spare ++ rest) := by
  have filled := toUppercase_ne_nil short
  have inTail : next ∈ (toUppercase long).tail := by
    rw [capital, List.tail_append_of_ne_nil filled]
    exact List.mem_append_right _ List.mem_cons_self
  rcases later_of_mem_tail inTail with later | ⟨rfl, halfRing⟩
  · -- Such a character stands nowhere in lower case, but for the dot, which is in no capital.
    rcases nextLowered with ⟨original, isWord, member⟩
    have isDot := eq_dot_of_mem_unloweredPoints isWord member (List.mem_append_right _ later)
    rw [isDot] at later
    exact absurd later dot_notMem_laterCapitalPoints
  · rw [halfRing] at capital
    rcases List.exists_cons_of_ne_nil filled with ⟨head, others, shortCapital⟩
    rw [shortCapital, List.cons_append, List.cons.injEq] at capital
    rcases capital with ⟨rfl, remains⟩
    rcases List.append_eq_singleton_iff.mp remains.symm with ⟨none, same⟩ | ⟨-, absent⟩
    · rcases List.cons.inj same with ⟨rfl, rfl⟩
      rw [none] at shortCapital
      rcases eq_of_toUppercase_eq_capital_a shortCapital with rfl | rfl
      · exact .halfRing rest
      · rcases shortLowered with ⟨original, isWord, member⟩
        have isDot := eq_dot_of_mem_unloweredPoints isWord member (by decide)
        exact absurd isDot (by decide)
    · cases absent

private theorem coincide_of_capital_append {short long : Char} {spare rest : List Char}
    (different : long :: rest ≠ short :: (spare ++ rest)) (shortLowered : OccursInLowerCase short)
    (restLowered : ∀ character ∈ spare ++ rest, OccursInLowerCase character)
    (capital : toUppercase long = toUppercase short ++ spare) :
    Coincide (long :: rest) (short :: (spare ++ rest)) := by
  cases spare with
  | nil =>
      rw [List.append_nil] at capital
      exact .letter rest (fun equal => different (by rw [equal]; rfl)) capital
  | cons next spare =>
      exact coincide_of_longer_capital rest shortLowered
        (restLowered next List.mem_cons_self) capital

theorem coincide_of_capitalize_eq (firstLower : IsLowerCaseOf IsWordCharacter first)
    (secondLower : IsLowerCaseOf IsWordCharacter second) (different : first ≠ second)
    (same : capitalize first = capitalize second) :
    Coincide first second ∨ Coincide second first := by
  have firstLowered : ∀ character ∈ first, OccursInLowerCase character :=
    fun _ member => firstLower.exists_of_mem member
  have secondLowered : ∀ character ∈ second, OccursInLowerCase character :=
    fun _ member => secondLower.exists_of_mem member
  cases first with
  | nil =>
      cases second with
      | nil => exact absurd rfl different
      | cons letter rest =>
          exact absurd (List.append_eq_nil_iff.mp same.symm).1 (toUppercase_ne_nil letter)
  | cons firstLetter firstRest =>
      cases second with
      | nil => exact absurd (List.append_eq_nil_iff.mp same).1 (toUppercase_ne_nil firstLetter)
      | cons secondLetter secondRest =>
          rw [List.forall_mem_cons] at firstLowered secondLowered
          rcases List.append_eq_append_iff.mp same with
            ⟨spare, longer, rfl⟩ | ⟨spare, longer, rfl⟩
          · exact .inr (coincide_of_capital_append different.symm firstLowered.1 firstLowered.2
              longer)
          · exact .inl (coincide_of_capital_append different secondLowered.1 secondLowered.2
              longer)

/-! ## Letters with the same capital -/

private theorem toLower_toUpper_of_notMem : ∀ point < 0x80,
    (Char.ofNat point).toNat ∉ unloweredPoints →
      (Char.ofNat point).toUpper.toLower = Char.ofNat point := by
  decide +kernel

theorem notAscii_of_toUppercase_eq {first second : Char}
    (firstLower : first.toNat ∉ unloweredPoints) (secondLower : second.toNat ∉ unloweredPoints)
    (different : first ≠ second) (capital : toUppercase first = toUppercase second) :
    0x80 ≤ first.toNat ∨ 0x80 ≤ second.toNat := by
  rw [← Nat.not_lt, ← Nat.not_lt, ← Decidable.not_and_iff_or_not]
  rintro ⟨firstAscii, secondAscii⟩
  have firstBack := toLower_toUpper_of_notMem first.toNat firstAscii
  have secondBack := toLower_toUpper_of_notMem second.toNat secondAscii
  rw [Char.ofNat_toNat] at firstBack secondBack
  rw [toUppercase, toUppercase, if_pos firstAscii, if_pos secondAscii,
    List.singleton_inj] at capital
  apply different
  calc first = first.toUpper.toLower := (firstBack firstLower).symm
    _ = second.toUpper.toLower := by rw [capital]
    _ = second := secondBack secondLower

end ChatMemory.Unicode
