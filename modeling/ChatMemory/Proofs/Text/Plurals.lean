import ChatMemory.Text.Stem
import Mathlib.Data.List.Basic

/-!
Stems of plurals. Main statement: a regular plural has the stem of its singular, unless the
singular ends in a double letter, which `eggs` loses with its ending and `egg` keeps, or the plural
is read as that of another word, as `movies` is.
-/

namespace ChatMemory.Text

/-! ## Double letters -/

/-- The text ends in two equal letters of those that do not stay double. -/
def EndsInDouble (text : List Char) : Prop :=
  ∃ start letter, text = start ++ [letter, letter] ∧ letter ∉ lastingDoubles

private theorem undouble_cases (text : List Char) :
    undouble text = text ∨ EndsInDouble text ∧ undouble text = text.dropLast := by
  rw [undouble]
  split
  · rename_i last second rest reversed
    rw [List.reverse_eq_iff] at reversed
    split
    · rename_i double
      rw [Bool.and_eq_true, beq_iff_eq, Bool.not_eq_true', List.contains_eq_mem,
        decide_eq_false_iff_not] at double
      refine .inr ⟨⟨rest.reverse, last, ?_, double.2⟩, rfl⟩
      simp [reversed, double.1]
    · exact .inl rfl
  · exact .inl rfl

private theorem undouble_eq_self_iff {text : List Char} :
    undouble text = text ↔ ¬EndsInDouble text := by
  constructor
  · rintro same ⟨start, letter, rfl, single⟩
    rw [undouble] at same
    simp [single] at same
  · intro single
    exact (undouble_cases text).resolve_right fun double => single double.1

private theorem length_undouble (text : List Char) :
    (undouble text).length ≤ text.length ∧ text.length ≤ (undouble text).length + 1 := by
  rcases undouble_cases text with same | ⟨-, shorter⟩
  · rw [same]
    omega
  · rw [shorter, List.length_dropLast]
    omega

/-! ## Sounds at the end -/

def EndsIn (sounds : List String) (text : List Char) : Prop :=
  ∃ sound ∈ sounds, sound.toList <:+ text

instance (sounds : List String) (text : List Char) : Decidable (EndsIn sounds text) :=
  inferInstanceAs (Decidable (∃ sound ∈ sounds, sound.toList <:+ text))

private theorem endsInSibilant_iff {text : List Char} :
    endsInSibilant text = true ↔ EndsIn ["s", "x", "z", "ch", "sh"] text := by
  simp [endsInSibilant, sibilants, EndsIn]

theorem EndsIn.append {sounds : List String} {text : List Char} (ends : EndsIn sounds text)
    (start : List Char) : EndsIn sounds (start ++ text) := by
  rcases ends with ⟨sound, listed, before⟩
  exact ⟨sound, listed, before.trans (List.suffix_append start text)⟩

/-! ## Cutting off one ending -/

private theorem cutEnding?_append {left : List Char} (enough : shortestStem ≤ left.length)
    (ending : List Char) :
    cutEnding? (left ++ ending) ending =
      if ending = ['e', 's'] ∧ endsInSibilant left = false then none
      else if ending = ['i', 'e', 's'] ∨ ending = ['i', 'e', 'd'] then
        some (undouble (left ++ ['y']))
      else some (undouble left) := by
  have suffix : ending.isSuffixOf (left ++ ending) = true := by simp
  have room : ending.length + shortestStem ≤ (left ++ ending).length := by
    rw [List.length_append]
    omega
  have kept : (left ++ ending).take ((left ++ ending).length - ending.length) = left := by
    simp
  rw [cutEnding?, suffix, decide_eq_true room, kept]
  simp

private theorem cutEnding?_eq_none {term ending : List Char}
    (without : ∀ left, shortestStem ≤ left.length → term ≠ left ++ ending) :
    cutEnding? term ending = none := by
  rw [cutEnding?, if_neg]
  intro cuts
  rw [Bool.and_eq_true, List.isSuffixOf_iff_suffix, decide_eq_true_eq] at cuts
  rcases cuts with ⟨⟨left, rfl⟩, room⟩
  rw [List.length_append] at room
  exact without left (by omega) rfl

/-- After the text the ending goes without leaving a letter in its place. -/
structure GoesAfter (text ending : List Char) : Prop where
  notIes : ending ≠ ['i', 'e', 's']
  notIed : ending ≠ ['i', 'e', 'd']
  es : ending = ['e', 's'] → EndsIn ["s", "x", "z", "ch", "sh"] text

theorem GoesAfter.cutEnding? {left ending : List Char} (goes : GoesAfter left ending)
    (enough : shortestStem ≤ left.length) :
    Text.cutEnding? (left ++ ending) ending = some (undouble left) := by
  have cut : ¬(ending = ['e', 's'] ∧ endsInSibilant left = false) := by
    rintro ⟨es, hard⟩
    rw [endsInSibilant_iff.mpr (goes.es es)] at hard
    cases hard
  have plain : ¬(ending = ['i', 'e', 's'] ∨ ending = ['i', 'e', 'd']) :=
    not_or.mpr ⟨goes.notIes, goes.notIed⟩
  rw [cutEnding?_append enough, if_neg cut, if_neg plain]

private theorem exists_of_cutEnding? {term ending cut : List Char}
    (found : cutEnding? term ending = some cut) :
    ∃ left, shortestStem ≤ left.length ∧ term = left ++ ending ∧
      (GoesAfter left ending ∧ cut = undouble left ∨
        ending.length = 3 ∧ cut = undouble (left ++ ['y'])) := by
  by_cases ends : ∃ left, shortestStem ≤ left.length ∧ term = left ++ ending
  · rcases ends with ⟨left, enough, rfl⟩
    rw [cutEnding?_append enough] at found
    refine ⟨left, enough, rfl, ?_⟩
    split_ifs at found with hard restored
    · refine .inr ⟨?_, (Option.some.inj found).symm⟩
      rcases restored with rfl | rfl <;> rfl
    · rw [not_or] at restored
      refine .inl ⟨⟨restored.1, restored.2, fun es => ?_⟩, (Option.some.inj found).symm⟩
      by_contra unheard
      rw [← endsInSibilant_iff, Bool.not_eq_true] at unheard
      exact hard ⟨es, unheard⟩
  · rw [cutEnding?_eq_none fun left enough same => ends ⟨left, enough, same⟩] at found
    cases found

private theorem length_cut_add_le {term ending cut : List Char}
    (found : cutEnding? term ending = some cut) :
    cut.length + min ending.length 2 ≤ term.length := by
  rcases exists_of_cutEnding? found with ⟨left, -, rfl, ⟨-, rfl⟩ | ⟨three, rfl⟩⟩
  · have short := (length_undouble left).1
    rw [List.length_append]
    omega
  · have short := (length_undouble (left ++ ['y'])).1
    rw [List.length_append, List.length_singleton] at short
    rw [List.length_append]
    omega

/-! ## Terms without an ending -/

private theorem length_pos_of_mem_endings : ∀ ending ∈ endings, 0 < ending.length := by
  decide

private theorem stemOf_eq_self_iff {term : List Char} :
    stemOf term = term ↔ ∀ ending ∈ endings, cutEnding? term ending = none := by
  rw [stemOf, ← List.findSome?_eq_none_iff]
  cases found : endings.findSome? (cutEnding? term) with
  | none => simp
  | some cut =>
      rcases List.exists_of_findSome?_eq_some found with ⟨ending, listed, cuts⟩
      have shorter := length_cut_add_le cuts
      have filled := length_pos_of_mem_endings ending listed
      refine iff_of_false (fun same => ?_) (by simp)
      rw [Option.getD_some] at same
      rw [same] at shorter
      omega

/-! ## Plurals in `s` -/

/-- The plural in `s` is also that of another word: `cities` is read as the plural of `city` and not
of `citie`, `boxes` as that of `box` and not of `boxe`. -/
def IsReadOtherwise (term : List Char) : Prop :=
  ∃ left, shortestStem ≤ left.length ∧
    (term = left ++ ['i', 'e'] ∨
      term = left ++ ['e'] ∧ EndsIn ["s", "x", "z", "ch", "sh"] left)

/-- The endings but `s` of which the plural of a term can have one. Either the term has an ending
itself, or it ends in a sibilant, or its plural is read otherwise. -/
theorem ending_cases : ∀ ending ∈ endings.dropLast,
    ending.getLast? ≠ some 's' ∨
      ending = ending.dropLast ++ ['s'] ∧
        (ending.dropLast ∈ [['a', 't', 'i', 'o', 'n'], ['i', 'n', 'g'], ['e', 'r']] ∨
          ['s'] <:+ ending.dropLast ∨ ending = ['i', 'e', 's'] ∨ ending = ['e', 's']) := by
  decide

private theorem mem_endings_of_plain :
    ∀ ending ∈ [['a', 't', 'i', 'o', 'n'], ['i', 'n', 'g'], ['e', 'r']],
      ending ∈ endings ∧ ending ≠ ['i', 'e', 's'] ∧ ending ≠ ['i', 'e', 'd'] ∧
        ending ≠ ['e', 's'] := by
  decide

private theorem goesAfter_plain {left ending : List Char}
    (plain : ending ∈ [['a', 't', 'i', 'o', 'n'], ['i', 'n', 'g'], ['e', 'r']]) :
    GoesAfter left ending := by
  rcases mem_endings_of_plain ending plain with ⟨-, notIes, notIed, notEs⟩
  exact ⟨notIes, notIed, fun es => absurd es notEs⟩

section

variable {term : List Char}

private theorem cutEnding?_plural_iff (unchanged : stemOf term = term)
    (hard : ¬EndsIn ["s", "x", "z", "ch", "sh"] term) :
    (∀ ending ∈ endings.dropLast, cutEnding? (term ++ ['s']) ending = none) ↔
      ¬IsReadOtherwise term := by
  constructor
  · rintro none ⟨left, enough, rfl | ⟨rfl, sibilant⟩⟩
    · have cut := none ['i', 'e', 's'] (by decide)
      rw [List.append_assoc] at cut
      have cuts := cutEnding?_append enough ['i', 'e', 's']
      exact absurd (cuts.symm.trans cut) (by simp)
    · have cut := none ['e', 's'] (by decide)
      rw [List.append_assoc] at cut
      have cuts := cutEnding?_append enough ['e', 's']
      rw [endsInSibilant_iff.mpr sibilant] at cuts
      exact absurd (cuts.symm.trans cut) (by simp)
  · intro notOtherwise ending listed
    rw [Option.eq_none_iff_forall_ne_some]
    intro cut cuts
    rcases exists_of_cutEnding? cuts with ⟨left, enough, same, -⟩
    rcases ending_cases ending listed with otherLast | ⟨split, kind⟩
    · apply otherLast
      have filled := length_pos_of_mem_endings ending (List.dropLast_subset _ listed)
      have last := congrArg List.getLast? same
      rw [List.getLast?_concat, List.getLast?_append_of_ne_nil _ (List.ne_nil_of_length_pos filled)]
        at last
      exact last.symm
    · have singular : term = left ++ ending.dropLast := by
        rw [split, ← List.append_assoc, List.append_left_inj] at same
        exact same
      rcases kind with plain | ⟨start, sibilant⟩ | rfl | rfl
      · have none := stemOf_eq_self_iff.mp unchanged _ (mem_endings_of_plain _ plain).1
        rw [singular, (goesAfter_plain plain).cutEnding? enough] at none
        cases none
      · apply hard
        refine ⟨"s", by simp, left ++ start, ?_⟩
        rw [singular, ← sibilant, List.append_assoc]
        rfl
      · exact notOtherwise ⟨left, enough, .inl singular⟩
      · by_cases sibilant : endsInSibilant left = true
        · exact notOtherwise ⟨left, enough, .inr ⟨singular, endsInSibilant_iff.mp sibilant⟩⟩
        · rw [same, cutEnding?_append enough, if_pos ⟨rfl, Bool.not_eq_true _ ▸ sibilant⟩] at cuts
          cases cuts

private theorem endings_eq : endings = endings.dropLast ++ [['s']] := by
  decide

private theorem one_lt_length_of_mem_endings : ∀ ending ∈ endings.dropLast, 1 < ending.length := by
  decide

private theorem stemOf_plural_iff (long : shortestStem ≤ term.length) :
    stemOf (term ++ ['s']) = term ↔ ¬EndsInDouble term ∧
      ∀ ending ∈ endings.dropLast, cutEnding? (term ++ ['s']) ending = none := by
  rw [stemOf, endings_eq, List.findSome?_append, ← List.findSome?_eq_none_iff, ← endings_eq]
  cases found : endings.dropLast.findSome? (cutEnding? (term ++ ['s'])) with
  | none =>
      have last : cutEnding? (term ++ ['s']) ['s'] = some (undouble term) := by
        rw [cutEnding?_append long]
        simp
      simp [last, undouble_eq_self_iff]
  | some cut =>
      rcases List.exists_of_findSome?_eq_some found with ⟨ending, listed, cuts⟩
      have shorter := length_cut_add_le cuts
      have more := one_lt_length_of_mem_endings ending listed
      refine iff_of_false (fun same => ?_) (by simp)
      rw [Option.some_or, Option.getD_some] at same
      rw [same, List.length_append, List.length_singleton] at shorter
      omega

/-! ## Plurals in `es` -/

private theorem endings_split_es : endings = endings.take 11 ++ ['e', 's'] :: endings.drop 12 := by
  decide

private theorem ending_before_es : ∀ ending ∈ endings.take 11,
    ¬ending <:+ ['e', 's'] ∧ (['e', 's'] <:+ ending → ending = ['i', 'e', 's']) := by
  decide

private theorem EndsIn.getLast?_ne_i (soft : EndsIn ["x", "z", "ch", "sh"] term) :
    term.getLast? ≠ some 'i' := by
  rcases soft with ⟨sound, listed, start, rfl⟩
  simp only [List.mem_cons, List.not_mem_nil, or_false] at listed
  rcases listed with rfl | rfl | rfl | rfl <;> simp

private theorem stemOf_plural_es (long : shortestStem ≤ term.length)
    (soft : EndsIn ["x", "z", "ch", "sh"] term) :
    stemOf (term ++ ['e', 's']) = undouble term := by
  have earlier : ∀ ending ∈ endings.take 11,
      cutEnding? (term ++ ['e', 's']) ending = none := by
    intro ending listed
    apply cutEnding?_eq_none
    intro left _ same
    rcases ending_before_es ending listed with ⟨notWithin, onlyIes⟩
    rcases List.suffix_or_suffix_of_suffix ⟨term, same⟩ (List.suffix_append left ending)
      with around | within
    · rw [onlyIes around, List.append_cons left, List.append_left_inj] at same
      exact soft.getLast?_ne_i (same ▸ List.getLast?_concat)
    · exact notWithin within
  have sibilant : EndsIn ["s", "x", "z", "ch", "sh"] term := by
    rcases soft with ⟨sound, listed, ends⟩
    exact ⟨sound, List.mem_cons_of_mem "s" listed, ends⟩
  have goes : GoesAfter term ['e', 's'] := ⟨by decide, by decide, fun _ => sibilant⟩
  rw [stemOf, endings_split_es, List.findSome?_append, List.findSome?_eq_none_iff.mpr earlier,
    Option.none_or, List.findSome?_cons, goes.cutEnding? long, Option.getD_some]

/-! ## Short stems -/

/-- The text is as short as can be before an ending, and ends in a double letter there. -/
def IsCutShort (text : List Char) : Prop :=
  ∃ start, ∃ ending ∈ endings, start.length = shortestStem ∧ text = start ++ ending ∧
    EndsInDouble start ∧ GoesAfter start ending

private theorem endings_longest_first :
    endings.Pairwise fun earlier later => later.length ≤ earlier.length := by
  decide

private theorem stemOf_of_shortest {start ending cut : List Char} (listed : ending ∈ endings)
    (exact : start.length = shortestStem) (cuts : cutEnding? (start ++ ending) ending = some cut) :
    stemOf (start ++ ending) = cut := by
  rw [stemOf]
  cases found : endings.findSome? (cutEnding? (start ++ ending)) with
  | none =>
      rw [List.findSome?_eq_none_iff] at found
      rw [found ending listed] at cuts
      cases cuts
  | some first =>
      rcases List.findSome?_eq_some_iff.mp found with ⟨earlier, taken, later, split, takes, none⟩
      have followed : ending ∈ taken :: later := by
        rw [split, List.mem_append] at listed
        refine listed.resolve_left fun before => ?_
        rw [none ending before] at cuts
        cases cuts
      -- What goes first is not shorter, and leaves no less, so that it is the same.
      have equal : ending = taken := by
        rcases List.mem_cons.mp followed with same | after
        · exact same
        · have ordered := endings_longest_first
          rw [split, List.pairwise_append, List.pairwise_cons] at ordered
          have longer := ordered.2.1.1 ending after
          rcases exists_of_cutEnding? takes with ⟨left, enough, same, -⟩
          have lengths := congrArg List.length same
          rw [List.length_append, List.length_append] at lengths
          exact (List.append_inj' same (by omega)).2
      subst equal
      rw [cuts] at takes
      rw [← Option.some.inj takes, Option.getD_some]

private theorem le_length_stemOf_iff (long : shortestStem ≤ term.length) :
    shortestStem ≤ (stemOf term).length ↔ ¬IsCutShort term := by
  constructor
  · rintro kept ⟨start, ending, listed, exact, rfl, double, goes⟩
    rw [stemOf_of_shortest listed exact (goes.cutEnding? (Nat.le_of_eq exact.symm))] at kept
    rcases undouble_cases start with same | ⟨-, shorter⟩
    · exact undouble_eq_self_iff.mp same double
    · rw [shorter, List.length_dropLast, exact] at kept
      exact absurd kept (by decide)
  · intro notShort
    rw [stemOf]
    cases found : endings.findSome? (cutEnding? term) with
    | none => exact long
    | some cut =>
        rw [Option.getD_some]
        rcases List.exists_of_findSome?_eq_some found with ⟨ending, listed, cuts⟩
        rcases exists_of_cutEnding? cuts with ⟨left, enough, split, ⟨goes, rfl⟩ | ⟨-, rfl⟩⟩
        · rcases Nat.lt_or_eq_of_le enough with more | exact
          · have kept := (length_undouble left).2
            omega
          · have single : ¬EndsInDouble left := fun double =>
              notShort ⟨left, ending, listed, exact.symm, split, double, goes⟩
            rw [undouble_eq_self_iff.mpr single]
            exact enough
        · have kept := (length_undouble (left ++ ['y'])).2
          rw [List.length_append, List.length_singleton] at kept
          omega

end

/-- A term of at least three letters that is its own stem is the stem of its plural in `s`, and
after a sibilant of its plural in `es`, just if it does not end in a double letter and the plural
in `s` is not read as that of another word. No stem is shorter than three letters, unless an ending
goes after three of which the last are a double letter. -/
theorem regular_plurals_share_stem {term : String} (long : 3 ≤ term.length) :
    (stem term = term →
      (¬EndsIn ["s", "x", "z", "ch", "sh"] term.toList →
        (stem (term ++ "s") = term ↔
          ¬EndsInDouble term.toList ∧ ¬IsReadOtherwise term.toList)) ∧
      (EndsIn ["x", "z", "ch", "sh"] term.toList →
        (stem (term ++ "es") = term ↔ ¬EndsInDouble term.toList))) ∧
    (3 ≤ (stem term).length ↔ ¬IsCutShort term.toList) := by
  have stem_eq_iff : ∀ other : String, stem other = term ↔ stemOf other.toList = term.toList := by
    intro other
    rw [stem, ← String.toList_inj, String.toList_ofList]
  rw [← String.length_toList] at long
  refine ⟨fun unchanged => ⟨fun hard => ?_, fun soft => ?_⟩, ?_⟩
  · rw [stem_eq_iff, String.toList_append]
    refine (stemOf_plural_iff long).trans (and_congr_right fun _ => ?_)
    exact cutEnding?_plural_iff ((stem_eq_iff term).mp unchanged) hard
  · rw [stem_eq_iff, String.toList_append]
    exact (stemOf_plural_es long soft).congr_left.trans undouble_eq_self_iff
  · rw [stem, String.length_ofList]
    exact le_length_stemOf_iff long

/-- `runtimes` ends in `es`, but `runtim` is no term that would take it. -/
theorem regular_plurals_share_stem_in_three_ways :
    (3 ≤ "runtime".length ∧ stem "runtime" = "runtime" ∧
      ¬EndsIn ["s", "x", "z", "ch", "sh"] "runtime".toList ∧
      ¬EndsInDouble "runtime".toList ∧ ¬IsReadOtherwise "runtime".toList ∧
      stem ("runtime" ++ "s") = "runtime") ∧
    (3 ≤ "box".length ∧ stem "box" = "box" ∧ EndsIn ["x", "z", "ch", "sh"] "box".toList ∧
      ¬EndsInDouble "box".toList ∧ stem ("box" ++ "es") = "box") ∧
    (3 ≤ "running".length ∧ 3 ≤ (stem "running").length ∧ ¬IsCutShort "running".toList) := by
  refine ⟨?_, ?_, ?_⟩
  · have long : 3 ≤ "runtime".length := by decide
    have unchanged : stem "runtime" = "runtime" := by decide
    have hard : ¬EndsIn ["s", "x", "z", "ch", "sh"] "runtime".toList := by decide
    have single : ¬EndsInDouble "runtime".toList := undouble_eq_self_iff.mp (by decide)
    have plain : ¬IsReadOtherwise "runtime".toList := by
      rintro ⟨left, -, same | ⟨same, sibilant⟩⟩
      · exact absurd (congrArg (List.take 2 ·.reverse) same) (by simp)
      · have rest := congrArg List.dropLast same
        rw [List.dropLast_concat] at rest
        subst rest
        exact absurd sibilant (by decide)
    have shared := ((regular_plurals_share_stem long).1 unchanged).1 hard
    exact ⟨long, unchanged, hard, single, plain, shared.mpr ⟨single, plain⟩⟩
  · have long : 3 ≤ "box".length := by decide
    have unchanged : stem "box" = "box" := by decide
    have soft : EndsIn ["x", "z", "ch", "sh"] "box".toList := by decide
    have single : ¬EndsInDouble "box".toList := undouble_eq_self_iff.mp (by decide)
    have shared := ((regular_plurals_share_stem long).1 unchanged).2 soft
    exact ⟨long, unchanged, soft, single, shared.mpr single⟩
  · have long : 3 ≤ "running".length := by decide
    have kept : 3 ≤ (stem "running").length := by decide
    exact ⟨long, kept, (regular_plurals_share_stem long).2.mp kept⟩

/-- `egg` keeps both of its last letters and `eggs` does not, so that less than three are left of
it; `buzz` and `buzzes` differ likewise. Without a double letter `movies` is read as the plural of
`movy`, and `caches` as that of `cach`. -/
theorem plural_may_have_other_stem :
    (3 ≤ "egg".length ∧ stem "egg" = "egg" ∧ ¬EndsIn ["s", "x", "z", "ch", "sh"] "egg".toList ∧
      stem ("egg" ++ "s") = "eg" ∧ (stem "eggs").length < 3) ∧
    (3 ≤ "buzz".length ∧ stem "buzz" = "buzz" ∧ EndsIn ["x", "z", "ch", "sh"] "buzz".toList ∧
      stem ("buzz" ++ "es") = "buz") ∧
    (stem "movie" = "movie" ∧ ¬EndsIn ["s", "x", "z", "ch", "sh"] "movie".toList ∧
      stem ("movie" ++ "s") = "movy") ∧
    stem "cache" = "cache" ∧ ¬EndsIn ["s", "x", "z", "ch", "sh"] "cache".toList ∧
    stem ("cache" ++ "s") = "cach" := by
  decide

end ChatMemory.Text
