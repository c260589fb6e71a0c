import ChatMemory.Proofs.Format.Digits
import ChatMemory.Proofs.Time.Calendar
import ChatMemory.Time.Rfc3339
import Mathlib.Algebra.GroupWithZero.Nat
import Mathlib.Data.List.TakeWhile

/-!
Instants as text. Main statement: every instant that the calendar reaches is read back from the
text that is written for it.
-/

namespace ChatMemory.Rfc3339

open Unicode

/-! ### Numbers -/

private theorem isBlank_of_isDigit {character : Char} (digit : character.isDigit = true) :
    isBlank character = false := by
  simp only [Char.isDigit, UInt32.le_iff_toNat_le, Bool.and_eq_true, decide_eq_true_eq] at digit
  have bounds : 48 ≤ character.toNat ∧ character.toNat ≤ 57 := digit
  simp only [isBlank, inSpans, blankSpans, List.any_cons, List.any_nil, Span.holds,
    Bool.or_eq_false_iff, Bool.and_eq_false_iff, decide_eq_false_iff_not, and_true]
  omega

private theorem skipBlanks_of_head {text : List Char}
    (visible : ∀ character ∈ text.head?, isBlank character = false) : skipBlanks text = text := by
  cases text with
  | nil => rfl
  | cons character rest =>
      have first := visible character rfl
      rw [skipBlanks, List.dropWhile_cons_of_neg (by simp [first])]

private theorem isBlank_of_mem_head?_digits {digits rest : List Char}
    (allDigits : ∀ digit ∈ digits, digit.isDigit = true) (present : digits ≠ []) :
    ∀ character ∈ (digits ++ rest).head?, isBlank character = false := by
  intro character first
  rw [List.head?_append_of_ne_nil _ present] at first
  exact isBlank_of_isDigit (allDigits character (List.mem_of_mem_head? first))

private theorem skipBlanks_digits {digits rest : List Char}
    (allDigits : ∀ digit ∈ digits, digit.isDigit = true) (present : digits ≠ []) :
    skipBlanks (digits ++ rest) = digits ++ rest :=
  skipBlanks_of_head (isBlank_of_mem_head?_digits allDigits present)

private theorem digitsUpTo_append {limit : Nat} {digits rest : List Char}
    (allDigits : ∀ digit ∈ digits, digit.isDigit = true) (short : digits.length ≤ limit)
    (ends : digits.length = limit ∨ ∀ character ∈ rest.head?, character.isDigit = false) :
    digitsUpTo limit (digits ++ rest) = digits := by
  rw [digitsUpTo, List.take_append, List.take_of_length_le short,
    List.takeWhile_append_of_pos allDigits]
  rcases ends with full | ends
  · simp [full]
  · cases rest with
    | nil => simp
    | cons character others =>
        have other := ends character rfl
        cases left : limit - digits.length with
        | zero => simp
        | succ left => simp [other]

private theorem number?_append {limit : Nat} {digits rest : List Char}
    (allDigits : ∀ digit ∈ digits, digit.isDigit = true) (present : digits ≠ [])
    (short : digits.length ≤ limit)
    (ends : digits.length = limit ∨ ∀ character ∈ rest.head?, character.isDigit = false) :
    number? limit (digits ++ rest) = some (digitsValue digits, rest) := by
  rw [number?, skipBlanks_digits allDigits present, digitsUpTo_append allDigits short ends]
  simp [present]

private theorem isDigit_of_mem_padded {width value : Nat} :
    ∀ digit ∈ padded width value, digit.isDigit = true := by
  intro digit member
  rw [padded, List.mem_append] at member
  rcases member with zero | digitOf
  · rw [List.eq_of_mem_replicate zero]
    rfl
  · exact all_isDigit_toDigits value digit digitOf

private theorem padded_ne_nil (width value : Nat) : padded width value ≠ [] := by
  simp [padded, Nat.toDigits_ne_nil]

private theorem length_padded {width value : Nat} (positive : 0 < width) (fits : value < 10 ^ width)
    :
    (padded width value).length = width := by
  have short := (Nat.length_toDigits_le_iff (by decide) positive).mpr fits
  rw [padded, List.length_append, List.length_replicate]
  omega

@[simp] private theorem digitsValue_padded (width value : Nat) :
    digitsValue (padded width value) = value :=
    by
  rw [padded, digitsValue_zeros_append, digitsValue_toDigits]

private theorem number?_padded {width value : Nat} (positive : 0 < width)
    (fits : value < 10 ^ width)
    (rest : List Char) : number? width (padded width value ++ rest) = some (value, rest) := by
  have length := length_padded positive fits
  rw [number?_append isDigit_of_mem_padded (padded_ne_nil _ _) length.le (.inl length),
    digitsValue_padded]

/-! ### Dates -/

private theorem separator?_cons {separator : Char} (visible : isBlank separator = false)
    (rest : List Char) : separator? separator (separator :: rest) = some rest := by
  rw [separator?, skipBlanks_of_head (by simpa using visible)]
  simp

private theorem year?_of_digits {digits rest : List Char}
    (allDigits : ∀ digit ∈ digits, digit.isDigit = true) (present : digits ≠ []) :
    year? (digits ++ rest) =
      (number? 4 (digits ++ rest)).map fun (value, rest) => ((value : Int), rest) := by
  have noMark : ∀ mark : Char, mark.isDigit = false →
      ∀ others, digits ++ rest ≠ mark :: others := by
    rintro mark other others equal
    cases digits with
    | nil => exact absurd rfl present
    | cons digit digits =>
        cases equal
        rw [allDigits mark List.mem_cons_self] at other
        cases other
  rw [year?, skipBlanks_digits allDigits present]
  split
  · exact absurd ‹_› (noMark '-' rfl _)
  · exact absurd ‹_› (noMark '+' rfl _)
  · rfl

private theorem number?_signed (value : Nat) (rest : List Char) :
    number? (padded 4 value ++ '-' :: rest).length (padded 4 value ++ '-' :: rest) =
      some (value, '-' :: rest) := by
  rw [number?_append isDigit_of_mem_padded (padded_ne_nil _ _) (by simp) (.inr (by simp)),
    digitsValue_padded]

private theorem any_isBlank_head?_padded (width value : Nat) (rest : List Char) :
    (padded width value ++ rest).head?.any isBlank = false := by
  rw [Option.any_eq_false]
  intro character first
  rw [isBlank_of_mem_head?_digits isDigit_of_mem_padded (padded_ne_nil _ _) character first]

@[simp] private theorem year?_writeYear (year : Int) (rest : List Char) :
    year? (writeYear year ++ '-' :: rest) = some (year, '-' :: rest) := by
  unfold writeYear
  split_ifs with plain negative
  · rw [Bool.and_eq_true, decide_eq_true_eq, decide_eq_true_eq] at plain
    rw [year?_of_digits isDigit_of_mem_padded (padded_ne_nil _ _),
      number?_padded (by decide) (by omega)]
    simp only [Option.map_some, Int.toNat_of_nonneg plain.1]
  · have dash : isBlank '-' = false := rfl
    rw [List.cons_append, year?, skipBlanks_of_head (by simpa using dash)]
    simp only [any_isBlank_head?_padded, Bool.false_eq_true, if_false, number?_signed,
      Option.map_some]
    congr 2
    omega
  · have plus : isBlank '+' = false := rfl
    rw [List.cons_append, year?, skipBlanks_of_head (by simpa using plus)]
    simp only [any_isBlank_head?_padded, Bool.false_eq_true, if_false, number?_signed,
      Option.map_some]
    congr 2
    omega

private theorem date?_write {date : Date} (valid : date.isValid = true)
    (within : isWithinReach date = true) {rest : List Char} :
    date? (writeYear date.year ++ '-' :: padded 2 date.month ++ '-' :: padded 2 date.day ++ rest) =
      some (date, rest) := by
  have dash : isBlank '-' = false := rfl
  have days : Date.daysInMonth date.year date.month ≤ 31 := by
    unfold Date.daysInMonth
    split_ifs <;> decide
  have bounds := valid
  simp only [Date.isValid, Bool.and_eq_true, decide_eq_true_eq] at bounds
  rw [List.append_assoc, List.append_assoc, List.cons_append, List.cons_append]
  simp only [date?, year?_writeYear, separator?_cons dash, Option.bind_eq_bind, Option.bind_some]
  rw [number?_padded (by decide) (by omega)]
  simp only [separator?_cons dash, Option.bind_some]
  rw [number?_padded (by decide) (by omega)]
  simp [valid, within]

/-! ### Times of day -/

private theorem fraction?_padded {width value : Nat} (positive : 0 < width) (short : width ≤ 9)
    (fits : value < 10 ^ width) :
    fraction? ('.' :: padded width value ++ ['Z']) = some (value * 10 ^ (9 - width), ['Z']) := by
  have length := length_padded positive fits
  have ends : ∀ character ∈ ['Z'].head?, character.isDigit = false := by simp
  rw [List.cons_append, fraction?,
    digitsUpTo_append isDigit_of_mem_padded (length.le.trans short) (.inr ends)]
  simp [padded_ne_nil, digitsValue_padded, length]

private theorem fraction?_writeFraction {nanoseconds : Nat}
    (small : nanoseconds < nanosecondsPerSecond) :
    fraction? (writeFraction nanoseconds ++ ['Z']) = some (nanoseconds, ['Z']) := by
  unfold nanosecondsPerSecond at small
  unfold writeFraction
  split_ifs with zero milliseconds microseconds
  · rw [zero]
    rfl
  · rw [fraction?_padded (by decide) (by decide) (by omega)]
    congr 2
    omega
  · rw [fraction?_padded (by decide) (by decide) (by omega)]
    congr 2
    omega
  · rw [fraction?_padded (by decide) (by decide) (by omega)]
    congr 2
    omega

def FitSecond (second nanoseconds : Nat) : Prop :=
  nanoseconds < nanosecondsPerSecond ∨
    second % 60 = 59 ∧ nanoseconds < 2 * nanosecondsPerSecond

private theorem timeOfDay?_of_parts {hour minute second nanoseconds : Nat} (hours : hour < 24)
    (minutes : minute < 60) (seconds : second < 61) (small : nanoseconds < nanosecondsPerSecond) :
    timeOfDay? (padded 2 hour ++ ':' :: padded 2 minute ++ ':' :: padded 2 second ++
        writeFraction nanoseconds ++ ['Z']) =
      some
        (if second = 60 then
          ((hour * 3600 + minute * 60 + 59, nanoseconds + nanosecondsPerSecond), ['Z'])
        else ((hour * 3600 + minute * 60 + second, nanoseconds), ['Z'])) := by
  have colon : isBlank ':' = false := rfl
  simp only [timeOfDay?, List.append_assoc, List.cons_append]
  rw [number?_padded (by decide) (by omega)]
  simp only [separator?_cons colon, Option.bind_eq_bind, Option.bind_some]
  rw [number?_padded (by decide) (by omega)]
  simp only [separator?_cons colon, Option.bind_some]
  rw [number?_padded (by decide) (by omega)]
  simp only [fraction?_writeFraction small, Option.bind_some]
  simp only [hours, minutes, seconds, decide_true, Bool.and_self, if_true]
  split_ifs <;> rfl

private theorem timeOfDay?_write {second nanoseconds : Nat} (ofDay : second < 86400)
    (fit : FitSecond second nanoseconds) :
    timeOfDay? (padded 2 (second / 3600) ++ ':' :: padded 2 (second / 60 % 60) ++ ':' ::
        padded 2 (second % 60 + if decide (nanosecondsPerSecond ≤ nanoseconds) then 1 else 0) ++
        writeFraction (nanoseconds % nanosecondsPerSecond) ++ ['Z']) =
      some ((second, nanoseconds), ['Z']) := by
  have small : nanoseconds % nanosecondsPerSecond < nanosecondsPerSecond :=
    Nat.mod_lt _ (by decide)
  have hours : second / 3600 = second / 60 / 60 := by rw [Nat.div_div_eq_div_mul]
  have total : second / 3600 * 3600 + second / 60 % 60 * 60 + second % 60 = second := by omega
  -- A leap second is written as second 60, which is read as second 59 again.
  by_cases leap : nanosecondsPerSecond ≤ nanoseconds
  · rcases fit with plain | ⟨last, fit⟩
    · omega
    have rest : nanoseconds % nanosecondsPerSecond + nanosecondsPerSecond = nanoseconds := by
      unfold nanosecondsPerSecond at *
      omega
    rw [last] at total
    simp only [leap, decide_true, if_true, last]
    rw [timeOfDay?_of_parts (by omega) (by omega) (by omega) small, if_pos rfl, total, rest]
  · have plain : nanoseconds % nanosecondsPerSecond = nanoseconds :=
      Nat.mod_eq_of_lt (Nat.lt_of_not_le leap)
    rw [plain] at small ⊢
    simp only [leap, decide_false, Bool.false_eq_true, if_false, Nat.add_zero]
    rw [timeOfDay?_of_parts (by omega) (by omega) (by omega) small, if_neg (by omega), total]

/-- Whether an instant is one that can be told: the calendar reaches its date, and its nanoseconds
fit its second. -/
structure IsTold (instant : Instant) : Prop where
  date : isWithinReach (dateOf instant) = true
  nanoseconds : FitSecond (instant.seconds % 86400).toNat instant.nanoseconds

private theorem readFrom?_writeChars {instant : Instant} (told : IsTold instant) :
    readFrom? (writeChars instant) = some instant := by
  have valid : (dateOf instant).isValid = true := Date.isValid_ofDayNumber _
  have ofDay : (instant.seconds % 86400).toNat < 86400 := by omega
  have time := timeOfDay?_write ofDay told.nanoseconds
  have mark : ∀ rest, timeMark? ('T' :: rest) = some rest := fun _ => rfl
  have universal : offset? ['Z'] = some (0, []) := rfl
  have day : (dateOf instant).dayNumber = instant.seconds / 86400 + Date.epochDay :=
    Date.dayNumber_ofDayNumber _
  have date : ∀ rest, date? _ = some (dateOf instant, rest) := fun _ =>
    date?_write valid told.date
  simp only [List.append_assoc, List.cons_append] at date time
  have seconds : (instant.seconds / 86400) * 86400 + ((instant.seconds % 86400).toNat : Int) =
      instant.seconds := by omega
  simp only [readFrom?, writeChars, List.append_assoc, List.cons_append, date, mark,
    Option.bind_eq_bind, Option.bind_some, time, universal, day, Int.add_sub_cancel, Int.sub_zero,
    seconds, List.all_nil, told.date, Bool.and_self, if_true]

theorem read?_write {instant : Instant} (told : IsTold instant) :
    read? (write instant) = some instant := by
  rw [read?, write, String.toList_ofList, readFrom?_writeChars told]

end ChatMemory.Rfc3339
