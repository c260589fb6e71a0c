import ChatMemory.Format.Json.Writer
import ChatMemory.Proofs.Format.Digits
import Mathlib.Data.List.TakeWhile

/-!
The tokens of written values. Main statement: the pretty printed text of a plain value is read as
the tokens that spell it, whatever text follows.
-/

namespace ChatMemory.Json

/-- A value whose text says all there is to it: strings have a text, and numbers are whole. -/
inductive IsPlain : Json → Prop
  | null : IsPlain .null
  | bool (value : Bool) : IsPlain (.bool value)
  | number (negative : Bool) (whole : Nat) : IsPlain (.number ⟨negative, whole, none⟩)
  | string (text : String) : IsPlain (.string (some text))
  | array {items : List Json} (plain : ∀ item ∈ items, IsPlain item) : IsPlain (.array items)
  | object {members : List (Text × Json)} (keyed : ∀ member ∈ members, member.1.isSome)
      (plain : ∀ member ∈ members, IsPlain member.2) : IsPlain (.object members)

mutual
def spell : Json → List Token
  | .null => [.null]
  | .bool value => [.bool value]
  | .number written => [.number written]
  | .string text => [.string text]
  | .array items => .beginArray :: spellItems items ++ [.endArray]
  | .object members => .beginObject :: spellMembers members ++ [.endObject]

def spellItems : List Json → List Token
  | [] => []
  | [item] => item.spell
  | item :: rest => item.spell ++ .comma :: spellItems rest

def spellMembers : List (Text × Json) → List Token
  | [] => []
  | [(key, value)] => .string key :: .colon :: value.spell
  | (key, value) :: rest =>
    .string key :: .colon :: value.spell ++ .comma :: spellMembers rest
end

def tokensFrom? (state : Mode × List Token) (rest : List Char) : Option (List Token) :=
  (rest.foldlM step state).bind finish?

def EndsAtom (rest : List Char) : Prop :=
  ∀ character ∈ rest.head?, isAtomic character = false

private theorem tokensFrom?_of_foldlM {text : List Char} {state after : Mode × List Token}
    (read : text.foldlM step state = some after) (rest : List Char) :
    tokensFrom? state (text ++ rest) = tokensFrom? after rest := by
  simp [tokensFrom?, List.foldlM_append, read]

/-! ### Literals -/

private theorem isJsonBlank_of_isAtomic {character : Char} (atomic : isAtomic character = true) :
    isJsonBlank character = false := by
  rw [Bool.eq_false_iff]
  intro blank
  simp only [isJsonBlank, Bool.or_eq_true, beq_iff_eq] at blank
  rcases blank with ((rfl | rfl) | rfl) | rfl <;> revert atomic <;> decide

private theorem stepBetween_of_isAtomic {character : Char} (atomic : isAtomic character = true)
    (done : List Token) : stepBetween done character = some (.atom [character], done) := by
  have noQuote : (character == '\x22') = false := by
    rw [beq_eq_false_iff_ne]
    rintro rfl
    revert atomic
    decide
  simp [stepBetween, isJsonBlank_of_isAtomic atomic, noQuote, atomic]

private theorem foldlM_step_atom {characters : List Char}
    (atomic : ∀ character ∈ characters, isAtomic character = true) (before : List Char)
    (done : List Token) :
    characters.foldlM step (.atom before, done) =
      some (.atom (characters.reverse ++ before), done) := by
  induction characters generalizing before with
  | nil => rfl
  | cons character rest ih =>
      rw [List.forall_mem_cons] at atomic
      rw [List.foldlM_cons, step, if_pos atomic.1, Option.bind_eq_bind, Option.bind_some,
        ih atomic.2]
      simp

private theorem tokensFrom?_atom {characters : List Char} {token : Token}
    (atomic : ∀ character ∈ characters, isAtomic character = true) (present : characters ≠ [])
    (meant : atom? characters = some token) {rest : List Char} (ends : EndsAtom rest)
    (done : List Token) :
    tokensFrom? (.between, done) (characters ++ rest) =
      tokensFrom? (.between, token :: done) rest := by
  have read : characters.foldlM step (.between, done) =
      some (.atom characters.reverse, done) := by
    cases characters with
    | nil => exact absurd rfl present
    | cons first others =>
        rw [List.forall_mem_cons] at atomic
        rw [List.foldlM_cons, step, stepBetween_of_isAtomic atomic.1, Option.bind_eq_bind,
          Option.bind_some, foldlM_step_atom atomic.2, List.reverse_cons]
  rw [tokensFrom?_of_foldlM read]
  -- A literal is only taken when something else follows, or at the end of the document.
  cases rest with
  | nil => simp [tokensFrom?, finish?, meant]
  | cons character others =>
      have other := ends character (by simp)
      simp [tokensFrom?, step, other, meant]

private theorem isAtomic_of_isDigit {character : Char} (digit : character.isDigit = true) :
    isAtomic character = true := by
  simp [isAtomic, Char.isAlphanum, digit]

@[simp] private theorem wholeDigits?_toDigits (value : Nat) :
    wholeDigits? (Nat.toDigits 10 value) = some (Nat.toDigits 10 value) := by
  rcases Nat.eq_zero_or_pos value with rfl | positive
  · decide
  · have first := head?_toDigits_ne_zero positive
    unfold wholeDigits?
    split
    · exact absurd ‹_› Nat.toDigits_ne_nil
    · rfl
    · simp_all
    · rfl

private theorem Number.write_whole (negative : Bool) (whole : Nat) :
    Number.write ⟨negative, whole, none⟩ =
      (if negative then ['-'] else []) ++ Nat.toDigits 10 whole := by
  simp [Number.write, Number.writeTail]

private theorem Number.ofLiteral?_write (negative : Bool) (whole : Nat) :
    Number.ofLiteral? (Number.write ⟨negative, whole, none⟩) = some ⟨negative, whole, none⟩ := by
  have split : splitSign (Number.write ⟨negative, whole, none⟩) =
      (negative, Nat.toDigits 10 whole) := by
    rw [Number.write_whole]
    cases negative with
    | true => rfl
    | false =>
        rw [if_neg Bool.false_ne_true, List.nil_append, splitSign.eq_2]
        intro rest equal
        have digit := all_isDigit_toDigits whole '-' (by rw [equal]; exact List.mem_cons_self)
        revert digit
        decide
  have taken : (Nat.toDigits 10 whole).takeWhile isDecimalDigit = Nat.toDigits 10 whole :=
    List.takeWhile_eq_self_iff.mpr (all_isDigit_toDigits whole)
  have dropped : (Nat.toDigits 10 whole).dropWhile isDecimalDigit = [] :=
    List.dropWhile_eq_nil_iff.mpr (all_isDigit_toDigits whole)
  simp only [Number.ofLiteral?, split, taken, wholeDigits?_toDigits, dropped, List.isEmpty_nil,
    if_true, digitsValue_toDigits]

private theorem isAtomic_of_mem_write {negative : Bool} {whole : Nat} :
    ∀ character ∈ Number.write ⟨negative, whole, none⟩, isAtomic character = true := by
  intro character member
  rw [Number.write_whole, List.mem_append] at member
  rcases member with sign | digit
  · cases negative with
    | true => rw [List.mem_singleton.mp sign]; rfl
    | false => cases sign
  · exact isAtomic_of_isDigit (all_isDigit_toDigits whole character digit)

private theorem atom?_write (negative : Bool) (whole : Nat) :
    atom? (Number.write ⟨negative, whole, none⟩) = some (.number ⟨negative, whole, none⟩) := by
  have noName : ∀ name : List Char, Number.ofLiteral? name = none →
      Number.write ⟨negative, whole, none⟩ ≠ name := by
    rintro name unread rfl
    rw [Number.ofLiteral?_write] at unread
    cases unread
  unfold atom?
  rw [if_neg (noName _ (by decide)), if_neg (noName _ (by decide)),
    if_neg (noName _ (by decide)), Number.ofLiteral?_write, Option.map_some]

/-! ### Strings -/

private theorem hexDigit?_hexLetter_of_lt {digit : Nat} (small : digit < 16) :
    hexDigit? (hexLetter digit) = some digit :=
  hexDigit?_hexLetter ⟨digit, small⟩

private theorem foldlM_step_unit {high low : Char} {upper lower : Nat}
    (readHigh : hexDigit? high = some upper) (readLow : hexDigit? low = some lower)
    (text : List Char) (done : List Token) :
    ['\\', 'u', '0', '0', high, low].foldlM step (.string (some text) none, done) =
      some (afterUnit (some text) none (upper * 16 + lower), done) := by
  have zero : hexDigit? '0' = some 0 := rfl
  simp [step, zero, readHigh, readLow]

private theorem foldlM_step_escapeChar (character : Char) (text : List Char) (done : List Token) :
    (escapeChar character).foldlM step (.string (some text) none, done) =
      some (.string (some (character :: text)) none, done) := by
  unfold escapeChar
  split_ifs with quote backslash backspace formFeed newline carriageReturn tab control
  all_goals try (simp only [beq_iff_eq] at *; subst character; rfl)
  · have high := hexDigit?_hexLetter_of_lt (show character.toNat / 16 < 16 by omega)
    have low := hexDigit?_hexLetter_of_lt (show character.toNat % 16 < 16 by omega)
    have whole : character.toNat / 16 * 16 + character.toNat % 16 = character.toNat := by omega
    have noHigh : isHighHalf character.toNat = false := by simp [isHighHalf]; omega
    have noLow : isLowHalf character.toNat = false := by simp [isLowHalf]; omega
    rw [foldlM_step_unit high low, whole]
    simp [afterUnit, noHigh, noLow]
  · simp [step, backslash, quote, control, settled]

private theorem foldlM_step_escaped (characters text : List Char) (done : List Token) :
    (characters.flatMap escapeChar).foldlM step (.string (some text) none, done) =
      some (.string (some (characters.reverse ++ text)) none, done) := by
  induction characters generalizing text with
  | nil => rfl
  | cons character rest ih =>
      rw [List.flatMap_cons, List.foldlM_append, foldlM_step_escapeChar, Option.bind_eq_bind,
        Option.bind_some, ih]
      simp

private theorem tokensFrom?_quote (text : String) (rest : List Char) (done : List Token) :
    tokensFrom? (.between, done) (quote text ++ rest) =
      tokensFrom? (.between, .string (some text) :: done) rest := by
  apply tokensFrom?_of_foldlM
  have opened : step (.between, done) '\x22' = some (.string (some []) none, done) := rfl
  rw [quote, List.cons_append, List.foldlM_cons, opened, Option.bind_eq_bind, Option.bind_some,
    List.foldlM_append, foldlM_step_escaped]
  simp [step, stringToken, settled]

/-! ### Marks and blanks -/

private theorem tokensFrom?_blanks {blanks : List Char}
    (blank : ∀ character ∈ blanks, isJsonBlank character = true) (rest : List Char)
    (done : List Token) :
    tokensFrom? (.between, done) (blanks ++ rest) = tokensFrom? (.between, done) rest := by
  apply tokensFrom?_of_foldlM
  induction blanks with
  | nil => rfl
  | cons character others ih =>
      rw [List.forall_mem_cons] at blank
      rw [List.foldlM_cons, step, stepBetween, if_pos blank.1, Option.bind_eq_bind,
        Option.bind_some, ih blank.2]

private theorem isJsonBlank_of_mem_newLine {depth : Nat} :
    ∀ character ∈ newLine depth, isJsonBlank character = true := by
  intro character member
  rw [newLine, List.mem_cons] at member
  rcases member with rfl | space
  · rfl
  · rw [List.eq_of_mem_replicate space]
    rfl

private theorem tokensFrom?_mark {mark : Char} {token : Token} (meant : mark? mark = some token)
    (rest : List Char) (done : List Token) :
    tokensFrom? (.between, done) (mark :: rest) =
      tokensFrom? (.between, token :: done) rest := by
  unfold mark? at meant
  split at meant <;> cases meant <;> rfl

private theorem endsAtom_of_mark {mark : Char} {token : Token} (meant : mark? mark = some token)
    (rest : List Char) : EndsAtom (mark :: rest) := by
  intro character first
  cases first
  unfold mark? at meant
  split at meant <;> cases meant <;> rfl

private theorem endsAtom_newLine (depth : Nat) (rest : List Char) : EndsAtom (newLine depth ++ rest)
    := by
  intro character first
  cases first
  rfl

/-! ### Values -/

def ReadsAsSpelled (value : Json) : Prop :=
  ∀ (depth : Nat) (rest : List Char) (done : List Token), EndsAtom rest →
    tokensFrom? (.between, done) (value.pretty depth ++ rest) =
      tokensFrom? (.between, value.spell.reverse ++ done) rest

private theorem readsAsSpelled_of_atom {value : Json} {characters : List Char} {token : Token}
    (written : ∀ depth, value.pretty depth = characters) (spelled : value.spell = [token])
    (atomic : ∀ character ∈ characters, isAtomic character = true) (present : characters ≠ [])
    (meant : atom? characters = some token) : ReadsAsSpelled value := by
  intro depth rest done ends
  rw [written, spelled, tokensFrom?_atom atomic present meant ends]
  rfl

private theorem tokensFrom?_prettyItems {items : List Json}
    (read : ∀ item ∈ items, ReadsAsSpelled item) (depth : Nat) {rest : List Char}
    (ends : EndsAtom rest) (done : List Token) :
    tokensFrom? (.between, done) (prettyItems depth items ++ rest) =
      tokensFrom? (.between, (spellItems items).reverse ++ done) rest := by
  induction items generalizing done with
  | nil => rfl
  | cons item others ih =>
      rw [List.forall_mem_cons] at read
      cases others with
      | nil =>
          rw [prettyItems, spellItems, List.append_assoc,
            tokensFrom?_blanks isJsonBlank_of_mem_newLine, read.1 depth rest done ends]
      | cons next others =>
          have comma : mark? ',' = some .comma := rfl
          simp only [prettyItems, spellItems, List.append_assoc, List.cons_append]
          rw [tokensFrom?_blanks isJsonBlank_of_mem_newLine,
            read.1 depth _ done (endsAtom_of_mark comma _), tokensFrom?_mark comma, ih read.2]
          simp

private theorem tokensFrom?_prettyMembers {members : List (Text × Json)}
    (keyed : ∀ member ∈ members, member.1.isSome)
    (read : ∀ member ∈ members, ReadsAsSpelled member.2) (depth : Nat) {rest : List Char}
    (ends : EndsAtom rest) (done : List Token) :
    tokensFrom? (.between, done) (prettyMembers depth members ++ rest) =
      tokensFrom? (.between, (spellMembers members).reverse ++ done) rest := by
  have colon : mark? ':' = some .colon := rfl
  have comma : mark? ',' = some .comma := rfl
  have space : ∀ character ∈ [' '], isJsonBlank character = true := List.all_eq_true.mp rfl
  induction members generalizing done with
  | nil => rfl
  | cons member others ih =>
      rcases member with ⟨_ | key, value⟩
      · simp at keyed
      rw [List.forall_mem_cons] at read keyed
      have readMember : ∀ (rest : List Char) (done : List Token), EndsAtom rest →
          tokensFrom? (.between, done) (newLine depth ++
              (quoteText (some key) ++ ':' :: ' ' :: (value.pretty depth ++ rest))) =
            tokensFrom? (.between,
              (Token.string (some key) :: Token.colon :: value.spell).reverse ++ done) rest := by
        intro rest done ends
        rw [tokensFrom?_blanks isJsonBlank_of_mem_newLine, quoteText, Option.getD_some,
          tokensFrom?_quote, tokensFrom?_mark colon]
        have blank := tokensFrom?_blanks space (value.pretty depth ++ rest)
        rw [List.cons_append, List.nil_append] at blank
        rw [blank, read.1 depth rest _ ends]
        simp
      cases others with
      | nil =>
          simp only [prettyMembers, spellMembers, List.append_assoc, List.cons_append]
          rw [readMember rest done ends]
      | cons next others =>
          simp only [prettyMembers, spellMembers, List.append_assoc, List.cons_append]
          rw [readMember _ done (endsAtom_of_mark comma _), tokensFrom?_mark comma,
            ih keyed.2 read.2]
          simp

private theorem IsPlain.readsAsSpelled {value : Json} (plain : value.IsPlain) :
    ReadsAsSpelled value := by
  induction plain with
  | null =>
      exact readsAsSpelled_of_atom (fun _ => rfl) rfl (List.all_eq_true.mp rfl) (by simp) rfl
  | bool value =>
      cases value <;>
        exact readsAsSpelled_of_atom (fun _ => rfl) rfl (List.all_eq_true.mp rfl) (by simp) rfl
  | number negative whole =>
      have present : Number.write ⟨negative, whole, none⟩ ≠ [] := by
        rw [Number.write_whole]
        simp [Nat.toDigits_ne_nil]
      exact readsAsSpelled_of_atom (fun _ => rfl) rfl isAtomic_of_mem_write present
        (atom?_write negative whole)
  | string text =>
      intro depth rest done _
      exact tokensFrom?_quote text rest done
  | @array items plain read =>
      intro depth rest done ends
      have opening : mark? '[' = some .beginArray := rfl
      have closing : mark? ']' = some .endArray := rfl
      cases items with
      | nil => rfl
      | cons item others =>
          simp only [pretty, spell, List.append_assoc, List.cons_append, List.nil_append]
          rw [tokensFrom?_mark opening,
            tokensFrom?_prettyItems read _ (endsAtom_newLine _ _),
            tokensFrom?_blanks isJsonBlank_of_mem_newLine, tokensFrom?_mark closing]
          simp
  | @object members keyed plain read =>
      intro depth rest done ends
      have opening : mark? '\x7b' = some .beginObject := rfl
      have closing : mark? '\x7d' = some .endObject := rfl
      cases members with
      | nil => rfl
      | cons member others =>
          simp only [pretty, spell, List.append_assoc, List.cons_append, List.nil_append]
          rw [tokensFrom?_mark opening,
            tokensFrom?_prettyMembers keyed read _ (endsAtom_newLine _ _),
            tokensFrom?_blanks isJsonBlank_of_mem_newLine, tokensFrom?_mark closing]
          simp

theorem tokens?_pretty {value : Json} (plain : value.IsPlain) (depth : Nat) :
    tokens? (value.pretty depth) = some value.spell := by
  have ends : EndsAtom [] := by simp [EndsAtom]
  have read := plain.readsAsSpelled depth [] [] ends
  rw [List.append_nil, List.append_nil] at read
  change tokensFrom? (.between, []) (value.pretty depth) = some value.spell
  rw [read]
  simp [tokensFrom?, finish?]

end ChatMemory.Json
