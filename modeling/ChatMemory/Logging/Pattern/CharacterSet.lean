import ChatMemory.Logging.Pattern.Atom

/-!
Sets of characters in brackets. A set can hold further sets, and sets can be met with, subtracted
from and compared with one another.
-/

namespace ChatMemory.Pattern

/-- How deep several parts are nested together, the deepest of them by `deepest`. A single part is
not nested in anything. -/
def nestingOf (count deepest : Nat) : Nat :=
  if count ≤ 1 then deepest else deepest + 1

structure OpenSet where
  count : Nat := 0
  deepest : Nat := 0
  /-- How deep the left side of an operation is nested. -/
  left : Option Nat := none
  deriving Repr, DecidableEq

namespace OpenSet

def add (set : OpenSet) (nesting : Nat) : OpenSet :=
  { set with count := set.count + 1, deepest := max set.deepest nesting }

def nesting (set : OpenSet) : Nat :=
  let right := nestingOf set.count set.deepest
  match set.left with
  | none => right
  | some left => max left right + 1

def operate (set : OpenSet) : OpenSet :=
  { left := some set.nesting }

end OpenSet

def setNames : List String :=
  ["alnum", "alpha", "ascii", "blank", "cntrl", "digit", "graph", "lower", "print", "punct",
    "space", "upper", "word", "xdigit"]

def namedSet? : List Char → Option (Bool × List Char)
  | ':' :: text =>
    let (negated, text) :=
      match text with
      | '^' :: rest => (true, rest)
      | rest => (false, rest)
    match text.span (· != ':') with
    | (name, ':' :: ']' :: rest) =>
      if setNames.contains (String.ofList name) then some (negated, rest) else none
    | _ => none
  | _ => none

def memberAtom? (mode : Mode) : List Char → Option (Atom × List Char)
  | [] => none
  | '\\' :: rest => escape? mode rest
  | character :: rest => some (.literal character false, rest)

def rangeEnd? (mode : Mode) : List Char → Option (List Char)
  | '-' :: rest =>
    if mode.next? rest = some ']' || mode.next? rest = some '-' then none else some rest
  | _ => none

/-- One member of a set: a character, a range or a kind of characters. -/
def member? (mode : Mode) (text : List Char) : Option (List Char) := do
  let (first, text) ← memberAtom? mode text
  let text := mode.skip text
  match rangeEnd? mode text with
  | none =>
    match first with
    | .literal character _ => if mode.allowsInSet character then some text else none
    | .kind negated => if mode.allowsKind negated then some text else none
    | _ => none
  | some text =>
    let (last, text) ← memberAtom? mode (mode.skip text)
    match first, last with
    | .literal first _, .literal last _ =>
      if first ≤ last && mode.allowsInSet first && mode.allowsInSet last then some text else none
    | _, _ => none

def leadingDashes (mode : Mode) : Nat → OpenSet → List Char → OpenSet × List Char
  | fuel + 1, set, '-' :: rest => leadingDashes mode fuel (set.add 0) (mode.skip rest)
  | _, set, text => (set, text)

/-- The beginning of a set after its bracket. A bracket that would close it at once stands for
itself. -/
def openSet? (mode : Mode) (text : List Char) : Option (OpenSet × List Char) :=
  let text := mode.skip text
  let (negated, text) :=
    match text with
    | '^' :: rest => (true, mode.skip rest)
    | rest => (false, rest)
  let (set, text) := leadingDashes mode text.length {} text
  let (set, text) :=
    match set.count, text with
    | 0, ']' :: rest => (set.add 0, mode.skip rest)
    | _, rest => (set, rest)
  let hasLiteral := decide (0 < set.count)
  if negated && !mode.allowsNegation || hasLiteral && !mode.allowsInSet '-' then none
  else some (set, text)

/-- Reads to the end of a set. `outer` holds the sets around it, innermost first. The answer is how
deep the set is nested, and the rest. -/
def closeSet? (mode : Mode) :
    Nat → OpenSet → List OpenSet → List Char → Option (Nat × List Char)
  | 0, _, _, _ => none
  | fuel + 1, set, outer, text =>
    match mode.skip text with
    | [] => none
    | '[' :: rest =>
      match namedSet? rest with
      | some (negated, rest) =>
        if mode.allowsNamedSet negated then closeSet? mode fuel (set.add 0) outer rest else none
      | none =>
        match openSet? mode rest with
        | none => none
        | some (inner, rest) => closeSet? mode fuel inner (set :: outer) rest
    | ']' :: rest =>
      match outer with
      | [] => some (set.nesting + 1, rest)
      | around :: outer => closeSet? mode fuel (around.add (set.nesting + 1)) outer rest
    | '&' :: '&' :: rest | '-' :: '-' :: rest | '~' :: '~' :: rest =>
      closeSet? mode fuel set.operate outer rest
    | text =>
      match member? mode text with
      | none => none
      | some rest => closeSet? mode fuel (set.add 0) outer rest

/-- Reads a set after its bracket. The answer is how deep it is nested, and the rest. -/
def characterSet? (mode : Mode) (text : List Char) : Option (Nat × List Char) :=
  (openSet? mode text).bind fun (set, rest) => closeSet? mode (rest.length + 1) set [] rest

example : characterSet? {} "^a-c[[:digit:]--5]]+".toList = some (4, ['+']) := by decide

example : characterSet? {} "b-a]".toList = none := by decide

example : characterSet? {} "a[b]".toList = none := by decide

end ChatMemory.Pattern
