import ChatMemory.Logging.Pattern.CharacterSet
import ChatMemory.Unicode.Letter

/-!
Patterns for the values of fields, which are regular expressions. They stand inside braces, so they
have no closing brace, and with that no counted repetitions. Main definition: `Pattern.isPattern`.
-/

namespace ChatMemory.Pattern

structure Sequence where
  count : Nat := 0
  /-- How deep the expressions before the last one are nested. -/
  deepest : Nat := 0
  /-- How deep the last expression is nested, if it can be repeated. -/
  last : Option Nat := none
  deriving Repr, DecidableEq

namespace Sequence

def add (sequence : Sequence) (nesting : Nat) : Sequence where
  count := sequence.count + 1
  deepest := max sequence.deepest (sequence.last.getD 0)
  last := some nesting

def addSwitches (sequence : Sequence) : Sequence :=
  { sequence.add 0 with last := none }

def repeatLast? (sequence : Sequence) : Option Sequence :=
  sequence.last.map fun nesting => { sequence with last := some (nesting + 1) }

def nesting (sequence : Sequence) : Nat :=
  nestingOf sequence.count (max sequence.deepest (sequence.last.getD 0))

end Sequence

structure Alternatives where
  /-- How deep the alternatives before the current one are nested, if there are any. -/
  earlier : Option Nat := none
  current : Sequence := {}
  deriving Repr, DecidableEq

namespace Alternatives

def nesting (alternatives : Alternatives) : Nat :=
  match alternatives.earlier with
  | none => alternatives.current.nesting
  | some earlier => max earlier alternatives.current.nesting + 1

def advance (alternatives : Alternatives) : Alternatives where
  earlier := some (max (alternatives.earlier.getD 0) alternatives.current.nesting)

def add (alternatives : Alternatives) (nesting : Nat) : Alternatives :=
  { alternatives with current := alternatives.current.add nesting }

end Alternatives

structure Reading where
  mode : Mode := {}
  /-- The names that groups have. -/
  names : List (List Char) := []
  alternatives : Alternatives := {}
  /-- What stands around the current group, innermost first, with the mode outside. -/
  outer : List (Mode × Alternatives) := []
  deriving Repr, DecidableEq

namespace Reading

def add (reading : Reading) (nesting : Nat) : Reading :=
  { reading with alternatives := reading.alternatives.add nesting }

def openGroup (reading : Reading) : Reading :=
  { reading with
    alternatives := {}
    outer := (reading.mode, reading.alternatives) :: reading.outer }

def closeGroup? (reading : Reading) : Option Reading :=
  match reading.outer with
  | [] => none
  | (mode, alternatives) :: outer =>
    some
      { reading with
        mode, outer
        alternatives := alternatives.add (reading.alternatives.nesting + 1) }

def openNamedGroup? (reading : Reading) (text : List Char) : Option (Reading × List Char) :=
  match text.span (· != '>') with
  | (first :: others, '>' :: rest) =>
    let name := first :: others
    let isName :=
      (first == '_' || Unicode.isLetter first) &&
        others.all fun character =>
          Unicode.isAlphanumeric character || "_.[]".toList.contains character
    if isName && !reading.names.contains name then
      some ({ reading.openGroup with names := name :: reading.names }, rest)
    else none
  | _ => none

/-- Whether switches are known ones, none of them twice, with a dash before the ones to turn off. -/
def areSwitches (switches : List Char) : Bool :=
  switches.all ("imsUuRx-".toList.contains ·) && decide switches.Nodup &&
    switches.getLast? != some '-'

/-- Reads switches, which hold up to the end of the current group or for a group of their own. -/
def switch? (reading : Reading) (text : List Char) : Option (Reading × List Char) :=
  let (switches, rest) := text.span fun character => character != ')' && character != ':'
  let mode := reading.mode.change switches
  if !areSwitches switches then none
  else
    match rest with
    | ':' :: rest => some ({ reading.openGroup with mode }, rest)
    | _ :: rest =>
      if switches.isEmpty then none
      else
        let alternatives := reading.alternatives
        some
          ({ reading with
              mode
              alternatives :=
                { alternatives with current := alternatives.current.addSwitches } },
            rest)
    | [] => none

def openParenthesis? (reading : Reading) (text : List Char) : Option (Reading × List Char) :=
  match reading.mode.skip text with
  | '?' :: 'P' :: '<' :: rest | '?' :: '<' :: rest => reading.openNamedGroup? rest
  | '?' :: rest => reading.switch? rest
  | rest => some (reading.openGroup, rest)

/-- Repeats the last expression. A question mark after the sign makes the repetition a lazy one. -/
def repeat? (reading : Reading) (text : List Char) : Option (Reading × List Char) :=
  let rest :=
    match text with
    | '?' :: rest => rest
    | rest => rest
  let alternatives := reading.alternatives
  alternatives.current.repeatLast?.map fun current =>
    ({ reading with alternatives := { alternatives with current } }, rest)

def allows (mode : Mode) : Atom → Bool
  | .literal character isByte => mode.allowsLiteral character isByte
  | .kind negated => mode.allowsKind negated
  | .edge => true
  | .wordEdge => mode.allowsWordEdge

def addAtom? (reading : Reading) (atom : Atom) (rest : List Char) : Option (Reading × List Char) :=
  if allows reading.mode atom then some (reading.add 0, rest) else none

def step? (reading : Reading) (character : Char) (rest : List Char) :
    Option (Reading × List Char) :=
  match character with
  | '(' => reading.openParenthesis? rest
  | ')' => reading.closeGroup?.map (·, rest)
  | '|' => some ({ reading with alternatives := reading.alternatives.advance }, rest)
  | '[' =>
    (characterSet? reading.mode rest).map fun (nesting, rest) => (reading.add nesting, rest)
  | '?' | '*' | '+' => reading.repeat? rest
  | '\x7b' => none
  | '\\' => (escape? reading.mode rest).bind fun (atom, rest) => reading.addAtom? atom rest
  | '.' => if reading.mode.allowsDot then some (reading.add 0, rest) else none
  | '^' | '$' => reading.addAtom? .edge rest
  | character => reading.addAtom? (.literal character false) rest

def finish? : Nat → Reading → List Char → Option Reading
  | 0, _, _ => none
  | fuel + 1, reading, text =>
    match reading.mode.skip text with
    | [] => some reading
    | character :: rest =>
      match reading.step? character rest with
      | none => none
      | some (reading, rest) => finish? fuel reading rest

end Reading

def nestingLimit : Nat := 250

def isPattern (text : List Char) : Bool :=
  match Reading.finish? (text.length + 1) {} text with
  | none => false
  | some reading =>
    reading.outer.isEmpty && decide (reading.alternatives.nesting ≤ nestingLimit)

example : isPattern "(?P<id>[^a]+?|.**)$".toList = true := by decide

example : isPattern "(a".toList = false ∧ isPattern "a|*".toList = false := by decide

example : isPattern "(?i)a".toList = false ∧ isPattern "(?i-u)a\\w".toList = true := by
  decide

end ChatMemory.Pattern
