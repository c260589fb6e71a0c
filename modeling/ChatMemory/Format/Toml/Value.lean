import ChatMemory.Format.Toml.Moment
import ChatMemory.Format.Toml.Number
import ChatMemory.Format.Toml.Text

/-!
TOML values, and the rules by which keys find or make the tables that they name.
-/

namespace ChatMemory

/-- How a table came about. It decides what may be added to the table later. -/
inductive Toml.Origin
  /-- A table in braces. It is complete. -/
  | braces
  /-- A table with a header of its own. -/
  | header
  /-- A table that headers name on the way to another one. -/
  | passed
  /-- A table that the key of an entry names on the way to its value. -/
  | dotted
  deriving Repr, DecidableEq

/-- A TOML value. Dates and times are told apart from all else, but not from each other. -/
inductive Toml
  | string (value : String)
  | integer (value : Int)
  | float (value : Float)
  | boolean (value : Bool)
  | moment
  | array (items : List Toml)
  | table (origin : Toml.Origin) (entries : List (String × Toml))
  /-- Tables under headers in double brackets. -/
  | tables (elements : List (List (String × Toml)))

namespace Toml

/-- What a table holds. No name occurs twice. -/
abbrev Entries := List (String × Toml)

namespace Entries

def put (name : String) (value : Toml) : Entries → Entries
  | [] => [(name, value)]
  | (other, kept) :: rest =>
    if other = name then (name, value) :: rest else (other, kept) :: put name value rest

/-- Adds a value under a key. Tables on the way are made if they are missing; those with a header or
in braces are closed to keys from outside. `mayEnd` says whether the value itself may be added here.
-/
def insert (mayEnd : Bool) (entries : Entries) : List String → Toml → Option Entries
  | [], _ => none
  | [name], value =>
    if mayEnd && (entries.lookup name).isNone then some (entries.put name value) else none
  | name :: rest, value =>
    match entries.lookup name with
    | none => (insert true [] rest value).map fun inner => entries.put name (.table .dotted inner)
    | some (.table .dotted inner) =>
      (insert true inner rest value).map fun inner => entries.put name (.table .dotted inner)
    | some (.table .passed inner) =>
      (insert false inner rest value).map fun inner => entries.put name (.table .passed inner)
    | some (.tables elements) =>
      match elements.getLast? with
      | none => none
      | some element =>
        (insert false element rest value).map fun inner =>
          entries.put name (.tables (elements.dropLast ++ [inner]))
    | some _ => none

/-- Adds values under their keys, one after the other. -/
def insertAll (entries : Entries) (additions : List (List String × Toml)) : Option Entries :=
  additions.foldlM (fun entries (key, value) => entries.insert true key value) entries

/-- Changes what a header names. Tables on the way are made if they are missing, and of tables under
headers in double brackets the last one is meant. -/
def changeAt (change : Option Toml → Option Toml) (entries : Entries) :
    List String → Option Entries
  | [] => none
  | [name] => (change (entries.lookup name)).map fun value => entries.put name value
  | name :: rest =>
    match entries.lookup name with
    | none =>
      (changeAt change [] rest).map fun inner => entries.put name (.table .passed inner)
    | some (.table .braces _) => none
    | some (.table origin inner) =>
      (changeAt change inner rest).map fun inner => entries.put name (.table origin inner)
    | some (.tables elements) =>
      match elements.getLast? with
      | none => none
      | some element =>
        (changeAt change element rest).map fun inner =>
          entries.put name (.tables (elements.dropLast ++ [inner]))
    | some _ => none

end Entries

def numeric? (text : List Char) : Option (Toml × List Char) :=
  match moment? text with
  | some rest => some (.moment, rest)
  | none =>
    match float? text with
    | some (value, rest) => some (.float value, rest)
    | none => (integer? text).map fun (value, rest) => (.integer value, rest)

def simpleValue? (text : List Char) : Option (Toml × List Char) :=
  if text.take 4 == "true".toList then some (.boolean true, text.drop 4)
  else if text.take 5 == "false".toList then some (.boolean false, text.drop 5)
  else
    match string? text with
    | some (value, rest) => some (.string value, rest)
    | none => numeric? text

/-- The items of an array after its bracket. There are fewer than `limit`. -/
def items? (item? : List Char → Option (Toml × List Char)) :
    Nat → List Char → Option (List Toml × List Char)
  | 0, _ => none
  | limit + 1, text =>
    match skipLines false text with
    | ']' :: rest => some ([], rest)
    | text => do
      let (item, rest) ← item? text
      match skipLines false rest with
      | ',' :: rest => (items? item? limit rest).map fun (items, rest) => (item :: items, rest)
      | ']' :: rest => some ([item], rest)
      | _ => none

def keyedValue? (item? : List Char → Option (Toml × List Char)) (text : List Char) :
    Option ((List String × Toml) × List Char) := do
  let (key, rest) ← key? text
  let (value, rest) ← item? (skipBlanks (← after? '=' rest))
  some ((key, value), rest)

/-- The entries of a table in braces, of which there is at least one and fewer than `limit`. -/
def members? (item? : List Char → Option (Toml × List Char)) :
    Nat → List Char → Option (List (List String × Toml) × List Char)
  | 0, _ => none
  | limit + 1, text => do
    let (member, rest) ← keyedValue? item? text
    match skipBlanks rest with
    | ',' :: rest =>
      (members? item? limit rest).map fun (members, rest) => (member :: members, rest)
    | '\x7d' :: rest => some ([member], rest)
    | _ => none

def braces? (item? : List Char → Option (Toml × List Char)) (text : List Char) :
    Option (Toml × List Char) :=
  match skipBlanks text with
  | '\x7d' :: rest => some (.table .braces [], rest)
  | text => do
    let (members, rest) ← members? item? text.length text
    some (.table .braces (← Entries.insertAll [] members), rest)

def value? : Nat → List Char → Option (Toml × List Char)
  | 0, text => simpleValue? text
  | depth + 1, text =>
    match text with
    | '[' :: rest =>
      (items? (value? depth) text.length rest).map fun (items, rest) => (.array items, rest)
    | '\x7b' :: rest => braces? (value? depth) rest
    | text => simpleValue? text

example : ((value? 1 "[1, true,] x".toList).map (·.2)) = some " x".toList := by decide

example : (value? 1 "\x7b a.b = 1, a.c = 2 \x7d".toList).isSome = true := by decide

example : (value? 1 "[[]]".toList).isNone = true := by decide

end Toml

end ChatMemory
