import ChatMemory.Format.Toml.Value

/-!
TOML documents: lines of entries, and headers that say to which table the entries after them belong.
-/

namespace ChatMemory.Toml

inductive Statement
  | entry (key : List String) (value : Toml)
  | header (key : List String)
  /-- A header in double brackets, which begins another table in a row of them. -/
  | element (key : List String)

def headerKey? (closing : List Char) (text : List Char) : Option (List String × List Char) := do
  let (key, rest) ← key? text
  if closing.isPrefixOf rest then some (key, rest.drop closing.length) else none

def statement? : List Char → Option (Statement × List Char)
  | '[' :: '[' :: rest => (headerKey? "]]".toList rest).map fun (key, rest) => (.element key, rest)
  | '[' :: rest => (headerKey? "]".toList rest).map fun (key, rest) => (.header key, rest)
  | text =>
    (keyedValue? (value? depthLimit) text).map fun ((key, value), rest) => (.entry key value, rest)

def statements? : Nat → List Char → Option (List Statement)
  | 0, _ => none
  | limit + 1, text =>
    match skipBlanks text with
    | [] => some []
    | text =>
      match afterLine? text with
      | some rest => statements? limit rest
      | none => do
        let (statement, rest) ← statement? text
        (statements? limit (← afterLine? rest)).map (statement :: ·)

structure Section where
  key : List String
  isElement : Bool
  entries : List (List String × Toml)

def sections : List Statement → List (List String × Toml) × List Section
  | [] => ([], [])
  | .entry key value :: rest =>
    let (entries, later) := sections rest
    ((key, value) :: entries, later)
  | .header key :: rest =>
    let (entries, later) := sections rest
    ([], ⟨key, false, entries⟩ :: later)
  | .element key :: rest =>
    let (entries, later) := sections rest
    ([], ⟨key, true, entries⟩ :: later)

/-- What a section makes of the value that its header names. A table has only one header. -/
def Section.change (part : Section) (named : Option Toml) : Option Toml :=
  if part.isElement then
    match named with
    | none => (Entries.insertAll [] part.entries).map fun element => .tables [element]
    | some (.tables elements) =>
      (Entries.insertAll [] part.entries).map fun element => .tables (elements ++ [element])
    | some _ => none
  else
    match named with
    | none => (Entries.insertAll [] part.entries).map (.table .header)
    | some (.table .passed entries) => (Entries.insertAll entries part.entries).map (.table .header)
    | some _ => none

/-- The table that a document describes. A byte order mark before it is passed over. -/
def ofText? (document : String) : Option Toml := do
  let text :=
    match document.toList with
    | '\uFEFF' :: rest => rest
    | text => text
  let (entries, parts) := sections (← statements? (text.length + 1) text)
  let root ← Entries.insertAll [] entries
  let table ← parts.foldlM (fun table part => table.changeAt part.change part.key) root
  some (.table .header table)

example : (ofText? "[a.b]\nx = 1\n[a]\ny = 2\n[[a.c]]\n").isSome = true := by decide

example : (ofText? "[a]\nb.c = 1\n[a.b]\n").isNone = true := by decide

example : (ofText? "a = 1 b = 2").isNone = true := by decide

end ChatMemory.Toml
