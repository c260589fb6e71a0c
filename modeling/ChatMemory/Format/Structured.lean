import ChatMemory.Format.Json.Fields
import ChatMemory.Format.Toml.Fields

/-!
Formats in which structures of texts, numbers and switches can be written. What is read from them is
described once for all of them.
-/

namespace ChatMemory

class Structured (δ : Type) where
  /-- The values of the named fields of a structure, or nothing if the value is no structure. -/
  fields? : List String → δ → Option (List (Option δ))
  text? : δ → Option String
  bool? : δ → Option Bool
  count? : δ → Option Nat
  single? : δ → Option Float32
  /-- Whether the value says that there is none. -/
  isNull : δ → Bool

instance : Structured Json where
  fields? := Json.fields?
  text? := Json.text?
  bool? := Json.bool?
  count? := Json.count?
  single? := Json.single?
  isNull
    | .null => true
    | _ => false

instance : Structured Toml where
  fields? := Toml.fields?
  text? := Toml.text?
  bool? := Toml.bool?
  count? := Toml.count?
  single? := Toml.single?
  isNull _ := false

namespace Structured

variable {δ : Type} [Structured δ]

def field? {α : Type} (read? : δ → Option α) (missing : α) : Option δ → Option α
  | none => some missing
  | some value => read? value

def optional? {α : Type} (read? : δ → Option α) (value : δ) : Option (Option α) :=
  if isNull value then some none else (read? value).map some

end Structured

end ChatMemory
