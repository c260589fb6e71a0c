import ChatMemory.Format.Toml.Value

/-!
Reading typed data from TOML values. A structure may be written as a table, where unknown entries
are passed over, or as an array of its fields in order.
-/

namespace ChatMemory.Toml

def text? : Toml → Option String
  | .string value => some value
  | _ => none

def bool? : Toml → Option Bool
  | .boolean value => some value
  | _ => none

def count? : Toml → Option Nat
  | .integer value => if value < 0 then none else some value.toNat
  | _ => none

def single? : Toml → Option Float32
  | .integer value => some (singleOfInt value)
  | .float value => some value.toFloat32
  | _ => none

/-- The fields whose values are given in order. Values past the last field are passed over. -/
def fieldsInOrder (names : List String) (values : List Toml) : List (Option Toml) :=
  (values.take names.length).map some ++ List.replicate (names.length - values.length) none

/-- The values of the named fields, or nothing if the value is no structure. A date or a time is a
structure with none of them. -/
def fields? (names : List String) : Toml → Option (List (Option Toml))
  | .table _ entries => some (names.map (entries.lookup ·))
  | .array items => some (fieldsInOrder names items)
  | .tables elements => some (fieldsInOrder names (elements.map (.table .header)))
  | .moment => some (names.map fun _ => none)
  | _ => none

end ChatMemory.Toml
