import ChatMemory.Format.Json.Value

/-!
Reading typed data from JSON values. A structure may be written as an object, where unknown members
are passed over, or as an array of its fields in order.
-/

namespace ChatMemory.Json

def text? : Json → Option String
  | .string text => text
  | _ => none

def bool? : Json → Option Bool
  | .bool value => some value
  | _ => none

def count? : Json → Option Nat
  | .number ⟨false, whole, none⟩ => if whole < countLimit then some whole else none
  | _ => none

def integer? : Json → Option Int
  | .number ⟨negative, whole, none⟩ => some (if negative then -(whole : Int) else whole)
  | _ => none

def double? : Json → Option Float
  | .number written => if written.toDouble.isInf then none else some written.toDouble
  | _ => none

/-- Whether a number is a whole one within 64 bits. Below zero those have a sign bit. -/
def Number.isMachineInteger (number : Number) : Bool :=
  number.tail.isNone &&
    if number.negative then decide (0 < number.whole) && decide (number.whole ≤ countLimit / 2)
    else decide (number.whole < countLimit)

/-- A number in single precision. Whole numbers within 64 bits are rounded once, others by way of
double precision. -/
def single? (value : Json) : Option Float32 :=
  match value with
  | .number written =>
    if written.isMachineInteger then value.integer?.map singleOfInt
    else value.double?.map Float.toFloat32
  | _ => none

def list? {α : Type _} (read? : Json → Option α) : Json → Option (List α)
  | .array items => items.mapM read?
  | _ => none

def optional? {α : Type _} (read? : Json → Option α) : Json → Option (Option α)
  | .null => some none
  | value => (read? value).map some

def membersNamed (name : String) (members : List (Text × Json)) : List Json :=
  members.filterMap fun (key, value) => if key = some name then some value else none

/-- The values of the named fields, each at most once, or nothing if the value is no structure. -/
def fields? (names : List String) : Json → Option (List (Option Json))
  | .object members =>
    if members.any (·.1.isNone) then none
    else
      names.mapM fun name =>
        match membersNamed name members with
        | [] => some none
        | [value] => some (some value)
        | _ => none
  | .array items =>
    if names.length < items.length then none
    else some (items.map some ++ List.replicate (names.length - items.length) none)
  | _ => none

def required? {α : Type _} (read? : Json → Option α) (field : Option Json) : Option α :=
  field.bind read?

def withDefault? {α : Type _} (missing : α) (read? : Json → Option α) :
    Option Json → Option α
  | none => some missing
  | some value => read? value

end ChatMemory.Json
