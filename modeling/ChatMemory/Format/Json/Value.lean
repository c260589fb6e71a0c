import ChatMemory.Format.Json.Token

/-!
JSON values, and how they are read from tokens and written.
-/

namespace ChatMemory

/-- A JSON value. Members are kept in the order in which they are written. -/
inductive Json
  | null
  | bool (value : Bool)
  | number (value : Json.Number)
  | string (text : Json.Text)
  | array (items : List Json)
  | object (members : List (Json.Text × Json))
  deriving Repr

namespace Json

inductive Frame
  | array (items : List Json)
  | object (members : List (Text × Json)) (key : Text)

inductive Stage
  | value
  /-- The first item of an array, or its end. -/
  | firstItem
  /-- The key of a member. The first one may be missing. -/
  | key (members : List (Text × Json)) (mayEnd : Bool)
  | colon (members : List (Text × Json)) (key : Text)
  /-- What can follow a value. -/
  | after (value : Json)

/-- Puts one token in its place. The frames are the unfinished arrays and objects, innermost
first. -/
def place : Stage × List Frame → Token → Option (Stage × List Frame)
  | (.value, frames), token | (.firstItem, frames), token =>
    match token with
    | .null => some (.after .null, frames)
    | .bool value => some (.after (.bool value), frames)
    | .number value => some (.after (.number value), frames)
    | .string text => some (.after (.string text), frames)
    | .beginArray => some (.firstItem, .array [] :: frames)
    | .beginObject => some (.key [] true, frames)
    | _ => none
  | (.key members _, frames), .string text => some (.colon members text, frames)
  | (.key [] true, frames), .endObject => some (.after (.object []), frames)
  | (.colon members key, frames), .colon => some (.value, .object members key :: frames)
  | (.after value, .array items :: frames), .comma =>
    some (.value, .array (value :: items) :: frames)
  | (.after value, .array items :: frames), .endArray =>
    some (.after (.array (value :: items).reverse), frames)
  | (.after value, .object members key :: frames), .comma =>
    some (.key ((key, value) :: members) false, frames)
  | (.after value, .object members key :: frames), .endObject =>
    some (.after (.object ((key, value) :: members).reverse), frames)
  | _, _ => none

def placeOrEnd : Stage × List Frame → Token → Option (Stage × List Frame)
  | (.firstItem, .array [] :: frames), .endArray => some (.after (.array []), frames)
  | state, token => place state token

def ofTokens? (tokens : List Token) : Option Json :=
  match tokens.foldlM placeOrEnd (.value, []) with
  | some (.after value, []) => some value
  | _ => none

def ofText? (document : String) : Option Json :=
  (tokens? document.toList).bind ofTokens?

example : (ofText? "[1,]").isNone = true := by decide

example : (ofText? " [[], \x7b\"a\": [null]\x7d] ").isSome = true := by decide

end Json

end ChatMemory
