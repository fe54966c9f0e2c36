/-
**Records in JSON.**

A record with named fields is written as an object. It is read from an object, whose other keys do not
count and whose known keys must not be repeated, or from an array of its first fields in their order.
Each reader below takes the value of a field and gives nothing when the value is of another kind.
-/

import ModelPlanner.Json

namespace ModelPlanner.Json

/-- The fields of an object by text keys; nothing when a key is no text. -/
def textFields? (fields : List (Option String × Json)) : Option (List (String × Json)) :=
  fields.mapM fun (key?, value) => key?.map (·, value)

/-- The only value of a key, absent when the key is; nothing when the key is repeated. -/
def only? (fields : List (String × Json)) (key : String) : Option (Option Json) :=
  match fields.filter (·.1 == key) with
  | [] => some none
  | [(_, value)] => some (some value)
  | _ => none

/-- The values of the fields of a record. -/
def record? (names : List String) : Json → Option (List (Option Json))
  | .object fields => (textFields? fields).bind fun fields => names.mapM (only? fields)
  | .array items =>
    if items.length ≤ names.length then
      some (items.map some ++ List.replicate (names.length - items.length) none)
    else none
  | _ => none

/-- The truth value of a JSON value. -/
def bool? : Json → Option Bool
  | .bool truth => some truth
  | _ => none

/-- The text of a JSON value. -/
def text? : Json → Option String
  | .string content? => content?
  | _ => none

/-- The items of a JSON value, each read by the same reader. -/
def list? {α : Type} (item? : Json → Option α) : Json → Option (List α)
  | .array items => items.mapM item?
  | _ => none

/-- The integer of a JSON value that is spelled without fraction and exponent; negative zero is no
integer. -/
def int? : Json → Option Int
  | .number ⟨false, whole, []⟩ => some whole
  | .number ⟨true, whole, []⟩ => if whole = 0 then none else some (-whole)
  | _ => none

/-- The integer of a JSON value, if it lies between two bounds. -/
def intBetween? (low high : Int) (json : Json) : Option Int :=
  (int? json).filter fun n => low ≤ n ∧ n ≤ high

/-- A field that must be there. -/
def required? {α : Type} (read? : Json → Option α) (field? : Option Json) : Option α :=
  field?.bind read?

/-- A field that may be missing or null. -/
def optional? {α : Type} (read? : Json → Option α) : Option Json → Option (Option α)
  | none | some .null => some none
  | some json => (read? json).map some

/-- A field with a default for when it is missing. -/
def defaulted? {α : Type} (default : α) (read? : Json → Option α) : Option Json → Option α
  | none => some default
  | some json => read? json

end ModelPlanner.Json
