import InterfaceStub.Json.Basic

/-!
# Records in JSON

A record with named fields is written as an object, or as the array of its fields in order.  An
object may have members of other names, but no field twice.  `record?` wants an array to have every
field; `settings?` lets the last ones be left out.
-/

namespace InterfaceStub.Json

/-- The values of the fields in an object, `none` inside for a field that is not there. -/
def fieldValues? (fields : List String) (members : List (Option String × Json)) :
    Option (List (Option Json)) :=
  if members.all (·.1.isSome) then fields.mapM (onlyValue? · members) else none

/-- The values of the fields of a record. -/
def record? (fields : List String) : Json → Option (List (Option Json))
  | .object members => fieldValues? fields members
  | .array items => if items.length = fields.length then some (items.map some) else none
  | _ => none

/-- The values of the fields of a record whose fields all have default values. -/
def settings? (fields : List String) : Json → Option (List (Option Json))
  | .object members => fieldValues? fields members
  | .array items =>
    if items.length ≤ fields.length then
      some (items.map some ++ List.replicate (fields.length - items.length) none)
    else none
  | _ => none

/-- A field that has to be there. -/
def required? (read : Json → Option α) (value : Option Json) : Option α :=
  value >>= read

/-- A field that may be absent or `null`. -/
def optional? (read : Json → Option α) : Option Json → Option (Option α)
  | none => some none
  | some value => value.nullable? read

/-- A field with a default value. -/
def withDefault? (read : Json → Option α) (default : α) : Option Json → Option α
  | none => some default
  | some value => read value

/-- The name of one of several forms, given by itself or by its place among them. -/
def nameOrPlace? (names : List String) : Json → Option String
  | .number literal => (nat? (.number literal)).bind fun place => names[place]?
  | json => json.text?

/-- A value of several forms: the name of its form as `read` gives it, and the record of that form.
The name is the member `kind` of an object and the first item of an array. -/
def tagged? (read : Json → Option String) : Json → Option (String × Json)
  | .object members => do
    let kind ← onlyValue? "kind" members
    return (← required? read kind, .object members)
  | .array (kind :: items) => do
    return (← read kind, .array items)
  | _ => none

end InterfaceStub.Json
