/-!
# JSON values

A JSON document as a value.  What reading a document may depend on is kept: a number keeps its
spelling, an object keeps every member in order, also two of one key, and a string that is no
Unicode text is told apart from every string that is one.
-/

namespace InterfaceStub

/-- A JSON value. -/
inductive Json where
  | null
  | bool (value : Bool)
  /-- A number as it is spelled. -/
  | number (literal : String)
  /-- A string; `none` when its escapes leave a surrogate without its partner. -/
  | string (text : Option String)
  | array (items : List Json)
  /-- The members of an object in the order of the document, with their keys. -/
  | object (members : List (Option String × Json))

namespace Json

/-- The JSON string of a text. -/
def ofString (text : String) : Json :=
  .string (some text)

/-- The JSON number of a natural number. -/
def ofNat (n : Nat) : Json :=
  .number (String.ofList (Nat.toDigits 10 n))

/-- The JSON array of a list of texts. -/
def ofStrings (texts : List String) : Json :=
  .array (texts.map ofString)

/-- `null` for an absent value. -/
def ofOption (toJson : α → Json) : Option α → Json
  | none => .null
  | some a => toJson a

/-- The JSON object with the given members. -/
def ofMembers (members : List (String × Json)) : Json :=
  .object (members.map fun member => (some member.1, member.2))

/-- The text of a string. -/
def text? : Json → Option String
  | .string text => text
  | _ => none

/-- The truth value of `true` or `false`. -/
def bool? : Json → Option Bool
  | .bool value => some value
  | _ => none

/-- The items of an array. -/
def items? : Json → Option (List Json)
  | .array items => some items
  | _ => none

/-- The value of a digit of base ten. -/
def digit? (c : Char) : Option Nat :=
  if '0'.toNat ≤ c.toNat ∧ c.toNat ≤ '9'.toNat then some (c.toNat - '0'.toNat) else none

/-- The number that decimal digits spell; `none` for no digits, and for anything else. -/
def natOfDigits? : List Char → Option Nat
  | [] => none
  | cs => cs.foldlM (fun n c => (digit? c).map (10 * n + ·)) 0

/-- The value of a number spelled with digits alone: no sign, no fraction and no exponent. -/
def nat? : Json → Option Nat
  | .number literal => natOfDigits? literal.toList
  | _ => none

/-- Every item of an array, read by `read`. -/
def list? (read : Json → Option α) (json : Json) : Option (List α) :=
  json.items? >>= List.mapM read

/-- The value of `null` is absent; any other is read by `read`. -/
def nullable? (read : Json → Option α) : Json → Option (Option α)
  | .null => some none
  | json => (read json).map some

/-- The values that the members of one key have, in order. -/
def valuesOf (key : String) (members : List (Option String × Json)) : List Json :=
  members.filterMap fun member => if member.1 = some key then some member.2 else none

/-- The value of the only member of one key, `none` inside when there is none.  Two members of the
key are refused. -/
def onlyValue? (key : String) (members : List (Option String × Json)) : Option (Option Json) :=
  match valuesOf key members with
  | [] => some none
  | [value] => some (some value)
  | _ => none

/-- The value of the first member with this key. -/
def get? (key : String) : Json → Option Json
  | .object members => (valuesOf key members).head?
  | _ => none

end Json

end InterfaceStub
