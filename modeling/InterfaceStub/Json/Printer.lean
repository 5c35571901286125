import InterfaceStub.Json.Basic

/-!
# Writing JSON text

`Json.compact` writes a value on one line without blanks.  `Json.pretty` gives every item and member
a line of its own, two spaces further in than the value it belongs to; an empty array or object
stays on its line.  Text beyond ASCII is written as it is.
-/

namespace InterfaceStub.Json

/-- Four hexadecimal digits of a number below 2 ^ 16. -/
def fourHexDigits (n : Nat) : List Char :=
  let digits := Nat.toDigits 16 n
  List.replicate (4 - digits.length) '0' ++ digits

/-- How `c` is written inside a string. -/
def stringChar (c : Char) : List Char :=
  match c with
  | '"' => ['\\', '"']
  | '\\' => ['\\', '\\']
  | '\x08' => ['\\', 'b']
  | '\x0c' => ['\\', 'f']
  | '\n' => ['\\', 'n']
  | '\r' => ['\\', 'r']
  | '\t' => ['\\', 't']
  | c => if c.toNat < 0x20 then ['\\', 'u'] ++ fourHexDigits c.toNat else [c]

/-- A text as a JSON string. -/
def stringLiteral (text : String) : String :=
  String.ofList ('"' :: text.toList.flatMap stringChar ++ ['"'])

/-- What stands between the items or members of one value, and at its ends. -/
structure Layout where
  /-- The text that begins a line of the given depth. -/
  newline : Nat → String
  /-- The text between a key and its value. -/
  colon : String

/-- Everything on one line. -/
def Layout.compact : Layout := ⟨fun _ => "", ":"⟩

/-- Two spaces for each level. -/
def Layout.pretty : Layout :=
  ⟨fun depth => String.ofList ('\n' :: List.replicate (2 * depth) ' '), ": "⟩

/-- A string, or the mark that stands for text which cannot be shown. -/
def textLiteral (text : Option String) : String :=
  stringLiteral (text.getD "�")

mutual
/-- Writes a value that begins in a line of the given depth. -/
def write (layout : Layout) (depth : Nat) : Json → String
  | .null => "null"
  | .bool true => "true"
  | .bool false => "false"
  | .number literal => literal
  | .string text => textLiteral text
  | .array [] => "[]"
  | .array (item :: items) =>
    "[" ++ layout.newline (depth + 1) ++ write layout (depth + 1) item ++
      writeItems layout (depth + 1) items ++ layout.newline depth ++ "]"
  | .object [] => "\x7b\x7d"
  | .object ((key, value) :: members) =>
    "\x7b" ++ layout.newline (depth + 1) ++ textLiteral key ++ layout.colon ++
      write layout (depth + 1) value ++ writeMembers layout (depth + 1) members ++
      layout.newline depth ++ "\x7d"

/-- Writes the items after the first one. -/
def writeItems (layout : Layout) (depth : Nat) : List Json → String
  | [] => ""
  | item :: items =>
    "," ++ layout.newline depth ++ write layout depth item ++ writeItems layout depth items

/-- Writes the members after the first one. -/
def writeMembers (layout : Layout) (depth : Nat) : List (Option String × Json) → String
  | [] => ""
  | (key, value) :: members =>
    "," ++ layout.newline depth ++ textLiteral key ++ layout.colon ++ write layout depth value ++
      writeMembers layout depth members
end

/-- The value on one line. -/
def compact (json : Json) : String :=
  write .compact 0 json

/-- The value with a line for each item and member. -/
def pretty (json : Json) : String :=
  write .pretty 0 json

end InterfaceStub.Json
