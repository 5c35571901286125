import InterfaceStub.Conversion.Basic
import InterfaceStub.Json.Reader
import InterfaceStub.Syntax.Codec
import InterfaceStub.Text.Split

/-!
# Syntax trees on file

A parser may leave its trees in a text, one line of JSON for each source: an object with the `text`
of the source and its `tree`.
-/

namespace InterfaceStub

open Syntax

/-- The source and the tree in one line. -/
def Parser.entry? (line : String) : Option (String × Node) := do
  let json ← Json.parse line
  return (← json.get? "text" >>= Json.text?, ← json.get? "tree" >>= Node.ofJson?)

/-- The parser that knows the trees in the lines of a text. -/
def Parser.ofLines (lines : String) : Parser :=
  let entries := (Text.split '\n' lines).filterMap Parser.entry?
  fun text => entries.lookup text

end InterfaceStub
