import InterfaceStub.Syntax.Node
import InterfaceStub.Json.Basic

/-!
# Syntax trees in JSON

A tree is written as the list of its nodes in document order.  A node is a list of its depth, its
kind, its marks, the part it plays in its parent or `null`, and the offsets of its two ends.  The
marks are letters: `n` named, `x` extra, `e` error, `m` missing, `h` has an error.
-/

namespace InterfaceStub.Syntax

/-- The depth and the label of one node. -/
def Label.ofJson? : Json → Option (Nat × Label)
  | .array [depth, kind, marks, field, start, stop] => do
    let marks := (← marks.text?).toList
    let field ← field.nullable? Json.text?
    let label : Label :=
      { kind := Kind.ofSpelling (← kind.text?)
        named := marks.contains 'n'
        extra := marks.contains 'x'
        error := marks.contains 'e'
        missing := marks.contains 'm'
        hasError := marks.contains 'h'
        field := field.map Field.ofSpelling
        start := ← start.nat?
        stop := ← stop.nat? }
    return (← depth.nat?, label)
  | _ => none

/-- The tree that a list of nodes describes. -/
def Node.ofJson? (json : Json) : Option Node :=
  json.list? Label.ofJson? >>= Node.ofPreorder?

end InterfaceStub.Syntax
