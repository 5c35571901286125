import InterfaceStub.Extraction.Report
import InterfaceStub.Syntax.Expression

/-!
# Dotted paths

A name, or an attribute of a dotted path, as the text of the names with dots between them.
-/

namespace InterfaceStub.Extraction

open Syntax

/-- The dotted path of an expression inside the expression `outer`, after which a problem is
named. -/
def namePathIn (source : Source) (outer node : Node) : Report (Option String) :=
  match source.shapeOf node with
  | .name => pure (some (source.text node.unwrapped))
  | .attribute =>
    match _h : node.unwrapped.child? .object, node.unwrapped.child? .attribute with
    | some object, some member => do
      let base ← namePathIn source outer object
      return base.map (DottedName.child · (source.text member))
    | _, _ => pure none
  | .memberType =>
    match _h : node.unwrapped.parts.dropLast.head?, node.unwrapped.parts.getLast? with
    | some object, some member => do
      let base ← namePathIn source outer object
      return base.map (DottedName.child · (source.text member))
    | _, _ => pure none
  | _ => do
    flag source node.unwrapped (.dottedName outer.kind)
    return none
termination_by node.size
decreasing_by
  · exact Nat.lt_of_lt_of_le (Node.size_lt_of_child? _h) node.size_unwrapped_le
  · exact Nat.lt_of_lt_of_le
      (Node.size_lt_of_mem_parts ((List.dropLast_sublist _).subset (List.mem_of_mem_head? _h)))
      node.size_unwrapped_le

/-- The dotted path of an expression. -/
def namePath (source : Source) (node : Node) : Report (Option String) :=
  namePathIn source node node

end InterfaceStub.Extraction
