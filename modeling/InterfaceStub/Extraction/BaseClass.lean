import InterfaceStub.Extraction.TypeExpression

/-!
# Base classes

The text of a base class: a dotted path, or a dotted path with one base class in brackets.
-/

namespace InterfaceStub.Extraction

open Syntax

/-- The text of a base class. -/
def baseClass (source : Source) (node : Node) : Report (Option String) :=
  match source.shapeOf node with
  | .name | .attribute => namePath source node
  | .subscript => do
    match ← subscriptBase source node.unwrapped with
    | none => return none
    | some base =>
      match _h : node.unwrapped.childrenAt .subscript with
      | [argument] =>
        let inner ← baseClass source argument
        return inner.map fun text => applied base [text]
      | _ =>
        flag source node.unwrapped (.baseClass .tuple)
        return none
  | _ => do
    flag source node.unwrapped (.baseClass node.unwrapped.kind)
    return none
termination_by node.size
decreasing_by
  exact Nat.lt_of_lt_of_le
    (Node.size_lt_of_mem_childrenAt (by rw [_h]; exact List.mem_singleton.2 rfl))
    node.size_unwrapped_le

end InterfaceStub.Extraction
