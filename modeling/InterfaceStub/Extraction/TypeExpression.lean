import InterfaceStub.Extraction.NamePath

/-!
# Type expressions

The text of an annotation: `None`, `...`, a dotted path, a quoted annotation without its quotes, a
dotted path with arguments in brackets, or a list.  An expression with a part that is none of these
has no text; every such part is reported.  A list leaves out the items that have no text.
-/

namespace InterfaceStub.Extraction

open Syntax

/-- A dotted path with arguments in brackets. -/
def applied (base : String) (arguments : List String) : String :=
  base ++ "[" ++ String.intercalate ", " arguments ++ "]"

/-- A list of type expressions. -/
def listed (items : List String) : String :=
  "[" ++ String.intercalate ", " items ++ "]"

/-- The texts of all arguments; `none` when one of them has no text. -/
def allTexts? : List (Option String) → Option (List String)
  | [] => some []
  | none :: _ => none
  | some text :: texts => (allTexts? texts).map (text :: ·)

/-- The arguments of a subscript.  A single one that is a tuple stands for its items. -/
def subscriptArguments (source : Source) (subscript : Node) : List Node :=
  match subscript.childrenAt .subscript with
  | [single] => if source.shapeOf single = .tuple then single.unwrapped.parts else [single]
  | arguments => arguments

theorem size_lt_of_mem_subscriptArguments {source : Source} {subscript argument : Node}
    (h : argument ∈ subscriptArguments source subscript) : argument.size < subscript.size := by
  rw [subscriptArguments] at h
  split at h
  · rename_i single heq
    have hsingle : single.size < subscript.size :=
      Node.size_lt_of_mem_childrenAt (by rw [heq]; exact List.mem_singleton.2 rfl)
    split at h
    · exact Nat.lt_of_lt_of_le (Node.size_lt_of_mem_parts h)
        (Nat.le_trans single.size_unwrapped_le (Nat.le_of_lt hsingle))
    · rw [List.mem_singleton.1 h]
      exact hsingle
  · exact Node.size_lt_of_mem_childrenAt h

/-- The arguments of a generic type: the items of the bracket after its first part. -/
def genericArguments? (generic : Node) : Option (List Node) :=
  (generic.parts.tail.find? (·.kind == .typeParameter)).map Node.parts

theorem size_lt_of_genericArguments? {generic argument : Node} {arguments : List Node}
    (h : genericArguments? generic = some arguments) (ha : argument ∈ arguments) :
    argument.size < generic.size := by
  obtain ⟨bracket, hb, rfl⟩ := Option.map_eq_some_iff.1 h
  exact Nat.lt_trans (Node.size_lt_of_mem_parts ha)
    (Node.size_lt_of_mem_parts (List.mem_of_mem_tail (List.mem_of_find?_eq_some hb)))

/-- The dotted path that a subscript applies to, which has to be a plain one. -/
def subscriptBase (source : Source) (subscript : Node) : Report (Option String) :=
  match subscript.child? .value with
  | none => pure none
  | some value =>
    match source.shapeOf value with
    | .name | .attribute => namePath source value
    | _ => do
      flag source value (.inside subscript.kind value.kind)
      return none

/-- The text of a type expression. -/
def typeText (source : Source) (node : Node) : Report (Option String) :=
  match source.shapeOf node with
  | .noneValue => pure (some "None")
  | .ellipsis => pure (some "...")
  | .string =>
    if source.isBytes node.unwrapped then do
      flag source node.unwrapped (.constantType (source.text node.unwrapped))
      return none
    else pure (some (source.stringText node.unwrapped))
  | .integer | .float | .boolean => do
    flag source node.unwrapped (.constantType (source.text node.unwrapped))
    return none
  | .name | .attribute | .memberType => namePath source node
  | .subscript => do
    match ← subscriptBase source node.unwrapped with
    | none => return none
    | some base =>
      let arguments ← Report.gather <|
        (subscriptArguments source node.unwrapped).attach.map fun argument =>
          typeText source argument.1
      return (allTexts? arguments).map (applied base)
  | .genericType =>
    match node.unwrapped.firstPart?, _h : genericArguments? node.unwrapped with
    | some base, some nodes => do
      match ← namePath source base with
      | none => return none
      | some base =>
        let arguments ← Report.gather <|
          nodes.attach.map fun argument => typeText source argument.1
        return (allTexts? arguments).map (applied base)
    | _, _ => pure none
  | .list => do
    let items ← Report.gather <|
      node.unwrapped.parts.attach.map fun item => typeText source item.1
    return some (listed (items.filterMap id))
  | _ => do
    flag source node.unwrapped (.typeExpression node.unwrapped.kind)
    return none
termination_by node.size
decreasing_by
  · exact Nat.lt_of_lt_of_le (size_lt_of_mem_subscriptArguments argument.2) node.size_unwrapped_le
  · exact Nat.lt_of_lt_of_le (size_lt_of_genericArguments? _h argument.2) node.size_unwrapped_le
  · exact Nat.lt_of_lt_of_le (Node.size_lt_of_mem_parts item.2) node.size_unwrapped_le

end InterfaceStub.Extraction
