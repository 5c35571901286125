import InterfaceStub.Extraction.LiteralType
import InterfaceStub.Extraction.Report
import InterfaceStub.Stub.Basic

/-!
# Targets of assignments

A target is a name, a pattern of targets or something that a stub cannot express.  `bindPattern`
binds the names of a pattern to the types of the values at the same places, `classVariables`
declares the names of a target in a class.
-/

namespace InterfaceStub.Syntax.Node

/-- Whether a target is a name. -/
def isName (node : Node) : Bool :=
  node.kind == .identifier || node.kind == .keywordIdentifier

/-- Whether a target is a pattern of targets. -/
def isPattern (node : Node) : Bool :=
  node.kind == .patternList || node.kind == .tuplePattern || node.kind == .listPattern

/-- Whether an element stands for any number of elements. -/
def isStarred (node : Node) : Bool :=
  node.kind == .listSplatPattern || node.kind == .listSplat

/-- The targets of a chain of assignments, first to last, and the value they are given. -/
def targetsAndValue (assignment : Node) : List Node × Option Node :=
  let target := (assignment.child? .left).toList
  match _h : assignment.child? .right with
  | some right =>
    if right.kind == .assignment then
      let (targets, value) := right.targetsAndValue
      (target ++ targets, value)
    else (target, some right)
  | none => (target, none)
termination_by assignment.size
decreasing_by exact size_lt_of_child? _h

end InterfaceStub.Syntax.Node

namespace InterfaceStub.Extraction

open Syntax

/-- The elements of a tuple or list, if they meet the elements of a pattern one to one. -/
def matchedElements? (source : Source) (elements : List Node) (value : Node) :
    Option (List Node) :=
  match source.shapeOf value with
  | .tuple | .list =>
    if value.parts.length = elements.length && !(elements ++ value.parts).any Node.isStarred then
      some value.parts
    else none
  | _ => none

/-- The values that meet the elements of a pattern, as far as there are any. -/
def elementValues (source : Source) (elements : List Node) (value : Option Node) :
    List (Option Node) :=
  match value.bind (matchedElements? source elements) with
  | some values => values.map some
  | none => elements.map fun _ => none

/-- The type of the value that meets a name, `Any` when it is not known. -/
def typeAt (source : Source) (value : Option Node) : LiteralType :=
  match value.map (inferType source) with
  | some (.known type) => type
  | _ => .any

/-- Binds a name to a type. -/
def bindName (source : Source) (name : Node) (type : LiteralType) : Report (List Attribute) := do
  relyOn type.required
  return [⟨source.text name, type.spelling⟩]

/-- Binds the names of a pattern to the types of the values at the same places. -/
def bindPattern (source : Source) (assignment pattern : Node) (value : Option Node) :
    Report (List Attribute) :=
  let pairs := pattern.parts.attach.zip (elementValues source pattern.parts value)
  Report.gatherAll <| pairs.map fun (element, value) =>
    if element.1.isName then bindName source element.1 (typeAt source value)
    else if element.1.isPattern then bindPattern source assignment element.1 value
    else do
      flag source element.1 (.inside assignment.kind element.1.kind)
      return []
termination_by pattern.size
decreasing_by exact Node.size_lt_of_mem_parts element.2

/-- Declares the names of a target as variables of a class. -/
def classVariables (source : Source) (assignment target : Node) : Report (List ClassField) :=
  if target.isName then pure [.unannotated (source.text target)]
  else if target.isPattern then
    Report.gatherAll <| target.parts.attach.map fun element =>
      classVariables source assignment element.1
  else do
    flag source target (.inside assignment.kind target.kind)
    return []
termination_by target.size
decreasing_by exact Node.size_lt_of_mem_parts element.2

end InterfaceStub.Extraction
