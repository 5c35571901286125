import InterfaceStub.Extraction.Assignment
import InterfaceStub.Extraction.BaseClass
import InterfaceStub.Extraction.Block
import InterfaceStub.Extraction.Signature

/-!
# Classes

The stub of a class: its bases, and what the statements of its body declare.
-/

namespace InterfaceStub.Extraction

open Syntax

/-- Whether a statement is one constant, such as a documentation text, and nothing else. -/
def isLoneConstant (source : Source) (statement : Node) : Bool :=
  match statement.parts with
  | [value] => (source.shapeOf value).isConstant
  | _ => false

/-- Reports a statement that has no place in a class, under a name for it. -/
def rejectMember (source : Source) (statement : Node) (name : String) :
    Report (List ClassMember) := do
  flag source statement (.inClassBody name)
  return []

/-- What an expression statement in a class declares. -/
def classExpression (source : Source) (statement : Node) (following : List Node) :
    Report (List ClassMember) :=
  match statement.firstPart? with
  | some inner =>
    if inner.kind == .assignment then
      List.map .field <$> classAssignment source statement inner following
    else if isLoneConstant source statement then pure []
    else rejectMember source statement statement.statementName
  | none => rejectMember source statement statement.statementName

/-- What a decorated definition in a class declares. -/
def decoratedMember (source : Source) (statement : Node) : Report (List ClassMember) :=
  match statement.child? .definition with
  | none => pure []
  | some definition =>
    match definition.statement with
    | .function => do return [.method (← functionStub source definition statement.decorators)]
    | _ => rejectMember source statement definition.statementName

/-- What a statement without inner blocks declares in a class. -/
def classStatement (source : Source) (statement : Node) (following : List Node) :
    Report (List ClassMember) :=
  match statement.statement with
  | .pass => pure []
  | .expression => classExpression source statement following
  | .function => do return [.method (← functionStub source statement [])]
  | .decorated => decoratedMember source statement
  | _ => rejectMember source statement statement.statementName

/-- Whether an argument in the header of a class is no base. -/
def isClassKeyword (argument : Node) : Bool :=
  argument.kind == .keywordArgument || argument.kind == .dictionarySplat

/-- The bases of a class. -/
def classBases (source : Source) (arguments : List Node) : Report (List String) :=
  List.filterMap id <$>
    Report.gather ((arguments.filter fun node => !isClassKeyword node).map (baseClass source))

/-- What the header of a class definition with these decorators says: the bases. -/
def classHeader (source : Source) (definition : Node) (decorators : List Node) :
    Report (List String) := do
  if !decorators.isEmpty then
    flag source definition (.unsupported .classDecorators)
  let arguments := ((definition.child? .superclasses).map Node.parts).getD []
  let bases ← classBases source arguments
  if arguments.any isClassKeyword then
    flag source definition (.unsupported .classKeywords)
  return bases

/-- What the statements in the body of a class definition declare. -/
def classBody (settings : ExtractSettings) (source : Source) (definition : Node) :
    Report (List ClassMember) :=
  match definition.child? .body with
  | some block => blockItems settings source (classStatement source) block
  | none => pure []

/-- The stub of a class definition with these decorators. -/
def classStub (settings : ExtractSettings) (source : Source) (definition : Node)
    (decorators : List Node) : Report ClassStub := do
  let bases ← classHeader source definition decorators
  let body ← classBody settings source definition
  return { name := nameOf source definition, bases, body }

end InterfaceStub.Extraction
