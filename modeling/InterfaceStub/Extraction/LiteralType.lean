import InterfaceStub.Extraction.Problem
import InterfaceStub.Stub.Required
import InterfaceStub.Syntax.Expression

/-!
# Types of literals

What the value of an assignment tells of the type of the name it is bound to.  The value is looked
at and never evaluated.
-/

namespace InterfaceStub.Extraction

open Syntax

/-- The types that values without annotation are given. -/
inductive LiteralType where
  | optional
  | str
  | bytes
  | int
  | float
  | bool
  | list
  | dict
  | set
  | tuple
  | any
  deriving DecidableEq, Repr

namespace LiteralType

/-- The annotation for the type. -/
def spelling : LiteralType → String
  | .optional => "Optional[Any]"
  | .str => "str"
  | .bytes => "bytes"
  | .int => "int"
  | .float => "float"
  | .bool => "bool"
  | .list => "List[Any]"
  | .dict => "Dict[Any, Any]"
  | .set => "Set[Any]"
  | .tuple => "Tuple[Any, ...]"
  | .any => "Any"

/-- The names of `typing` in the annotation. -/
def required : LiteralType → List TypingName
  | .optional => [.optional, .any]
  | .list => [.list, .any]
  | .dict => [.dict, .any]
  | .set => [.set, .any]
  | .tuple => [.tuple, .any]
  | .any => [.any]
  | .str | .bytes | .int | .float | .bool => []

end LiteralType

/-- What a value tells of its type. -/
inductive Inferred where
  | known (type : LiteralType)
  /-- The value is a constant whose type has no spelling. -/
  | untyped (constant : UntypedConstant)
  /-- The value is no literal. -/
  | notLiteral
  deriving DecidableEq, Repr

/-- Whether the text of a number ends in the mark of an imaginary one. -/
def endsImaginary (number : String) : Bool :=
  match number.toList.getLast? with
  | some c => c == 'j' || c == 'J'
  | none => false

/-- The type of a number; `none` for any other expression. -/
def numberType? (source : Source) (node : Node) : Option Inferred :=
  let typed (type : LiteralType) : Inferred :=
    if endsImaginary (source.text node.unwrapped) then .untyped .complex else .known type
  match source.shapeOf node with
  | .integer => some (typed .int)
  | .float => some (typed .float)
  | _ => none

/-- The type of a number with a sign in front. -/
def signedType (source : Source) (unary : Node) : Inferred :=
  match (unary.child? .operator).map source.text, unary.child? .argument with
  | some "-", some argument | some "+", some argument =>
    (numberType? source argument).getD .notLiteral
  | _, _ => .notLiteral

/-- What a value tells of its type. -/
def inferType (source : Source) (node : Node) : Inferred :=
  match source.shapeOf node with
  | .noneValue => .known .optional
  | .string => .known (if source.isBytes node.unwrapped then .bytes else .str)
  | .integer | .float => (numberType? source node).getD .notLiteral
  | .boolean => .known .bool
  | .ellipsis => .untyped .ellipsis
  | .list => .known .list
  | .dictionary => .known .dict
  | .set => .known .set
  | .tuple => .known .tuple
  | .call => .known .any
  | .unary => signedType source node.unwrapped
  | .name | .attribute | .subscript | .genericType | .memberType | .formattedString | .negation
  | .other => .notLiteral

end InterfaceStub.Extraction
