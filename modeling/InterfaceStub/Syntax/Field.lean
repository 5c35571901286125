/-!
# Fields of syntax nodes

The part that a node plays in its parent, such as the target of an assignment.
-/

namespace InterfaceStub.Syntax

/-- The part that a node plays in its parent. -/
inductive Field where
  | type
  | left
  | right
  | operator
  | argument
  | subscript
  | object
  | attribute
  | value
  | alternative
  | condition
  | consequence
  | body
  | definition
  | name
  | localName
  | moduleName
  | superclasses
  | parameters
  | returnType
  /-- Any other part. -/
  | other (text : String)
  deriving DecidableEq, Repr

namespace Field

/-- The name that the grammar gives it. -/
def spelling : Field → String
  | .type => "type"
  | .left => "left"
  | .right => "right"
  | .operator => "operator"
  | .argument => "argument"
  | .subscript => "subscript"
  | .object => "object"
  | .attribute => "attribute"
  | .value => "value"
  | .alternative => "alternative"
  | .condition => "condition"
  | .consequence => "consequence"
  | .body => "body"
  | .definition => "definition"
  | .name => "name"
  | .localName => "alias"
  | .moduleName => "module_name"
  | .superclasses => "superclasses"
  | .parameters => "parameters"
  | .returnType => "return_type"
  | .other text => text

/-- Every one that has a constructor of its own. -/
def known : List Field :=
  [.type, .left, .right, .operator, .argument, .subscript, .object, .attribute, .value,
   .alternative, .condition, .consequence, .body, .definition, .name, .localName, .moduleName,
   .superclasses, .parameters, .returnType]

/-- The one with this spelling. -/
def ofSpelling (text : String) : Field :=
  (known.find? (·.spelling == text)).getD (.other text)

end Field

end InterfaceStub.Syntax
