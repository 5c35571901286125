import InterfaceStub.Extraction.TypeExpression
import InterfaceStub.Stub.Basic
import InterfaceStub.Syntax.Acceptance
import InterfaceStub.Syntax.Comment

/-!
# Signatures

The signature of a function.  Each entry of a parameter list is sorted by itself (`entryOf`).  A
star turns the parameters after it into those given by name only (`assignRoles`).
-/

namespace InterfaceStub.Extraction

open Syntax

/-! ## Entries of a parameter list -/

/-- What an entry of a parameter list is. -/
inductive ParameterEntry where
  | plain (name : Node) (type value : Option Node)
  /-- Takes the remaining positional arguments. -/
  | varArg (name : Node) (type : Option Node)
  /-- Takes the remaining named arguments. -/
  | kwArg (name : Node) (type : Option Node)
  /-- What follows is given by name only. -/
  | star
  /-- What precedes is given by position only. -/
  | slash (node : Node)
  | typeComment (node : Node)
  /-- Has no place in a stub. -/
  | unsupported (parent child : Node)
  | nothing

/-- A starred entry with an optional annotation. -/
def splatEntry (parameters splat : Node) (type : Option Node) : ParameterEntry :=
  match splat.firstPart? with
  | some name =>
    if name.kind == .identifier then
      if splat.kind == .listSplatPattern then .varArg name type else .kwArg name type
    else .unsupported parameters splat
  | none => .unsupported parameters splat

/-- What an entry of a parameter list is, when it is no extra. -/
def partEntry (parameters child : Node) : ParameterEntry :=
  match child.kind with
  | .positionalSeparator => .slash child
  | .keywordSeparator => .star
  | .identifier => .plain child none none
  | .listSplatPattern | .dictionarySplatPattern => splatEntry parameters child none
  | .typedParameter =>
    match child.firstPart? with
    | some inner =>
      if inner.isVariadic then splatEntry parameters inner (child.child? .type)
      else .plain inner (child.child? .type) none
    | none => .nothing
  | .defaultParameter | .typedDefaultParameter =>
    match child.child? .name with
    | some name =>
      if name.kind == .identifier then .plain name (child.child? .type) (child.child? .value)
      else .unsupported child name
    | none => .nothing
  | _ => .unsupported parameters child

/-- What an entry of a parameter list is. -/
def entryOf (source : Source) (parameters child : Node) : ParameterEntry :=
  if child.label.extra then
    if source.commentDeclaresType child then .typeComment child else .nothing
  else partEntry parameters child

/-- The entries of a parameter list, in order. -/
def entries (source : Source) (parameters : Node) : List ParameterEntry :=
  (parameters.children.filter (·.label.named)).map (entryOf source parameters)

/-- Reports what cannot be expressed among some entries.  Of all slashes the first one is reported;
`slashed` says that one came before. -/
def reportEntries (source : Source) (slashed : Bool) : List ParameterEntry → Report Unit
  | [] => pure ()
  | .slash node :: rest => do
    if slashed then pure () else flag source node (.unsupported .positionOnlyArguments)
    reportEntries source true rest
  | .typeComment node :: rest => do
    flag source node (.unsupported .typeComments)
    reportEntries source slashed rest
  | .unsupported parent child :: rest => do
    flag source child (.inside parent.kind child.kind)
    reportEntries source slashed rest
  | _ :: rest => reportEntries source slashed rest

/-! ## Parameters -/

/-- How a parameter receives its argument. -/
inductive Role where
  | positional
  | keywordOnly
  | varArg
  | kwArg
  deriving DecidableEq, Repr

/-- A parameter with its annotation and its default value. -/
structure Parameter where
  role : Role
  name : Node
  type : Option Node := none
  value : Option Node := none

/-- The parameters among some entries, in order.  `starred` says that a star came before. -/
def assignRoles (starred : Bool) : List ParameterEntry → List Parameter
  | [] => []
  | .plain name type value :: rest =>
    ⟨if starred then .keywordOnly else .positional, name, type, value⟩ :: assignRoles starred rest
  | .varArg name type :: rest => ⟨.varArg, name, type, none⟩ :: assignRoles true rest
  | .kwArg name type :: rest => ⟨.kwArg, name, type, none⟩ :: assignRoles starred rest
  | .star :: rest => assignRoles true rest
  | _ :: rest => assignRoles starred rest

/-- The text of an annotation, if there is one. -/
def optionalType (source : Source) : Option Node → Report (Option String)
  | some type => typeText source type
  | none => pure none

/-- The argument that a parameter stands for. -/
def Parameter.argument (source : Source) (parameter : Parameter) (hasDefault : Bool) :
    Report Argument := do
  let type ← optionalType source parameter.type
  return ⟨source.text parameter.name, type, hasDefault⟩

/-- The positional parameters.  Default values belong to the last ones. -/
def positionalArguments (source : Source) (parameters : Node) (positional : List Parameter) :
    Report (List Argument) :=
  match alignRight positional (positional.filterMap Parameter.value) with
  | .ok pairs =>
    Report.gather <| pairs.map fun (parameter, value) => parameter.argument source value.isSome
  | .error error => do
    flag source parameters (.alignment error)
    return []

/-- A parameter that is not positional, with its role.  Only one given by name has a default. -/
def Parameter.namedArgument (source : Source) (parameter : Parameter) :
    Report (Role × Argument) := do
  let argument ← parameter.argument source
    (parameter.role == .keywordOnly && parameter.value.isSome)
  return (parameter.role, argument)

/-- The arguments with a given role. -/
def withRole (role : Role) (arguments : List (Role × Argument)) : List Argument :=
  (arguments.filter (·.1 == role)).map (·.2)

/-- The parameters of a function, as the function with this name and nothing else. -/
def parameterList (source : Source) (name : String) (parameters : Node) : Report FunctionStub := do
  let found := entries source parameters
  reportEntries source false found
  let (positional, named) := (assignRoles false found).partition (·.role == .positional)
  let args ← positionalArguments source parameters positional
  let others ← Report.gather (named.map (·.namedArgument source))
  return {
    name, args
    varArg := (withRole .varArg others).getLast?
    kwArgs := withRole .keywordOnly others
    kwArg := (withRole .kwArg others).getLast? }

/-! ## Functions -/

/-- A decorator that is a dotted path. -/
def decoratorPath (source : Source) (decorator : Node) : Report (Option String) :=
  match decorator.firstPart? with
  | none => pure none
  | some expression =>
    match source.shapeOf expression with
    | .name | .attribute => namePath source expression
    | _ => do
      flag source expression.unwrapped (.decorator expression.unwrapped.kind)
      return none

/-- The text of a child; empty when there is none. -/
def nameOf (source : Source) (definition : Node) : String :=
  ((definition.child? .name).map source.text).getD ""

/-- The signature of a function definition with these decorators. -/
def functionStub (source : Source) (definition : Node) (decorators : List Node) :
    Report FunctionStub := do
  let decorators ← Report.gather (decorators.map (decoratorPath source))
  let name := nameOf source definition
  let signature ← match definition.child? .parameters with
    | some parameters => parameterList source name parameters
    | none => pure { name }
  let returns ← optionalType source (definition.child? .returnType)
  if source.signatureDeclaresType definition then
    flag source definition (.unsupported .typeComments)
  return { signature with returns, decorators := decorators.filterMap id }

end InterfaceStub.Extraction
