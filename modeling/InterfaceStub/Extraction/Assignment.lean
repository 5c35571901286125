import InterfaceStub.Extraction.Target
import InterfaceStub.Extraction.TypeExpression
import InterfaceStub.Syntax.Comment

/-!
# Assignments

What an assignment declares.  With an annotation it declares the name as annotated.  Without one, a
module takes the type of a literal value, or makes an alias of a value that is a type expression; a
class declares a variable of its own.
-/

namespace InterfaceStub.Extraction

open Syntax

/-- Reports a type comment on a statement. -/
def reportTypeComment (source : Source) (statement : Node) (following : List Node) :
    Report Unit :=
  if source.statementDeclaresType statement following then
    flag source statement (.unsupported .typeComments)
  else pure ()

/-- The name and the annotation of an assignment that has one. -/
def annotatedName (source : Source) (assignment annotation : Node) :
    Report (Option (String × String)) :=
  match assignment.child? .left with
  | none => pure none
  | some target =>
    if target.isName then do
      let text ← typeText source annotation
      return text.map (source.text target, ·)
    else do
      flag source target (.inside assignment.kind target.kind)
      return none

/-! ## In a module -/

/-- The attributes that an assignment of a value of known type declares. -/
def literalTargets (source : Source) (assignment value : Node) (type : LiteralType)
    (targets : List Node) : Report (List Attribute) :=
  Report.gatherAll <| targets.map fun target =>
    if target.isName then bindName source target type
    else if target.isPattern then bindPattern source assignment target (some value)
    else do
      flag source target (.inside assignment.kind target.kind)
      return []

/-- The declarations of an assignment of something else: names are aliases of `target?`, if there is
one, and the names of patterns have any type. -/
def aliasTargets (source : Source) (assignment : Node) (target? : Option String)
    (targets : List Node) : Report (List Declaration) :=
  Report.gatherAll <| targets.map fun target =>
    if target.isName then
      pure (target?.map fun text => .typeAlias ⟨source.text target, text⟩).toList
    else if target.isPattern then
      List.map .attribute <$> bindPattern source assignment target none
    else do
      flag source target (.inside assignment.kind target.kind)
      return []

/-- The type expression that names are aliases of; not looked at when there are no names. -/
def aliasText (source : Source) (value : Node) (targets : List Node) : Report (Option String) :=
  if targets.any Node.isName then typeText source value else pure none

/-- What an assignment without annotation declares in a module. -/
def inferredDeclarations (source : Source) (assignment value : Node) (targets : List Node) :
    Report (List Declaration) :=
  match inferType source value with
  | .known type => List.map .attribute <$> literalTargets source assignment value type targets
  | .untyped constant => do
    flag source assignment (.untyped constant)
    return []
  | .notLiteral => do
    let text ← aliasText source value targets
    aliasTargets source assignment text targets

/-- What an assignment in a module declares. -/
def moduleAssignment (source : Source) (statement assignment : Node) (following : List Node) :
    Report (List Declaration) :=
  match assignment.child? .type with
  | some annotation => do
    let declared ← annotatedName source assignment annotation
    return (declared.map fun (name, text) => .attribute ⟨name, text⟩).toList
  | none =>
    match assignment.targetsAndValue with
    | (targets, some value) => do
      reportTypeComment source statement following
      inferredDeclarations source assignment value targets
    | (_, none) => pure []

/-! ## In a class -/

/-- The type inside `ClassVar[...]`. -/
def classVarType? (text : String) : Option String :=
  let inner := (textAfter? "typing.ClassVar[".toList text.toList).or
    (textAfter? "ClassVar[".toList text.toList)
  inner.bind fun rest =>
    if rest.getLast? = some ']' then some (String.ofList rest.dropLast) else none

/-- The variable that an annotated assignment in a class declares. -/
def annotatedField (name text : String) : ClassField :=
  match classVarType? text with
  | some inner => ⟨name, inner, true⟩
  | none => ⟨name, text, false⟩

/-- What an assignment in a class declares. -/
def classAssignment (source : Source) (statement assignment : Node) (following : List Node) :
    Report (List ClassField) :=
  match assignment.child? .type with
  | some annotation => do
    let declared ← annotatedName source assignment annotation
    return (declared.map fun (name, text) => annotatedField name text).toList
  | none => do
    relyOn [.any, .classVar]
    reportTypeComment source statement following
    Report.gatherAll (assignment.targetsAndValue.1.map (classVariables source assignment))

end InterfaceStub.Extraction
