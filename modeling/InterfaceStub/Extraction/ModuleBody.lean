import InterfaceStub.Extraction.ClassBody
import InterfaceStub.Extraction.ImportStatement

/-!
# Modules

The stub of a whole source.  `extract` never fails: what a stub cannot express is left out and
reported.
-/

namespace InterfaceStub

open Syntax

/-- What a statement adds to a module. -/
inductive ModuleItem where
  | import (statement : Import)
  | importFrom (statement : ImportFrom)
  | declaration (declared : Declaration)
  deriving DecidableEq, Repr

namespace ModuleItem

def import? : ModuleItem → Option Import
  | .import statement => some statement
  | _ => none

def importFrom? : ModuleItem → Option ImportFrom
  | .importFrom statement => some statement
  | _ => none

def declaration? : ModuleItem → Option Declaration
  | .declaration declared => some declared
  | _ => none

end ModuleItem

/-- The module with these items. -/
def ModuleStub.ofItems (items : List ModuleItem) : ModuleStub where
  imports := items.filterMap ModuleItem.import?
  importFroms := items.filterMap ModuleItem.importFrom?
  content := items.filterMap ModuleItem.declaration?

namespace Extraction

/-- What an expression statement in a module declares. -/
def moduleExpression (source : Source) (statement : Node) (following : List Node) :
    Report (List ModuleItem) :=
  match statement.parts with
  | [] => pure []
  | inner :: rest =>
    match inner.kind with
    | .assignment =>
      List.map .declaration <$> moduleAssignment source statement inner following
    | .augmentedAssignment => do
      flag source statement (.atTopLevel inner.kind.spelling)
      return []
    | _ => do
      if !rest.isEmpty then
        flag source statement (.inside .expressionStatement .expressionList)
      else if !(source.shapeOf inner).isConstant then
        flag source inner (.inside statement.kind inner.kind)
      return []

/-- What a definition with these decorators declares in a module. -/
def moduleDefinition (settings : ExtractSettings) (source : Source) (definition : Node)
    (decorators : List Node) : Report (List ModuleItem) :=
  match definition.statement with
  | .function => do
    return [.declaration (.function (← functionStub source definition decorators))]
  | .classDefinition => do
    return [.declaration (.classStub (← classStub settings source definition decorators))]
  | _ => do
    flag source definition (.atTopLevel definition.statementName)
    return []

/-- What a statement without inner blocks declares in a module. -/
def moduleStatement (settings : ExtractSettings) (source : Source) (statement : Node)
    (following : List Node) : Report (List ModuleItem) :=
  match statement.statement with
  | .expression => moduleExpression source statement following
  | .importNames => pure ((importNames source statement).map .import)
  | .importFrom => pure [.importFrom (importFrom source statement)]
  | .decorated =>
    match statement.child? .definition with
    | some definition => moduleDefinition settings source definition statement.decorators
    | none => pure []
  | _ => moduleDefinition settings source statement []

/-- What the statements of a source declare. -/
def moduleItems (settings : ExtractSettings) (source : Source) (root : Node) :
    Report (List ModuleItem) :=
  blockItems settings source (moduleStatement settings source) root

end Extraction

/-- The stub of a source, the names it relies on, and what it cannot express. -/
structure Extraction where
  stub : ModuleStub
  required : RequiredImports
  diagnostics : List Diagnostic

/-- The stub of a source with this syntax tree. -/
def extract (settings : ExtractSettings) (source : Source) (root : Node) : Extraction :=
  let report := Extraction.moduleItems settings source root
  { stub := .ofItems report.value
    required := .ofList (report.required.map TypingName.qualified)
    diagnostics := report.findings.map (·.diagnostic source) }

end InterfaceStub
