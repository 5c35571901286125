import InterfaceStub.Stub.Required
import InterfaceStub.Stub.Writer

/-!
# Stub text

`ModuleStub.render` writes a stub.  Imports come first, `import` before `from`, then the lines for
required names that the module does not import itself; one empty line divides them from the
declarations.  Every body is `...`.
-/

namespace InterfaceStub

open Writer

/-- Writes ` as localName`, if there is one. -/
def writeLocalName (localName : Option String) (writer : Writer) : Writer :=
  match localName with
  | some localName => writer |> put " as " |> put localName
  | none => writer

/-- Writes an `import` line. -/
def Import.write (statement : Import) (writer : Writer) : Writer :=
  writer |> put "import " |> put statement.name |> writeLocalName statement.localName |> endLine

/-- Writes a name of a `from` line. -/
def ImportedName.write (imported : ImportedName) (writer : Writer) : Writer :=
  writer |> put imported.name |> writeLocalName imported.localName

/-- Writes a `from` line. -/
def ImportFrom.write (statement : ImportFrom) (writer : Writer) : Writer :=
  writer |> put "from "
    |> put (String.ofList (List.replicate statement.level.toNat '.'))
    |> put statement.path |> put " import "
    |> separated ", " ImportedName.write statement.names
    |> endLine

/-- Writes a `from` line for names that inferred annotations rely on. -/
def writeRequired (group : String × List String) (writer : Writer) : Writer :=
  writer
    |> put "from " |> put group.1 |> put " import " |> put (", ".intercalate group.2) |> endLine

/-- Writes the lines of the decorators. -/
def putDecorators (decorators : List String) (writer : Writer) : Writer :=
  each (fun decorator writer => writer |> put "@" |> put decorator |> endLine) decorators writer

/-- Writes a parameter without stars. -/
def Argument.write (argument : Argument) (writer : Writer) : Writer :=
  let writer := put argument.name writer
  match argument.annotation, argument.hasDefault with
  | some annotation, true => writer |> put ": " |> put annotation |> put " = ..."
  | some annotation, false => writer |> put ": " |> put annotation
  | none, true => put "=..." writer
  | none, false => writer

/-- A parameter with the stars before it; the bare star has no parameter. -/
structure Parameter where
  stars : String := ""
  argument : Option Argument
  deriving DecidableEq, Repr

/-- The parameters of a function as they are listed. -/
def FunctionStub.parameters (function : FunctionStub) : List Parameter :=
  function.args.map (fun argument => ⟨"", some argument⟩) ++
    (if function.hasStar then [⟨"*", function.varArg⟩] else []) ++
    function.kwArgs.map (fun argument => ⟨"", some argument⟩) ++
    function.kwArg.toList.map (fun argument => ⟨"**", some argument⟩)

/-- Writes a parameter with its stars. -/
def Parameter.write (parameter : Parameter) (writer : Writer) : Writer :=
  let writer := put parameter.stars writer
  match parameter.argument with
  | some argument => argument.write writer
  | none => writer

/-- Writes the lines of a function. -/
def FunctionStub.write (function : FunctionStub) (writer : Writer) : Writer :=
  let writer := writer |> putDecorators function.decorators
    |> put "def " |> put function.name |> put "("
    |> separated ", " Parameter.write function.parameters
    |> put ")"
  let writer :=
    match function.returns with
    | some annotation => writer |> put " -> " |> put annotation
    | none => writer
  writer |> put ": ..." |> endLine

/-- Writes the line of a variable of a class. -/
def ClassField.write (field : ClassField) (writer : Writer) : Writer :=
  if field.classVar then
    writer |> put field.name |> put ": ClassVar[" |> put field.annotation |> put "]" |> endLine
  else writer |> put field.name |> put ": " |> put field.annotation |> endLine

/-- Writes the lines of a member of a class. -/
def ClassMember.write : ClassMember → Writer → Writer
  | .field declared => declared.write
  | .method declared => declared.write

/-- What stands in the parentheses of a class header. -/
def ClassStub.headerArguments (cls : ClassStub) : List String :=
  cls.bases ++ cls.keywords.map fun keyword => keyword.name ++ "=" ++ keyword.value

/-- Writes the lines of a class. -/
def ClassStub.write (cls : ClassStub) (writer : Writer) : Writer :=
  let writer := writer |> putDecorators cls.decorators |> put "class " |> put cls.name
  let writer :=
    if cls.hasHeader then
      writer |> put "(" |> put (", ".intercalate cls.headerArguments) |> put ")"
    else writer
  let writer := put ":" writer
  if cls.body.isEmpty then writer |> put " ..." |> endLine
  else writer |> endLine |> indent |> each ClassMember.write cls.body |> dedent

/-- Writes the lines of a declaration. -/
def Declaration.write : Declaration → Writer → Writer
  | .attribute declared => fun writer =>
    writer |> put declared.name |> put ": " |> put declared.annotation |> endLine
  | .typeAlias declared => fun writer =>
    writer |> put declared.name |> put " = " |> put declared.target |> endLine
  | .function declared => declared.write
  | .classStub declared => declared.write

/-- Writes a module, with lines for the given names that it does not import. -/
def ModuleStub.write (stub : ModuleStub) (missing : List (String × List String))
    (writer : Writer) : Writer :=
  let writer := writer
    |> each Import.write stub.imports
    |> each ImportFrom.write stub.importFroms
    |> each writeRequired missing
  let writer :=
    if (stub.importsAnything || !missing.isEmpty) && !stub.content.isEmpty then endLine writer
    else writer
  each Declaration.write stub.content writer

/-- The text of a stub.  The names of `required` are imported when they are given. -/
def ModuleStub.render (stub : ModuleStub) (required : RequiredImports := .empty) : String :=
  (stub.write (required.missingFrom stub) {}).output

end InterfaceStub
