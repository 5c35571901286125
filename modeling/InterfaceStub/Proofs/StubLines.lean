import InterfaceStub.Stub.Printer

/-!
# The lines of a stub

The printer keeps a depth and a mark for the start of a line.  This module gives the same text
without either: every import, declaration and member has its lines, and the text of a stub is the
lines one after the other.

There are three groups.

* The pure texts.  `Argument.text`, `FunctionStub.signature`, `ClassStub.header` and their
  companions give one line each, and the functions named `lines` list what a declaration takes.
* The writer.  `put_put` joins two texts of one line, and `putLines` writes whole lines.
  `putLines_indent` is the only place where indentation matters: a line that is not empty is
  written one level deeper as four spaces and the line.
* The refinement.  Each `write` function is `put` of a text or `putLines` of some lines, and
  `render_eq_joinLines` is the result for a module.  `ClassStub.writeBody` and
  `ModuleStub.writeFront` are the places on the way at which the state of the writer matters: before
  the one level of a class is left, and before the declarations.
-/

namespace InterfaceStub

/-- The lines of a text one after the other, each with its end. -/
def joinLines (lines : List String) : String :=
  String.join (lines.map (· ++ "\n"))

@[simp] theorem joinLines_nil : joinLines [] = "" := by
  simp [joinLines]

@[simp] theorem joinLines_cons (line : String) (lines : List String) :
    joinLines (line :: lines) = line ++ "\n" ++ joinLines lines := by
  simp [joinLines]

@[simp] theorem joinLines_append (first second : List String) :
    joinLines (first ++ second) = joinLines first ++ joinLines second := by
  simp [joinLines]

/-! ## Pure texts -/

/-- What stands after a name that is bound to another one. -/
def localNameText : Option String → String
  | some localName => " as " ++ localName
  | none => ""

/-- The line of an `import`. -/
def Import.line (statement : Import) : String :=
  "import " ++ statement.name ++ localNameText statement.localName

/-- A name of a `from` line. -/
def ImportedName.text (imported : ImportedName) : String :=
  imported.name ++ localNameText imported.localName

/-- The dots before the path of a `from` line. -/
def ImportFrom.dots (statement : ImportFrom) : String :=
  String.ofList (List.replicate statement.level.toNat '.')

/-- The line of a `from` import. -/
def ImportFrom.line (statement : ImportFrom) : String :=
  "from " ++ statement.dots ++ statement.path ++ " import " ++
    ", ".intercalate (statement.names.map ImportedName.text)

/-- The line for required names of one module. -/
def requiredLine (group : String × List String) : String :=
  "from " ++ group.1 ++ " import " ++ ", ".intercalate group.2

/-- What stands after the name of a parameter. -/
def Argument.tail (argument : Argument) : String :=
  match argument.annotation, argument.hasDefault with
  | some annotation, true => ": " ++ annotation ++ " = ..."
  | some annotation, false => ": " ++ annotation
  | none, true => "=..."
  | none, false => ""

/-- A parameter without stars. -/
def Argument.text (argument : Argument) : String :=
  argument.name ++ argument.tail

/-- A parameter without its stars. -/
def Parameter.body (parameter : Parameter) : String :=
  match parameter.argument with
  | some argument => argument.text
  | none => ""

/-- A parameter with its stars. -/
def Parameter.text (parameter : Parameter) : String :=
  parameter.stars ++ parameter.body

/-- What stands after the parameters of a function. -/
def returnsText : Option String → String
  | some annotation => " -> " ++ annotation
  | none => ""

/-- The last line of a function. -/
def FunctionStub.signature (function : FunctionStub) : String :=
  "def " ++ function.name ++ "(" ++ ", ".intercalate (function.parameters.map Parameter.text) ++
    ")" ++ returnsText function.returns ++ ": ..."

/-- The line of a decorator. -/
def decoratorLine (decorator : String) : String :=
  "@" ++ decorator

/-- The lines of a function. -/
def FunctionStub.lines (function : FunctionStub) : List String :=
  function.decorators.map decoratorLine ++ [function.signature]

/-- The type of a variable of a class as it is written. -/
def ClassField.writtenType (field : ClassField) : String :=
  if field.classVar then "ClassVar[" ++ field.annotation ++ "]" else field.annotation

/-- The line of a variable of a class. -/
def ClassField.line (field : ClassField) : String :=
  field.name ++ ": " ++ field.writtenType

/-- The lines of a member of a class, without indentation. -/
def ClassMember.lines : ClassMember → List String
  | .field declared => [declared.line]
  | .method declared => declared.lines

/-- The parentheses in the header of a class. -/
def ClassStub.headerText (cls : ClassStub) : String :=
  if cls.hasHeader then "(" ++ ", ".intercalate cls.headerArguments ++ ")" else ""

/-- The line that opens a class. -/
def ClassStub.header (cls : ClassStub) : String :=
  "class " ++ cls.name ++ cls.headerText ++ ":" ++ if cls.body.isEmpty then " ..." else ""

/-- A line one level deeper. -/
def indented (line : String) : String :=
  "    " ++ line

/-- The lines of a class. -/
def ClassStub.lines (cls : ClassStub) : List String :=
  cls.decorators.map decoratorLine ++ [cls.header] ++
    (cls.body.flatMap ClassMember.lines).map indented

/-- The lines of a declaration. -/
def Declaration.lines : Declaration → List String
  | .attribute declared => [declared.name ++ ": " ++ declared.annotation]
  | .typeAlias declared => [declared.name ++ " = " ++ declared.target]
  | .function declared => declared.lines
  | .classStub declared => declared.lines

/-- The lines of the imports of a module, with lines for the given names that it lacks. -/
def ModuleStub.importLines (stub : ModuleStub) (missing : List (String × List String)) :
    List String :=
  stub.imports.map Import.line ++ stub.importFroms.map ImportFrom.line ++ missing.map requiredLine

/-- The lines of a module, with lines for the given names that it lacks. -/
def ModuleStub.lines (stub : ModuleStub) (missing : List (String × List String)) : List String :=
  stub.importLines missing ++
    (if (stub.importsAnything || !missing.isEmpty) && !stub.content.isEmpty then [""] else []) ++
    stub.content.flatMap Declaration.lines

/-! ## The writer -/

namespace Writer

theorem put_empty (writer : Writer) : put "" writer = writer := by
  rw [put, if_pos (by simp)]

/-- Two texts of one line are one text. -/
@[simp] theorem put_put (first second : String) (writer : Writer) :
    put second (put first writer) = put (first ++ second) writer := by
  by_cases hfirst : first = ""
  · simp [hfirst, put_empty]
  · by_cases hsecond : second = ""
    · simp [hsecond, put_empty]
    · have happend : first ++ second ≠ "" := by simp [hfirst]
      by_cases hstart : writer.atLineStart
      · simp [put, hfirst, hsecond, hstart, String.append_assoc]
      · simp [put, hfirst, hsecond, hstart, String.append_assoc]

@[simp] theorem each_nil (write : α → Writer → Writer) (writer : Writer) :
    each write [] writer = writer := rfl

@[simp] theorem each_cons (write : α → Writer → Writer) (item : α) (items : List α)
    (writer : Writer) : each write (item :: items) writer = each write items (write item writer) :=
  rfl

/-- Items after a text, each written as a text with another in front, are one text. -/
theorem each_put {write : α → Writer → Writer} {text : α → String}
    (hwrite : ∀ item writer, write item writer = put (text item) writer) (between before : String)
    (items : List α) (writer : Writer) :
    each (fun item writer => write item (put between writer)) items (put before writer) =
      put (between.intercalate (before :: items.map text)) writer := by
  induction items generalizing before with
  | nil => simp
  | cons item items ih =>
    rw [each_cons, hwrite, put_put, put_put, ih]
    simp [String.append_assoc]

/-- Items that are each written as a text, with another between them, are one text. -/
theorem separated_eq_put {write : α → Writer → Writer} {text : α → String}
    (hwrite : ∀ item writer, write item writer = put (text item) writer) (between : String)
    (items : List α) (writer : Writer) :
    separated between write items writer = put (between.intercalate (items.map text)) writer := by
  cases items with
  | nil => simp [separated, put_empty]
  | cons item items => rw [separated, hwrite, each_put hwrite, List.map_cons]

/-- Writes whole lines. -/
def putLines (lines : List String) (writer : Writer) : Writer :=
  each (fun line writer => writer |> put line |> endLine) lines writer

@[simp] theorem putLines_nil (writer : Writer) : putLines [] writer = writer := rfl

@[simp] theorem putLines_cons (line : String) (lines : List String) (writer : Writer) :
    putLines (line :: lines) writer = putLines lines (endLine (put line writer)) := rfl

@[simp] theorem putLines_append (first second : List String) (writer : Writer) :
    putLines (first ++ second) writer = putLines second (putLines first writer) := by
  simp [putLines, each]

/-- Items that are each written as lines are written as all their lines. -/
theorem each_eq_putLines {write : α → Writer → Writer} {lines : α → List String}
    (hwrite : ∀ item writer, write item writer = putLines (lines item) writer)
    (items : List α) (writer : Writer) :
    each write items writer = putLines (items.flatMap lines) writer := by
  induction items generalizing writer with
  | nil => rfl
  | cons item items ih => rw [each_cons, hwrite, ih, List.flatMap_cons, putLines_append]

theorem indentation_succ (depth : Nat) : indentation (depth + 1) = indentation depth ++ "    " := by
  have hfour : "    " = String.ofList (List.replicate 4 ' ') := rfl
  rw [hfour, indentation, indentation, ← String.ofList_append, List.replicate_append_replicate,
    Nat.mul_add]

/-- A line that is not empty is written one level deeper as four spaces and the line. -/
theorem endLine_put_indent {line : String} (hline : line ≠ "") {writer : Writer}
    (h : writer.atLineStart) :
    endLine (put line (indent writer)) = indent (endLine (put (indented line) writer)) := by
  simp [put, indent, endLine, h, hline, indentation_succ, indented, String.append_assoc]

/-- Lines that are not empty are written one level deeper as four spaces and the line. -/
theorem putLines_indent {lines : List String} (hlines : "" ∉ lines) {writer : Writer}
    (h : writer.atLineStart) :
    putLines lines (indent writer) = indent (putLines (lines.map indented) writer) := by
  induction lines generalizing writer with
  | nil => rfl
  | cons line lines ih =>
    have hline : line ≠ "" := fun heq => hlines (heq ▸ List.mem_cons_self)
    rw [putLines_cons, endLine_put_indent hline h, ih (fun hmem => hlines (.tail _ hmem)) rfl,
      List.map_cons, putLines_cons]

theorem dedent_indent (writer : Writer) : dedent (indent writer) = writer := rfl

/-- At depth zero and the start of a line, lines are written as they are and leave the writer
there. -/
theorem putLines_depth_zero (lines : List String) (text : String) :
    putLines lines ⟨text, 0, true⟩ = ⟨text ++ joinLines lines, 0, true⟩ := by
  induction lines generalizing text with
  | nil => simp
  | cons line lines ih =>
    have hline : endLine (put line ⟨text, 0, true⟩) = ⟨text ++ (line ++ "\n"), 0, true⟩ := by
      by_cases hempty : line = ""
      · simp [hempty, put_empty, endLine]
      · simp [put, hempty, endLine, indentation, String.append_assoc]
    rw [putLines_cons, hline, ih, joinLines_cons, String.append_assoc]

end Writer

/-! ## The refinement -/

open Writer

theorem writeLocalName_eq_put (localName : Option String) (writer : Writer) :
    writeLocalName localName writer = put (localNameText localName) writer := by
  cases localName with
  | none => simp [writeLocalName, localNameText, put_empty]
  | some localName => simp [writeLocalName, localNameText]

theorem Import.write_eq_putLines (statement : Import) (writer : Writer) :
    statement.write writer = putLines [statement.line] writer := by
  simp [Import.write, Import.line, writeLocalName_eq_put]

theorem ImportedName.write_eq_put (imported : ImportedName) (writer : Writer) :
    imported.write writer = put imported.text writer := by
  simp [ImportedName.write, ImportedName.text, writeLocalName_eq_put]

theorem ImportFrom.write_eq_putLines (statement : ImportFrom) (writer : Writer) :
    statement.write writer = putLines [statement.line] writer := by
  simp [ImportFrom.write, ImportFrom.line, ImportFrom.dots,
    separated_eq_put ImportedName.write_eq_put]

theorem writeRequired_eq_putLines (group : String × List String) (writer : Writer) :
    writeRequired group writer = putLines [requiredLine group] writer := by
  simp [writeRequired, requiredLine]

theorem putDecorators_eq_putLines (decorators : List String) (writer : Writer) :
    putDecorators decorators writer = putLines (decorators.map decoratorLine) writer := by
  induction decorators generalizing writer with
  | nil => rfl
  | cons decorator decorators ih =>
    have hfirst : put decorator (put "@" writer) = put (decoratorLine decorator) writer :=
      put_put _ _ _
    have hrest := ih (endLine (put (decoratorLine decorator) writer))
    rw [putDecorators] at hrest
    rw [putDecorators, each_cons, hfirst, hrest, List.map_cons, putLines_cons]

theorem Argument.write_eq_put (argument : Argument) (writer : Writer) :
    argument.write writer = put argument.text writer := by
  rcases argument with ⟨name, _ | annotation, _ | _⟩ <;>
    simp [Argument.write, Argument.text, Argument.tail, String.append_assoc]

theorem Parameter.write_eq_put (parameter : Parameter) (writer : Writer) :
    parameter.write writer = put parameter.text writer := by
  rcases parameter with ⟨stars, _ | argument⟩
  · simp [Parameter.write, Parameter.text, Parameter.body]
  · simp [Parameter.write, Parameter.text, Parameter.body, Argument.write_eq_put]

theorem FunctionStub.write_eq_putLines (function : FunctionStub) (writer : Writer) :
    function.write writer = putLines function.lines writer := by
  rcases hreturns : function.returns with _ | annotation <;>
    simp [-String.reduceAppend, FunctionStub.write, FunctionStub.lines, FunctionStub.signature,
      returnsText, hreturns, putDecorators_eq_putLines, separated_eq_put Parameter.write_eq_put,
      String.append_assoc]

theorem ClassField.write_eq_putLines (field : ClassField) (writer : Writer) :
    field.write writer = putLines [field.line] writer := by
  have hopen : ": ClassVar[" = ": " ++ "ClassVar[" := rfl
  by_cases hclassVar : field.classVar <;>
    simp [-String.reduceAppend, ClassField.write, ClassField.line, ClassField.writtenType,
      hclassVar, hopen, String.append_assoc]

theorem ClassMember.write_eq_putLines (member : ClassMember) (writer : Writer) :
    member.write writer = putLines member.lines writer := by
  cases member with
  | field declared => exact declared.write_eq_putLines writer
  | method declared => exact declared.write_eq_putLines writer

/-- No line of a member is empty, so every one of them is indented. -/
theorem ClassMember.empty_not_mem_lines (member : ClassMember) : "" ∉ member.lines := by
  cases member with
  | field declared => simp [ClassMember.lines, ClassField.line]
  | method declared =>
    simp [ClassMember.lines, FunctionStub.lines, FunctionStub.signature, decoratorLine]

/-- Writes a class up to the last line of its body. -/
def ClassStub.writeBody (cls : ClassStub) (writer : Writer) : Writer :=
  let writer := writer |> putDecorators cls.decorators |> put "class " |> put cls.name
  let writer :=
    if cls.hasHeader then
      writer |> put "(" |> put (", ".intercalate cls.headerArguments) |> put ")"
    else writer
  writer |> put ":" |> endLine |> indent |> each ClassMember.write cls.body

theorem ClassStub.write_eq_dedent (cls : ClassStub) (h : cls.body ≠ []) (writer : Writer) :
    cls.write writer = dedent (cls.writeBody writer) := by
  rw [ClassStub.write, if_neg (by simpa using h)]
  rfl

theorem ClassStub.put_header (cls : ClassStub) (writer : Writer) :
    put ":" (if cls.hasHeader then
      writer |> put "class " |> put cls.name
        |> put "(" |> put (", ".intercalate cls.headerArguments) |> put ")"
      else writer |> put "class " |> put cls.name) =
      put ("class " ++ cls.name ++ cls.headerText ++ ":") writer := by
  by_cases hhas : cls.hasHeader <;>
    simp [-String.reduceAppend, hhas, ClassStub.headerText, String.append_assoc]

/-- The body of a class is written one level deeper, and that level is left at its end. -/
theorem ClassStub.writeBody_eq_indent (cls : ClassStub) (hbody : cls.body ≠ []) (writer : Writer) :
    cls.writeBody writer = indent (putLines cls.lines writer) := by
  have hlines : "" ∉ cls.body.flatMap ClassMember.lines := by
    intro hmem
    obtain ⟨member, _, hmember⟩ := List.mem_flatMap.1 hmem
    exact member.empty_not_mem_lines hmember
  have hheader : cls.header = "class " ++ cls.name ++ cls.headerText ++ ":" := by
    simp [ClassStub.header, hbody]
  rw [ClassStub.writeBody, putDecorators_eq_putLines]
  simp only [put_header]
  rw [each_eq_putLines ClassMember.write_eq_putLines, putLines_indent hlines rfl, ClassStub.lines,
    putLines_append, putLines_append, hheader, putLines_cons, putLines_nil]

theorem ClassStub.write_eq_putLines (cls : ClassStub) (writer : Writer) :
    cls.write writer = putLines cls.lines writer := by
  by_cases hbody : cls.body = []
  · rw [ClassStub.write, putDecorators_eq_putLines]
    simp only [put_header]
    simp [-String.reduceAppend, hbody, ClassStub.lines, ClassStub.header, String.append_assoc]
  · rw [cls.write_eq_dedent hbody, cls.writeBody_eq_indent hbody, dedent_indent]

theorem Declaration.write_eq_putLines (declared : Declaration) (writer : Writer) :
    declared.write writer = putLines declared.lines writer := by
  match declared with
  | .attribute declared => simp [Declaration.write, Declaration.lines]
  | .typeAlias declared => simp [Declaration.write, Declaration.lines]
  | .function declared => exact declared.write_eq_putLines writer
  | .classStub declared => exact declared.write_eq_putLines writer

namespace ModuleStub

/-- Writes the imports of a module, and the empty line after them. -/
def writeFront (stub : ModuleStub) (missing : List (String × List String)) (writer : Writer) :
    Writer :=
  let writer := writer
    |> each Import.write stub.imports
    |> each ImportFrom.write stub.importFroms
    |> each writeRequired missing
  if (stub.importsAnything || !missing.isEmpty) && !stub.content.isEmpty then endLine writer
  else writer

theorem write_eq_each (stub : ModuleStub) (missing : List (String × List String))
    (writer : Writer) :
    stub.write missing writer =
      each Declaration.write stub.content (stub.writeFront missing writer) :=
  rfl

/-- The lines of the imports of a module, and the empty line after them. -/
def frontLines (stub : ModuleStub) (missing : List (String × List String)) : List String :=
  stub.importLines missing ++
    if (stub.importsAnything || !missing.isEmpty) && !stub.content.isEmpty then [""] else []

theorem lines_eq_front (stub : ModuleStub) (missing : List (String × List String)) :
    stub.lines missing = stub.frontLines missing ++ stub.content.flatMap Declaration.lines := rfl

theorem writeFront_eq_putLines (stub : ModuleStub) (missing : List (String × List String))
    (writer : Writer) :
    stub.writeFront missing writer = putLines (stub.frontLines missing) writer := by
  have hmap {α : Type} (line : α → String) (items : List α) :
      items.flatMap (fun item => [line item]) = items.map line := List.map_eq_flatMap.symm
  have himports : (each writeRequired missing (each ImportFrom.write stub.importFroms
      (each Import.write stub.imports writer))) = putLines (stub.importLines missing) writer := by
    rw [each_eq_putLines Import.write_eq_putLines, each_eq_putLines ImportFrom.write_eq_putLines,
      each_eq_putLines writeRequired_eq_putLines, hmap, hmap, hmap, importLines, putLines_append,
      putLines_append]
  rw [writeFront, himports, frontLines, putLines_append]
  split
  · rw [putLines_cons, put_empty, putLines_nil]
  · rw [putLines_nil]

theorem write_eq_putLines (stub : ModuleStub) (missing : List (String × List String))
    (writer : Writer) : stub.write missing writer = putLines (stub.lines missing) writer := by
  rw [write_eq_each, writeFront_eq_putLines, each_eq_putLines Declaration.write_eq_putLines,
    lines_eq_front, putLines_append]

end ModuleStub

/-- The text of a stub is its lines one after the other. -/
theorem ModuleStub.render_eq_joinLines (stub : ModuleStub) (required : RequiredImports) :
    stub.render required = joinLines (stub.lines (required.missingFrom stub)) := by
  rw [ModuleStub.render, ModuleStub.write_eq_putLines, putLines_depth_zero]
  simp

/-- Where no names are required, the lines are those of the module alone. -/
theorem ModuleStub.render_empty (stub : ModuleStub) :
    stub.render = joinLines (stub.lines []) :=
  stub.render_eq_joinLines .empty

end InterfaceStub
