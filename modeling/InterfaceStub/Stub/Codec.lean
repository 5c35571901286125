import InterfaceStub.Json.Record
import InterfaceStub.Stub.Required

/-!
# Stubs in JSON

A stub as a JSON value, and the stub that a JSON value describes.  A declaration and a member of a
class say of what kind they are in their member `kind`.
-/

namespace InterfaceStub

open Json (ofString ofStrings ofOption ofMembers required? optional? list? text? bool?)

/-! ## Writing -/

/-- A text or `null`. -/
def optionalText (text : Option String) : Json :=
  ofOption ofString text

def Argument.toJson (argument : Argument) : Json :=
  ofMembers
    [("name", ofString argument.name), ("annotation", optionalText argument.annotation),
     ("has_default", .bool argument.hasDefault)]

/-- The members of a function apart from its kind. -/
def FunctionStub.members (function : FunctionStub) : List (String × Json) :=
  [("name", ofString function.name), ("args", .array (function.args.map Argument.toJson)),
   ("var_arg", ofOption Argument.toJson function.varArg),
   ("kw_args", .array (function.kwArgs.map Argument.toJson)),
   ("kw_arg", ofOption Argument.toJson function.kwArg),
   ("return_annotation", optionalText function.returns),
   ("decorators", ofStrings function.decorators)]

def ClassKeyword.toJson (keyword : ClassKeyword) : Json :=
  ofMembers [("name", ofString keyword.name), ("value", ofString keyword.value)]

/-- The members of a variable of a class apart from its kind. -/
def ClassField.members (field : ClassField) : List (String × Json) :=
  [("name", ofString field.name), ("annotation", ofString field.annotation),
   ("class_var", .bool field.classVar)]

/-- A value of several forms, with the name of its form. -/
def taggedJson (kind : String) (members : List (String × Json)) : Json :=
  ofMembers (("kind", ofString kind) :: members)

def ClassMember.toJson : ClassMember → Json
  | .field declared => taggedJson "assign" declared.members
  | .method declared => taggedJson "function" declared.members

/-- The members of a class apart from its kind. -/
def ClassStub.members (cls : ClassStub) : List (String × Json) :=
  [("name", ofString cls.name), ("bases", ofStrings cls.bases),
   ("keywords", .array (cls.keywords.map ClassKeyword.toJson)),
   ("decorators", ofStrings cls.decorators), ("body", .array (cls.body.map ClassMember.toJson))]

def Import.toJson (statement : Import) : Json :=
  ofMembers [("name", ofString statement.name), ("alias", optionalText statement.localName)]

def ImportedName.toJson (imported : ImportedName) : Json :=
  ofMembers [("name", ofString imported.name), ("alias", optionalText imported.localName)]

def ImportFrom.toJson (statement : ImportFrom) : Json :=
  ofMembers
    [("module", ofString statement.path), ("level", Json.ofNat statement.level.toNat),
     ("names", .array (statement.names.map ImportedName.toJson))]

def Declaration.toJson : Declaration → Json
  | .attribute declared =>
    taggedJson "attribute"
      [("name", ofString declared.name), ("annotation", ofString declared.annotation)]
  | .typeAlias declared =>
    taggedJson "alias" [("name", ofString declared.name), ("target", ofString declared.target)]
  | .function declared => taggedJson "function" declared.members
  | .classStub declared => taggedJson "class" declared.members

def ModuleStub.toJson (stub : ModuleStub) : Json :=
  ofMembers
    [("imports", .array (stub.imports.map Import.toJson)),
     ("import_froms", .array (stub.importFroms.map ImportFrom.toJson)),
     ("content", .array (stub.content.map Declaration.toJson))]

/-! ## Reading -/

/-- A list of texts. -/
def texts? : Json → Option (List String) :=
  list? text?

/-- A number below 2 ^ 32. -/
def uint32? (json : Json) : Option UInt32 :=
  json.nat?.bind fun n => if n < UInt32.size then some (UInt32.ofNat n) else none

def Argument.ofJson? (json : Json) : Option Argument := do
  match ← json.record? ["name", "annotation", "has_default"] with
  | [name, annotation, hasDefault] =>
    return ⟨← required? text? name, ← optional? text? annotation, ← required? bool? hasDefault⟩
  | _ => none

def FunctionStub.ofJson? (json : Json) : Option FunctionStub := do
  match ← json.record?
    ["name", "args", "var_arg", "kw_args", "kw_arg", "return_annotation", "decorators"] with
  | [name, args, varArg, kwArgs, kwArg, returns, decorators] =>
    return {
      name := ← required? text? name
      args := ← required? (list? Argument.ofJson?) args
      varArg := ← optional? Argument.ofJson? varArg
      kwArgs := ← required? (list? Argument.ofJson?) kwArgs
      kwArg := ← optional? Argument.ofJson? kwArg
      returns := ← optional? text? returns
      decorators := ← required? texts? decorators }
  | _ => none

def ClassKeyword.ofJson? (json : Json) : Option ClassKeyword := do
  match ← json.record? ["name", "value"] with
  | [name, value] => return ⟨← required? text? name, ← required? text? value⟩
  | _ => none

def ClassField.ofJson? (json : Json) : Option ClassField := do
  match ← json.record? ["name", "annotation", "class_var"] with
  | [name, annotation, classVar] =>
    return ⟨← required? text? name, ← required? text? annotation, ← required? bool? classVar⟩
  | _ => none

/-- The kind of a class member may also be given by its number. -/
def ClassMember.ofJson? (json : Json) : Option ClassMember := do
  match ← json.tagged? (Json.nameOrPlace? ["assign", "function"]) with
  | ("assign", record) => return .field (← ClassField.ofJson? record)
  | ("function", record) => return .method (← FunctionStub.ofJson? record)
  | _ => none

def ClassStub.ofJson? (json : Json) : Option ClassStub := do
  match ← json.record? ["name", "bases", "keywords", "decorators", "body"] with
  | [name, bases, keywords, decorators, body] =>
    return {
      name := ← required? text? name
      bases := ← required? texts? bases
      keywords := ← required? (list? ClassKeyword.ofJson?) keywords
      decorators := ← required? texts? decorators
      body := ← required? (list? ClassMember.ofJson?) body }
  | _ => none

def Import.ofJson? (json : Json) : Option Import := do
  match ← json.record? ["name", "alias"] with
  | [name, localName] => return ⟨← required? text? name, ← optional? text? localName⟩
  | _ => none

def ImportedName.ofJson? (json : Json) : Option ImportedName := do
  match ← json.record? ["name", "alias"] with
  | [name, localName] => return ⟨← required? text? name, ← optional? text? localName⟩
  | _ => none

def ImportFrom.ofJson? (json : Json) : Option ImportFrom := do
  match ← json.record? ["module", "level", "names"] with
  | [path, level, names] =>
    return ⟨← required? text? path, ← required? uint32? level,
      ← required? (list? ImportedName.ofJson?) names⟩
  | _ => none

def Attribute.ofJson? (json : Json) : Option Attribute := do
  match ← json.record? ["name", "annotation"] with
  | [name, annotation] => return ⟨← required? text? name, ← required? text? annotation⟩
  | _ => none

def TypeAlias.ofJson? (json : Json) : Option TypeAlias := do
  match ← json.record? ["name", "target"] with
  | [name, target] => return ⟨← required? text? name, ← required? text? target⟩
  | _ => none

def Declaration.ofJson? (json : Json) : Option Declaration := do
  match ← json.tagged? text? with
  | ("attribute", record) => return .attribute (← Attribute.ofJson? record)
  | ("alias", record) => return .typeAlias (← TypeAlias.ofJson? record)
  | ("function", record) => return .function (← FunctionStub.ofJson? record)
  | ("class", record) => return .classStub (← ClassStub.ofJson? record)
  | _ => none

def ModuleStub.ofJson? (json : Json) : Option ModuleStub := do
  match ← json.record? ["imports", "import_froms", "content"] with
  | [imports, importFroms, content] =>
    return ⟨← required? (list? Import.ofJson?) imports,
      ← required? (list? ImportFrom.ofJson?) importFroms,
      ← required? (list? Declaration.ofJson?) content⟩
  | _ => none

def RequiredImports.ofJson? (json : Json) : Option RequiredImports :=
  (texts? json).map RequiredImports.ofList

end InterfaceStub
