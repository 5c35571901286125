/-!
# Stubs

What a stub declares: the imports of a module, and its attributes, type aliases, functions and
classes with their signatures.  Bodies and default values are not part of it.  Names, annotations
and base classes are plain text.
-/

namespace InterfaceStub

/-! ## Functions -/

/-- A parameter of a function. -/
structure Argument where
  /-- The name without stars. -/
  name : String
  annotation : Option String := none
  hasDefault : Bool := false
  deriving DecidableEq, Repr

/-- A function, or a method when it stands in a class. -/
structure FunctionStub where
  name : String
  /-- The positional parameters. -/
  args : List Argument := []
  /-- The parameter that takes the remaining positional arguments. -/
  varArg : Option Argument := none
  /-- The parameters that are given by name only. -/
  kwArgs : List Argument := []
  /-- The parameter that takes the remaining named arguments. -/
  kwArg : Option Argument := none
  /-- The annotation of the result. -/
  returns : Option String := none
  decorators : List String := []
  deriving DecidableEq, Repr

/-- Whether a star stands between the positional parameters and the rest. -/
def FunctionStub.hasStar (function : FunctionStub) : Bool :=
  function.varArg.isSome || !function.kwArgs.isEmpty

/-! ## Classes -/

/-- A `name=value` entry in the header of a class. -/
structure ClassKeyword where
  name : String
  value : String
  deriving DecidableEq, Repr

/-- A variable declared in a class. -/
structure ClassField where
  name : String
  /-- The type; without the `ClassVar[...]` around it for a variable of the class. -/
  annotation : String
  /-- Whether the variable belongs to the class and not to its instances. -/
  classVar : Bool
  deriving DecidableEq, Repr

/-- The variable of a class that an assignment without annotation declares. -/
def ClassField.unannotated (name : String) : ClassField :=
  ⟨name, "Any", true⟩

/-- A member of a class. -/
inductive ClassMember where
  | field (declared : ClassField)
  | method (declared : FunctionStub)
  deriving DecidableEq, Repr

/-- The name that a member binds. -/
def ClassMember.name : ClassMember → String
  | .field declared => declared.name
  | .method declared => declared.name

/-- A class. -/
structure ClassStub where
  name : String
  bases : List String := []
  keywords : List ClassKeyword := []
  decorators : List String := []
  body : List ClassMember := []
  deriving DecidableEq, Repr

/-- Whether the header of a class has anything in parentheses. -/
def ClassStub.hasHeader (cls : ClassStub) : Bool :=
  !cls.bases.isEmpty || !cls.keywords.isEmpty

/-! ## Modules -/

/-- `import name` or `import name as localName`. -/
structure Import where
  name : String
  localName : Option String := none
  deriving DecidableEq, Repr

/-- A name in a `from` import; `*` stands for all. -/
structure ImportedName where
  name : String
  localName : Option String := none
  deriving DecidableEq, Repr

/-- `from path import names`. -/
structure ImportFrom where
  /-- The module that the names come from; empty in `from . import name`. -/
  path : String
  /-- The number of dots before the path. -/
  level : UInt32
  names : List ImportedName
  deriving DecidableEq, Repr

/-- Whether the path is relative to the importing module. -/
def ImportFrom.isRelative (statement : ImportFrom) : Bool :=
  statement.level != 0

/-- Whether a name is imported under its own name. -/
def ImportFrom.bindsPlain (statement : ImportFrom) (name : String) : Bool :=
  statement.names.any fun imported => imported.name == name && imported.localName.isNone

/-- A variable of a module. -/
structure Attribute where
  name : String
  annotation : String
  deriving DecidableEq, Repr

/-- A name for a type. -/
structure TypeAlias where
  name : String
  target : String
  deriving DecidableEq, Repr

/-- What a module declares apart from imports. -/
inductive Declaration where
  | attribute (declared : Attribute)
  | typeAlias (declared : TypeAlias)
  | function (declared : FunctionStub)
  | classStub (declared : ClassStub)
  deriving DecidableEq, Repr

/-- The name that a declaration binds. -/
def Declaration.name : Declaration → String
  | .attribute declared => declared.name
  | .typeAlias declared => declared.name
  | .function declared => declared.name
  | .classStub declared => declared.name

/-- The stub of a module. -/
structure ModuleStub where
  imports : List Import := []
  importFroms : List ImportFrom := []
  content : List Declaration := []
  deriving DecidableEq, Repr

namespace ModuleStub

/-- Whether the module imports anything. -/
def importsAnything (stub : ModuleStub) : Bool :=
  !stub.imports.isEmpty || !stub.importFroms.isEmpty

/-- The declarations of one stub and then those of another. -/
protected def append (first second : ModuleStub) : ModuleStub where
  imports := first.imports ++ second.imports
  importFroms := first.importFroms ++ second.importFroms
  content := first.content ++ second.content

instance : Append ModuleStub := ⟨ModuleStub.append⟩

@[simp] theorem imports_append (first second : ModuleStub) :
    (first ++ second).imports = first.imports ++ second.imports := rfl

@[simp] theorem importFroms_append (first second : ModuleStub) :
    (first ++ second).importFroms = first.importFroms ++ second.importFroms := rfl

@[simp] theorem content_append (first second : ModuleStub) :
    (first ++ second).content = first.content ++ second.content := rfl

end ModuleStub

end InterfaceStub
