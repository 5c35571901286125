import InterfaceStub.Extraction.Assignment
import InterfaceStub.Proofs.LineReading
import InterfaceStub.Syntax.Statement

/-!
# The syntax tree of a stub

What a parser makes of the text of a stub.  `ModuleAt stub root` says that `root` is a tree for the
text that is written for `stub`: one statement for each import and declaration, with the kinds, the
fields and the offsets that the grammar gives to its pieces.  Tokens without a name, such as commas,
may stand anywhere.

Every relation ends in `At` and takes the text in front of the piece, since that is where a node
gets its offsets from.

* `Covers` is the relation for one node, and `RowAt` the one for a row of items with the same text
  between them.
* `PathAt`, `TypeAt` and `BaseAt` are about expressions.  They look through the wrapper that the
  grammar puts around an annotation.
* `SignatureAt`, `ClassAt`, `ImportAt` and their companions are about statements.
-/

namespace InterfaceStub

open Syntax

/-! ## Places -/

/-- A node starts after `before` and ends after `text`. -/
def Syntax.Node.Covers (node : Node) (before text : String) : Prop :=
  node.label.start = Text.byteLength before.toList ∧
    node.label.stop = Text.byteLength (before ++ text).toList

/-- A node without comments among its children. -/
def Syntax.Node.Uncommented (node : Node) : Prop :=
  ∀ child ∈ node.children, child.label.extra = false ∧ child.kind ≠ .comment

instance (node : Node) (before text : String) : Decidable (node.Covers before text) :=
  inferInstanceAs (Decidable (_ ∧ _))

instance (node : Node) : Decidable node.Uncommented :=
  inferInstanceAs (Decidable (∀ child ∈ node.children, _))

/-- The items of a row with the text in front of each, when `between` stands after every item. -/
def places (text : α → String) (between : String) : (before : String) → List α → List (String × α)
  | _, [] => []
  | before, item :: items =>
    (before, item) :: places text between (before ++ text item ++ between) items

/-- One node for each item of a row, in the place of the item. -/
def RowAt (tree : String → α → Node → Prop) (text : α → String) (between before : String)
    (items : List α) (nodes : List Node) : Prop :=
  nodes.length = items.length ∧
    ∀ entry ∈ (places text between before items).zip nodes, tree entry.1.1 entry.1.2 entry.2

theorem rowAt_nil (tree : String → α → Node → Prop) (text : α → String) (between before : String) :
    RowAt tree text between before [] [] :=
  ⟨rfl, by simp [places]⟩

/-- The first item of a row, and the others after it. -/
theorem rowAt_cons {tree : String → α → Node → Prop} {text : α → String} {between before : String}
    {item : α} {items : List α} {node : Node} {nodes : List Node} (hnode : tree before item node)
    (hnodes : RowAt tree text between (before ++ text item ++ between) items nodes) :
    RowAt tree text between before (item :: items) (node :: nodes) := by
  refine ⟨by simp [hnodes.1], fun entry hentry => ?_⟩
  rw [places, List.zip_cons_cons, List.mem_cons] at hentry
  rcases hentry with rfl | hentry
  · exact hnode
  · exact hnodes.2 entry hentry

/-! ## Expressions -/

/-- The tree of a dotted path. -/
inductive PathAt : (before path : String) → Node → Prop where
  | name {before name : String} {node : Node} (hkind : node.unwrapped.isName)
      (hname : node.unwrapped.Covers before name) : PathAt before name node
  | member {before path member : String} {node object last : Node}
      (hkind : node.unwrapped.kind = .attribute)
      (hobject : node.unwrapped.child? .object = some object) (hpath : PathAt before path object)
      (hlast : node.unwrapped.child? .attribute = some last)
      (hmember : last.Covers (before ++ path ++ ".") member) :
      PathAt before (DottedName.child path member) node

/-- The tree of a type expression.  Brackets are a subscript in an expression, and a bracket of
their own after a name in an annotation. -/
inductive TypeAt : (before text : String) → Node → Prop where
  | noneType {before : String} {node : Node} (hkind : node.unwrapped.kind = .noneLiteral) :
      TypeAt before "None" node
  | ellipsis {before : String} {node : Node} (hkind : node.unwrapped.kind = .ellipsis) :
      TypeAt before "..." node
  | path {before path : String} {node : Node} (hpath : PathAt before path node) :
      TypeAt before path node
  | subscript {before base : String} {arguments : List String} {node value : Node}
      (hkind : node.unwrapped.kind = .subscript)
      (hvalue : node.unwrapped.child? .value = some value) (hbase : PathAt before base value)
      (hlength : (node.unwrapped.childrenAt .subscript).length = arguments.length)
      (harguments : ∀ entry ∈ (places id ", " (before ++ base ++ "[") arguments).zip
        (node.unwrapped.childrenAt .subscript), TypeAt entry.1.1 entry.1.2 entry.2) :
      TypeAt before (Extraction.applied base arguments) node
  | generic {before base : String} {arguments : List String} {node name bracket : Node}
      (hkind : node.unwrapped.kind = .genericType) (hparts : node.unwrapped.parts = [name, bracket])
      (hbase : PathAt before base name) (hbracket : bracket.kind = .typeParameter)
      (hlength : bracket.parts.length = arguments.length)
      (harguments : ∀ entry ∈ (places id ", " (before ++ base ++ "[") arguments).zip bracket.parts,
        TypeAt entry.1.1 entry.1.2 entry.2) :
      TypeAt before (Extraction.applied base arguments) node
  | list {before : String} {items : List String} {node : Node} (hkind : node.unwrapped.kind = .list)
      (hlength : node.unwrapped.parts.length = items.length)
      (hitems : ∀ entry ∈ (places id ", " (before ++ "[") items).zip node.unwrapped.parts,
        TypeAt entry.1.1 entry.1.2 entry.2) :
      TypeAt before (Extraction.listed items) node

/-- The tree of a base class. -/
inductive BaseAt : (before text : String) → Node → Prop where
  | path {before path : String} {node : Node} (hpath : PathAt before path node) :
      BaseAt before path node
  | applied {before base inner : String} {node value argument : Node}
      (hkind : node.unwrapped.kind = .subscript)
      (hvalue : node.unwrapped.child? .value = some value) (hbase : PathAt before base value)
      (hargument : node.unwrapped.childrenAt .subscript = [argument])
      (hinner : BaseAt (before ++ base ++ "[") inner argument) :
      BaseAt before (Extraction.applied base [inner]) node

/-! ## Functions -/

/-- The tree of the name of a parameter, with its stars. -/
inductive StarredNameAt : (before stars name : String) → Node → Prop where
  | plain {before name : String} {node : Node} (hkind : node.kind = .identifier)
      (hname : node.Covers before name) : StarredNameAt before "" name node
  | star {before name : String} {node inner : Node} (hkind : node.kind = .listSplatPattern)
      (hpart : node.firstPart? = some inner) (hinner : inner.kind = .identifier)
      (hname : inner.Covers (before ++ "*") name) : StarredNameAt before "*" name node
  | doubleStar {before name : String} {node inner : Node}
      (hkind : node.kind = .dictionarySplatPattern) (hpart : node.firstPart? = some inner)
      (hinner : inner.kind = .identifier) (hname : inner.Covers (before ++ "**") name) :
      StarredNameAt before "**" name node

/-- The tree of a parameter.  A starred one has no default value. -/
inductive ParameterAt : (before : String) → Parameter → Node → Prop where
  | separator {before : String} {node : Node} (hkind : node.kind = .keywordSeparator) :
      ParameterAt before ⟨"*", none⟩ node
  | bare {before stars name : String} {node : Node} (hname : StarredNameAt before stars name node) :
      ParameterAt before ⟨stars, some ⟨name, none, false⟩⟩ node
  | typed {before stars name annotation : String} {node inner type : Node}
      (hkind : node.kind = .typedParameter) (hpart : node.firstPart? = some inner)
      (hname : StarredNameAt before stars name inner) (htype : node.child? .type = some type)
      (hannotated : TypeAt (before ++ (stars ++ name) ++ ": ") annotation type) :
      ParameterAt before ⟨stars, some ⟨name, some annotation, false⟩⟩ node
  | default {before name : String} {node inner : Node} (hkind : node.kind = .defaultParameter)
      (hchild : node.child? .name = some inner) (hinner : inner.kind = .identifier)
      (hname : inner.Covers before name) (htype : node.child? .type = none)
      (hvalue : (node.child? .value).isSome) :
      ParameterAt before ⟨"", some ⟨name, none, true⟩⟩ node
  | typedDefault {before name annotation : String} {node inner type : Node}
      (hkind : node.kind = .typedDefaultParameter) (hchild : node.child? .name = some inner)
      (hinner : inner.kind = .identifier) (hname : inner.Covers before name)
      (htype : node.child? .type = some type)
      (hannotated : TypeAt (before ++ name ++ ": ") annotation type)
      (hvalue : (node.child? .value).isSome) :
      ParameterAt before ⟨"", some ⟨name, some annotation, true⟩⟩ node

/-- The tree of an annotation that may be missing. -/
def OptionalTypeAt (before : String) : Option String → Option Node → Prop
  | none, type => type = none
  | some annotation, type => ∃ node, type = some node ∧ TypeAt before annotation node

/-- What stands before the parameters of a function. -/
def FunctionStub.opening (function : FunctionStub) : String :=
  "def " ++ function.name ++ "("

/-- What stands before the parenthesis that closes the parameters of a function. -/
def FunctionStub.parametersText (function : FunctionStub) : String :=
  ", ".intercalate (function.parameters.map Parameter.text)

/-- The tree of a function without its decorators. -/
structure SignatureAt (before : String) (function : FunctionStub) (node : Node) : Prop where
  kind : node.kind = .functionDefinition
  synchronous : node.isAsynchronous = false
  uncommented : node.Uncommented
  name : ∃ name, node.child? .name = some name ∧ name.Covers (before ++ "def ") function.name
  parameters : ∃ parameters, node.child? .parameters = some parameters ∧ parameters.Uncommented ∧
    RowAt ParameterAt Parameter.text ", " (before ++ function.opening) function.parameters
      parameters.parts
  returns : OptionalTypeAt (before ++ function.opening ++ function.parametersText ++ ") -> ")
    function.returns (node.child? .returnType)
  body : ∀ body ∈ node.child? .body, body.Uncommented

/-- The tree of a decorator on a line that starts with `margin`. -/
def DecoratorAt (margin before path : String) (node : Node) : Prop :=
  ∃ expression, node.firstPart? = some expression ∧
    PathAt (before ++ margin ++ "@") path expression

/-- The tree of a function with its decorators, on lines that start with `margin`. -/
inductive FunctionAt (margin before : String) (function : FunctionStub) : Node → Prop where
  | plain {node : Node} (hdecorators : function.decorators = [])
      (hsignature : SignatureAt (before ++ margin) function node) :
      FunctionAt margin before function node
  | decorated {node definition : Node} (hkind : node.kind = .decoratedDefinition)
      (hdecorators : RowAt (DecoratorAt margin)
        (fun path => margin ++ decoratorLine path ++ "\n") "" before function.decorators
        node.decorators)
      (hdefinition : node.child? .definition = some definition)
      (hsignature : SignatureAt
        (before ++ joinLines (function.decorators.map fun path => margin ++ decoratorLine path) ++
          margin) function definition) :
      FunctionAt margin before function node

/-! ## Variables and classes -/

/-- The tree of a declaration with a type. -/
def VariableAt (before name type : String) (node : Node) : Prop :=
  node.kind = .expressionStatement ∧ ∃ assignment target annotation,
    node.parts = [assignment] ∧ assignment.kind = .assignment ∧
    assignment.child? .left = some target ∧ target.isName ∧ target.Covers before name ∧
    assignment.child? .type = some annotation ∧ TypeAt (before ++ name ++ ": ") type annotation

/-- The tree of an alias; the value is a dotted path, or one with arguments in brackets. -/
def AliasAt (before name target : String) (node : Node) : Prop :=
  node.kind = .expressionStatement ∧ node.Uncommented ∧ ∃ assignment left value,
    node.parts = [assignment] ∧ assignment.kind = .assignment ∧
    assignment.child? .left = some left ∧ left.isName ∧ left.Covers before name ∧
    assignment.child? .type = none ∧ assignment.child? .right = some value ∧
    value.unwrapped.kind ∈ [.identifier, .keywordIdentifier, .attribute, .subscript] ∧
    TypeAt (before ++ name ++ " = ") target value

/-- The tree of a member of a class, on lines that start with `margin`. -/
def MemberAt (margin before : String) : ClassMember → Node → Prop
  | .field declared => VariableAt (before ++ margin) declared.name declared.writtenType
  | .method declared => FunctionAt margin before declared

/-- The tree of a statement that is three dots. -/
def EllipsisStatement (node : Node) : Prop :=
  node.kind = .expressionStatement ∧ ∃ value, node.parts = [value] ∧
    value.unwrapped.kind = .ellipsis

/-- The lines of a member of a class as they are written. -/
def ClassMember.text (member : ClassMember) : String :=
  joinLines (member.lines.map indented)

/-- The tree of a class. -/
structure ClassAt (before : String) (cls : ClassStub) (node : Node) : Prop where
  kind : node.kind = .classDefinition
  name : ∃ name, node.child? .name = some name ∧ name.Covers (before ++ "class ") cls.name
  bases : cls.bases = [] ∧ node.child? .superclasses = none ∨
    cls.bases ≠ [] ∧ ∃ arguments, node.child? .superclasses = some arguments ∧
      RowAt BaseAt id ", " (before ++ "class " ++ cls.name ++ "(") cls.bases arguments.parts
  body : ∃ block, node.child? .body = some block ∧ block.Uncommented ∧
    (cls.body = [] ∧ (∃ statement, block.parts = [statement] ∧ EllipsisStatement statement) ∨
      cls.body ≠ [] ∧ RowAt (MemberAt "    ") ClassMember.text ""
        (before ++ cls.header ++ "\n") cls.body block.parts)

/-- The tree of a declaration of a module. -/
def DeclarationAt (before : String) : Declaration → Node → Prop
  | .attribute declared => VariableAt before declared.name declared.annotation
  | .typeAlias declared => AliasAt before declared.name declared.target
  | .function declared => FunctionAt "" before declared
  | .classStub declared => ClassAt before declared

/-! ## Imports -/

/-- The tree of a dotted name in an import. -/
def DottedNameAt (before path : String) (node : Node) : Prop :=
  node.kind = .dottedName ∧ ∃ segments, path = ".".intercalate segments ∧
    RowAt (fun before segment part => part.Covers before segment) id "." before segments node.parts

/-- The tree of an imported name. -/
def ImportedNameAt (before : String) (imported : ImportedName) (node : Node) : Prop :=
  match imported.localName with
  | none => DottedNameAt before imported.name node
  | some localName =>
    node.kind = .aliasedImport ∧
      (∃ name, node.child? .name = some name ∧ DottedNameAt before imported.name name) ∧
      ∃ bound, node.child? .localName = some bound ∧
        bound.Covers (before ++ imported.name ++ " as ") localName

/-- The tree of an `import` statement. -/
def ImportAt (before : String) (statement : Import) (node : Node) : Prop :=
  node.kind = .importStatement ∧ ∃ item, node.childrenAt .name = [item] ∧
    ImportedNameAt (before ++ "import ") ⟨statement.name, statement.localName⟩ item

/-- The tree of a path with dots before it. -/
def RelativePathAt (before dots path : String) (node : Node) : Prop :=
  node.kind = .relativeImport ∧ ∃ leading rest, node.parts = leading :: rest ∧
    leading.kind = .importPrefix ∧ leading.Covers before dots ∧
    (path = "" ∧ rest = [] ∨ ∃ last, rest = [last] ∧ DottedNameAt (before ++ dots) path last)

/-- The tree of the module that names are imported from.  The module `__future__` has a statement of
its own, and no node. -/
def ImportPathAt (before : String) (statement : ImportFrom) (node : Node) : Prop :=
  node.kind = .futureImportStatement ∧ node.child? .moduleName = none ∧
      statement.level = 0 ∧ statement.path = "__future__" ∨
    node.kind = .importFromStatement ∧ ∃ path, node.child? .moduleName = some path ∧
      (statement.level = 0 ∧ DottedNameAt before statement.path path ∨
        statement.level ≠ 0 ∧ RelativePathAt before statement.dots statement.path path)

/-- The tree of a `from` statement. -/
structure ImportFromAt (before : String) (statement : ImportFrom) (node : Node) : Prop where
  path : ImportPathAt (before ++ "from ") statement node
  names : statement.names = [⟨"*", none⟩] ∧ node.childrenAt .name = [] ∧
      (∃ all ∈ node.parts, all.kind = .wildcardImport) ∨
    (∀ part ∈ node.parts, part.kind ≠ .wildcardImport) ∧
      RowAt ImportedNameAt ImportedName.text ", "
        (before ++ "from " ++ statement.dots ++ statement.path ++ " import ") statement.names
        (node.childrenAt .name)

/-! ## Modules -/

/-- What stands before the declarations of a module. -/
def ModuleStub.importText (stub : ModuleStub) : String :=
  joinLines (stub.importLines [] ++
    if stub.importsAnything && !stub.content.isEmpty then [""] else [])

/-- The tree of a module. -/
def ModuleAt (stub : ModuleStub) (root : Node) : Prop :=
  root.Uncommented ∧ ∃ imports importFroms content,
    root.parts = imports ++ importFroms ++ content ∧
    RowAt ImportAt (fun statement => statement.line ++ "\n") "" "" stub.imports imports ∧
    RowAt ImportFromAt (fun statement => statement.line ++ "\n") ""
      (joinLines (stub.imports.map Import.line)) stub.importFroms importFroms ∧
    RowAt DeclarationAt (fun declared => joinLines declared.lines) "" stub.importText stub.content
      content

/-! ## Canonical modules -/

/-- The text of a base class: a dotted name, or one with a base class in brackets. -/
inductive IsBase : String → Prop where
  | path {text : String} (htext : IsDotted text) : IsBase text
  | applied {base inner : String} (hbase : IsDotted base) (hinner : IsBase inner) :
      IsBase (Extraction.applied base [inner])

/-- The text of the target of an alias: a dotted name, or one with types in brackets. -/
inductive IsAliasTarget : String → Prop where
  | path {text : String} (htext : IsDotted text) : IsAliasTarget text
  | applied {base : String} {arguments : List String} (hbase : IsDotted base)
      (harguments : ∀ argument ∈ arguments, IsType argument) :
      IsAliasTarget (Extraction.applied base arguments)

/-- The positional parameters with a default come last, and no starred one has a default. -/
structure FunctionStub.Canonical (function : FunctionStub) : Prop where
  wellFormed : function.WellFormed
  args : function.args.Pairwise fun first second => first.hasDefault → second.hasDefault
  varArg : ∀ argument ∈ function.varArg, argument.hasDefault = false
  kwArg : ∀ argument ∈ function.kwArg, argument.hasDefault = false

/-- The type of a variable that does not belong to its class is not read as one that does. -/
structure ClassField.Canonical (field : ClassField) : Prop where
  name : Text.isIdentifier field.name
  annotation : IsType field.annotation
  unwrapped : field.classVar = false → Extraction.classVarType? field.annotation = none

def ClassMember.Canonical : ClassMember → Prop
  | .field declared => declared.Canonical
  | .method declared => declared.Canonical

/-- A class with nothing that a tree does not give back: no keywords and no decorators. -/
structure ClassStub.Canonical (cls : ClassStub) : Prop where
  name : Text.isIdentifier cls.name
  bases : ∀ base ∈ cls.bases, IsBase base
  keywords : cls.keywords = []
  decorators : cls.decorators = []
  body : ∀ member ∈ cls.body, member.Canonical

def Declaration.Canonical : Declaration → Prop
  | .attribute declared => Text.isIdentifier declared.name ∧ IsType declared.annotation
  | .typeAlias declared => Text.isIdentifier declared.name ∧ IsAliasTarget declared.target
  | .function declared => declared.Canonical
  | .classStub declared => declared.Canonical

/-- The names are identifiers, or the star alone stands for all of them. -/
structure ImportFrom.Canonical (statement : ImportFrom) : Prop where
  path : IsDotted statement.path ∨ statement.path = "" ∧ statement.level ≠ 0
  names : statement.names = [⟨"*", none⟩] ∨ statement.names ≠ [] ∧
    ∀ imported ∈ statement.names, Text.isIdentifier imported.name ∧
      ∀ localName ∈ imported.localName, Text.isIdentifier localName

/-- A module that its text and tree give back. -/
structure ModuleStub.Canonical (stub : ModuleStub) : Prop where
  imports : ∀ statement ∈ stub.imports, statement.WellFormed
  importFroms : ∀ statement ∈ stub.importFroms, statement.Canonical
  content : ∀ declared ∈ stub.content, declared.Canonical

end InterfaceStub
