import InterfaceStub.Stub.Basic
import InterfaceStub.Syntax.Source

/-!
# Import statements

Imports are kept as they are written, apart from blanks inside dotted names.
-/

namespace InterfaceStub.Extraction

open Syntax

/-- The text of a dotted name without blanks between its names. -/
def joinedName (source : Source) (node : Node) : String :=
  match node.kind with
  | .dottedName => String.intercalate "." (node.parts.map source.text)
  | _ => source.text node

/-- A name in an import, and the name it is bound to if that is another one. -/
def importItem (source : Source) (node : Node) : ImportedName :=
  match node.kind with
  | .aliasedImport =>
    { name := ((node.child? .name).map (joinedName source)).getD ""
      localName := (node.child? .localName).map source.text }
  | _ => { name := joinedName source node }

/-- The imports of `import a, b as c`, one per name. -/
def importNames (source : Source) (statement : Node) : List Import :=
  (statement.childrenAt .name).map fun node =>
    let imported := importItem source node
    ⟨imported.name, imported.localName⟩

/-- The number of dots in a text; the greatest number there is room for, when there are more. -/
def dotCount (text : String) : UInt32 :=
  UInt32.ofNat (min (text.toList.count '.') (UInt32.size - 1))

/-- The path and the level of a relative import. -/
def relativePath (source : Source) (relative : Node) : String × UInt32 :=
  let (dots, paths) := relative.parts.partition (·.kind == .importPrefix)
  ((paths.getLast?.map (joinedName source)).getD "",
   (dots.getLast?.map fun node => dotCount (source.text node)).getD 0)

/-- The path and the level of the module that names are imported from. -/
def importPath (source : Source) (statement : Node) : String × UInt32 :=
  match statement.child? .moduleName with
  | some path =>
    if path.kind == .relativeImport then relativePath source path else (joinedName source path, 0)
  | none => ("__future__", 0)

/-- The import of `from path import names`. -/
def importFrom (source : Source) (statement : Node) : ImportFrom :=
  let (path, level) := importPath source statement
  let names := (statement.childrenAt .name).map (importItem source)
  let all := if statement.parts.any (·.kind == .wildcardImport) then [⟨"*", none⟩] else []
  ⟨path, level, names ++ all⟩

end InterfaceStub.Extraction
