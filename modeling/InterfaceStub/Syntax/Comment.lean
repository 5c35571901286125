import InterfaceStub.Syntax.Source
import InterfaceStub.Text.Blank

/-!
# Type comments

A comment such as `# type: List[int]` declares a type.  `# type: ignore` is a note to a checker and
declares none.
-/

namespace InterfaceStub.Syntax

/-- The text after `start`, if `cs` starts so. -/
def textAfter? : (start cs : List Char) → Option (List Char)
  | [], cs => some cs
  | _ :: _, [] => none
  | s :: start, c :: cs => if s = c then textAfter? start cs else none

/-- Whether the text of a comment declares a type. -/
def declaresType (comment : List Char) : Bool :=
  match textAfter? ['#'] comment with
  | none => false
  | some rest =>
    match textAfter? "type:".toList (Text.dropBlanks rest) with
    | none => false
    | some rest => !"ignore".toList.isPrefixOf (Text.dropBlanks rest)

/-- Whether a node is a comment that declares a type. -/
def Source.commentDeclaresType (source : Source) (node : Node) : Bool :=
  node.kind == .comment && declaresType (source.text node).toList

/-- Whether a comment that declares a type stands in a statement or after it on its last line.
`following` are the nodes after the statement. -/
def Source.statementDeclaresType (source : Source) (statement : Node) (following : List Node) :
    Bool :=
  let onLastLine := following.takeWhile fun node =>
    node.label.extra && source.firstRow node == source.lastRow statement
  (statement.children ++ onLastLine).any source.commentDeclaresType

/-- Whether a comment that declares a type stands on the line of a definition or leads its body. -/
def Source.signatureDeclaresType (source : Source) (definition : Node) : Bool :=
  definition.children.any source.commentDeclaresType ||
    match definition.child? .body with
    | none => false
    | some body => (body.children.takeWhile (·.label.extra)).any source.commentDeclaresType

end InterfaceStub.Syntax
