import InterfaceStub.Syntax.Node
import InterfaceStub.Text.Offset
import InterfaceStub.Text.Quoted

/-!
# Sources

A `Source` is the text that a syntax tree describes.  It gives the text of a node and the place
where the node stands; lines and columns count from one, columns in bytes.
-/

namespace InterfaceStub.Syntax

/-- A text with the name it goes by in messages. -/
structure Source where
  id : String
  chars : List Char
  deriving DecidableEq

namespace Source

/-- The source with this name and text. -/
def ofText (id text : String) : Source :=
  ⟨id, text.toList⟩

/-- The text between two byte offsets; empty when they do not stand between characters. -/
def between (source : Source) (start stop : Nat) : String :=
  String.ofList ((Text.slice source.chars start stop).getD [])

/-- The text of a node. -/
def text (source : Source) (node : Node) : String :=
  source.between node.label.start node.label.stop

/-- The row, from zero, of a node's first character. -/
def firstRow (source : Source) (node : Node) : Nat :=
  Text.rowAt source.chars node.label.start

/-- The row, from zero, where a node ends. -/
def lastRow (source : Source) (node : Node) : Nat :=
  Text.rowAt source.chars node.label.stop

/-- The line of a node's first character. -/
def line (source : Source) (node : Node) : Nat :=
  source.firstRow node + 1

/-- The column of a node's first character. -/
def column (source : Source) (node : Node) : Nat :=
  Text.columnAt source.chars node.label.start + 1

/-- The number of bytes of the text. -/
def length (source : Source) : Nat :=
  Text.byteLength source.chars

/-- A short account of the source and its tree, without the text. -/
def summary (source : Source) : String :=
  "SyntaxTree \x7b source_id: " ++ Text.quoted source.id ++ ", len: " ++ source.length.repr ++
    ", .. \x7d"

end Source

/-- A short account of the parser that made a tree. -/
def describeParser : String :=
  "PyParser \x7b language: " ++ Text.quoted "Python" ++ ", .. \x7d"

end InterfaceStub.Syntax
