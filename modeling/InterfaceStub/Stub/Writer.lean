/-!
# A writer that indents

A `Writer` gathers text.  The first text of a line brings the indentation of the line with it, so an
empty line has none.
-/

namespace InterfaceStub

/-- The text written so far, the depth of the lines to come and whether a line has just begun. -/
structure Writer where
  output : String := ""
  depth : Nat := 0
  atLineStart : Bool := true
  deriving DecidableEq, Repr

namespace Writer

/-- Four spaces for each level. -/
def indentation (depth : Nat) : String :=
  String.ofList (List.replicate (4 * depth) ' ')

/-- Writes a text, after the indentation if it is the first of its line. -/
def put (text : String) (writer : Writer) : Writer :=
  if text.isEmpty then writer
  else if writer.atLineStart then
    { writer with
      output := writer.output ++ indentation writer.depth ++ text
      atLineStart := false }
  else { writer with output := writer.output ++ text }

/-- Ends the line. -/
def endLine (writer : Writer) : Writer :=
  { writer with output := writer.output ++ "\n", atLineStart := true }

/-- Indents the lines to come by one level more. -/
def indent (writer : Writer) : Writer :=
  { writer with depth := writer.depth + 1 }

/-- Indents the lines to come by one level less. -/
def dedent (writer : Writer) : Writer :=
  { writer with depth := writer.depth - 1 }

/-- Writes each item of a list. -/
def each (write : α → Writer → Writer) (items : List α) (writer : Writer) : Writer :=
  items.foldl (fun writer item => write item writer) writer

/-- Writes each item of a list, with a text between two of them. -/
def separated (between : String) (write : α → Writer → Writer) : List α → Writer → Writer
  | [], writer => writer
  | item :: items, writer =>
    each (fun item writer => write item (put between writer)) items (write item writer)

end Writer

end InterfaceStub
