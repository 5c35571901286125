/-!
# Diagnostics

A diagnostic reports something that a stub cannot express.  It does not stop a conversion.
-/

namespace InterfaceStub

/-- A report on one line of a source. -/
structure Diagnostic where
  sourceId : String
  line : Nat
  message : String
  deriving DecidableEq, Repr

/-- The text of a diagnostic, without the end of the line. -/
def Diagnostic.render (diagnostic : Diagnostic) : String :=
  "WARNING:" ++ diagnostic.sourceId ++ ":" ++ diagnostic.line.repr ++ ":" ++ diagnostic.message

/-- The lines of some diagnostics. -/
def Diagnostic.renderAll (diagnostics : List Diagnostic) : String :=
  String.join (diagnostics.map fun diagnostic => diagnostic.render ++ "\n")

end InterfaceStub
