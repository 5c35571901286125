import InterfaceStub.Extraction.ModuleBody
import InterfaceStub.Stub.Printer
import InterfaceStub.Syntax.Acceptance

/-!
# Conversion of a source

The way from the text of a source to the text of its stub.  The syntax tree comes from a `Parser`;
a tree that is not accepted makes the conversion fail.
-/

namespace InterfaceStub

open Syntax

/-- Gives the syntax tree of a text, if it has one. -/
abbrev Parser := String → Option Node

/-- The parser, if there is one: it may be that the language cannot be loaded. -/
def Parser.load : Option Parser → Except ParseError Parser
  | some parser => .ok parser
  | none => .error .noLanguage

/-- The accepted syntax tree of a source. -/
def Parser.accept (parser : Parser) (id text : String) : Except ParseError Node :=
  match parser text with
  | none => .error .noTree
  | some root => ((Source.ofText id text).check root).map fun () => root

/-- The stub of a source and what it relies on. -/
def Parser.extract (parser : Parser) (settings : ExtractSettings) (id text : String) :
    Except ParseError Extraction :=
  (parser.accept id text).map (InterfaceStub.extract settings (.ofText id text))

/-- The text of an extracted stub. -/
def Extraction.render (extraction : Extraction) (settings : GenerateSettings) : String :=
  extraction.stub.render (if settings.emitRequiredImports then extraction.required else .empty)

/-- The text of a stub, and what the stub could not express. -/
structure Conversion where
  text : String
  diagnostics : List Diagnostic

/-- The text of the stub of a source. -/
def Parser.convert (parser : Parser) (settings : Settings) (id text : String) :
    Except ParseError Conversion :=
  (parser.extract settings.extract id text).map fun extraction =>
    ⟨extraction.render settings.generate, extraction.diagnostics⟩

end InterfaceStub
