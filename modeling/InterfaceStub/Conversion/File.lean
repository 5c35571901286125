import InterfaceStub.Conversion.Basic
import InterfaceStub.Conversion.Sources

/-!
# Conversion of a file

A file is converted in three steps: a look whether its stub is in the way, the reading of the
source, and the writing of the stub.  Each step is a function of the file system as it is then, and
only the last one changes it.  Without a parser no step is made.
-/

namespace InterfaceStub

/-- What a conversion can consult. -/
structure Environment where
  /-- The parser, unless the language cannot be loaded. -/
  parser : Option Parser
  walker : Walker
  settings : Settings

/-- What the conversion of a file leaves behind. -/
structure FileReport where
  files : FileSystem
  /-- The path of the stub, or why there is none. -/
  result : Except ConversionError String
  diagnostics : List Diagnostic := []

namespace Environment

/-- Converts the text of a source. -/
def convert (env : Environment) (id text : String) : Except Syntax.ParseError Conversion := do
  (← Parser.load env.parser).convert env.settings id text

/-- Looks whether there is a parser, and whether the stub of a file is in the way. -/
def clear (env : Environment) (files : FileSystem) (path : String) :
    Except ConversionError Unit :=
  if env.parser.isNone then .error (.parse path .noLanguage)
  else if !env.settings.scan.overwrite && files.pathExists (Path.stubOf path) then
    .error (.targetExists (Path.stubOf path))
  else .ok ()

/-- Reads a file and makes the text of its stub. -/
def render (env : Environment) (files : FileSystem) (path : String) :
    Except ConversionError Conversion :=
  match files.read path with
  | .error cause => .error (.read path cause)
  | .ok text => (env.convert path text).mapError (.parse path)

/-- The error for a stub that could not be written. -/
def writeError (target : String) : FileError → ConversionError
  | .exists => .targetExists target
  | cause => .write target cause

/-- Writes the stub of a file. -/
def write (env : Environment) (files : FileSystem) (path text : String) :
    Except ConversionError FileSystem :=
  let target := Path.stubOf path
  let written :=
    if env.settings.scan.overwrite then files.overwrite target (.text text)
    else files.create target (.text text)
  written.mapError (writeError target)

/-- Converts a file.  The diagnostics of a source that was read are reported even if its stub cannot
be written. -/
def runFile (env : Environment) (files : FileSystem) (path : String) : FileReport :=
  match env.clear files path with
  | .error error => { files, result := .error error }
  | .ok () =>
    match env.render files path with
    | .error error => { files, result := .error error }
    | .ok conversion =>
      match env.write files path conversion.text with
      | .error error => { files, result := .error error, diagnostics := conversion.diagnostics }
      | .ok files =>
        { files, result := .ok (Path.stubOf path), diagnostics := conversion.diagnostics }

end Environment

end InterfaceStub
