import InterfaceStub.CommandLine.Options
import InterfaceStub.Conversion.Batch
import InterfaceStub.Json.Printer
import InterfaceStub.Settings.File
import InterfaceStub.Stub.Codec

/-!
# Runs of the program

What the program does with its arguments, its standard input and the files, as a function: the text
it writes, the files it leaves behind and its exit code.
-/

namespace InterfaceStub.CommandLine

/-- What a run of the program starts from. -/
structure Invocation where
  /-- The parser, unless the language cannot be loaded. -/
  parser : Option Parser
  walker : Walker
  arguments : List String := []
  /-- The settings file to use when the arguments name none. -/
  config : Option String := none
  input : Content := .text ""
  files : FileSystem := {}

/-- What a run of the program leaves behind. -/
structure Outcome where
  exitCode : UInt8
  output : String := ""
  errorOutput : String := ""
  files : FileSystem

/-- What the program says of its version. -/
def versionText : String := "stub-extractor 0.1.0\n"

/-- What standard input is called in diagnostics. -/
def inputId : String := "<unknown>"

/-- The settings with what the arguments set. -/
def Options.apply (options : Options) (settings : Settings) : Settings where
  extract.typeCheckingNames := options.typeCheckingNames.foldl
    (fun names name => if names.contains name then names else names ++ [name])
    settings.extract.typeCheckingNames
  generate.emitRequiredImports :=
    options.emitRequiredImports || settings.generate.emitRequiredImports
  scan := { settings.scan with
    overwrite := options.overwrite || settings.scan.overwrite
    maxParallelJobs := options.jobs.or settings.scan.maxParallelJobs }

/-- The settings of a run. -/
def Options.settings (options : Options) (invocation : Invocation) :
    Except SettingsError Settings := do
  let base ← match options.config.or invocation.config with
    | some path => Settings.load invocation.files path
    | none => .ok {}
  let settings := options.apply base
  settings.validate
  return settings

/-- The outcome of a run that fails. -/
def Invocation.fail (invocation : Invocation) (exitCode : UInt8) (message : String) : Outcome :=
  { exitCode, errorOutput := "Error: " ++ message ++ "\n", files := invocation.files }

/-- Converts the text of standard input. -/
def Invocation.convertInput (invocation : Invocation) (settings : Settings) (format : Format)
    (text : String) : Except Syntax.ParseError Conversion := do
  let parser ← Parser.load invocation.parser
  match format with
  | .stub => parser.convert settings inputId text
  | .json =>
    (parser.extract settings.extract inputId text).map fun extraction =>
      ⟨extraction.stub.toJson.pretty ++ "\n", extraction.diagnostics⟩

/-- Converts standard input. -/
def Invocation.runInput (invocation : Invocation) (settings : Settings) (format : Format) :
    Outcome :=
  match invocation.input with
  | .binary .. => invocation.fail 1 (FileError.message .notText)
  | .text text =>
    match invocation.convertInput settings format text with
    | .error error => invocation.fail 1 error.message
    | .ok conversion =>
      { exitCode := 0
        output := conversion.text
        errorOutput := Diagnostic.renderAll conversion.diagnostics
        files := invocation.files }

/-- Converts files and directories. -/
def Invocation.runInputs (invocation : Invocation) (settings : Settings) (inputs : List String) :
    Outcome :=
  let env : Environment := ⟨invocation.parser, invocation.walker, settings⟩
  match env.runInputs { files := invocation.files } inputs with
  | .error error => invocation.fail 1 error.message
  | .ok report =>
    let warnings := report.errors.map fun error => "WARNING: " ++ error.message ++ "\n"
    { exitCode := 0
      errorOutput := Diagnostic.renderAll report.diagnostics ++ String.join warnings ++
        report.state.tally.summary
      files := report.state.files }

/-- What is wrong with an argument, in words. -/
def ArgumentError.message : ArgumentError → String
  | .unknown argument => "unexpected argument '" ++ argument ++ "'"
  | .repeated _ => "an option is given twice"
  | .missingValue _ => "an option lacks its value"
  | .unexpectedValue _ => "an option has a value that takes none"
  | .invalidValue _ value => "invalid value '" ++ value ++ "'"

/-- Whether a run with these arguments reads standard input. -/
def readsInput (arguments : List String) : Bool :=
  match Request.ofArguments arguments with
  | .ok (.convert options) => options.inputs.isEmpty
  | _ => false

/-- A run of the program. -/
def Invocation.run (invocation : Invocation) : Outcome :=
  match Request.ofArguments invocation.arguments with
  | .error error => invocation.fail 2 error.message
  | .ok .version => { exitCode := 0, output := versionText, files := invocation.files }
  | .ok (.convert options) =>
    match options.settings invocation with
    | .error error => invocation.fail 1 error.message
    | .ok settings =>
      if options.inputs.isEmpty then
        invocation.runInput settings (options.format.getD .stub)
      else invocation.runInputs settings options.inputs

end InterfaceStub.CommandLine
