import InterfaceStub.Conversion.File
import InterfaceStub.Conversion.Tally

/-!
# Conversion of many files

`runAll` converts files one after the other and goes on after an error.  `runInputs` first looks
for the sources among its inputs: a file stands for itself, a directory for the sources below it.
-/

namespace InterfaceStub

/-- The files and the counters between the parts of a run. -/
structure RunState where
  files : FileSystem
  tally : Tally := {}

/-- What a part of a run leaves behind. -/
structure RunReport where
  state : RunState
  /-- Why files were not converted. -/
  errors : List ConversionError := []
  diagnostics : List Diagnostic := []

/-- Counts a file and what became of it. -/
def Tally.record (tally : Tally) (report : FileReport) : Tally :=
  let tally := tally.countTotal.countDiagnostics (.ofNat report.diagnostics.length)
  match report.result with
  | .ok _ => tally.countConverted
  | .error error => if error.isSkip then tally.countSkipped else tally.countFailed

/-- The error of a result that is one. -/
def errorOf? : Except ε α → Option ε
  | .ok _ => none
  | .error error => some error

namespace Environment

/-- Converts one more file of a run. -/
def runNext (env : Environment) (run : RunReport) (path : String) : RunReport :=
  let report := env.runFile run.state.files path
  { state := ⟨report.files, run.state.tally.record report⟩
    errors := run.errors ++ (errorOf? report.result).toList
    diagnostics := run.diagnostics ++ report.diagnostics }

/-- Converts files one after the other. -/
def runAll (env : Environment) (state : RunState) (paths : List String) : RunReport :=
  paths.foldl env.runNext { state }

/-- The sources that an input stands for; an input that is not there is an error of its own. -/
def sourcesAt (env : Environment) (files : FileSystem) (input : String) :
    Except ConversionError (List (Except ConversionError String)) :=
  if (files.directoryAt? input).isSome then
    (env.walker.collect files env.settings.scan input).map fun paths => paths.map .ok
  else if files.pathExists input then .ok [.ok input]
  else .ok [.error (.read input .missingInput)]

/-- The sources that some inputs stand for, in order. -/
def sources (env : Environment) (files : FileSystem) (inputs : List String) :
    Except ConversionError (List (Except ConversionError String)) := do
  return (← inputs.mapM (env.sourcesAt files)).flatten

/-- Converts the sources that some inputs stand for.  Inputs that are not there come first among the
errors. -/
def runInputs (env : Environment) (state : RunState) (inputs : List String) :
    Except ConversionError RunReport := do
  let found ← env.sources state.files inputs
  let missing := found.filterMap errorOf?
  let tally := missing.foldl (fun tally _ => tally.countTotal.countFailed) state.tally
  let run := env.runAll { state with tally } (found.filterMap Except.toOption)
  return { run with errors := missing ++ run.errors }

end Environment

end InterfaceStub
