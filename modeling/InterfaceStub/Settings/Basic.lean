import InterfaceStub.Text.Identifier

/-!
# Settings

What can be chosen about a conversion, and which choices make sense.
-/

namespace InterfaceStub

/-- How declarations are found. -/
structure ExtractSettings where
  /-- The names that are true for a type checker alone, when a condition is one of them. -/
  typeCheckingNames : List String := ["TYPE_CHECKING"]
  deriving DecidableEq, Repr

/-- Whether a name is true for a type checker alone. -/
def ExtractSettings.isGuardName (settings : ExtractSettings) (name : String) : Bool :=
  settings.typeCheckingNames.contains name

/-- How a stub is written. -/
structure GenerateSettings where
  /-- Whether names that inferred annotations rely on are imported. -/
  emitRequiredImports : Bool := false
  deriving DecidableEq, Repr

/-- How files are found and written. -/
structure ScanSettings where
  /-- Whether a stub that exists is replaced. -/
  overwrite : Bool := false
  /-- The names of directories that are passed over. -/
  skipDirs : List String := ["__pycache__", ".git", ".venv", ".tox", "node_modules"]
  /-- Whether links are followed in a walk. -/
  followLinks : Bool := false
  /-- The number of conversions at a time, when it is limited. -/
  maxParallelJobs : Option UInt64 := none
  deriving DecidableEq, Repr

/-- All settings. -/
structure Settings where
  extract : ExtractSettings := {}
  generate : GenerateSettings := {}
  scan : ScanSettings := {}
  deriving DecidableEq, Repr

/-- Why settings cannot be used. -/
inductive SettingsError where
  | invalidOption (option reason : String)
  /-- Their file cannot be read. -/
  | unreadable (reason : String)
  /-- Their file does not hold settings. -/
  | malformed
  deriving DecidableEq, Repr

/-- The text of an error about settings. -/
def SettingsError.message : SettingsError → String
  | .invalidOption option reason =>
    "invalid configuration option '" ++ option ++ "': " ++ reason
  | .unreadable reason => "failed to read configuration: " ++ reason
  | .malformed => "failed to parse configuration"

/-- Refuses a type checking name that is no identifier, and a limit of no conversion at all. -/
def Settings.validate (settings : Settings) : Except SettingsError Unit :=
  match settings.extract.typeCheckingNames.find? fun name => !Text.isIdentifier name with
  | some name =>
    .error (.invalidOption "extract.type_checking_names" ("'" ++ name ++ "' is not an identifier"))
  | none =>
    if settings.scan.maxParallelJobs = some 0 then
      .error (.invalidOption "scan.max_parallel_jobs" "must be at least 1")
    else .ok ()

end InterfaceStub
