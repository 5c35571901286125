import InterfaceStub.Json.Basic
import InterfaceStub.Settings.Basic

/-!
# Command line options

The arguments of the program are read from left to right.  `Request.ofArguments` says what they ask
for, or which argument is wrong.
-/

namespace InterfaceStub.CommandLine

/-- How the stub of standard input is written. -/
inductive Format where
  | stub
  | json
  deriving DecidableEq, Repr

/-- The options that there are. -/
inductive Switch where
  | overwrite
  | config
  | jobs
  | emitRequiredImports
  | typeCheckingName
  | format
  | verbose
  | noColor
  | version
  deriving DecidableEq, Repr

namespace Switch

/-- The option with a long name. -/
def ofLong? : String → Option Switch
  | "overwrite" => some .overwrite
  | "config" => some .config
  | "jobs" => some .jobs
  | "emit-required-imports" => some .emitRequiredImports
  | "type-checking-name" => some .typeCheckingName
  | "format" => some .format
  | "verbose" => some .verbose
  | "no-color" => some .noColor
  | "version" => some .version
  | _ => none

/-- The option with a short name. -/
def ofShort? : Char → Option Switch
  | 'c' => some .config
  | 'j' => some .jobs
  | 'f' => some .format
  | 'v' => some .verbose
  | 'V' => some .version
  | _ => none

/-- Whether an option comes with a value. -/
def takesValue : Switch → Bool
  | .config | .jobs | .typeCheckingName | .format => true
  | _ => false

end Switch

/-- What the arguments set. -/
structure Options where
  /-- The files and directories to convert; standard input when there are none. -/
  inputs : List String := []
  overwrite : Bool := false
  /-- The settings file. -/
  config : Option String := none
  jobs : Option UInt64 := none
  emitRequiredImports : Bool := false
  typeCheckingNames : List String := []
  format : Option Format := none
  verbose : Bool := false
  noColor : Bool := false
  deriving DecidableEq, Repr

/-- What is wrong with an argument. -/
inductive ArgumentError where
  | unknown (argument : String)
  | repeated (switch : Switch)
  | missingValue (switch : Switch)
  | unexpectedValue (switch : Switch)
  | invalidValue (switch : Switch) (value : String)
  deriving DecidableEq, Repr

/-- The number of jobs that a text spells: digits with an optional plus sign. -/
def jobCount? (text : String) : Option UInt64 :=
  let digits := match text.toList with
    | '+' :: rest => rest
    | rest => rest
  (Json.natOfDigits? digits).bind fun count =>
    if count < UInt64.size then some (UInt64.ofNat count) else none

/-- The format with a name. -/
def Format.ofName? : String → Option Format
  | "pyi" => some .stub
  | "json" => some .json
  | _ => none

namespace Options

/-- Sets an option that has not been set before. -/
def setOnce (switch : Switch) (isSet : Bool) (options : Options) : Except ArgumentError Options :=
  if isSet then .error (.repeated switch) else .ok options

/-- Turns on an option without value. -/
def turnOn (options : Options) (switch : Switch) : Except ArgumentError Options :=
  match switch with
  | .overwrite => setOnce switch options.overwrite { options with overwrite := true }
  | .emitRequiredImports =>
    setOnce switch options.emitRequiredImports { options with emitRequiredImports := true }
  | .verbose => setOnce switch options.verbose { options with verbose := true }
  | .noColor => setOnce switch options.noColor { options with noColor := true }
  | .config | .jobs | .typeCheckingName | .format | .version => .error (.missingValue switch)

/-- Gives an option its value. -/
def assign (options : Options) (switch : Switch) (value : String) :
    Except ArgumentError Options :=
  match switch with
  | .config => setOnce switch options.config.isSome { options with config := some value }
  | .jobs =>
    match jobCount? value with
    | some count => setOnce switch options.jobs.isSome { options with jobs := some count }
    | none => .error (.invalidValue switch value)
  | .typeCheckingName =>
    .ok { options with typeCheckingNames := options.typeCheckingNames ++ [value] }
  | .format =>
    match Format.ofName? value with
    | some format => setOnce switch options.format.isSome { options with format := some format }
    | none => .error (.invalidValue switch value)
  | .overwrite | .emitRequiredImports | .verbose | .noColor | .version =>
    .error (.unexpectedValue switch)

end Options

/-- What the arguments ask for. -/
inductive Request where
  | version
  | convert (options : Options)
  deriving DecidableEq, Repr

/-- What an argument asks for by itself. -/
inductive Reading where
  | version
  | options (options : Options)
  /-- The next argument is the value of an option. -/
  | awaiting (options : Options) (switch : Switch)
  deriving DecidableEq, Repr

namespace Reading

/-- Reads an option with a long name.  Its value may follow an equals sign. -/
def ofLong (options : Options) (text : List Char) : Except ArgumentError Reading :=
  let name := text.takeWhile (· != '=')
  let value? := match text.drop name.length with
    | [] => none
    | _ :: value => some (String.ofList value)
  match Switch.ofLong? (String.ofList name) with
  | none => .error (.unknown ("--" ++ String.ofList text))
  | some switch =>
    match value?, switch.takesValue with
    | some value, _ => (options.assign switch value).map .options
    | none, true => .ok (.awaiting options switch)
    | none, false =>
      if switch = .version then .ok .version else (options.turnOn switch).map .options

/-- The value that follows a short name in one argument, with or without an equals sign. -/
def attached : List Char → String
  | '=' :: value => String.ofList value
  | value => String.ofList value

/-- Reads options with short names that stand together. -/
def ofShort (options : Options) : List Char → Except ArgumentError Reading
  | [] => .ok (.options options)
  | c :: rest =>
    match Switch.ofShort? c with
    | none => .error (.unknown (String.ofList ['-', c]))
    | some .version => .ok .version
    | some switch =>
      if switch.takesValue then
        if rest.isEmpty then .ok (.awaiting options switch)
        else (options.assign switch (attached rest)).map .options
      else do ofShort (← options.turnOn switch) rest

/-- Reads one argument. -/
def ofArgument (options : Options) (argument : String) : Except ArgumentError Reading :=
  match argument.toList with
  | '-' :: '-' :: text => ofLong options text
  | '-' :: c :: text => ofShort options (c :: text)
  | _ => .ok (.options { options with inputs := options.inputs ++ [argument] })

end Reading

/-- Whether an argument cannot be the value of the option before it. -/
def isSwitchLike (argument : String) : Bool :=
  match argument.toList with
  | '-' :: _ :: _ => true
  | _ => false

/-- Reads some arguments after others.  After `--` all are inputs. -/
def readArguments (options : Options) : List String → Except ArgumentError Request
  | [] => .ok (.convert options)
  | "--" :: inputs => .ok (.convert { options with inputs := options.inputs ++ inputs })
  | argument :: rest =>
    match Reading.ofArgument options argument with
    | .error error => .error error
    | .ok .version => .ok .version
    | .ok (.options options) => readArguments options rest
    | .ok (.awaiting options switch) =>
      match rest with
      | [] => .error (.missingValue switch)
      | value :: rest =>
        if isSwitchLike value then .error (.missingValue switch)
        else
          match options.assign switch value with
          | .error error => .error error
          | .ok options => readArguments options rest

/-- What the arguments of the program ask for. -/
def Request.ofArguments (arguments : List String) : Except ArgumentError Request :=
  readArguments {} arguments

end InterfaceStub.CommandLine
