import InterfaceStub.Files.Error
import InterfaceStub.Files.Walker
import InterfaceStub.Settings.Basic
import InterfaceStub.Syntax.Acceptance

/-!
# Conversion errors

Why a file is not converted, or why a whole run fails.  An error about one file does not stop the
conversion of the others.
-/

namespace InterfaceStub

open Syntax

/-- Why a file is not converted, or why a whole run fails. -/
inductive ConversionError where
  | read (path : String) (cause : FileError)
  | write (path : String) (cause : FileError)
  /-- The stub is there and is not to be replaced. -/
  | targetExists (path : String)
  | parse (path : String) (cause : ParseError)
  | settings (reason : String)
  /-- A path that is no text, by its bytes. -/
  | notUnicode (path : List UInt8)
  | walk (cause : WalkError)
  deriving DecidableEq, Repr

namespace ConversionError

/-- The error of a run whose settings cannot be used. -/
def ofSettings (error : SettingsError) : ConversionError :=
  .settings error.message

/-- The text of an error. -/
def message : ConversionError → String
  | .read path cause => "failed to read file " ++ path ++ ": " ++ cause.message
  | .write path cause => "failed to write file " ++ path ++ ": " ++ cause.message
  | .targetExists path => "file '" ++ path ++ "' already exists"
  | .parse path cause => "invalid Python file '" ++ path ++ "': " ++ cause.message
  | .settings reason => "invalid configuration: " ++ reason
  | .notUnicode path => "path is not valid UTF-8: " ++ Text.lossy path
  | .walk cause => "failed to walk directory: " ++ cause.message

/-- The file that an error is about. -/
def path? : ConversionError → Option String
  | .read path _ | .write path _ | .targetExists path | .parse path _ => some path
  | .settings _ | .notUnicode _ | .walk _ => none

/-- Whether an error is about one file only. -/
def concernsFile : ConversionError → Bool
  | .read .. | .write .. | .targetExists _ | .parse .. => true
  | .settings _ | .notUnicode _ | .walk _ => false

/-- Whether an error only says that the stub is there. -/
def isSkip : ConversionError → Bool
  | .targetExists _ => true
  | _ => false

end ConversionError

end InterfaceStub
