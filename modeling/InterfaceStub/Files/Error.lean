/-!
# File errors

Why an operation on a file fails.
-/

namespace InterfaceStub

/-- Why an operation on a file fails. -/
inductive FileError where
  | notFound
  | exists
  | notDirectory
  | isDirectory
  | tooManyLinks
  /-- The content is no Unicode text. -/
  | notText
  /-- A path has a character that no path can have. -/
  | invalidPath
  /-- A path that was asked for names nothing. -/
  | missingInput
  /-- Any other reason. -/
  | other (reason : String)
  deriving DecidableEq, Repr

/-- The text of a file error. -/
def FileError.message : FileError → String
  | .notFound => "No such file or directory (os error 2)"
  | .exists => "File exists (os error 17)"
  | .notDirectory => "Not a directory (os error 20)"
  | .isDirectory => "Is a directory (os error 21)"
  | .tooManyLinks => "Too many levels of symbolic links (os error 40)"
  | .notText => "stream did not contain valid UTF-8"
  | .invalidPath => "file name contained an unexpected NUL byte"
  | .missingInput => "no such file or directory"
  | .other reason => reason

end InterfaceStub
