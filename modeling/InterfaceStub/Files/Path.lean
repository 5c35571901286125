import InterfaceStub.Text.Raw

/-!
# Path texts

The last name of a path and its extension.  Slashes and single dots at the end of a path do not
count.  `stubOf` gives the path of the stub that belongs to a source, and `below?` that of what is
below a directory.
-/

namespace InterfaceStub.Path

/-- Drops the slashes and single dots that a path, given from its end, ends with. -/
def dropIdle : List Char → List Char
  | '/' :: rest => dropIdle rest
  | '.' :: '/' :: rest => dropIdle ('/' :: rest)
  | rest => rest
termination_by cs => cs.length

/-- What stands before the last name of a path, and that name. -/
def splitName (path : String) : String × String :=
  let reversed := dropIdle path.toList.reverse
  let name := reversed.takeWhile (· != '/')
  (String.ofList (reversed.drop name.length).reverse, String.ofList name.reverse)

/-- The last name of a path, unless it stands for a directory by its place. -/
def fileName? (path : String) : Option String :=
  match (splitName path).2 with
  | "" | "." | ".." => none
  | name => some name

/-- The part of a name before its last dot and the part after.  A dot that comes first divides
nothing. -/
def splitExtension (name : String) : String × Option String :=
  let reversed := name.toList.reverse
  let last := reversed.takeWhile (· != '.')
  match reversed.drop last.length with
  | [] | ['.'] => (name, none)
  | _ :: stem => (String.ofList stem.reverse, some (String.ofList last.reverse))

/-- The extension of the last name of a path. -/
def extension? (path : String) : Option String :=
  fileName? path >>= fun name => (splitExtension name).2

/-- The path with another extension to its last name; what follows that name is left out.  A path
without a last name stays as it is. -/
def replaceExtension (path ext : String) : String :=
  match fileName? path with
  | none => path
  | some name => (splitName path).1 ++ (splitExtension name).1 ++ "." ++ ext

/-- The extension of Python sources. -/
def sourceExtension : String := "py"

/-- The extension of stubs. -/
def stubExtension : String := "pyi"

/-- The path of the stub of a source.  The extension of a Python source is cut off at the end of the
path before it is replaced; any other path gets one more extension. -/
def stubOf (path : String) : String :=
  if extension? path = some sourceExtension then
    let shortened := path.toList.take (path.toList.length - sourceExtension.length)
    replaceExtension (String.ofList shortened) stubExtension
  else path ++ "." ++ stubExtension

/-- The path of an entry of a directory. -/
def join (directory name : String) : String :=
  if directory.toList.getLast? = some '/' then directory ++ name else directory ++ "/" ++ name

/-- The path of what is some names below a directory, if it is a text. -/
def below? (directory : String) : List RawText → Option String
  | [] => some directory
  | .text name :: names => below? (join directory name) names
  | .binary .. :: _ => none

/-- `join` on the bytes of paths. -/
def joinBytes (directory name : List UInt8) : List UInt8 :=
  if directory.getLast? = some Text.slash then directory ++ name
  else directory ++ Text.slash :: name

/-- The bytes of the path of what is some names below a directory. -/
def bytesBelow (directory : List UInt8) (names : List RawText) : List UInt8 :=
  names.foldl (fun path name => joinBytes path name.bytes) directory

end InterfaceStub.Path
