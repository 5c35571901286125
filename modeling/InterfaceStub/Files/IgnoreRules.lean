import InterfaceStub.Files.IgnoreFile

/-!
# Ignore rules

The ignore files that apply to an entry are those in the directories above it, in the walk and above
its root.  Of several files the nearest with a match decides; and what the files named `.ignore` say
goes before what the files named `.gitignore` say, which goes before the exclude files of Git.

A pattern is matched against the path of an entry relative to the directory of the ignore file.
That path is found by cutting bytes.  When the root of a walk is spelled with several idle steps at
its front it is not found, and the pattern is matched against the path that the walk gives.
-/

namespace InterfaceStub

/-- The ignore files in one directory. -/
structure IgnoreScope where
  /-- The path of the directory. -/
  base : List UInt8
  /-- The file `.ignore`. -/
  plain : IgnoreFile
  /-- The file `.gitignore`. -/
  git : IgnoreFile
  /-- The exclude file of Git. -/
  exclude : IgnoreFile

namespace IgnoreScope

open Text (slash)

/-! ## Relative paths -/

/-- A text without `start` at its front, if it stands there. -/
def dropFront (start text : List UInt8) : List UInt8 :=
  if start.isPrefixOf text then text.drop start.length else text

/-- A path without a first step that stays in place. -/
def dropStay (path : List UInt8) : List UInt8 :=
  dropFront (Text.bytes "./") path

/-- Whether a path has a first step that stays in place, and no other steps but such. -/
def staysInPlace (path : List UInt8) : Bool :=
  let stay := Text.bytes "."
  let parts := Text.splitList slash path
  parts.head? = some stay && parts.all fun part => part = [] || part = stay

/-- The path of an entry relative to a directory. -/
def relativePath (base path : List UInt8) : List UInt8 :=
  let path := dropStay path
  if staysInPlace base || !path.contains slash then path
  else if base.isPrefixOf path then dropFront [slash] (path.drop base.length)
  else path

/-! ## Reading -/

/-- What an ignore file in a directory says. -/
def fileIn (files : FileSystem) (directory : Location) (path : String) : IgnoreFile :=
  match files.resolveFrom directory path true with
  | .ok (.found _ (.file content)) => IgnoreFile.ofContent content
  | _ => .empty

/-- The ignore files in a directory. -/
def ofDirectory (files : FileSystem) (directory : Location) (base : List UInt8) : IgnoreScope :=
  ⟨base, fileIn files directory ".ignore", fileIn files directory ".gitignore",
    fileIn files directory ".git/info/exclude"⟩

/-- Whether some pattern is malformed. -/
def malformed (scope : IgnoreScope) : Bool :=
  scope.plain.malformed || scope.git.malformed || scope.exclude.malformed

/-- The path of a location from the top on. -/
def pathOf (location : Location) : List UInt8 :=
  slash :: [slash].intercalate (location.map RawText.bytes)

/-- The ignore files above a directory, the nearest first. -/
def above (files : FileSystem) (directory : Location) : List IgnoreScope :=
  (List.range directory.length).reverse.map fun depth =>
    ofDirectory files (directory.take depth) (pathOf (directory.take depth))

/-- What one of the files says of an entry: whether it is taken. -/
def taken? (file : IgnoreScope → IgnoreFile) (path : List UInt8) (isDirectory : Bool)
    (scope : IgnoreScope) : Option Bool :=
  (file scope).taken? (relativePath scope.base path) isDirectory

end IgnoreScope

/-- The ignore files that apply to the entries of a directory. -/
structure IgnoreRules where
  /-- Those of the directories of the walk, the nearest first. -/
  inside : List IgnoreScope
  /-- Those of the directories above its root, the nearest first. -/
  above : List IgnoreScope

namespace IgnoreRules

/-- The rules in a directory of the walk, given the bytes of its path. -/
def enter (rules : IgnoreRules) (files : FileSystem) (directory : Location) (path : List UInt8) :
    IgnoreRules :=
  let base := IgnoreScope.dropStay path
  { rules with inside := IgnoreScope.ofDirectory files directory base :: rules.inside }

/-- What the ignore files say of an entry: whether it is taken.  `path` are the bytes of its path in
the walk, and `location` is where the walk has it from the top on. -/
def taken? (rules : IgnoreRules) (path : List UInt8) (location : Location) (isDirectory : Bool) :
    Option Bool :=
  let inside := IgnoreScope.dropStay path
  let above := IgnoreScope.pathOf location
  let say (file : IgnoreScope → IgnoreFile) : Option Bool :=
    (rules.inside.findSome? (IgnoreScope.taken? file inside isDirectory)).or
      (rules.above.findSome? (IgnoreScope.taken? file above isDirectory))
  ((say IgnoreScope.plain).or (say IgnoreScope.git)).or (say IgnoreScope.exclude)

end IgnoreRules

end InterfaceStub
