import InterfaceStub.Conversion.Error
import InterfaceStub.Files.Path

/-!
# Sources in a directory

`Walker.collect` takes the Python sources out of what a walker lists, and keeps the walker from
directories with certain names.
-/

namespace InterfaceStub

/-- Names of directories that never hold sources of interest. -/
def skippedNames : List String :=
  ["__pycache__", ".git", ".hg", ".tox", ".nox", ".venv", "venv", ".mypy_cache", ".pytest_cache",
   "node_modules"]

namespace ScanSettings

/-- Whether a directory of this name is passed over. -/
def isSkippedName (settings : ScanSettings) (name : String) : Bool :=
  skippedNames.contains name || settings.skipDirs.contains name

/-- Whether a walk takes an entry.  Its root is taken whatever its name is. -/
def accepts (settings : ScanSettings) (entry : WalkEntry) : Bool :=
  entry.place.isEmpty || entry.kind ≠ .directory ||
    !(entry.place.getLast?.bind RawText.text?).any settings.isSkippedName

/-- What a walker is asked for. -/
def walkOptions (settings : ScanSettings) : WalkOptions :=
  ⟨settings.followLinks, settings.accepts⟩

end ScanSettings

/-- The path of an entry of a walk that is a source.  The path of a file has to be a text, whether
it is a source or not. -/
def WalkEntry.source? (entry : WalkEntry) (root : String) :
    Except ConversionError (Option String) :=
  if entry.kind ≠ .file then .ok none
  else
    match Path.below? root entry.place with
    | some path =>
      .ok (if Path.extension? path = some Path.sourceExtension then some path else none)
    | none => .error (.notUnicode (Path.bytesBelow (Text.bytes root) entry.place))

namespace Walker

/-- The sources among what a walker lists, up to the first error. -/
def sourcesIn (root : String) :
    List (Except WalkError WalkEntry) → Except ConversionError (List String)
  | [] => .ok []
  | .error cause :: _ => .error (.walk cause)
  | .ok entry :: rest =>
    match entry.source? root with
    | .error error => .error error
    | .ok source? => (sourcesIn root rest).map fun sources => source?.toList ++ sources

/-- The Python sources below a directory, in the order of the walk. -/
def collect (walker : Walker) (files : FileSystem) (settings : ScanSettings) (root : String) :
    Except ConversionError (List String) :=
  if !files.pathExists root then .error (.settings ("path does not exist: " ++ root))
  else if (files.directoryAt? root).isNone then
    .error (.settings ("path is not a directory: " ++ root))
  else sourcesIn root (walker files settings.walkOptions root)

end Walker

end InterfaceStub
