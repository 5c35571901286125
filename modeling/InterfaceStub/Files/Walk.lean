import InterfaceStub.Files.IgnoreRules
import InterfaceStub.Files.Path
import InterfaceStub.Files.Walker

/-!
# The standard walker

`Walker.standard` is the walker that the program runs with.  The entries of a directory come in
increasing order of the bytes of their names, and what is below a directory right after it.  Hidden
entries and entries that the ignore files name are passed over, with all that is below them.  The
excludes that a user has for all repositories are not read.
-/

namespace InterfaceStub

namespace Walk

/-- Whether an entry of this name is hidden: it starts with a dot and does not end with one. -/
def isHidden (name : Name) : Bool :=
  name.isDotted && name.bytes.getLast? ≠ some 46

/-- What an entry of a directory is, and where it is.  `entered` are the directories that the walk
is in. -/
def foundAt (files : FileSystem) (followLinks : Bool) (entered : List Location) (here : Location)
    (path : List UInt8) (name : Name) : Except WalkError (EntryKind × Location) :=
  match files.get? (here ++ [name]) with
  | some (.file _) => .ok (.file, here ++ [name])
  | some .directory => .ok (.directory, here ++ [name])
  | some (.link _) =>
    if followLinks then
      match files.resolveFrom here name true with
      | .ok (.found location (.file _)) => .ok (.file, location)
      | .ok (.found location .directory) =>
        if entered.contains location then
          .error ⟨"link to a directory above it: " ++ Text.lossy path⟩
        else .ok (.directory, location)
      | _ => .error ⟨"broken link: " ++ Text.lossy path⟩
    else .ok (.other, here ++ [name])
  | none => .ok (.other, here ++ [name])

/-- What is below a directory, `depth` levels deep at most.  `rules` are the ignore files above the
directory, `here` is where it is, `place` is its place below `base`, the root of the walk, and
`path` are the bytes of its path. -/
def entriesBelow (files : FileSystem) (options : WalkOptions) (base : Location) (depth : Nat)
    (rules : IgnoreRules) (entered : List Location) (here place : Location) (path : List UInt8) :
    List (Except WalkError WalkEntry) :=
  match depth with
  | 0 => []
  | depth + 1 =>
    let rules := rules.enter files here path
    (files.names here).flatMap fun name =>
      let path := Path.joinBytes path name.bytes
      let place := place ++ [name]
      match foundAt files options.followLinks entered here path name with
      | .error error => [.error error]
      | .ok (kind, location) =>
        let taken? := rules.taken? path (base ++ place) (kind = .directory)
        if !taken?.getD (!isHidden name) || !options.accepts ⟨place, kind⟩ then []
        else
          .ok ⟨place, kind⟩ ::
            if kind = .directory then
              entriesBelow files options base depth rules (location :: entered) location place path
            else []

/-- How deep a walk can get before a followed link leads back. -/
def maxDepth (files : FileSystem) : Nat :=
  (files.locations.length + 1) * (files.locations.length + 1)

end Walk

/-- The walker that the program runs with. -/
def Walker.standard : Walker := fun files options root =>
  if Walk.isStandardInput root then [.ok ⟨[], .other⟩]
  else
    match files.resolve root with
    | .ok (.found base .directory) =>
      let above := IgnoreScope.above files base
      if above.any IgnoreScope.malformed then
        [.error ⟨"malformed pattern in an ignore file above " ++ root⟩]
      else
        .ok ⟨[], .directory⟩ ::
          Walk.entriesBelow files options base (Walk.maxDepth files) ⟨[], above⟩ [base] base []
            (Text.bytes root)
    | .ok (.found ..) => [.ok ⟨[], .file⟩]
    | _ => [.error ⟨"nothing to walk at " ++ root⟩]

end InterfaceStub
