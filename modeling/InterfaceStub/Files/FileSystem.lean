import InterfaceStub.Files.Error
import InterfaceStub.Text.Raw
import InterfaceStub.Text.Split

/-!
# File systems

A `FileSystem` holds entries, each at its `Location`, and says which of its directories is the
working directory.  Paths are resolved step by step through directories and links: an absolute path
from the top, any other one from the working directory.  `read`, `create` and `overwrite` are the
operations that a conversion uses, `get?` is the view through which they are described.
-/

namespace InterfaceStub

/-- The name of an entry in its directory. -/
abbrev Name := RawText

/-- The names on the way from the top to an entry. -/
abbrev Location := List Name

/-- The content of a file. -/
abbrev Content := RawText

/-- What stands at a location. -/
inductive Entry where
  | file (content : Content)
  | directory
  /-- A link to a path, which starts at the directory of the link unless it is absolute. -/
  | link (target : RawText)
  deriving DecidableEq

/-- Some entries, and the names on the way to the working directory, whose path is a text. -/
structure FileSystem where
  entries : List (Location × Entry) := []
  workingDirectory : List String := []
  deriving DecidableEq

namespace FileSystem

/-- The working directory. -/
def start (files : FileSystem) : Location :=
  files.workingDirectory.map .text

/-- The entry at a location.  The working directory and those above it are always there. -/
def get? (files : FileSystem) (location : Location) : Option Entry :=
  if location.isPrefixOf files.start then some .directory else files.entries.lookup location

/-- Puts an entry in the place of the one at a location, or after all others. -/
def insertEntry (location : Location) (entry : Entry) :
    List (Location × Entry) → List (Location × Entry)
  | [] => [(location, entry)]
  | head :: rest =>
    if head.1 = location then (location, entry) :: rest
    else head :: insertEntry location entry rest

/-- The file system with this entry at a location. -/
def insert (files : FileSystem) (location : Location) (entry : Entry) : FileSystem :=
  { files with entries := insertEntry location entry files.entries }

/-- The file system without the entry at a location. -/
def erase (files : FileSystem) (location : Location) : FileSystem :=
  { files with entries := files.entries.filter (·.1 != location) }

theorem get?_above_start {files : FileSystem} {location : Location} (h : location <+: files.start) :
    files.get? location = some .directory :=
  if_pos (List.isPrefixOf_iff_prefix.2 h)

@[simp] theorem get?_start (files : FileSystem) : files.get? files.start = some .directory :=
  get?_above_start (List.prefix_refl _)

@[simp] theorem get?_nil (files : FileSystem) : files.get? [] = some .directory :=
  get?_above_start (List.nil_prefix)

theorem get?_eq_lookup {files : FileSystem} {location : Location} (h : ¬ location <+: files.start) :
    files.get? location = files.entries.lookup location :=
  if_neg fun hprefix => h (List.isPrefixOf_iff_prefix.1 hprefix)

/-- What is no directory is not on the way to the working directory. -/
theorem not_prefix_start {files : FileSystem} {location : Location}
    (h : files.get? location ≠ some .directory) : ¬ location <+: files.start :=
  fun hprefix => h (get?_above_start hprefix)

theorem lookup_pair (location other : Location) (entry : Entry)
    (entries : List (Location × Entry)) :
    ((location, entry) :: entries).lookup other =
      if other = location then some entry else entries.lookup other := by
  by_cases h : other = location
  · simp [h]
  · rw [List.lookup_cons, beq_eq_false_iff_ne.2 h, if_neg h]

theorem lookup_insertEntry (location other : Location) (entry : Entry)
    (entries : List (Location × Entry)) :
    (insertEntry location entry entries).lookup other =
      if other = location then some entry else entries.lookup other := by
  induction entries with
  | nil => exact lookup_pair location other entry []
  | cons head rest ih =>
    obtain ⟨place, held⟩ := head
    rw [insertEntry]
    split
    · rename_i h
      cases h
      simp only [lookup_pair]
      split <;> rfl
    · rename_i hplace
      simp only [lookup_pair, ih]
      by_cases h : other = place
      · rw [if_pos h, if_pos h, if_neg fun hother => hplace (h.symm.trans hother)]
      · rw [if_neg h, if_neg h]

/-- An entry that is put at a location is the only one that changes. -/
theorem get?_insert {files : FileSystem} {location other : Location} {entry : Entry}
    (h : ¬ location <+: files.start) :
    (files.insert location entry).get? other =
      if other = location then some entry else files.get? other := by
  have hstart : (files.insert location entry).start = files.start := rfl
  by_cases hother : other <+: files.start
  · have hne : other ≠ location := fun heq => h (heq ▸ hother)
    rw [if_neg hne, get?_above_start hother, get?_above_start (hstart ▸ hother)]
  · rw [get?_eq_lookup hother, get?_eq_lookup (hstart ▸ hother)]
    exact lookup_insertEntry ..

/-! ## Resolving paths -/

/-- A step on the way along a path. -/
inductive Step where
  /-- A slash at the start of an absolute path. -/
  | top
  /-- A single dot. -/
  | stay
  /-- Two dots. -/
  | up
  | name (name : Name)
  deriving DecidableEq

/-- The step that a part of a path stands for; nothing for an empty part. -/
def stepOf? (part : Name) : Option Step :=
  match part with
  | .text "" => none
  | .text "." => some .stay
  | .text ".." => some .up
  | name => some (.name name)

/-- The steps of a path that is given by its characters or its bytes.  A slash at the end asks for a
directory. -/
def stepsIn [DecidableEq α] (slash nul : α) (nameOf : List α → Name) (path : List α) :
    Except FileError (List Step) :=
  if path.contains nul then .error .invalidPath
  else if path.isEmpty then .error .notFound
  else
    let first := if path.head? = some slash then [.top] else []
    let last := if path.getLast? = some slash then [.stay] else []
    .ok (first ++ (Text.splitList slash path).filterMap (fun part => stepOf? (nameOf part)) ++ last)

/-- The steps of a path. -/
def stepsOf : RawText → Except FileError (List Step)
  | .text path => stepsIn '/' '\x00' (fun part => .text (String.ofList part)) path.toList
  | .binary path _ => stepsIn Text.slash 0 .ofBytes path

/-- What is found at the end of a path. -/
inductive Place where
  | found (location : Location) (entry : Entry)
  /-- A directory without an entry of the last name. -/
  | vacant (location : Location)
  deriving DecidableEq

/-- Goes along some steps from a directory.  Links are followed, at most `links` of them; a link at
the end is followed if `followLast` says so. -/
def follow (files : FileSystem) (followLast : Bool) (links : Nat) (here : Location) :
    List Step → Except FileError Place
  | [] =>
    match files.get? here with
    | some entry => .ok (.found here entry)
    | none => .error .notFound
  | step :: rest =>
    if files.get? here ≠ some .directory then .error .notDirectory
    else
      match step with
      | .top => follow files followLast links [] rest
      | .stay => follow files followLast links here rest
      | .up => follow files followLast links here.dropLast rest
      | .name name =>
        match files.get? (here ++ [name]) with
        | none => if rest.isEmpty then .ok (.vacant (here ++ [name])) else .error .notFound
        | some (.link target) =>
          if rest.isEmpty && !followLast then .ok (.found (here ++ [name]) (.link target))
          else
            match links, stepsOf target with
            | 0, _ => .error .tooManyLinks
            | _, .error error => .error error
            | links + 1, .ok steps => follow files followLast links here (steps ++ rest)
        | some _ => follow files followLast links (here ++ [name]) rest
termination_by steps => (links, steps.length)

/-- How many links are followed along one path. -/
def maxLinks : Nat := 40

/-- What a path leads to, from a directory. -/
def resolveFrom (files : FileSystem) (here : Location) (path : RawText) (followLast : Bool) :
    Except FileError Place := do
  files.follow followLast maxLinks here (← stepsOf path)

/-- What a path leads to. -/
def resolve (files : FileSystem) (path : String) (followLast : Bool := true) :
    Except FileError Place :=
  files.resolveFrom files.start path followLast

/-! ## Operations -/

/-- Whether a path leads to something. -/
def pathExists (files : FileSystem) (path : String) : Bool :=
  match files.resolve path with
  | .ok (.found ..) => true
  | _ => false

/-- The directory that a path leads to. -/
def directoryAt? (files : FileSystem) (path : String) : Option Location :=
  match files.resolve path with
  | .ok (.found location .directory) => some location
  | _ => none

/-- The text of what a path led to. -/
def Place.text : Place → Except FileError String
  | .found _ (.file (.text text)) => .ok text
  | .found _ (.file (.binary ..)) => .error .notText
  | .found _ .directory => .error .isDirectory
  | .found _ (.link _) | .vacant _ => .error .notFound

/-- The text of the file that a path leads to. -/
def read (files : FileSystem) (path : String) : Except FileError String :=
  files.resolve path >>= Place.text

/-- Makes a file where there is nothing.  That the file is opened and that it is written is one
step: either both happen or neither. -/
def create (files : FileSystem) (path : String) (content : Content) :
    Except FileError FileSystem := do
  match ← files.resolve path false with
  | .found .. => .error .exists
  | .vacant location => .ok (files.insert location (.file content))

/-- Makes a file, or replaces the content of the one that is there.  As in `create`, the opening,
which empties the file, and the writing are one step. -/
def overwrite (files : FileSystem) (path : String) (content : Content) :
    Except FileError FileSystem := do
  match ← files.resolve path with
  | .found location (.file _) => .ok (files.insert location (.file content))
  | .found _ .directory => .error .isDirectory
  | .found _ (.link _) => .error .notFound
  | .vacant location => .ok (files.insert location (.file content))

/-- Removes a file or a link. -/
def remove (files : FileSystem) (path : String) : Except FileError FileSystem := do
  match ← files.resolve path false with
  | .found _ .directory => .error .isDirectory
  | .found location _ => .ok (files.erase location)
  | .vacant _ => .error .notFound

/-- Makes the directory at the end of some steps. -/
def makeDirectory (files : FileSystem) (steps : List Step) : Except FileError FileSystem := do
  match ← files.follow true maxLinks files.start steps with
  | .found _ .directory => .ok files
  | .found .. => .error .exists
  | .vacant location => .ok (files.insert location .directory)

/-- Makes every directory on the way along some steps. -/
def makeDirectories (files : FileSystem) (steps : List Step) : Except FileError FileSystem :=
  (List.range steps.length).foldlM
    (fun files count => files.makeDirectory (steps.take (count + 1))) files

/-- Makes an entry and the directories on the way to it.  A file replaces the content of one that is
there. -/
def put (files : FileSystem) (path : String) (entry : Entry) : Except FileError FileSystem := do
  let steps ← stepsOf path
  match entry with
  | .directory => files.makeDirectories steps
  | .file content => (← files.makeDirectories steps.dropLast).overwrite path content
  | .link _ =>
    let files ← files.makeDirectories steps.dropLast
    match ← files.resolve path false with
    | .found .. => .error .exists
    | .vacant location => .ok (files.insert location entry)

/-! ## Listings -/

/-- The locations of all entries, and those on the way to the working directory. -/
def locations (files : FileSystem) : List Location :=
  (List.range (files.start.length + 1)).map files.start.take ++ files.entries.map Prod.fst

/-- The name of an entry of a directory. -/
def nameIn? (directory location : Location) : Option Name :=
  if location.dropLast = directory then location.getLast? else none

/-- The names of the entries of a directory, in increasing order of their bytes. -/
def names (files : FileSystem) (directory : Location) : List Name :=
  (files.locations.filterMap (nameIn? directory)).eraseDups.mergeSort fun first second =>
    first.bytes ≤ second.bytes

end FileSystem

end InterfaceStub
