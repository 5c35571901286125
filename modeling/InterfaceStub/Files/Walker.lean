import InterfaceStub.Files.FileSystem

/-!
# Walkers

A `Walker` lists what is below a directory.  It filters what it finds by rules of its own, and by
a test that it is given.  A root that is a dash stands for standard input.
-/

namespace InterfaceStub

/-- Why a walk fails, in words. -/
structure WalkError where
  message : String
  deriving DecidableEq, Repr

/-- What an entry is to a walk. -/
inductive EntryKind where
  | file
  | directory
  | other
  deriving DecidableEq, Repr

/-- An entry that a walk comes to. -/
structure WalkEntry where
  /-- The names on the way to it from the root of the walk, which has none. -/
  place : Location
  kind : EntryKind
  deriving DecidableEq

/-- What a walker is asked for. -/
structure WalkOptions where
  /-- Whether links are followed. -/
  followLinks : Bool
  /-- Whether an entry is taken.  What is below a directory that is not is not read. -/
  accepts : WalkEntry → Bool

/-- Whether a root stands for standard input: a dash, with nothing but idle steps after it. -/
def Walk.isStandardInput (root : String) : Bool :=
  match Text.split '/' root with
  | "-" :: rest => rest.all fun part => part = "" || part = "."
  | _ => false

/-- Lists what is below the directory that a path leads to, with the errors on the way. -/
abbrev Walker := FileSystem → WalkOptions → String → List (Except WalkError WalkEntry)

end InterfaceStub
