import InterfaceStub.Files.FileSystem
import InterfaceStub.Settings.Codec

/-!
# Settings files

The settings that a file holds.
-/

namespace InterfaceStub

/-- The settings that the file at a path holds. -/
def Settings.load (files : FileSystem) (path : String) : Except SettingsError Settings :=
  match files.read path with
  | .ok text => Settings.ofText text
  | .error error => .error (.unreadable error.message)

end InterfaceStub
