/-!
# Dotted names

A dotted name such as `os.path` is plain text; its last segment is what follows the last dot.
-/

namespace InterfaceStub.DottedName

/-- The text before and after the last dot. -/
def lastSegment? (name : String) : Option (String × String) :=
  let reversed := name.toList.reverse
  let last := reversed.takeWhile (· != '.')
  match reversed.drop last.length with
  | [] => none
  | _ :: parent => some (String.ofList parent.reverse, String.ofList last.reverse)

/-- The name of a member of `parent`. -/
def child (parent member : String) : String :=
  parent ++ "." ++ member

end InterfaceStub.DottedName
