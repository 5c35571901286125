import InterfaceStub.Stub.Basic
import InterfaceStub.Stub.DottedName

/-!
# Required imports

An inferred annotation relies on names of the module `typing`.  `RequiredImports` is the set of
dotted names that a stub relies on; its members stand in increasing order, each once.  `missingFrom`
lists those that a module does not import itself, by the module they come from.
-/

namespace InterfaceStub

/-- The names of the module `typing` that inferred annotations are made of. -/
inductive TypingName where
  | any
  | optional
  | list
  | dict
  | set
  | tuple
  | classVar
  deriving DecidableEq, Repr

namespace TypingName

/-- The name itself. -/
def spelling : TypingName → String
  | .any => "Any"
  | .optional => "Optional"
  | .list => "List"
  | .dict => "Dict"
  | .set => "Set"
  | .tuple => "Tuple"
  | .classVar => "ClassVar"

/-- The name with its module. -/
def qualified (name : TypingName) : String :=
  DottedName.child "typing" name.spelling

end TypingName

/-- Puts a text into a list that is in increasing order, unless it is there. -/
def insertSorted (text : String) : List String → List String
  | [] => [text]
  | head :: tail =>
    if text < head then text :: head :: tail
    else if text = head then head :: tail
    else head :: insertSorted text tail

theorem mem_insertSorted {text other : String} {texts : List String} :
    other ∈ insertSorted text texts ↔ other = text ∨ other ∈ texts := by
  induction texts with
  | nil => simp [insertSorted]
  | cons head tail ih =>
    rw [insertSorted]
    split
    · simp
    · split
      · simp_all
      · simp only [List.mem_cons, ih]
        exact or_left_comm

theorem pairwise_insertSorted {text : String} {texts : List String}
    (h : texts.Pairwise (· < ·)) : (insertSorted text texts).Pairwise (· < ·) := by
  induction texts with
  | nil => simp [insertSorted]
  | cons head tail ih =>
    obtain ⟨hhead, htail⟩ := List.pairwise_cons.1 h
    rw [insertSorted]
    split
    · rename_i hlt
      refine List.pairwise_cons.2 ⟨fun other hother => ?_, h⟩
      rcases List.mem_cons.1 hother with rfl | hother
      · exact hlt
      · exact String.lt_trans hlt (hhead other hother)
    · split
      · exact h
      · rename_i hnlt hne
        refine List.pairwise_cons.2 ⟨fun other hother => ?_, ih htail⟩
        rcases mem_insertSorted.1 hother with rfl | hother
        · exact Decidable.byContradiction fun hnlt' =>
            hne (String.le_antisymm (String.not_lt.1 hnlt') (String.not_lt.1 hnlt))
        · exact hhead other hother

/-- A set of dotted names that a stub relies on. -/
structure RequiredImports where
  names : List String
  sorted : names.Pairwise (· < ·)
  deriving DecidableEq

namespace RequiredImports

/-- The set of no names. -/
def empty : RequiredImports :=
  ⟨[], List.Pairwise.nil⟩

/-- Adds a name. -/
def insert (required : RequiredImports) (name : String) : RequiredImports where
  names := insertSorted name required.names
  sorted := pairwise_insertSorted required.sorted

/-- The set of some names. -/
def ofList (names : List String) : RequiredImports :=
  names.foldl insert empty

/-- Whether a name is required. -/
def contains (required : RequiredImports) (name : String) : Bool :=
  required.names.contains name

/-- The number of names. -/
def size (required : RequiredImports) : Nat :=
  required.names.length

/-- Whether nothing is required. -/
def isEmpty (required : RequiredImports) : Bool :=
  required.names.isEmpty

/-- Adds a name at the end of the group of its module; the groups are in increasing order. -/
def addToGroup (path name : String) :
    List (String × List String) → List (String × List String)
  | [] => [(path, [name])]
  | (head, names) :: groups =>
    if path < head then (path, [name]) :: (head, names) :: groups
    else if path = head then (head, names ++ [name]) :: groups
    else (head, names) :: addToGroup path name groups

/-- The names by the module they belong to, modules and names in increasing order.  A name without a
dot belongs to none. -/
def groups (required : RequiredImports) : List (String × List String) :=
  (required.names.filterMap DottedName.lastSegment?).foldl
    (fun groups name => addToGroup name.1 name.2 groups) []

theorem mem_names_insert {required : RequiredImports} {name other : String} :
    other ∈ (required.insert name).names ↔ other = name ∨ other ∈ required.names :=
  mem_insertSorted

theorem mem_names_foldl_insert {names : List String} {required : RequiredImports}
    {other : String} :
    other ∈ (names.foldl insert required).names ↔ other ∈ names ∨ other ∈ required.names := by
  induction names generalizing required with
  | nil => simp
  | cons name names ih =>
    rw [List.foldl_cons, ih, mem_names_insert, List.mem_cons]
    exact ⟨by rintro (h | h | h) <;> simp [h], by rintro ((h | h) | h) <;> simp [h]⟩

@[simp] theorem mem_names_ofList {names : List String} {other : String} :
    other ∈ (ofList names).names ↔ other ∈ names := by
  simp [ofList, empty, mem_names_foldl_insert]

end RequiredImports

/-- Whether the module itself binds `name` of the module `path`. -/
def ModuleStub.importsFrom (stub : ModuleStub) (path name : String) : Bool :=
  stub.importFroms.any fun statement =>
    !statement.isRelative && statement.path == path &&
      (statement.bindsPlain name || statement.bindsPlain "*")

/-- The required names that the module does not import itself, by the module they belong to. -/
def RequiredImports.missingFrom (required : RequiredImports) (stub : ModuleStub) :
    List (String × List String) :=
  required.groups.filterMap fun group =>
    match group.2.filter fun name => !stub.importsFrom group.1 name with
    | [] => none
    | names => some (group.1, names)

end InterfaceStub
