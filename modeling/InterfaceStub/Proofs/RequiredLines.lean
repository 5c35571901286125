import InterfaceStub.Conversion.Basic
import InterfaceStub.Proofs.StubLines

/-!
# Lines for required names

Required names are dealt out to groups, one for each module, and a module that imports some of them
itself takes these out again.  `Listed` is the view through which the groups are seen: which name
stands in the group of which module.  With it every operation on groups has one equation, and
`listed_missingFrom` says what is written: the required names that the module does not import.

`Extraction.written` are the groups that are written under given settings.  What is extracted from a
source requires names of `typing` alone (`path_of_mem_written`).
-/

namespace InterfaceStub

open DottedName

/-- The name stands in a group of the module `path`. -/
def Listed (groups : List (String × List String)) (path name : String) : Prop :=
  ∃ names, (path, names) ∈ groups ∧ name ∈ names

@[simp] theorem not_listed_nil (path name : String) : ¬Listed [] path name := by
  rintro ⟨names, hnames, -⟩
  cases hnames

theorem listed_cons {head : String} {names : List String} {groups : List (String × List String)}
    {path name : String} :
    Listed ((head, names) :: groups) path name ↔
      (path = head ∧ name ∈ names) ∨ Listed groups path name := by
  constructor
  · rintro ⟨own, hown, hname⟩
    rcases List.mem_cons.1 hown with heq | hown
    · cases heq
      exact .inl ⟨rfl, hname⟩
    · exact .inr ⟨own, hown, hname⟩
  · rintro (⟨rfl, hname⟩ | ⟨own, hown, hname⟩)
    · exact ⟨names, List.mem_cons_self, hname⟩
    · exact ⟨own, List.mem_cons_of_mem _ hown, hname⟩

namespace RequiredImports

theorem listed_addToGroup {path name : String} {groups : List (String × List String)}
    {other member : String} :
    Listed (addToGroup path name groups) other member ↔
      (other = path ∧ member = name) ∨ Listed groups other member := by
  induction groups with
  | nil => simp [addToGroup, listed_cons]
  | cons group groups ih =>
    obtain ⟨head, names⟩ := group
    unfold addToGroup
    split
    · rw [listed_cons, List.mem_singleton]
    · split
      · rename_i hsame
        simp only [listed_cons, List.mem_append, List.mem_singleton, hsame]
        grind
      · simp only [listed_cons, ih]
        exact or_left_comm

theorem listed_foldl_addToGroup {members : List (String × String)}
    {groups : List (String × List String)} {path name : String} :
    Listed (members.foldl (fun groups name => addToGroup name.1 name.2 groups) groups) path name ↔
      (path, name) ∈ members ∨ Listed groups path name := by
  induction members generalizing groups with
  | nil => simp
  | cons member members ih =>
    rw [List.foldl_cons, ih, listed_addToGroup, List.mem_cons, Prod.ext_iff, ← or_assoc,
      or_comm (a := _ ∈ members)]

/-- The groups hold the parts of the names that have a dot. -/
theorem listed_groups {required : RequiredImports} {path name : String} :
    Listed required.groups path name ↔
      ∃ full ∈ required.names, lastSegment? full = some (path, name) := by
  rw [groups, listed_foldl_addToGroup]
  simp

theorem mem_missingFrom_iff {required : RequiredImports} {stub : ModuleStub} {path : String}
    {names : List String} :
    (path, names) ∈ required.missingFrom stub ↔
      names ≠ [] ∧ ∃ own, (path, own) ∈ required.groups ∧
        names = own.filter fun name => !stub.importsFrom path name := by
  rw [missingFrom, List.mem_filterMap]
  constructor
  · rintro ⟨⟨head, own⟩, hown, hnames⟩
    split at hnames
    · cases hnames
    · rename_i hne
      cases hnames
      exact ⟨hne, own, hown, rfl⟩
  · rintro ⟨hne, own, hown, rfl⟩
    refine ⟨(path, own), hown, ?_⟩
    split
    · contradiction
    · rfl

/-- What is written is what is required and not imported. -/
theorem listed_missingFrom {required : RequiredImports} {stub : ModuleStub} {path name : String} :
    Listed (required.missingFrom stub) path name ↔
      Listed required.groups path name ∧ stub.importsFrom path name = false := by
  constructor
  · rintro ⟨names, hnames, hname⟩
    obtain ⟨-, own, hown, rfl⟩ := mem_missingFrom_iff.1 hnames
    obtain ⟨hmem, hmissing⟩ := List.mem_filter.1 hname
    exact ⟨⟨own, hown, hmem⟩, by simpa using hmissing⟩
  · rintro ⟨⟨own, hown, hmem⟩, hmissing⟩
    have hname : name ∈ own.filter fun name => !stub.importsFrom path name :=
      List.mem_filter.2 ⟨hmem, by simp [hmissing]⟩
    exact ⟨_, mem_missingFrom_iff.2 ⟨List.ne_nil_of_mem hname, own, hown, rfl⟩, hname⟩

end RequiredImports

theorem TypingName.lastSegment?_qualified (name : TypingName) :
    lastSegment? name.qualified = some ("typing", name.spelling) := by
  cases name <;> decide +kernel

/-- A required name of `typing` is imported by the module itself or written on a line of its own
module. -/
theorem ModuleStub.importsFrom_or_listed {required : RequiredImports} (stub : ModuleStub)
    {name : TypingName} (h : name.qualified ∈ required.names) :
    stub.importsFrom "typing" name.spelling = true ∨
      Listed (required.missingFrom stub) "typing" name.spelling := by
  by_cases himports : stub.importsFrom "typing" name.spelling = true
  · exact .inl himports
  · right
    refine RequiredImports.listed_missingFrom.2 ⟨RequiredImports.listed_groups.2 ?_, ?_⟩
    · exact ⟨_, h, name.lastSegment?_qualified⟩
    · simpa using himports

theorem ModuleStub.requiredLine_mem_lines (stub : ModuleStub)
    {missing : List (String × List String)} {group : String × List String} (h : group ∈ missing) :
    requiredLine group ∈ stub.lines missing := by
  rw [lines, importLines]
  simp [List.mem_map_of_mem h]

/-! ## What is written under given settings -/

namespace Extraction

/-- The required names that are written, by their modules. -/
def written (extraction : Extraction) (generate : GenerateSettings) :
    List (String × List String) :=
  (if generate.emitRequiredImports then extraction.required else .empty).missingFrom
    extraction.stub

/-- The lines of an extracted stub. -/
def lines (extraction : Extraction) (generate : GenerateSettings) : List String :=
  extraction.stub.lines (extraction.written generate)

theorem render_eq_joinLines (extraction : Extraction) (generate : GenerateSettings) :
    extraction.render generate = joinLines (extraction.lines generate) :=
  ModuleStub.render_eq_joinLines _ _

variable {settings : ExtractSettings} {source : Syntax.Source} {root : Syntax.Node}
  {generate : GenerateSettings} {group : String × List String}

theorem exists_typing_of_mem_written
    (hgroup : group ∈ (extract settings source root).written generate) {name : String}
    (hname : name ∈ group.2) :
    group.1 = "typing" ∧ ∃ typing : TypingName, name = typing.spelling := by
  have hlisted := (RequiredImports.listed_missingFrom.1 ⟨group.2, hgroup, hname⟩).1
  obtain ⟨full, hfull, hsegment⟩ := RequiredImports.listed_groups.1 hlisted
  split at hfull
  · obtain ⟨typing, -, rfl⟩ := List.mem_map.1 (RequiredImports.mem_names_ofList.1 hfull)
    rw [typing.lastSegment?_qualified] at hsegment
    obtain ⟨hpath, hspelling⟩ := Prod.ext_iff.1 (Option.some.inj hsegment)
    exact ⟨hpath.symm, typing, hspelling.symm⟩
  · cases hfull

theorem path_of_mem_written (hgroup : group ∈ (extract settings source root).written generate) :
    group.1 = "typing" := by
  obtain ⟨hne, -⟩ := RequiredImports.mem_missingFrom_iff.1 hgroup
  obtain ⟨name, hname⟩ := List.exists_mem_of_ne_nil group.2 hne
  exact (exists_typing_of_mem_written hgroup hname).1

end Extraction

end InterfaceStub
