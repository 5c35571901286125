import InterfaceStub.Proofs.ByteOrder
import InterfaceStub.Proofs.RequiredLines
import Mathlib.Data.List.TakeWhile

/-!
# Required names are imported once

A required name is taken apart at its last dot, dealt out to the group of its module and left out
where the module imports it itself.

* `lastSegment?_eq_some_iff` says what is taken apart, and `child_lt_child_iff` that the names of
  one module are in the order of their last parts.
* `OrderedGroups` is the invariant of the groups.  `ordered_addToGroup` is the step that keeps it:
  the name that is added comes after the names that its group has.
* `ModuleStub.ImportsPlain` says in full when a module imports a name itself.  `CoversExactly` is
  what is promised of the groups that are written, and `written_coversExactly` is the result.
* A group is an import like any other (`ImportFrom.ofGroup`).  `render_absorbing` says that a module
  with these imports is written as the one without them.
-/

namespace InterfaceStub

/-! ## Dotted names -/

namespace DottedName

theorem ne_dot_of_not_mem {text : String} (h : '.' ∉ text.toList) :
    ∀ char ∈ text.toList.reverse, (char != '.') = true := by
  intro char hchar
  have hne : char ≠ '.' := fun heq => h (heq ▸ List.mem_reverse.1 hchar)
  simpa using hne

theorem lastSegment?_child {path name : String} (h : '.' ∉ name.toList) :
    lastSegment? (child path name) = some (path, name) := by
  have hreverse : (child path name).toList.reverse =
      name.toList.reverse ++ '.' :: path.toList.reverse := by simp [child]
  have hlast : (name.toList.reverse ++ '.' :: path.toList.reverse).takeWhile (· != '.') =
      name.toList.reverse := by
    rw [List.takeWhile_append_of_pos (ne_dot_of_not_mem h)]
    simp
  simp only [lastSegment?, hreverse, hlast, List.drop_left, List.reverse_reverse,
    String.ofList_toList]

theorem lastSegment?_eq_none {full : String} (h : '.' ∉ full.toList) :
    lastSegment? full = none := by
  have hlast : full.toList.reverse.takeWhile (· != '.') = full.toList.reverse :=
    List.takeWhile_eq_self_iff.2 (ne_dot_of_not_mem h)
  simp only [lastSegment?, hlast, List.drop_length]

/-- A name with a dot has a last one. -/
theorem exists_eq_child {full : String} (h : '.' ∈ full.toList) :
    ∃ path name, full = child path name ∧ '.' ∉ name.toList := by
  obtain ⟨name, path, hreverse, hname⟩ := List.eq_append_cons_of_mem (List.mem_reverse.2 h)
  refine ⟨String.ofList path.reverse, String.ofList name.reverse, ?_, by simpa using hname⟩
  apply String.toList_inj.1
  rw [← List.reverse_inj, hreverse]
  simp [child]

/-- A name is taken apart at its last dot. -/
theorem lastSegment?_eq_some_iff {full path name : String} :
    lastSegment? full = some (path, name) ↔ full = child path name ∧ '.' ∉ name.toList := by
  constructor
  · intro h
    by_cases hdot : '.' ∈ full.toList
    · obtain ⟨before, last, rfl, hlast⟩ := exists_eq_child hdot
      rw [lastSegment?_child hlast] at h
      cases h
      exact ⟨rfl, hlast⟩
    · rw [lastSegment?_eq_none hdot] at h
      cases h
  · rintro ⟨rfl, hname⟩
    exact lastSegment?_child hname

theorem append_lt_append_iff {front first second : List Char} :
    front ++ first < front ++ second ↔ first < second := by
  induction front with
  | nil => rfl
  | cons char front ih => simp [ih]

/-- The members of one module are in the order of their own names. -/
theorem child_lt_child_iff {path first second : String} :
    child path first < child path second ↔ first < second := by
  simp only [child, String.lt_iff, String.toList_append, append_lt_append_iff]

end DottedName

open DottedName

/-! ## The order of the groups -/

/-- Groups in increasing order, each with its names in increasing order. -/
structure OrderedGroups (groups : List (String × List String)) : Prop where
  paths : groups.Pairwise fun first second => first.1 < second.1
  names : ∀ group ∈ groups, group.2.Pairwise (· < ·)

theorem OrderedGroups.tail {group : String × List String} {groups : List (String × List String)}
    (h : OrderedGroups (group :: groups)) : OrderedGroups groups :=
  ⟨(List.pairwise_cons.1 h.paths).2, fun other hother => h.names other (.tail _ hother)⟩

/-- A group in front of others that come after it. -/
theorem OrderedGroups.cons {path : String} {names : List String}
    {groups : List (String × List String)} (h : OrderedGroups groups)
    (hpath : ∀ group ∈ groups, path < group.1) (hnames : names.Pairwise (· < ·)) :
    OrderedGroups ((path, names) :: groups) :=
  ⟨List.pairwise_cons.2 ⟨hpath, h.paths⟩, List.forall_mem_cons.2 ⟨hnames, h.names⟩⟩

/-- The group of a module is the only one. -/
theorem OrderedGroups.filter_eq {groups : List (String × List String)} (h : OrderedGroups groups)
    {path : String} {names : List String} (hmem : (path, names) ∈ groups) :
    groups.filter (·.1 == path) = [(path, names)] := by
  have hother {group : String × List String} (hlt : group.1 < path ∨ path < group.1) :
      (group.1 == path) = false := by
    have hne : group.1 ≠ path := by
      rintro heq
      rw [heq] at hlt
      exact hlt.elim (String.lt_irrefl _) (String.lt_irrefl _)
    simpa using hne
  induction groups with
  | nil => cases hmem
  | cons group groups ih =>
    obtain ⟨hlater, -⟩ := List.pairwise_cons.1 h.paths
    rcases List.mem_cons.1 hmem with rfl | hmem
    · have hnone : groups.filter (·.1 == path) = [] := by
        apply List.filter_eq_nil_iff.2
        intro later hmem
        simp [hother (.inr (hlater later hmem))]
      rw [List.filter_cons_of_pos (by simp), hnone]
    · have hfirst : (group.1 == path) = false := hother (.inl (hlater _ hmem))
      rw [List.filter_cons_of_neg (by simp [hfirst]), ih h.tail hmem]

/-- A name is listed exactly when its module has one group, and the group has the name once. -/
theorem OrderedGroups.listed_iff {groups : List (String × List String)} (h : OrderedGroups groups)
    {path name : String} :
    Listed groups path name ↔
      ∃ names, groups.filter (·.1 == path) = [(path, names)] ∧ names.count name = 1 := by
  constructor
  · rintro ⟨names, hnames, hname⟩
    have hnodup : names.Nodup := by
      refine (h.names _ hnames).imp ?_
      rintro first second hlt rfl
      exact String.lt_irrefl _ hlt
    exact ⟨names, h.filter_eq hnames, List.count_eq_one_of_mem hnodup hname⟩
  · rintro ⟨names, hfilter, hcount⟩
    have hmem : (path, names) ∈ groups.filter (·.1 == path) := by
      rw [hfilter]
      exact List.mem_singleton.2 rfl
    exact ⟨names, (List.mem_filter.1 hmem).1, List.count_pos_iff.1 (by omega)⟩

namespace RequiredImports

theorem mem_paths_addToGroup {path name : String} {groups : List (String × List String)}
    {group : String × List String} (h : group ∈ addToGroup path name groups) :
    group.1 = path ∨ ∃ other ∈ groups, group.1 = other.1 := by
  induction groups with
  | nil => exact .inl (by rw [List.mem_singleton.1 h])
  | cons head groups ih =>
    obtain ⟨own, names⟩ := head
    unfold addToGroup at h
    split at h
    · rcases List.mem_cons.1 h with rfl | h
      · exact .inl rfl
      · exact .inr ⟨group, h, rfl⟩
    · split at h
      · rcases List.mem_cons.1 h with rfl | h
        · exact .inr ⟨_, .head _, rfl⟩
        · exact .inr ⟨group, .tail _ h, rfl⟩
      · rcases List.mem_cons.1 h with rfl | h
        · exact .inr ⟨_, .head _, rfl⟩
        · rcases ih h with heq | ⟨other, hother, heq⟩
          · exact .inl heq
          · exact .inr ⟨other, .tail _ hother, heq⟩

/-- A name that comes after those of its group keeps the groups in order. -/
theorem ordered_addToGroup {path name : String} {groups : List (String × List String)}
    (h : OrderedGroups groups) (hname : ∀ other, Listed groups path other → other < name) :
    OrderedGroups (addToGroup path name groups) := by
  induction groups with
  | nil => exact h.cons (by simp) (List.pairwise_singleton _ _)
  | cons head groups ih =>
    obtain ⟨own, names⟩ := head
    obtain ⟨hlater, -⟩ := List.pairwise_cons.1 h.paths
    have hnames := h.names _ (.head _)
    unfold addToGroup
    split
    · rename_i hlt
      refine h.cons ?_ (List.pairwise_singleton _ _)
      intro group hgroup
      rcases List.mem_cons.1 hgroup with rfl | hgroup
      · exact hlt
      · exact String.lt_trans hlt (hlater group hgroup)
    · split
      · rename_i hsame
        refine h.tail.cons hlater (List.pairwise_append.2 ⟨hnames, List.pairwise_singleton _ _, ?_⟩)
        intro other hother last hlast
        rw [List.mem_singleton.1 hlast]
        exact hname other (listed_cons.2 (.inl ⟨hsame, hother⟩))
      · rename_i hnlt hne
        have hafter : own < path := Decidable.byContradiction fun hnlt' =>
          hne (String.le_antisymm (String.not_lt.1 hnlt') (String.not_lt.1 hnlt))
        refine (ih h.tail ?_).cons ?_ hnames
        · intro other hother
          exact hname other (listed_cons.2 (.inr hother))
        · intro group hgroup
          rcases mem_paths_addToGroup hgroup with heq | ⟨other, hother, heq⟩
          · rw [heq]
            exact hafter
          · rw [heq]
            exact hlater other hother

/-- Names in increasing order, dealt out one after the other, give groups in increasing order. -/
theorem ordered_foldl_addToGroup {members : List (String × String)}
    (hmembers : members.Pairwise fun first second => first.1 = second.1 → first.2 < second.2)
    {groups : List (String × List String)} (h : OrderedGroups groups)
    (hafter : ∀ member ∈ members, ∀ other, Listed groups member.1 other → other < member.2) :
    OrderedGroups (members.foldl (fun groups name => addToGroup name.1 name.2 groups) groups) := by
  induction members generalizing groups with
  | nil => exact h
  | cons member members ih =>
    obtain ⟨hlater, hrest⟩ := List.pairwise_cons.1 hmembers
    refine ih hrest (ordered_addToGroup h (hafter _ (.head _))) ?_
    intro next hnext other hother
    rcases listed_addToGroup.1 hother with ⟨hpath, rfl⟩ | hother
    · exact hlater next hnext hpath.symm
    · exact hafter next (.tail _ hnext) other hother

theorem ordered_groups (required : RequiredImports) : OrderedGroups required.groups := by
  refine ordered_foldl_addToGroup ?_ ⟨List.Pairwise.nil, by simp⟩ (by simp)
  refine required.sorted.filterMap _ ?_
  rintro first second hlt ⟨path, name⟩ hfirst ⟨other, last⟩ hsecond hpath
  obtain ⟨rfl, -⟩ := lastSegment?_eq_some_iff.1 hfirst
  obtain ⟨rfl, -⟩ := lastSegment?_eq_some_iff.1 hsecond
  cases hpath
  exact child_lt_child_iff.1 hlt

theorem ordered_missingFrom (required : RequiredImports) (stub : ModuleStub) :
    OrderedGroups (required.missingFrom stub) where
  paths := by
    refine required.ordered_groups.paths.filterMap _ ?_
    intro first second hlt left hleft right hright
    -- A group that is left keeps its module.
    split at hleft
    · cases hleft
    · split at hright
      · cases hright
      · cases hleft
        cases hright
        exact hlt
  names := by
    rintro ⟨path, names⟩ hgroup
    obtain ⟨-, own, hown, rfl⟩ := mem_missingFrom_iff.1 hgroup
    exact (required.ordered_groups.names _ hown).filter _

end RequiredImports

/-! ## What is covered -/

/-- A statement of the module imports the name, or all names, of the module `path` as they are. -/
def ModuleStub.ImportsPlain (stub : ModuleStub) (path name : String) : Prop :=
  ∃ statement ∈ stub.importFroms, statement.level = 0 ∧ statement.path = path ∧
    ∃ imported ∈ statement.names,
      (imported.name = name ∨ imported.name = "*") ∧ imported.localName = none

theorem ImportFrom.bindsPlain_iff {statement : ImportFrom} {name : String} :
    statement.bindsPlain name = true ↔
      ∃ imported ∈ statement.names, imported.name = name ∧ imported.localName = none := by
  simp [bindsPlain]

theorem ModuleStub.importsFrom_iff {stub : ModuleStub} {path name : String} :
    stub.importsFrom path name = true ↔ stub.ImportsPlain path name := by
  simp only [importsFrom, ImportsPlain, ImportFrom.isRelative, List.any_eq_true, Bool.and_eq_true,
    Bool.or_eq_true, ImportFrom.bindsPlain_iff, Bool.not_eq_true', bne_eq_false_iff_eq, beq_iff_eq,
    or_and_right, and_or_left, exists_or, and_assoc]

/-- The groups import what is required and not imported by the module, and nothing else. -/
structure CoversExactly (required : RequiredImports) (stub : ModuleStub)
    (groups : List (String × List String)) : Prop where
  /-- A name with a dot is imported by the module, or by one group alone and there once. -/
  covered (path name : String) : child path name ∈ required.names → '.' ∉ name.toList →
    Xor (stub.ImportsPlain path name)
      (∃ names, groups.filter (·.1 == path) = [(path, names)] ∧ names.count name = 1)
  /-- The names of a group are last parts of required names. -/
  required : ∀ group ∈ groups, ∀ name ∈ group.2,
    child group.1 name ∈ required.names ∧ '.' ∉ name.toList
  nonempty : ∀ group ∈ groups, group.2 ≠ []
  paths : groups.Pairwise fun first second => Text.bytes first.1 < Text.bytes second.1
  names : ∀ group ∈ groups,
    group.2.Pairwise fun first second => Text.bytes first < Text.bytes second

namespace RequiredImports

theorem listed_groups_iff {required : RequiredImports} {path name : String} :
    Listed required.groups path name ↔ child path name ∈ required.names ∧ '.' ∉ name.toList := by
  simp only [listed_groups, lastSegment?_eq_some_iff]
  constructor
  · rintro ⟨full, hfull, rfl, hname⟩
    exact ⟨hfull, hname⟩
  · rintro ⟨hfull, hname⟩
    exact ⟨_, hfull, rfl, hname⟩

end RequiredImports

/-- With the setting on, the lines that are written for required names import exactly those that the
module does not import itself. -/
theorem Extraction.written_coversExactly (extraction : Extraction) :
    extraction.render ⟨true⟩ =
      joinLines (extraction.stub.lines (extraction.written ⟨true⟩)) ∧
    CoversExactly extraction.required extraction.stub (extraction.written ⟨true⟩) := by
  have hordered : OrderedGroups (extraction.written ⟨true⟩) :=
    extraction.required.ordered_missingFrom extraction.stub
  have hwritten {path name : String} : Listed (extraction.written ⟨true⟩) path name ↔
      Listed extraction.required.groups path name ∧
        extraction.stub.importsFrom path name = false :=
    RequiredImports.listed_missingFrom
  refine ⟨extraction.render_eq_joinLines ⟨true⟩, ?_⟩
  constructor
  case covered =>
    intro path name hfull hname
    have hlisted : Listed extraction.required.groups path name :=
      RequiredImports.listed_groups_iff.2 ⟨hfull, hname⟩
    rw [← hordered.listed_iff, hwritten, xor_iff_iff_not, ← ModuleStub.importsFrom_iff]
    simp [hlisted]
  case required =>
    intro group hgroup name hname
    exact RequiredImports.listed_groups_iff.1 (hwritten.1 ⟨group.2, hgroup, hname⟩).1
  case nonempty =>
    intro group hgroup
    exact (RequiredImports.mem_missingFrom_iff.1 hgroup).1
  case paths => exact hordered.paths.imp Text.bytes_lt_bytes
  case names =>
    intro group hgroup
    exact (hordered.names group hgroup).imp Text.bytes_lt_bytes

/-! ## Groups as imports -/

/-- The import of the names of a group. -/
def ImportFrom.ofGroup (group : String × List String) : ImportFrom :=
  ⟨group.1, 0, group.2.map fun name => ⟨name, none⟩⟩

/-- The two ways of writing the names of a group agree. -/
theorem ImportFrom.line_ofGroup (group : String × List String) :
    (ofGroup group).line = requiredLine group := by
  have hnames : (group.2.map fun name => (⟨name, none⟩ : ImportedName)).map ImportedName.text =
      group.2 := by
    simp [ImportedName.text, localNameText, Function.comp_def]
  simp [line, ofGroup, dots, requiredLine, hnames]

namespace ModuleStub

/-- The module with imports for some groups after its own. -/
def absorbing (stub : ModuleStub) (groups : List (String × List String)) : ModuleStub :=
  { stub with importFroms := stub.importFroms ++ groups.map ImportFrom.ofGroup }

/-- The lines of the groups are written whether they stand beside the module or in it. -/
theorem lines_absorbing (stub : ModuleStub) (groups : List (String × List String)) :
    (stub.absorbing groups).lines [] = stub.lines groups := by
  have himports : (stub.absorbing groups).importLines [] = stub.importLines groups := by
    simp [importLines, absorbing, Function.comp_def, ImportFrom.line_ofGroup]
  have hanything : (stub.absorbing groups).importsAnything =
      (stub.importsAnything || !groups.isEmpty) := by
    cases groups <;> simp [importsAnything, absorbing]
  rw [lines, lines, himports, hanything, List.isEmpty_nil, Bool.not_true, Bool.or_false]
  rfl

/-- A module with imports for some groups imports what it did and what the groups list. -/
theorem importsPlain_absorbing {stub : ModuleStub} {groups : List (String × List String)}
    {path name : String} (h : stub.ImportsPlain path name ∨ Listed groups path name) :
    (stub.absorbing groups).ImportsPlain path name := by
  rcases h with ⟨statement, hstatement, himports⟩ | ⟨names, hnames, hname⟩
  · exact ⟨statement, List.mem_append_left _ hstatement, himports⟩
  · refine ⟨.ofGroup (path, names), List.mem_append_right _ (List.mem_map_of_mem hnames), rfl, rfl,
      ⟨name, none⟩, List.mem_map_of_mem hname, .inl rfl, rfl⟩

end ModuleStub

/-- A module that imports what it lacks lacks nothing. -/
theorem RequiredImports.missingFrom_absorbing (required : RequiredImports) (stub : ModuleStub) :
    required.missingFrom (stub.absorbing (required.missingFrom stub)) = [] := by
  apply List.eq_nil_iff_forall_not_mem.2
  rintro ⟨path, names⟩ hgroup
  obtain ⟨name, hname⟩ := List.exists_mem_of_ne_nil names (mem_missingFrom_iff.1 hgroup).1
  obtain ⟨hlisted, hmissing⟩ := listed_missingFrom.1 ⟨names, hgroup, hname⟩
  have himports : (stub.absorbing (required.missingFrom stub)).importsFrom path name = true := by
    apply ModuleStub.importsFrom_iff.2
    apply ModuleStub.importsPlain_absorbing
    by_cases hown : stub.importsFrom path name = true
    · exact .inl (ModuleStub.importsFrom_iff.1 hown)
    · exact .inr (listed_missingFrom.2 ⟨hlisted, by simpa using hown⟩)
  rw [hmissing] at himports
  cases himports

theorem ModuleStub.importLines_nil_of_not_importsAnything {stub : ModuleStub}
    (h : stub.importsAnything = false) : stub.importLines [] = [] := by
  simp only [importsAnything, Bool.or_eq_false_iff, Bool.not_eq_false', List.isEmpty_iff] at h
  simp [importLines, h]

/-- The lines of groups are put between the imports of a module and the rest, with an empty line
after them if the module has no imports of its own. -/
theorem ModuleStub.lines_eq_insert (stub : ModuleStub) (groups : List (String × List String)) :
    ∃ blank rest, (blank = [] ∨ stub.importLines [] = [] ∧ blank = [""]) ∧
      stub.lines [] = stub.importLines [] ++ rest ∧
      stub.lines groups = stub.importLines [] ++ groups.map requiredLine ++ blank ++ rest := by
  have himports : stub.importLines groups = stub.importLines [] ++ groups.map requiredLine := by
    simp [importLines]
  cases hanything : stub.importsAnything with
  | true =>
    refine ⟨[], (if !stub.content.isEmpty then [""] else []) ++
      stub.content.flatMap Declaration.lines, .inl rfl, ?_, ?_⟩
    · simp [lines, hanything]
    · simp [lines, hanything, himports]
  | false =>
    have hnil := importLines_nil_of_not_importsAnything hanything
    refine ⟨if !groups.isEmpty && !stub.content.isEmpty then [""] else [],
      stub.content.flatMap Declaration.lines, ?_, ?_, ?_⟩
    · split
      · exact .inr ⟨hnil, rfl⟩
      · exact .inl rfl
    · simp [lines, hanything]
    · simp [lines, hanything, himports]

/-- The lines for required names can be taken into the module: then none are left to be written, and
the text is the same, also with the setting off.  Without them, every other line is as it was. -/
theorem Extraction.render_absorbing (extraction : Extraction) :
    let groups := extraction.written ⟨true⟩
    let absorbed := { extraction with stub := extraction.stub.absorbing groups }
    absorbed.written ⟨true⟩ = [] ∧
    absorbed.render ⟨true⟩ = extraction.render ⟨true⟩ ∧
    absorbed.render ⟨false⟩ = extraction.render ⟨true⟩ ∧
    ∃ blank rest, (blank = [] ∨ extraction.stub.importLines [] = [] ∧ blank = [""]) ∧
      extraction.render ⟨false⟩ = joinLines (extraction.stub.importLines [] ++ rest) ∧
      extraction.render ⟨true⟩ = joinLines
        (extraction.stub.importLines [] ++ groups.map requiredLine ++ blank ++ rest) := by
  intro groups absorbed
  have hwritten : absorbed.written ⟨true⟩ = [] :=
    extraction.required.missingFrom_absorbing extraction.stub
  have hlines : absorbed.stub.lines [] = extraction.lines ⟨true⟩ :=
    extraction.stub.lines_absorbing groups
  refine ⟨hwritten, ?_, ?_, ?_⟩
  · rw [render_eq_joinLines, render_eq_joinLines, lines, hwritten, hlines]
  · rw [render_eq_joinLines, render_eq_joinLines, ← hlines]
    rfl
  · obtain ⟨blank, rest, hblank, hoff, hon⟩ := extraction.stub.lines_eq_insert groups
    refine ⟨blank, rest, hblank, ?_, ?_⟩
    · rw [render_eq_joinLines, ← hoff]
      rfl
    · rw [render_eq_joinLines, ← hon]
      rfl

end InterfaceStub
