import InterfaceStub.Proofs.StubLines
import InterfaceStub.Text.Split
import Mathlib.Algebra.Ring.Nat

/-!
# The lines of a stub and the texts in them

A stub is written one line for each import, each decorator and each declaration.  The text shows
these lines as long as none of the texts that stand in them holds the end of a line.

* `split_joinLines_iff` says when a text, cut at the ends of its lines, gives back the lines it was
  made of.
* `nameTexts` and `typeTexts` are the texts of a stub: the names, with paths, bases and decorators,
  and the annotations, with what aliases stand for.  `ModuleStub.allOneLine_lines_iff` says that the
  lines are without the end of a line exactly when these texts are.
* `ModuleStub.lineCount` counts the lines without writing them.
-/

namespace InterfaceStub

/-! ## Cutting a text into lines -/

/-- A text without the end of a line. -/
def OneLine (text : String) : Prop :=
  '\n' ∉ text.toList

instance (text : String) : Decidable (OneLine text) :=
  inferInstanceAs (Decidable ('\n' ∉ text.toList))

/-- Texts without the end of a line. -/
def AllOneLine (texts : List String) : Prop :=
  ∀ text ∈ texts, OneLine text

@[simp] theorem oneLine_append {first second : String} :
    OneLine (first ++ second) ↔ OneLine first ∧ OneLine second := by
  simp [OneLine]

@[simp] theorem allOneLine_nil : AllOneLine [] := by
  intro text htext
  cases htext

@[simp] theorem allOneLine_cons {text : String} {texts : List String} :
    AllOneLine (text :: texts) ↔ OneLine text ∧ AllOneLine texts :=
  List.forall_mem_cons

@[simp] theorem allOneLine_append {first second : List String} :
    AllOneLine (first ++ second) ↔ AllOneLine first ∧ AllOneLine second :=
  List.forall_mem_append

theorem allOneLine_map {items : List α} {text : α → String} :
    AllOneLine (items.map text) ↔ ∀ item ∈ items, OneLine (text item) :=
  List.forall_mem_map

theorem allOneLine_flatMap {items : List α} {texts : α → List String} :
    AllOneLine (items.flatMap texts) ↔ ∀ item ∈ items, AllOneLine (texts item) :=
  List.forall_mem_flatMap

theorem allOneLine_filterMap {items : List α} {text? : α → Option String} :
    AllOneLine (items.filterMap text?) ↔ ∀ item ∈ items, AllOneLine (text? item).toList := by
  simp only [AllOneLine, List.forall_mem_filterMap, Option.mem_toList]

theorem oneLine_intercalate_iff {between : String} (hbetween : OneLine between)
    {texts : List String} : OneLine (between.intercalate texts) ↔ AllOneLine texts := by
  induction texts with
  | nil => simp [OneLine]
  | cons text texts ih =>
    cases texts with
    | nil => simp
    | cons next texts =>
      rw [String.intercalate_cons_cons, oneLine_append, oneLine_append, ih]
      simp [hbetween]

theorem Text.not_mem_of_mem_splitList [DecidableEq α] {separator : α} {as piece : List α}
    (h : piece ∈ splitList separator as) : separator ∉ piece := by
  induction as generalizing piece with
  | nil =>
    rw [List.mem_singleton.1 h]
    exact List.not_mem_nil
  | cons a as ih =>
    unfold splitList at h
    split at h
    · rcases List.mem_cons.1 h with rfl | h
      · exact List.not_mem_nil
      · exact ih h
    · rename_i hne
      split at h
      · rw [List.mem_singleton.1 h]
        simpa using Ne.symm hne
      · rename_i first pieces hpieces
        rw [hpieces] at ih
        rcases List.mem_cons.1 h with rfl | h
        · have hfirst := ih List.mem_cons_self
          simp [Ne.symm hne, hfirst]
        · exact ih (List.mem_cons_of_mem _ h)

/-- A text of lines, cut where lines end, shows the lines exactly when none of them has an end of a
line inside. -/
theorem split_joinLines_iff {lines : List String} :
    Text.split '\n' (joinLines lines) = lines ++ [""] ↔ AllOneLine lines := by
  constructor
  · intro h line hline
    have hmem : line ∈ Text.split '\n' (joinLines lines) := by
      rw [h]
      exact List.mem_append_left _ hline
    obtain ⟨piece, hpiece, rfl⟩ := List.mem_map.1 hmem
    rw [OneLine, String.toList_ofList]
    exact Text.not_mem_of_mem_splitList hpiece
  · intro h
    unfold Text.split
    induction lines with
    | nil => rfl
    | cons line lines ih =>
      obtain ⟨hline, hlines⟩ := allOneLine_cons.1 h
      have hchars : (joinLines (line :: lines)).toList =
          line.toList ++ '\n' :: (joinLines lines).toList := by simp
      rw [hchars, Text.splitList_append hline, List.map_cons, ih hlines, String.ofList_toList]
      rfl

/-! ## Imports -/

/-- The names of an import. -/
def Import.nameTexts (statement : Import) : List String :=
  statement.name :: statement.localName.toList

/-- The names of a name in a `from` import. -/
def ImportedName.nameTexts (imported : ImportedName) : List String :=
  imported.name :: imported.localName.toList

/-- The names of a `from` import, its path included. -/
def ImportFrom.nameTexts (statement : ImportFrom) : List String :=
  statement.path :: statement.names.flatMap ImportedName.nameTexts

theorem oneLine_localNameText_iff {localName : Option String} :
    OneLine (localNameText localName) ↔ AllOneLine localName.toList := by
  cases localName with
  | none => simp [localNameText, OneLine]
  | some name => simp [localNameText, OneLine]

theorem Import.oneLine_line_iff {statement : Import} :
    OneLine statement.line ↔ AllOneLine statement.nameTexts := by
  have hkeyword : OneLine "import " := by simp [OneLine]
  simp [line, nameTexts, hkeyword, oneLine_localNameText_iff]

theorem ImportedName.oneLine_text_iff {imported : ImportedName} :
    OneLine imported.text ↔ AllOneLine imported.nameTexts := by
  simp [text, nameTexts, oneLine_localNameText_iff]

/-- Texts with commas between them are one line exactly when each of them is. -/
theorem oneLine_commas_iff {texts : List String} :
    OneLine (", ".intercalate texts) ↔ AllOneLine texts :=
  oneLine_intercalate_iff (by simp [OneLine])

theorem ImportFrom.oneLine_line_iff {statement : ImportFrom} :
    OneLine statement.line ↔ AllOneLine statement.nameTexts := by
  have hkeywords : OneLine "from " ∧ OneLine " import " := by simp [OneLine]
  have hdots : OneLine statement.dots := by simp [dots, OneLine]
  simp [line, nameTexts, hkeywords, hdots, oneLine_commas_iff, allOneLine_map, allOneLine_flatMap,
    ImportedName.oneLine_text_iff]

theorem oneLine_requiredLine_iff {group : String × List String} :
    OneLine (requiredLine group) ↔ OneLine group.1 ∧ AllOneLine group.2 := by
  have hkeywords : OneLine "from " ∧ OneLine " import " := by simp [OneLine]
  simp [requiredLine, hkeywords, oneLine_commas_iff]

/-! ## Functions -/

namespace FunctionStub

/-- The parameters of a function, without the bare star. -/
def arguments (function : FunctionStub) : List Argument :=
  function.args ++ function.varArg.toList ++ function.kwArgs ++ function.kwArg.toList

/-- The names of a function, its decorators included. -/
def nameTexts (function : FunctionStub) : List String :=
  function.decorators ++ function.name :: function.arguments.map Argument.name

/-- The annotations of a function. -/
def typeTexts (function : FunctionStub) : List String :=
  function.arguments.filterMap Argument.annotation ++ function.returns.toList

theorem filterMap_parameters (function : FunctionStub) :
    function.parameters.filterMap Parameter.argument = function.arguments := by
  have hstar : (if function.hasStar then [⟨"*", function.varArg⟩] else []).filterMap
      Parameter.argument = function.varArg.toList := by
    cases hvar : function.varArg with
    | none => split <;> rfl
    | some argument => simp [hasStar, hvar]
  simp only [parameters, arguments, List.filterMap_append, hstar, List.filterMap_map,
    Function.comp_def, List.filterMap_some]

theorem oneLine_stars {function : FunctionStub} {parameter : Parameter}
    (h : parameter ∈ function.parameters) : OneLine parameter.stars := by
  have hstars : parameter.stars ∈ ["", "*", "**"] := by
    simp only [parameters, List.mem_append, List.mem_map] at h
    rcases h with ((⟨argument, -, rfl⟩ | h) | ⟨argument, -, rfl⟩) | ⟨argument, -, rfl⟩
    · simp
    · split at h
      · rw [List.mem_singleton.1 h]
        simp
      · cases h
    · simp
    · simp
  have hlines : AllOneLine ["", "*", "**"] := by simp [OneLine]
  exact hlines _ hstars

end FunctionStub

theorem allOneLine_decorators_iff {decorators : List String} :
    AllOneLine (decorators.map decoratorLine) ↔ AllOneLine decorators := by
  have hat : OneLine "@" := by simp [OneLine]
  simp [decoratorLine, hat, AllOneLine]

theorem Argument.oneLine_text_iff {argument : Argument} :
    OneLine argument.text ↔ OneLine argument.name ∧ AllOneLine argument.annotation.toList := by
  have hpunctuation : OneLine ": " ∧ OneLine " = ..." ∧ OneLine "=..." ∧ OneLine "" := by
    simp [OneLine]
  rcases argument with ⟨name, _ | annotation, _ | _⟩ <;> simp [text, tail, hpunctuation]

theorem Parameter.oneLine_text_iff {parameter : Parameter} (hstars : OneLine parameter.stars) :
    OneLine parameter.text ↔ ∀ argument ∈ parameter.argument, OneLine argument.text := by
  cases hargument : parameter.argument with
  | none => simpa [text, body, hargument, OneLine] using hstars
  | some argument => simp [text, body, hargument, hstars]

namespace FunctionStub

theorem allOneLine_parameters_iff {function : FunctionStub} :
    AllOneLine (function.parameters.map Parameter.text) ↔
      ∀ argument ∈ function.arguments, OneLine argument.text := by
  rw [allOneLine_map, ← filterMap_parameters]
  constructor
  · intro h argument hargument
    obtain ⟨parameter, hparameter, hargument⟩ := List.mem_filterMap.1 hargument
    exact (Parameter.oneLine_text_iff (oneLine_stars hparameter)).1 (h _ hparameter) _ hargument
  · intro h parameter hparameter
    apply (Parameter.oneLine_text_iff (oneLine_stars hparameter)).2
    intro argument hargument
    exact h argument (List.mem_filterMap.2 ⟨parameter, hparameter, hargument⟩)

theorem oneLine_signature_iff {function : FunctionStub} :
    OneLine function.signature ↔
      (OneLine function.name ∧ AllOneLine (function.arguments.map Argument.name)) ∧
        AllOneLine function.typeTexts := by
  have hpunctuation : OneLine "def " ∧ OneLine "(" ∧ OneLine ")" ∧ OneLine ": ..." := by
    simp [OneLine]
  have hreturns : OneLine (returnsText function.returns) ↔ AllOneLine function.returns.toList := by
    cases function.returns <;> simp [returnsText, OneLine]
  have harguments : (∀ argument ∈ function.arguments, OneLine argument.text) ↔
      AllOneLine (function.arguments.map Argument.name) ∧
        AllOneLine (function.arguments.filterMap Argument.annotation) := by
    simp only [allOneLine_map, allOneLine_filterMap, Argument.oneLine_text_iff, forall_and]
  simp only [signature, oneLine_append, hpunctuation, oneLine_commas_iff, allOneLine_parameters_iff,
    harguments, hreturns, typeTexts, allOneLine_append, true_and, and_true, and_assoc]

theorem allOneLine_lines_iff {function : FunctionStub} :
    AllOneLine function.lines ↔ AllOneLine function.nameTexts ∧ AllOneLine function.typeTexts := by
  simp only [lines, nameTexts, allOneLine_append, allOneLine_decorators_iff, allOneLine_cons,
    allOneLine_nil, oneLine_signature_iff, and_true, and_assoc]

end FunctionStub

/-! ## Classes -/

/-- The names of a member of a class. -/
def ClassMember.nameTexts : ClassMember → List String
  | .field declared => [declared.name]
  | .method declared => declared.nameTexts

/-- The annotations of a member of a class. -/
def ClassMember.typeTexts : ClassMember → List String
  | .field declared => [declared.annotation]
  | .method declared => declared.typeTexts

theorem ClassField.oneLine_line_iff {declared : ClassField} :
    OneLine declared.line ↔ OneLine declared.name ∧ OneLine declared.annotation := by
  have hpunctuation : OneLine ": " ∧ OneLine "ClassVar[" ∧ OneLine "]" := by simp [OneLine]
  cases hvar : declared.classVar <;> simp [line, writtenType, hvar, hpunctuation]

theorem ClassMember.allOneLine_lines_iff {member : ClassMember} :
    AllOneLine member.lines ↔ AllOneLine member.nameTexts ∧ AllOneLine member.typeTexts := by
  cases member with
  | field declared => simp [lines, nameTexts, typeTexts, ClassField.oneLine_line_iff]
  | method declared => exact FunctionStub.allOneLine_lines_iff

namespace ClassStub

/-- The names of a class: what its header says, and the names of its members. -/
def nameTexts (cls : ClassStub) : List String :=
  cls.decorators ++ cls.name :: cls.bases ++
    cls.keywords.flatMap (fun keyword => [keyword.name, keyword.value]) ++
    cls.body.flatMap ClassMember.nameTexts

/-- The annotations of the members of a class. -/
def typeTexts (cls : ClassStub) : List String :=
  cls.body.flatMap ClassMember.typeTexts

theorem oneLine_headerText_iff {cls : ClassStub} :
    OneLine cls.headerText ↔ AllOneLine cls.headerArguments := by
  have hparentheses : OneLine "(" ∧ OneLine ")" := by simp [OneLine]
  by_cases hheader : cls.hasHeader
  · simp [headerText, hheader, hparentheses, oneLine_commas_iff]
  · have hnone : cls.headerArguments = [] := by
      simp only [hasHeader, Bool.or_eq_true, Bool.not_eq_true', not_or] at hheader
      simp_all [headerArguments]
    simp [headerText, hheader, hnone, OneLine]

theorem allOneLine_headerArguments_iff {cls : ClassStub} :
    AllOneLine cls.headerArguments ↔ AllOneLine cls.bases ∧
      AllOneLine (cls.keywords.flatMap fun keyword => [keyword.name, keyword.value]) := by
  have hequals : OneLine "=" := by simp [OneLine]
  simp [headerArguments, allOneLine_map, allOneLine_flatMap, hequals]

theorem oneLine_header_iff {cls : ClassStub} :
    OneLine cls.header ↔ OneLine cls.name ∧ AllOneLine cls.headerArguments := by
  have hpunctuation : OneLine "class " ∧ OneLine ":" := by simp [OneLine]
  have hend : OneLine (if cls.body.isEmpty then " ..." else "") := by split <;> simp [OneLine]
  simp only [header, oneLine_append, hpunctuation, hend, oneLine_headerText_iff, true_and, and_true]

theorem allOneLine_lines_iff {cls : ClassStub} :
    AllOneLine cls.lines ↔ AllOneLine cls.nameTexts ∧ AllOneLine cls.typeTexts := by
  have hindented {lines : List String} : AllOneLine (lines.map indented) ↔ AllOneLine lines := by
    have hspaces : OneLine "    " := by simp [OneLine]
    simp [indented, hspaces, AllOneLine]
  have hmembers : AllOneLine (cls.body.flatMap ClassMember.lines) ↔
      AllOneLine (cls.body.flatMap ClassMember.nameTexts) ∧ AllOneLine cls.typeTexts := by
    simp only [typeTexts, allOneLine_flatMap, ClassMember.allOneLine_lines_iff, forall_and]
  simp only [lines, nameTexts, allOneLine_append, allOneLine_cons, allOneLine_nil,
    allOneLine_decorators_iff, oneLine_header_iff, allOneLine_headerArguments_iff, hindented,
    hmembers, and_true, and_assoc]

end ClassStub

/-! ## Modules -/

/-- The names of a declaration. -/
def Declaration.nameTexts : Declaration → List String
  | .attribute declared => [declared.name]
  | .typeAlias declared => [declared.name]
  | .function declared => declared.nameTexts
  | .classStub declared => declared.nameTexts

/-- The annotations of a declaration, and what an alias stands for. -/
def Declaration.typeTexts : Declaration → List String
  | .attribute declared => [declared.annotation]
  | .typeAlias declared => [declared.target]
  | .function declared => declared.typeTexts
  | .classStub declared => declared.typeTexts

theorem Declaration.allOneLine_lines_iff {declared : Declaration} :
    AllOneLine declared.lines ↔
      AllOneLine declared.nameTexts ∧ AllOneLine declared.typeTexts := by
  have hpunctuation : OneLine ": " ∧ OneLine " = " := by simp [OneLine]
  match declared with
  | .attribute declared => simp [lines, nameTexts, typeTexts, hpunctuation]
  | .typeAlias declared => simp [lines, nameTexts, typeTexts, hpunctuation]
  | .function declared => exact FunctionStub.allOneLine_lines_iff
  | .classStub declared => exact ClassStub.allOneLine_lines_iff

namespace ModuleStub

/-- The names of a module, its imports included. -/
def nameTexts (stub : ModuleStub) : List String :=
  stub.imports.flatMap Import.nameTexts ++ stub.importFroms.flatMap ImportFrom.nameTexts ++
    stub.content.flatMap Declaration.nameTexts

/-- The annotations of a module, and what its aliases stand for. -/
def typeTexts (stub : ModuleStub) : List String :=
  stub.content.flatMap Declaration.typeTexts

/-- The lines of a module are without the end of a line exactly when its texts are. -/
theorem allOneLine_lines_iff {stub : ModuleStub} {missing : List (String × List String)}
    (hmissing : ∀ group ∈ missing, OneLine group.1 ∧ AllOneLine group.2) :
    AllOneLine (stub.lines missing) ↔
      AllOneLine stub.nameTexts ∧ AllOneLine stub.typeTexts := by
  have hrequired : AllOneLine (missing.map requiredLine) := by
    simp only [allOneLine_map, oneLine_requiredLine_iff]
    exact hmissing
  have hdivider (divided : Bool) : AllOneLine (if divided then [""] else []) := by
    cases divided <;> simp [OneLine]
  have hcontent : AllOneLine (stub.content.flatMap Declaration.lines) ↔
      AllOneLine (stub.content.flatMap Declaration.nameTexts) ∧ AllOneLine stub.typeTexts := by
    simp only [typeTexts, allOneLine_flatMap, Declaration.allOneLine_lines_iff, forall_and]
  simp only [lines, importLines, nameTexts, allOneLine_append, hrequired, hdivider, hcontent,
    allOneLine_map, allOneLine_flatMap, Import.oneLine_line_iff, ImportFrom.oneLine_line_iff,
    and_true, and_assoc]

end ModuleStub

/-! ## Counting lines -/

/-- One line for each decorator and one for the rest. -/
def FunctionStub.lineCount (function : FunctionStub) : Nat :=
  function.decorators.length + 1

def ClassMember.lineCount : ClassMember → Nat
  | .field _ => 1
  | .method declared => declared.lineCount

/-- One line for each decorator, one for the header and those of the members. -/
def ClassStub.lineCount (cls : ClassStub) : Nat :=
  cls.decorators.length + 1 + (cls.body.map ClassMember.lineCount).sum

def Declaration.lineCount : Declaration → Nat
  | .attribute _ | .typeAlias _ => 1
  | .function declared => declared.lineCount
  | .classStub declared => declared.lineCount

/-- One line for each import, those of the declarations, and one between the two if there are
both. -/
def ModuleStub.lineCount (stub : ModuleStub) (missing : List (String × List String)) : Nat :=
  stub.imports.length + stub.importFroms.length + missing.length +
    (if (stub.importsAnything || !missing.isEmpty) && !stub.content.isEmpty then 1 else 0) +
    (stub.content.map Declaration.lineCount).sum

theorem ClassMember.length_lines (member : ClassMember) :
    member.lines.length = member.lineCount := by
  cases member <;> simp [lines, lineCount, FunctionStub.lines, FunctionStub.lineCount]

theorem Declaration.length_lines (declared : Declaration) :
    declared.lines.length = declared.lineCount := by
  match declared with
  | .attribute _ | .typeAlias _ => rfl
  | .function declared => simp [lines, lineCount, FunctionStub.lines, FunctionStub.lineCount]
  | .classStub declared =>
    simp only [lines, lineCount, ClassStub.lines, ClassStub.lineCount, List.length_append,
      List.length_map, List.length_singleton, List.length_flatMap, ClassMember.length_lines]

theorem ModuleStub.length_lines (stub : ModuleStub) (missing : List (String × List String)) :
    (stub.lines missing).length = stub.lineCount missing := by
  have hdivider (divided : Bool) :
      (if divided then [""] else []).length = if divided then 1 else 0 := by
    cases divided <;> rfl
  simp only [lines, importLines, lineCount, List.length_append, List.length_map, hdivider,
    List.length_flatMap, Declaration.length_lines]

end InterfaceStub
