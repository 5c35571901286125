import InterfaceStub.Conversion.Basic
import InterfaceStub.Proofs.RequiredLines
import InterfaceStub.Proofs.RequiredNames

/-!
# The spelling of variables of classes

A variable of a class is written with `ClassVar[...]` around its type, whatever it was written with
before, so the stub has to import that name.

* What declares a variable.  `field_cases` lists the two statements that do: an assignment without
  annotation, and one with an annotation (`Annotates`).  `classVarType?_eq_some_iff` tells the two
  spellings of an annotation that make a variable one of the class.
* `classVar_mem_required_iff` says when the name is required: when a class has an assignment without
  annotation.
* `classVar_importable_iff` puts both together.  A variable that was annotated with
  `typing.ClassVar[...]` is written with the bare name, which nothing has to import.
-/

namespace InterfaceStub

open Syntax Extraction

namespace Extraction

/-! ## What declares a variable -/

theorem eq_append_of_textAfter? {start cs rest : List Char} (h : textAfter? start cs = some rest) :
    cs = start ++ rest := by
  induction start generalizing cs with
  | nil => exact Option.some.inj h
  | cons s start ih =>
    cases cs with
    | nil => cases h
    | cons c cs =>
      unfold textAfter? at h
      split at h
      · rename_i hsame
        rw [hsame, ih h]
        rfl
      · cases h

/-- The two spellings of a variable of a class. -/
theorem classVarType?_eq_some_iff {text inner : String} :
    classVarType? text = some inner ↔
      text = "ClassVar[" ++ inner ++ "]" ∨ text = "typing.ClassVar[" ++ inner ++ "]" := by
  constructor
  · intro h
    obtain ⟨rest, hrest, hclose⟩ := Option.bind_eq_some_iff.1 h
    split at hclose
    · rename_i hlast
      cases hclose
      have hinner : rest = rest.dropLast ++ [']'] := by
        rw [List.dropLast_append_getLast? _ hlast]
      have htext {start : List Char} (hafter : textAfter? start text.toList = some rest) :
          text = String.ofList start ++ String.ofList rest.dropLast ++ "]" := by
        apply String.toList_inj.1
        rw [eq_append_of_textAfter? hafter, hinner]
        simp
      rcases Option.or_eq_some_iff.1 hrest with hafter | ⟨-, hafter⟩
      · exact .inr (htext hafter)
      · exact .inl (htext hafter)
    · cases hclose
  · rintro (rfl | rfl)
    · exact classVarType?_append inner
    · exact classVarType?_qualified_append inner

/-- The statement gives the name an annotation, with this text. -/
def Annotates (source : Source) (statement : Node) (name text : String) : Prop :=
  ∃ assignment annotation, IsAssignment statement assignment ∧
    assignment.child? .type = some annotation ∧
    (annotatedName source assignment annotation).value = some (name, text)

/-- The annotation of the statement is written with the bare name `ClassVar`. -/
def WritesBare (source : Source) (statement : Node) : Prop :=
  ∃ name inner, Annotates source statement name ("ClassVar[" ++ inner ++ "]")

/-- The annotation of the statement is written with the name `ClassVar` of its module. -/
def WritesQualified (source : Source) (statement : Node) : Prop :=
  ∃ name inner, Annotates source statement name ("typing.ClassVar[" ++ inner ++ "]")

variable {settings : ExtractSettings} {source : Source}

theorem Annotates.text_eq {statement : Node} {name text name' text' : String}
    (h : Annotates source statement name text) (h' : Annotates source statement name' text') :
    text = text' := by
  obtain ⟨assignment, annotation, hassignment, htype, hvalue⟩ := h
  obtain ⟨other, annotation', hother, htype', hvalue'⟩ := h'
  cases hassignment.first.symm.trans hother.first
  cases htype.symm.trans htype'
  cases hvalue.symm.trans hvalue'
  rfl

theorem not_writesBare_of_writesQualified {statement : Node}
    (h : WritesQualified source statement) : ¬WritesBare source statement := by
  intro hbare
  obtain ⟨name, inner, hqualified⟩ := h
  obtain ⟨name', inner', hbare⟩ := hbare
  have htexts := congrArg String.toList (hqualified.text_eq hbare)
  simp at htexts

theorem Annotates.value_classStatement {statement : Node} {name text : String}
    (h : Annotates source statement name text) (following : List Node) :
    (classStatement source statement following).value = [.field (annotatedField name text)] := by
  obtain ⟨assignment, annotation, hassignment, htype, hvalue⟩ := h
  rw [hassignment.classStatement_eq]
  simp [classAssignment, htype, hvalue]

/-- A variable is declared by an assignment without annotation, or by one that has one. -/
theorem field_cases {statement : Node} {following : List Node} {declared : ClassField}
    (h : .field declared ∈ (classStatement source statement following).value) :
    (∃ assignment, IsPlainAssignment statement assignment ∧
      ∃ name ∈ boundNames assignment, declared = .unannotated (source.text name)) ∨
      ∃ name text, Annotates source statement name text ∧ declared = annotatedField name text := by
  by_cases hassigns : ∃ assignment, IsAssignment statement assignment
  · obtain ⟨assignment, hassignment⟩ := hassigns
    cases htype : assignment.child? .type with
    | none =>
      have hplain : IsPlainAssignment statement assignment := ⟨hassignment, htype⟩
      rw [hplain.value_classStatement] at h
      obtain ⟨name, hname, heq⟩ := List.mem_map.1 h
      cases heq
      exact .inl ⟨assignment, hplain, name, hname, rfl⟩
    | some annotation =>
      rw [hassignment.classStatement_eq] at h
      simp only [Report.value_map, classAssignment, htype, Report.value_bind, Report.value_pure,
        List.mem_map, Option.mem_toList, Option.map_eq_some_iff] at h
      obtain ⟨own, ⟨⟨name, text⟩, hvalue, rfl⟩, heq⟩ := h
      cases heq
      exact .inr ⟨name, text, ⟨assignment, annotation, hassignment, htype, hvalue⟩, rfl⟩
  · exact absurd h ((classStatement_of_not_isAssignment (not_exists.1 hassigns) following).2 _)

theorem classVar_annotatedField_iff {name text : String} :
    (annotatedField name text).classVar = true ↔ ∃ inner, classVarType? text = some inner := by
  unfold annotatedField
  split
  · rename_i inner htext
    exact iff_of_true rfl ⟨inner, htext⟩
  · rename_i htext
    simp [htext]

end Extraction

/-! ## What imports the name -/

/-- The name is required exactly when a class has an assignment without annotation: no type that is
inferred in a module is written with it. -/
theorem classVar_mem_required_iff {settings : ExtractSettings} {source : Source} {root : Node} :
    TypingName.classVar.qualified ∈ (extract settings source root).required.names ↔
      ∃ leaf ∈ memberStatements settings source root, ∃ assignment,
        IsPlainAssignment leaf.node assignment := by
  rw [mem_required_iff]
  constructor
  · intro h
    rcases h with ⟨leaf, hleaf, assignment, hplain, hname⟩ | ⟨hclass, -⟩
    · obtain ⟨declared, -, type, -, hname⟩ :=
        (accounts_moduleAssignment hplain.plain _ _).written _ hname
      exact absurd rfl (LiteralType.mentions_of_mem_required hname).1
    · exact hclass
  · intro hclass
    exact .inr ⟨hclass, by simp⟩

theorem ClassField.line_of_classVar {declared : ClassField} (h : declared.classVar = true) :
    declared.line = declared.name ++ ": ClassVar[" ++ declared.annotation ++ "]" := by
  have hcolon : ": ClassVar[" = ": " ++ "ClassVar[" := rfl
  rw [line, writtenType, if_pos h, hcolon]
  simp only [String.append_assoc]

/-- The line of a variable of a class is one of the lines of the module. -/
theorem ModuleStub.line_mem_lines {stub : ModuleStub} {declared : ClassField}
    (h : .field declared ∈ stub.members) (missing : List (String × List String)) :
    indented declared.line ∈ stub.lines missing := by
  obtain ⟨own, hown, hmember⟩ := List.mem_flatMap.1 h
  have hline : indented declared.line ∈ own.lines := by
    rw [own.lines_eq]
    refine List.mem_append_right _ (List.mem_cons_of_mem _ (List.mem_map_of_mem ?_))
    exact List.mem_flatMap.2 ⟨_, hmember, List.mem_singleton.2 rfl⟩
  unfold ModuleStub.lines
  exact List.mem_append_right _ (List.mem_flatMap.2 ⟨own, hown, hline⟩)

/-- The text has the line, at some place. -/
def HasLine (text line : String) : Prop :=
  ∃ before after, text = joinLines (before ++ line :: after)

theorem ModuleStub.hasLine_render {stub : ModuleStub} {required : RequiredImports} {line : String}
    (h : line ∈ stub.lines (required.missingFrom stub)) : HasLine (stub.render required) line := by
  obtain ⟨before, after, hlines⟩ := List.append_of_mem h
  exact ⟨before, after, by rw [ModuleStub.render_eq_joinLines, hlines]⟩

/-- Every variable of a class is written with the bare name `ClassVar`.  The ones that were not
written so before require the name, unless one of them was annotated with `typing.ClassVar[...]` and
no class has an assignment without annotation.  A name that is required is imported. -/
theorem classVar_importable_iff (settings : ExtractSettings) (source : Source) (root : Node) :
    (∀ declared, .field declared ∈ (extract settings source root).stub.members →
      declared.classVar = true → ∀ generate : GenerateSettings,
        HasLine ((extract settings source root).render generate)
          ("    " ++ (declared.name ++ ": ClassVar[" ++ declared.annotation ++ "]"))) ∧
    ((∀ leaf ∈ memberStatements settings source root, ∀ declared,
        .field declared ∈ (classStatement source leaf.node leaf.following).value →
          declared.classVar = true → ¬WritesBare source leaf.node →
            TypingName.classVar.qualified ∈ (extract settings source root).required.names) ↔
      ((∃ leaf ∈ memberStatements settings source root, WritesQualified source leaf.node) →
        ∃ leaf ∈ memberStatements settings source root, ∃ assignment,
          IsPlainAssignment leaf.node assignment)) ∧
    (TypingName.classVar.qualified ∈ (extract settings source root).required.names →
      ∀ generate : GenerateSettings, generate.emitRequiredImports = true →
        (extract settings source root).stub.importsFrom "typing" "ClassVar" = true ∨
        ∃ names, "ClassVar" ∈ names ∧ HasLine ((extract settings source root).render generate)
          ("from typing import " ++ ", ".intercalate names)) := by
  refine ⟨?_, ?_, ?_⟩
  · intro declared hdeclared hvar generate
    rw [← ClassField.line_of_classVar hvar]
    exact ModuleStub.hasLine_render (ModuleStub.line_mem_lines hdeclared _)
  · rw [classVar_mem_required_iff]
    constructor
    · intro h hqualified
      obtain ⟨leaf, hleaf, hqualified⟩ := hqualified
      have hbare := not_writesBare_of_writesQualified hqualified
      obtain ⟨name, inner, hannotates⟩ := hqualified
      have hmem := hannotates.value_classStatement leaf.following
      refine h leaf hleaf _ (hmem ▸ List.mem_singleton.2 rfl) ?_ hbare
      exact classVar_annotatedField_iff.2 ⟨inner, classVarType?_qualified_append inner⟩
    · intro h leaf hleaf declared hdeclared hvar hbare
      rcases field_cases hdeclared with ⟨assignment, hplain, -⟩ | ⟨name, text, hannotates, rfl⟩
      · exact ⟨leaf, hleaf, assignment, hplain⟩
      · obtain ⟨inner, hinner⟩ := classVar_annotatedField_iff.1 hvar
        rcases classVarType?_eq_some_iff.1 hinner with rfl | rfl
        · exact absurd ⟨name, inner, hannotates⟩ hbare
        · exact h ⟨leaf, hleaf, name, inner, hannotates⟩
  · intro hrequired generate hemit
    rcases ModuleStub.importsFrom_or_listed _ hrequired with himports | ⟨names, hnames, hname⟩
    · exact .inl himports
    · refine .inr ⟨names, hname, ?_⟩
      rw [Extraction.render, if_pos hemit]
      exact ModuleStub.hasLine_render (ModuleStub.requiredLine_mem_lines _ hnames)

/-- The assignment `x: typing.ClassVar[int]`. -/
def qualifiedAssignment : Node :=
  .inner .assignment none 13 36 [
    .inner .identifier (some .left) 13 14 [],
    .token ":" 14 15,
    .inner .type (some .type) 16 36 [
      .inner .subscript none 16 36 [
        .inner .attribute (some .value) 16 31 [
          .inner .identifier (some .object) 16 22 [],
          .token "." 22 23,
          .inner .identifier (some .attribute) 23 31 []],
        .token "[" 31 32,
        .inner .identifier (some .subscript) 32 35 [],
        .token "]" 35 36]]]

def qualifiedStatement : Node :=
  .inner .expressionStatement none 13 36 [qualifiedAssignment]

def qualifiedClass : Node :=
  .inner .classDefinition none 0 36 [
    .token "class" 0 5,
    .inner .identifier (some .name) 6 7 [],
    .token ":" 7 8,
    .inner .block (some .body) 13 36 [qualifiedStatement]]

/-- A module with a class that has the assignment in its body and nothing else. -/
def qualifiedModule : Node :=
  .inner (.other "module") none 0 37 [qualifiedClass]

def qualifiedSource : Source :=
  .ofText "qualified.py" "class C:\n    x: typing.ClassVar[int]\n"

/-- The stub is written with a name that it does not import. -/
theorem qualifiedModule_not_importable :
    (extract {} qualifiedSource qualifiedModule).required.names = [] ∧
    HasLine ((extract {} qualifiedSource qualifiedModule).render ⟨true⟩) "    x: ClassVar[int]" ∧
    ¬∀ leaf ∈ memberStatements {} qualifiedSource qualifiedModule, ∀ declared,
      .field declared ∈ (classStatement qualifiedSource leaf.node leaf.following).value →
        declared.classVar = true → ¬WritesBare qualifiedSource leaf.node →
          TypingName.classVar.qualified ∈
            (extract {} qualifiedSource qualifiedModule).required.names := by
  have hrequired : (extract {} qualifiedSource qualifiedModule).required.names = [] := by
    decide +kernel
  have hfield : .field ⟨"x", "int", true⟩ ∈
      (extract {} qualifiedSource qualifiedModule).stub.members := by
    have hmembers : (extract {} qualifiedSource qualifiedModule).stub.members =
        [.field ⟨"x", "int", true⟩] := by decide +kernel
    rw [hmembers]
    exact List.mem_singleton.2 rfl
  have hmember : ⟨⟨[0], qualifiedStatement⟩, []⟩ ∈
      memberStatements {} qualifiedSource qualifiedModule := by
    have hclass : ⟨⟨[0], qualifiedClass⟩, []⟩ ∈
        leafStatements {} qualifiedSource qualifiedModule :=
      mem_leafStatements_of_own (.head _) rfl
    refine mem_memberStatements_iff.2 ⟨_, hclass, qualifiedClass, rfl, ?_⟩
    exact mem_leafStatements_of_own (.head _) rfl
  have hqualified : WritesQualified qualifiedSource qualifiedStatement := by
    refine ⟨"x", "int", qualifiedAssignment, _, ⟨rfl, rfl, rfl⟩, rfl, ?_⟩
    decide +kernel
  obtain ⟨hline, hiff, -⟩ := classVar_importable_iff {} qualifiedSource qualifiedModule
  refine ⟨hrequired, hline _ hfield rfl ⟨true⟩, ?_⟩
  intro h
  have hname := classVar_mem_required_iff.2 (hiff.1 h ⟨_, hmember, hqualified⟩)
  rw [hrequired] at hname
  cases hname

end InterfaceStub
