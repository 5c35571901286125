import InterfaceStub.Proofs.BranchSelection
import InterfaceStub.Proofs.Composition
import Mathlib.Data.List.Flatten
import Mathlib.Data.List.Forall2

/-!
# More guard names

A configured name is true for a type checker, and decides the conditions that it stands in.  With
one more such name some branches are no longer kept, and nothing else changes.

* Branches.  A condition whose value is known keeps it (`guardOf_of_subset`), and a condition that
  becomes known drops blocks (`choose_sublist_choose`).
* Leaf statements.  `leafStatements_sublist_of_subset` is the induction over the tree.  Each leaf
  statement that is left is the same one in the same place.
* Extractions.  `Reduces` says that an extraction has nothing but what another has, in the same
  order.  What a statement declares depends on the settings only if it is a class, and then it is
  the body that gets shorter; `extract_reduces_of_subset` puts the statements together.
-/

namespace InterfaceStub

open Syntax Extraction

namespace Extraction

variable {settings more : ExtractSettings} {source : Source}

/-! ## Branches -/

theorem IsGuard.of_subset (h : settings.typeCheckingNames ⊆ more.typeCheckingNames)
    {condition : Node} (hguard : IsGuard settings source condition) :
    IsGuard more source condition :=
  ⟨hguard.1, h hguard.2⟩

theorem IsNegatedGuard.of_subset (h : settings.typeCheckingNames ⊆ more.typeCheckingNames)
    {condition : Node} (hnegated : IsNegatedGuard settings source condition) :
    IsNegatedGuard more source condition := by
  obtain ⟨hkind, argument, hargument, hguard⟩ := hnegated
  exact ⟨hkind, argument, hargument, hguard.of_subset h⟩

/-- With more names a condition has the value that it had, if it had one. -/
theorem guardOf_of_subset (h : settings.typeCheckingNames ⊆ more.typeCheckingNames)
    (condition : Node) :
    guardOf settings source condition = .unknown ∨
      guardOf more source condition = guardOf settings source condition := by
  cases hguard : guardOf settings source condition with
  | typeChecking =>
    have hknown := guardOf_eq_typeChecking_iff.1 hguard
    exact .inr (guardOf_eq_typeChecking_iff.2 (hknown.of_subset h))
  | notTypeChecking =>
    have hknown := guardOf_eq_notTypeChecking_iff.1 hguard
    exact .inr (guardOf_eq_notTypeChecking_iff.2 (hknown.of_subset h))
  | unknown => exact .inl rfl

theorem Guard.choose_sublist_choose {guard known : Guard}
    (h : guard = .unknown ∨ known = guard) (block : Option α) {fewer others : List α}
    (hothers : fewer.Sublist others) :
    (known.choose block fewer).Sublist (guard.choose block others) := by
  rcases h with rfl | rfl
  · exact (known.choose_sublist block fewer).trans (hothers.append_left _)
  · cases known with
    | typeChecking => exact List.Sublist.refl _
    | notTypeChecking => exact hothers
    | unknown => exact hothers.append_left _

theorem clausePlaces_sublist_of_subset (h : settings.typeCheckingNames ⊆ more.typeCheckingNames)
    (clause : Node) (block : Option Place) {fewer others : List Place}
    (hothers : fewer.Sublist others) :
    (clausePlaces more source clause block fewer).Sublist
      (clausePlaces settings source clause block others) := by
  refine Guard.choose_sublist_choose ?_ block hothers
  cases clause.child? .condition with
  | none => exact .inl rfl
  | some condition => exact guardOf_of_subset h condition

theorem alternativePlaces_sublist_of_subset
    (h : settings.typeCheckingNames ⊆ more.typeCheckingNames) (clauses : List (Node × Nat)) :
    (alternativePlaces more source clauses).Sublist
      (alternativePlaces settings source clauses) := by
  induction clauses with
  | nil => exact List.Sublist.refl _
  | cons clause rest ih =>
    rw [alternativePlaces, alternativePlaces]
    split
    · exact clausePlaces_sublist_of_subset h _ _ ih
    · exact List.Sublist.refl _
    · exact List.Sublist.refl _

/-! ## Leaf statements -/

/-- Of a statement with inner blocks fewer are gone through. -/
theorem innerPlaces?_of_subset (h : settings.typeCheckingNames ⊆ more.typeCheckingNames)
    (source : Source) (statement : Node) :
    (innerPlaces? settings source statement = none ∧ innerPlaces? more source statement = none) ∨
      ∃ fewer places, innerPlaces? more source statement = some fewer ∧
        innerPlaces? settings source statement = some places ∧ fewer.Sublist places := by
  rw [innerPlaces?, innerPlaces?]
  cases statement.statement with
  | conditional =>
    exact .inr ⟨_, _, rfl, rfl, clausePlaces_sublist_of_subset h _ _
      (alternativePlaces_sublist_of_subset h _)⟩
  | attempt => exact .inr ⟨_, _, rfl, rfl, List.Sublist.refl _⟩
  | _ => exact .inl ⟨rfl, rfl⟩

/-- With more names the leaf statements are some of those there were, each in its place. -/
theorem leafStatements_sublist_of_subset
    (h : settings.typeCheckingNames ⊆ more.typeCheckingNames) (block : Node) :
    (leafStatements more source block).Sublist (leafStatements settings source block) := by
  induction hsize : block.size using Nat.strongRecOn generalizing block with
  | ind size ih =>
    rw [leafStatements_eq, leafStatements_eq]
    apply List.Sublist.flatMap_right
    intro statement hstatement
    rw [leavesOf, leavesOf]
    rcases innerPlaces?_of_subset h source statement.node with
      ⟨hnone, hmore⟩ | ⟨fewer, places, hfewer, hplaces, hsublist⟩
    · rw [hnone, hmore]
    · rw [hfewer, hplaces]
      refine List.Sublist.trans (List.Sublist.flatMap_right fewer ?_) (hsublist.flatMap _)
      intro place hplace
      have hlt : place.node.size < size := hsize ▸ Nat.lt_trans
        (size_lt_of_innerPlaces? hfewer hplace) (size_lt_of_mem_ownStatements hstatement)
      exact (ih _ hlt place.node rfl).map _

theorem bodyLeaves_sublist_of_subset (h : settings.typeCheckingNames ⊆ more.typeCheckingNames)
    (source : Source) (definition : Node) :
    (bodyLeaves more source definition).Sublist (bodyLeaves settings source definition) := by
  rw [bodyLeaves, bodyLeaves]
  cases definition.child? .body with
  | none => exact List.Sublist.refl _
  | some block => exact leafStatements_sublist_of_subset h block

end Extraction

/-! ## Extractions with less in them -/

/-- The declaration is the other one, or the same class with some of its members only. -/
inductive Declaration.Reduces : Declaration → Declaration → Prop where
  | same (declared : Declaration) : Reduces declared declared
  | members (cls : ClassStub) {body : List ClassMember} (h : body.Sublist cls.body) :
      Reduces (.classStub { cls with body }) (.classStub cls)

namespace Extraction

/-- An extraction has nothing but what another one has, in the same order. -/
structure Reduces (fewer all : Extraction) : Prop where
  imports : fewer.stub.imports.Sublist all.stub.imports
  importFroms : fewer.stub.importFroms.Sublist all.stub.importFroms
  content : List.SublistForall₂ Declaration.Reduces fewer.stub.content all.stub.content
  diagnostics : fewer.diagnostics.Sublist all.diagnostics
  required : fewer.required.names ⊆ all.required.names

/-! ### One extraction after the other -/

theorem sublistForall₂_eq_iff {fewer all : List α} :
    List.SublistForall₂ Eq fewer all ↔ fewer.Sublist all := by
  simp [List.sublistForall₂_iff, List.forall₂_eq_eq_eq]

theorem sublistForall₂_append {related : α → β → Prop} {fewer fewer' : List α} {all all' : List β}
    (h : List.SublistForall₂ related fewer all) (h' : List.SublistForall₂ related fewer' all') :
    List.SublistForall₂ related (fewer ++ fewer') (all ++ all') := by
  rw [List.sublistForall₂_iff] at h h' ⊢
  obtain ⟨kept, hrelated, hkept⟩ := h
  obtain ⟨kept', hrelated', hkept'⟩ := h'
  exact ⟨kept ++ kept', List.rel_append hrelated hrelated', hkept.append hkept'⟩

/-- Where each item that is left has less in it, so have all of them one after the other. -/
theorem sublistForall₂_flatMap {related : α → α → Prop} {inner : β → β → Prop} {f : α → List β}
    {fewer all : List α} (h : List.SublistForall₂ related fewer all)
    (hinner : ∀ less full, related less full → List.SublistForall₂ inner (f less) (f full)) :
    List.SublistForall₂ inner (fewer.flatMap f) (all.flatMap f) := by
  induction h with
  | nil => exact .nil
  | cons hhead _ ih => exact sublistForall₂_append (hinner _ _ hhead) ih
  | cons_right _ ih => exact sublistForall₂_append .nil ih

theorem sublist_flatMap {related : α → α → Prop} {f : α → List β} {fewer all : List α}
    (h : List.SublistForall₂ related fewer all)
    (hinner : ∀ less full, related less full → (f less).Sublist (f full)) :
    (fewer.flatMap f).Sublist (all.flatMap f) := by
  rw [← sublistForall₂_eq_iff]
  apply sublistForall₂_flatMap h
  intro less full hrelated
  exact sublistForall₂_eq_iff.2 (hinner less full hrelated)

theorem exists_of_sublistForall₂ {related : α → β → Prop} {fewer : List α} {all : List β}
    (h : List.SublistForall₂ related fewer all) {less : α} (hless : less ∈ fewer) :
    ∃ full ∈ all, related less full := by
  induction h with
  | nil => cases hless
  | cons hhead _ ih =>
    rcases List.mem_cons.1 hless with rfl | hless
    · exact ⟨_, List.mem_cons_self, hhead⟩
    · obtain ⟨full, hfull, hrelated⟩ := ih hless
      exact ⟨full, List.mem_cons_of_mem _ hfull, hrelated⟩
  | cons_right _ ih =>
    obtain ⟨full, hfull, hrelated⟩ := ih hless
    exact ⟨full, List.mem_cons_of_mem _ hfull, hrelated⟩

theorem Joins.reduces {fewer all : Extraction} {parts whole : List Extraction}
    (hfewer : fewer.Joins parts) (hall : all.Joins whole)
    (h : List.SublistForall₂ Reduces parts whole) : fewer.Reduces all := by
  constructor
  case imports =>
    rw [hfewer.imports, hall.imports]
    exact sublist_flatMap h fun _ _ hreduces => hreduces.imports
  case importFroms =>
    rw [hfewer.importFroms, hall.importFroms]
    exact sublist_flatMap h fun _ _ hreduces => hreduces.importFroms
  case content =>
    rw [hfewer.content, hall.content]
    exact sublistForall₂_flatMap h fun _ _ hreduces => hreduces.content
  case diagnostics =>
    rw [hfewer.diagnostics, hall.diagnostics]
    exact sublist_flatMap h fun _ _ hreduces => hreduces.diagnostics
  case required =>
    intro name hname
    obtain ⟨part, hpart, hname⟩ := (hfewer.required name).1 hname
    obtain ⟨full, hfull, hreduces⟩ := exists_of_sublistForall₂ h hpart
    exact (hall.required name).2 ⟨full, hfull, hreduces.required hname⟩

theorem reduces_self (extraction : Extraction) : extraction.Reduces extraction where
  imports := List.Sublist.refl _
  importFroms := List.Sublist.refl _
  content := List.sublistForall₂_iff.2
    ⟨_, List.forall₂_same.2 fun declared _ => .same declared, List.Sublist.refl _⟩
  diagnostics := List.Sublist.refl _
  required := List.Subset.refl _

/-! ## Statements -/

variable {settings more : ExtractSettings} {source : Source}

/-- What a statement declares depends on the settings only if it is a class. -/
theorem moduleStatement_settings_cases (source : Source) (statement : Node)
    (following : List Node) :
    (∀ settings more, moduleStatement more source statement following =
      moduleStatement settings source statement following) ∨
    ∃ definition decorators, ∀ settings, moduleStatement settings source statement following =
      (fun cls => [.declaration (.classStub cls)]) <$>
        classStub settings source definition decorators := by
  have hdefinition (definition : Node) (decorators : List Node) :
      (∀ settings more, moduleDefinition more source definition decorators =
        moduleDefinition settings source definition decorators) ∨
      ∀ settings, moduleDefinition settings source definition decorators =
        (fun cls => [.declaration (.classStub cls)]) <$>
          classStub settings source definition decorators := by
    unfold moduleDefinition
    split
    · exact .inl fun _ _ => rfl
    · exact .inr fun _ => rfl
    · exact .inl fun _ _ => rfl
  unfold moduleStatement
  split
  case h_4 =>
    split
    · rename_i definition _
      exact (hdefinition definition statement.decorators).imp id fun h => ⟨_, _, h⟩
    · exact .inl fun _ _ => rfl
  case h_5 => exact (hdefinition statement []).imp id fun h => ⟨_, _, h⟩
  all_goals exact .inl fun _ _ => rfl

/-- The class has the same header, and what its body declares and reports is less. -/
theorem reduces_classStub (h : settings.typeCheckingNames ⊆ more.typeCheckingNames)
    (source : Source) (definition : Node) (decorators : List Node) :
    let fewer := classStub more source definition decorators
    let all := classStub settings source definition decorators
    Declaration.Reduces (.classStub fewer.value) (.classStub all.value) ∧
      fewer.findings.Sublist all.findings ∧ fewer.required ⊆ all.required := by
  have hreports := (bodyLeaves_sublist_of_subset h source definition).map fun leaf =>
    classStatement source leaf.node leaf.following
  simp only [classStub_eq]
  refine ⟨?_, ?_, ?_⟩
  · exact .members { name := _, bases := _, body := _ } (hreports.flatMap _)
  · exact (hreports.flatMap _).append_left _
  · exact ((hreports.flatMap _).append_left _).subset

/-- A class and nothing else. -/
theorem ofReport_classStub (source : Source) (report : Report ClassStub) :
    ofReport source ((fun cls => [.declaration (.classStub cls)]) <$> report) =
      { stub := { content := [.classStub report.value] }
        required := .ofList (report.required.map TypingName.qualified)
        diagnostics := report.findings.map (·.diagnostic source) } := by
  simp [ofReport, ModuleStub.ofItems, ModuleItem.import?, ModuleItem.importFrom?,
    ModuleItem.declaration?]

theorem reduces_extractStatement (h : settings.typeCheckingNames ⊆ more.typeCheckingNames)
    (leaf : PlacedStatement) :
    (extractStatement more source leaf).Reduces (extractStatement settings source leaf) := by
  rw [extractStatement, extractStatement]
  rcases moduleStatement_settings_cases source leaf.node leaf.following with
    hsame | ⟨definition, decorators, hclass⟩
  · rw [hsame settings more]
    exact reduces_self _
  · obtain ⟨hreduces, hfindings, hrequired⟩ :=
      reduces_classStub h source definition decorators
    rw [hclass, hclass, ofReport_classStub, ofReport_classStub]
    constructor
    case imports | importFroms => exact List.Sublist.refl _
    case content => exact .cons hreduces .nil
    case diagnostics => exact hfindings.map _
    case required =>
      intro name hname
      rw [RequiredImports.mem_names_ofList] at hname ⊢
      exact List.map_subset _ hrequired hname

end Extraction

/-- With more guard names an extraction has nothing but what it had before, in the same order: some
of the imports, of the diagnostics and of the required names, and some of the declarations, among
which a class may have lost members of its body. -/
theorem extract_reduces_of_subset {settings more : ExtractSettings}
    (h : settings.typeCheckingNames ⊆ more.typeCheckingNames) (source : Source) (root : Node) :
    (extract more source root).Reduces (extract settings source root) := by
  apply (extract_joins more source root).reduces (extract_joins settings source root)
  rw [List.sublistForall₂_map_left_iff, List.sublistForall₂_map_right_iff,
    List.sublistForall₂_iff]
  refine ⟨_, List.forall₂_same.2 fun leaf _ => ?_, leafStatements_sublist_of_subset h root⟩
  exact reduces_extractStatement h leaf

/-! A class with a field for either value of `DEBUG`, and an import for when it is false. -/

def annotatedStatement (start : Nat) : Node :=
  .inner .expressionStatement none start (start + 6) [
    .inner .assignment none start (start + 6) [
      .inner .identifier (some .left) start (start + 1) [],
      .token ":" (start + 1) (start + 2),
      .inner .type (some .type) (start + 3) (start + 6) [
        .inner .identifier none (start + 3) (start + 6) []]]]

def debugFields : Node :=
  .inner .ifStatement none 13 62 [
    .token "if" 13 15,
    .inner .identifier (some .condition) 16 21 [],
    .token ":" 21 22,
    .inner .block (some .consequence) 31 37 [annotatedStatement 31],
    .inner .elseClause (some .alternative) 42 62 [
      .token "else" 42 46,
      .token ":" 46 47,
      .inner .block (some .body) 56 62 [annotatedStatement 56]]]

def debugImport : Node :=
  .inner .ifStatement none 63 90 [
    .token "if" 63 65,
    .inner .notOperator (some .condition) 66 75 [
      .token "not" 66 69,
      .inner .identifier (some .argument) 70 75 []],
    .token ":" 75 76,
    .inner .block (some .consequence) 81 90 [
      .inner .importStatement none 81 90 [
        .token "import" 81 87,
        .inner .dottedName (some .name) 88 90 [.inner .identifier none 88 90 []]]]]

def debugModule : Node :=
  .inner (.other "module") none 0 91 [
    .inner .classDefinition none 0 62 [
      .token "class" 0 5,
      .inner .identifier (some .name) 6 7 [],
      .token ":" 7 8,
      .inner .block (some .body) 13 62 [debugFields]],
    debugImport]

def debugSource : Source :=
  .ofText "debug.py" ("class A:\n    if DEBUG:\n        x: int\n    else:\n        y: int\n" ++
    "if not DEBUG:\n    import os\n")

/-- With `DEBUG` configured the class loses a field, and the module an import. -/
theorem debugModule_reduces :
    let more : ExtractSettings := ⟨["DEBUG", "TYPE_CHECKING"]⟩
    ({} : ExtractSettings).typeCheckingNames ⊆ more.typeCheckingNames ∧
    (extract {} debugSource debugModule).stub =
      { imports := [⟨"os", none⟩]
        content := [.classStub { name := "A", body := [
          .field ⟨"x", "int", false⟩, .field ⟨"y", "int", false⟩] }] } ∧
    (extract more debugSource debugModule).stub =
      { content := [.classStub { name := "A", body := [.field ⟨"x", "int", false⟩] }] } ∧
    (extract more debugSource debugModule).Reduces (extract {} debugSource debugModule) := by
  have hsubset : ({} : ExtractSettings).typeCheckingNames ⊆ ["DEBUG", "TYPE_CHECKING"] := by decide
  exact ⟨hsubset, by decide +kernel, by decide +kernel,
    extract_reduces_of_subset hsubset debugSource debugModule⟩

end InterfaceStub
