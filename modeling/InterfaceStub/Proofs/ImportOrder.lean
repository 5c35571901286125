import InterfaceStub.Proofs.ExtractedForm
import InterfaceStub.Proofs.RequiredCover

/-!
# The order of imports

A source has its imports in any order.  A stub has those of the form `import name` first and those
of the form `from path import names` after them, each kind in the order of the source, and then the
lines for required names.  So an import from `__future__` that comes first in the source comes first
among the `from` lines of the stub, and first among all of them only if no `import` line is there.

* `importStatements` are the imports of a tree in the order of the source, those inside `if` and
  `try` statements included, and `Extraction.importBlock` the same imports as a stub has them.  Both
  are lists of `ImportLine`, and `FutureFirst` is asked of the one and of the other.
* `filterMap_importLine?_moduleItems` says that the items of a module have these imports in this
  order.  What a stub has of each kind follows.
* `futureFirst_importBlock_iff` is the result.
-/

namespace InterfaceStub

open Syntax Extraction

/-! ## Import lines -/

/-- An import, of either form. -/
inductive ImportLine where
  | import (statement : Import)
  | importFrom (statement : ImportFrom)
  deriving DecidableEq, Repr

namespace ImportLine

def import? : ImportLine → Option Import
  | .import statement => some statement
  | .importFrom _ => none

def importFrom? : ImportLine → Option ImportFrom
  | .import _ => none
  | .importFrom statement => some statement

/-- The line as it is written. -/
def text : ImportLine → String
  | .import statement => statement.line
  | .importFrom statement => statement.line

/-- Whether the line reads `from __future__ import ...`. -/
def isFuture : ImportLine → Bool
  | .import _ => false
  | .importFrom statement => statement.path == "__future__" && !statement.isRelative

end ImportLine

/-- No import comes before one from `__future__` unless it is one itself. -/
def FutureFirst (lines : List ImportLine) : Prop :=
  lines.Pairwise fun first second => second.isFuture → first.isFuture

instance (lines : List ImportLine) : Decidable (FutureFirst lines) :=
  inferInstanceAs (Decidable (lines.Pairwise _))

theorem futureFirst_of_forall {lines : List ImportLine}
    (h : ∀ line ∈ lines, line.isFuture = false) : FutureFirst lines := by
  apply List.pairwise_iff_forall_sublist.2
  intro first second hpair hfuture
  have hsecond : second ∈ lines := hpair.subset (by simp)
  exact absurd hfuture (by simp [h second hsecond])

/-- Lines that are not from `__future__` may be added at the end. -/
theorem FutureFirst.append {lines others : List ImportLine} (h : FutureFirst lines)
    (hothers : ∀ line ∈ others, line.isFuture = false) : FutureFirst (lines ++ others) := by
  refine List.pairwise_append.2 ⟨h, futureFirst_of_forall hothers, ?_⟩
  intro _ _ other hother hfuture
  exact absurd hfuture (by simp [hothers other hother])

/-- They may be added at the front only if no line is from `__future__`. -/
theorem futureFirst_append_iff {others lines : List ImportLine}
    (hothers : ∀ line ∈ others, line.isFuture = false) :
    FutureFirst (others ++ lines) ↔
      FutureFirst lines ∧ ((∃ line ∈ lines, line.isFuture) → others = []) := by
  constructor
  · intro h
    obtain ⟨-, hlines, hacross⟩ := List.pairwise_append.1 h
    refine ⟨hlines, ?_⟩
    rintro ⟨line, hline, hfuture⟩
    apply List.eq_nil_iff_forall_not_mem.2
    intro other hother
    exact absurd (hacross other hother line hline hfuture) (by simp [hothers other hother])
  · rintro ⟨hlines, hempty⟩
    refine List.pairwise_append.2 ⟨futureFirst_of_forall hothers, hlines, ?_⟩
    intro other hother line hline hfuture
    rw [hempty ⟨line, hline, hfuture⟩] at hother
    cases hother

/-! ## The imports of a source -/

/-- The import of an item, if it is one. -/
def ModuleItem.importLine? : ModuleItem → Option ImportLine
  | .import statement => some (.import statement)
  | .importFrom statement => some (.importFrom statement)
  | .declaration _ => none

/-- The imports of a statement. -/
def importsOf (source : Source) (statement : Node) : List ImportLine :=
  match statement.statement with
  | .importNames => (importNames source statement).map .import
  | .importFrom => [.importFrom (importFrom source statement)]
  | _ => []

/-- The imports of a tree that are extracted, in the order of the source. -/
def importStatements (settings : ExtractSettings) (source : Source) (root : Node) :
    List ImportLine :=
  (leafStatements settings source root).flatMap fun leaf => importsOf source leaf.node

variable {settings : ExtractSettings} {source : Source} {root : Node}

theorem filterMap_importLine?_moduleStatement (statement : Node) (following : List Node) :
    (moduleStatement settings source statement following).value.filterMap ModuleItem.importLine? =
      importsOf source statement := by
  rw [importsOf]
  split
  · rename_i hsort
    simp [moduleStatement, hsort, List.filterMap_map, Function.comp_def, ModuleItem.importLine?]
  · rename_i hsort
    simp [moduleStatement, hsort, ModuleItem.importLine?]
  · rename_i hnames hfrom
    apply List.filterMap_eq_nil_iff.2
    intro item hitem
    cases moduleItemFrom_of_mem hitem with
    | «import» hsort => exact absurd hsort hnames
    | importFrom hsort => exact absurd hsort hfrom
    | assigned | function | classStub => rfl

/-- The items of a module have the imports of the tree, in their order. -/
theorem filterMap_importLine?_moduleItems :
    (moduleItems settings source root).value.filterMap ModuleItem.importLine? =
      importStatements settings source root := by
  rw [moduleItems, blockItems_eq_leafStatements, Report.value_gatherAll_map, List.filterMap_flatMap]
  simp only [filterMap_importLine?_moduleStatement, importStatements]

theorem imports_extract :
    (extract settings source root).stub.imports =
      (importStatements settings source root).filterMap ImportLine.import? := by
  rw [← filterMap_importLine?_moduleItems, List.filterMap_filterMap]
  refine List.filterMap_congr fun item _ => ?_
  cases item <;> rfl

theorem importFroms_extract :
    (extract settings source root).stub.importFroms =
      (importStatements settings source root).filterMap ImportLine.importFrom? := by
  rw [← filterMap_importLine?_moduleItems, List.filterMap_filterMap]
  refine List.filterMap_congr fun item _ => ?_
  cases item <;> rfl

/-! ## The imports of a stub -/

namespace Extraction

/-- The `from` lines of a stub: those of the module, and those for required names. -/
def fromBlock (extraction : Extraction) (generate : GenerateSettings) : List ImportLine :=
  (extraction.stub.importFroms ++ (extraction.written generate).map ImportFrom.ofGroup).map
    .importFrom

/-- The import lines of a stub. -/
def importBlock (extraction : Extraction) (generate : GenerateSettings) : List ImportLine :=
  extraction.stub.imports.map .import ++ extraction.fromBlock generate

theorem importLines_eq_importBlock (extraction : Extraction) (generate : GenerateSettings) :
    extraction.stub.importLines (extraction.written generate) =
      (extraction.importBlock generate).map ImportLine.text := by
  simp [ModuleStub.importLines, importBlock, fromBlock, ImportLine.text, Function.comp_def,
    ImportFrom.line_ofGroup]

end Extraction

/-! ## What becomes of imports from `__future__` -/

/-- No line for required names is from `__future__`. -/
theorem isFuture_of_mem_required {generate : GenerateSettings} {line : ImportLine}
    (h : line ∈ (((extract settings source root).written generate).map .ofGroup).map .importFrom) :
    line.isFuture = false := by
  rw [List.map_map] at h
  obtain ⟨group, hgroup, rfl⟩ := List.mem_map.1 h
  simp [ImportLine.isFuture, ImportFrom.ofGroup, path_of_mem_written hgroup]

/-- Among the `from` lines of a stub, the imports from `__future__` stay first. -/
theorem futureFirst_fromBlock (h : FutureFirst (importStatements settings source root))
    (generate : GenerateSettings) :
    FutureFirst ((extract settings source root).fromBlock generate) := by
  rw [fromBlock, List.map_append]
  refine FutureFirst.append ?_ fun _ => isFuture_of_mem_required
  rw [importFroms_extract]
  -- The filter leaves out the other kind, and of two lines that are left none is changed.
  refine List.pairwise_map.2 (h.filterMap _ ?_)
  rintro (_ | first) (_ | second) hpair _ ⟨⟩ _ ⟨⟩
  exact hpair

theorem mem_fromBlock_iff_of_isFuture {generate : GenerateSettings} {line : ImportLine}
    (h : line.isFuture) :
    line ∈ (extract settings source root).fromBlock generate ↔
      line ∈ importStatements settings source root := by
  rw [fromBlock, List.map_append, importFroms_extract, List.mem_append]
  cases line with
  | «import» => cases h
  | importFrom statement =>
    constructor
    · rintro (hown | hrequired)
      · obtain ⟨_, hown, ⟨⟩⟩ := List.mem_map.1 hown
        obtain ⟨_ | _, hline, ⟨⟩⟩ := List.mem_filterMap.1 hown
        exact hline
      · exact absurd h (by simp [isFuture_of_mem_required hrequired])
    · intro hline
      exact .inl (List.mem_map_of_mem (List.mem_filterMap.2 ⟨_, hline, rfl⟩))

theorem imports_extract_eq_nil_iff :
    (extract settings source root).stub.imports = [] ↔
      ∀ statement, .import statement ∉ importStatements settings source root := by
  rw [imports_extract, List.filterMap_eq_nil_iff]
  constructor
  · intro h statement hstatement
    cases h _ hstatement
  · intro h line hline
    cases line with
    | «import» statement => exact absurd hline (h statement)
    | importFrom => rfl

/-- Let the imports from `__future__` come first in a source.  The stub then has its `import` lines
and after them its `from` lines, where those from `__future__` come first.  They come first among
all lines of both kinds exactly if the source has none of them or none of the form `import name`. -/
theorem futureFirst_importBlock_iff (h : FutureFirst (importStatements settings source root))
    (generate : GenerateSettings) :
    let extraction := extract settings source root
    (∃ blank, (blank = [] ∨ blank = [""]) ∧
      extraction.render generate =
        joinLines ((extraction.importBlock generate).map ImportLine.text ++ blank ++
          extraction.stub.content.flatMap Declaration.lines)) ∧
    FutureFirst (extraction.fromBlock generate) ∧
    (FutureFirst (extraction.importBlock generate) ↔
      ((∃ line ∈ importStatements settings source root, line.isFuture) →
        ∀ statement, .import statement ∉ importStatements settings source root)) := by
  intro extraction
  have hfroms := futureFirst_fromBlock h generate
  have hfuture : (∃ line ∈ extraction.fromBlock generate, line.isFuture) ↔
      ∃ line ∈ importStatements settings source root, line.isFuture :=
    exists_congr fun _ => and_congr_left mem_fromBlock_iff_of_isFuture
  have himports : ∀ line ∈ extraction.stub.imports.map ImportLine.import,
      line.isFuture = false := by
    intro line hline
    obtain ⟨statement, -, rfl⟩ := List.mem_map.1 hline
    rfl
  refine ⟨?_, hfroms, ?_⟩
  · rw [render_eq_joinLines, Extraction.lines, ModuleStub.lines_eq_front, ModuleStub.frontLines,
      importLines_eq_importBlock]
    refine ⟨_, ?_, rfl⟩
    split <;> simp
  · rw [importBlock, futureFirst_append_iff himports, hfuture, List.map_eq_nil_iff,
      imports_extract_eq_nil_iff]
    exact and_iff_right hfroms

/-! An `import` after an import from `__future__`; and then a guarded `from` import in its place,
with a value whose type requires a name. -/

def futureStatement : Node :=
  .inner .futureImportStatement none 0 34 [
    .token "from" 0 4,
    .token "__future__" 5 15,
    .token "import" 16 22,
    .inner .dottedName (some .name) 23 34 [.inner .identifier none 23 34 []]]

def mixedModule : Node :=
  .inner (.other "module") none 0 45 [
    futureStatement,
    .inner .importStatement none 35 44 [
      .token "import" 35 41,
      .inner .dottedName (some .name) 42 44 [.inner .identifier none 42 44 []]]]

def mixedSource : Source :=
  .ofText "mixed.py" "from __future__ import annotations\nimport os\n"

/-- The first of two imports comes last. -/
theorem mixedModule_not_futureFirst :
    mixedSource.check mixedModule = .ok () ∧
    FutureFirst (importStatements {} mixedSource mixedModule) ∧
    (extract {} mixedSource mixedModule).render {} =
      "import os\nfrom __future__ import annotations\n" ∧
    ¬FutureFirst ((extract {} mixedSource mixedModule).importBlock {}) := by
  refine ⟨rfl, ?_, ?_, ?_⟩ <;> decide +kernel

def guardedImport : Node :=
  .inner .ifStatement none 35 68 [
    .token "if" 35 37,
    .inner .identifier (some .condition) 38 43 [],
    .token ":" 43 44,
    .inner .block (some .consequence) 49 68 [
      .inner .importFromStatement none 49 68 [
        .token "from" 49 53,
        .inner .dottedName (some .moduleName) 54 56 [.inner .identifier none 54 56 []],
        .token "import" 57 63,
        .inner .dottedName (some .name) 64 68 [.inner .identifier none 64 68 []]]]]

def guardedImportModule : Node :=
  .inner (.other "module") none 0 77 [
    futureStatement,
    guardedImport,
    .inner .expressionStatement none 69 76 [
      .inner .assignment none 69 76 [
        .inner .identifier (some .left) 69 70 [],
        .token "=" 71 72,
        .inner .call (some .right) 73 76 [
          .inner .identifier (some (.other "function")) 73 74 [],
          .inner (.other "argument_list") (some (.other "arguments")) 74 76 [
            .token "(" 74 75,
            .token ")" 75 76]]]]]

def guardedImportSource : Source :=
  .ofText "guarded.py"
    "from __future__ import annotations\nif DEBUG:\n    from os import path\nx = f()\n"

theorem guardedImportModule_futureFirst :
    guardedImportSource.check guardedImportModule = .ok () ∧
    FutureFirst (importStatements {} guardedImportSource guardedImportModule) ∧
    (extract {} guardedImportSource guardedImportModule).render ⟨true⟩ =
      "from __future__ import annotations\nfrom os import path\nfrom typing import Any\n\n" ++
        "x: Any\n" ∧
    FutureFirst ((extract {} guardedImportSource guardedImportModule).importBlock ⟨true⟩) := by
  have hfirst : FutureFirst (importStatements {} guardedImportSource guardedImportModule) := by
    decide +kernel
  have hplain : (importStatements {} guardedImportSource guardedImportModule).filterMap
      ImportLine.import? = [] := by decide +kernel
  obtain ⟨-, -, hiff⟩ := futureFirst_importBlock_iff hfirst ⟨true⟩
  refine ⟨rfl, hfirst, by decide +kernel, hiff.2 fun _ => ?_⟩
  exact imports_extract_eq_nil_iff.1 (imports_extract.trans hplain)

end InterfaceStub
