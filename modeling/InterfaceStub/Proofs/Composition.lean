import InterfaceStub.Proofs.LeafStatements
import InterfaceStub.Proofs.Reports
import Mathlib.Data.List.Sort

/-!
# A module is its leaf statements

Extraction goes down into `if` and `try` statements and adds to one stub as it goes.  Nothing of
that is seen in the result: it is what the leaf statements yield, each by itself.

* `blockItems_eq_leafStatements` says so for one block, whatever is asked of a leaf statement.  It
  is the induction over the tree; the rest follows from it.
* `Joins` says that an extraction has what some others have, one after the other.
* `Report.run` reads a report as a run over what was extracted before, the diagnostics of earlier
  sources included; by `run_bind` one report and then another are one run and then another.
  `joins_runModule` says that what was there before makes no difference.
* `extract_compositional` is the result, for modules and for the bodies of classes.
-/

namespace InterfaceStub

open Syntax Extraction

/-! ## A block is its leaf statements -/

namespace Extraction

theorem map_ownStatements (block : Node) :
    block.ownStatements.map (fun statement => (statement.node, statement.following)) =
      block.placedStatements := by
  have hmap := List.filter_map (f := Prod.fst) (p := fun statement : Node × List Node =>
    statement.1.isPart) (l := (withFollowing block.children).zipIdx)
  rw [List.zipIdx_map_fst] at hmap
  rw [Node.ownStatements, List.map_map, Node.placedStatements, hmap]
  rfl

/-- What a block declares is what its leaf statements declare, each by itself, in order. -/
theorem blockItems_eq_leafStatements (settings : ExtractSettings) (source : Source)
    (leaf : Node → List Node → Report (List α)) (block : Node) :
    blockItems settings source leaf block =
      Report.gatherAll ((leafStatements settings source block).map fun statement =>
        leaf statement.node statement.following) := by
  induction hsize : block.size using Nat.strongRecOn generalizing block with
  | ind size ih =>
    rw [blockItems_eq, leafStatements_eq, List.map_flatMap, ← Report.gatherAll_flatMap,
      ← map_ownStatements, List.map_map]
    refine congrArg Report.gatherAll (List.map_congr_left fun statement hstatement => ?_)
    have hblocks := map_node_innerPlaces? settings source statement.node
    rw [Function.comp_apply, ← hblocks, leavesOf]
    cases hplaces : innerPlaces? settings source statement.node with
    | none => exact (Report.gatherAll_singleton _).symm
    | some places =>
      simp only [Option.map_some, List.map_map]
      rw [List.map_flatMap, ← Report.gatherAll_flatMap]
      refine congrArg Report.gatherAll (List.map_congr_left fun place hplace => ?_)
      have hlt : place.node.size < size := hsize ▸ Nat.lt_trans
        (size_lt_of_innerPlaces? hplaces hplace) (size_lt_of_mem_ownStatements hstatement)
      rw [Function.comp_apply, ih _ hlt place.node rfl, List.map_map]
      rfl

end Extraction

/-! ## One extraction after the other -/

namespace RequiredImports

/-- A set of names is known by its members. -/
theorem eq_of_mem_iff {first second : RequiredImports}
    (h : ∀ name, name ∈ first.names ↔ name ∈ second.names) : first = second := by
  obtain ⟨names, hnames⟩ := first
  obtain ⟨others, hothers⟩ := second
  obtain rfl : names = others := hnames.eq_of_mem_iff hothers h
  rfl

end RequiredImports

namespace Extraction

/-- The extraction that a report of the items of a module stands for. -/
def ofReport (source : Source) (report : Report (List ModuleItem)) : Extraction where
  stub := .ofItems report.value
  required := .ofList (report.required.map TypingName.qualified)
  diagnostics := report.findings.map (·.diagnostic source)

/-- An extraction has what some extractions have, one after the other. -/
structure Joins (whole : Extraction) (parts : List Extraction) : Prop where
  imports : whole.stub.imports = parts.flatMap (·.stub.imports)
  importFroms : whole.stub.importFroms = parts.flatMap (·.stub.importFroms)
  content : whole.stub.content = parts.flatMap (·.stub.content)
  diagnostics : whole.diagnostics = parts.flatMap (·.diagnostics)
  required (name : String) :
    name ∈ whole.required.names ↔ ∃ part ∈ parts, name ∈ part.required.names

theorem Joins.eq {first second : Extraction} {parts : List Extraction} (hfirst : first.Joins parts)
    (hsecond : second.Joins parts) : first = second := by
  obtain ⟨⟨imports, importFroms, content⟩, required, diagnostics⟩ := first
  obtain ⟨⟨imports', importFroms', content'⟩, required', diagnostics'⟩ := second
  obtain rfl : imports = imports' := hfirst.imports.trans hsecond.imports.symm
  obtain rfl : importFroms = importFroms' := hfirst.importFroms.trans hsecond.importFroms.symm
  obtain rfl : content = content' := hfirst.content.trans hsecond.content.symm
  obtain rfl : diagnostics = diagnostics' := hfirst.diagnostics.trans hsecond.diagnostics.symm
  obtain rfl : required = required' := RequiredImports.eq_of_mem_iff fun name =>
    (hfirst.required name).trans (hsecond.required name).symm
  rfl

theorem joins_ofReport (source : Source) (reports : List (Report (List ModuleItem))) :
    (ofReport source (Report.gatherAll reports)).Joins (reports.map (ofReport source)) := by
  have hitems {α : Type} (item? : ModuleItem → Option α) :
      (Report.gatherAll reports).value.filterMap item? =
        reports.flatMap fun report => report.value.filterMap item? := by
    simp [Report.gatherAll, Report.gather, List.filterMap_flatten, List.flatMap_def,
      Function.comp_def]
  constructor
  case imports => rw [List.flatMap_map]; exact hitems _
  case importFroms => rw [List.flatMap_map]; exact hitems _
  case content => rw [List.flatMap_map]; exact hitems _
  case diagnostics =>
    simp [ofReport, Report.gatherAll, Report.gather, List.map_flatMap, List.flatMap_map]
  case required =>
    intro name
    simp only [ofReport, Report.gatherAll, Report.gather, Report.required_map,
      RequiredImports.mem_names_ofList, List.map_flatMap, List.mem_flatMap, List.mem_map,
      exists_exists_and_eq_and]

/-! ## Runs over a context -/

namespace Report

/-- A report read as a run.  It starts with what was extracted before: the findings go to the end of
the diagnostics that are there, and the names that are relied on to those that are required. -/
def run (source : Source) (report : Report α) : StateM Extraction α := do
  modify fun context =>
    { context with
      required := (report.required.map TypingName.qualified).foldl .insert context.required
      diagnostics := context.diagnostics ++ report.findings.map (·.diagnostic source) }
  return report.value

@[simp] theorem run_run (source : Source) (report : Report α) (context : Extraction) :
    (report.run source).run context =
      pure (report.value,
        { context with
          required := (report.required.map TypingName.qualified).foldl .insert context.required
          diagnostics := context.diagnostics ++ report.findings.map (·.diagnostic source) }) :=
  rfl

theorem run_pure (source : Source) (value : α) :
    (pure value : Report α).run source = pure value := by
  refine StateT.ext fun context => ?_
  simp

/-- Reports one after the other are runs one after the other. -/
theorem run_bind (source : Source) (report : Report α) (next : α → Report β) :
    (report >>= next).run source = report.run source >>= fun value => (next value).run source := by
  refine StateT.ext fun context => ?_
  simp

end Report

/-- Puts items at the end of the stub of a context. -/
def declare (items : List ModuleItem) : StateM Extraction Unit :=
  modify fun context => { context with stub := context.stub ++ .ofItems items }

@[simp] theorem run_declare (items : List ModuleItem) (context : Extraction) :
    (declare items).run context =
      pure ((), { context with stub := context.stub ++ .ofItems items }) :=
  rfl

theorem declare_nil : declare [] = pure () := by
  refine StateT.ext fun context => ?_
  have hstub : context.stub ++ ModuleStub.ofItems [] = context.stub := by
    change ModuleStub.mk _ _ _ = context.stub
    simp [ModuleStub.ofItems]
  simp [hstub]

/-- The run of a report of the items of a module, with the items declared. -/
def Report.runModule (source : Source) (report : Report (List ModuleItem)) :
    StateM Extraction Unit :=
  report.run source >>= declare

theorem append_ofItems (stub : ModuleStub) (first second : List ModuleItem) :
    stub ++ ModuleStub.ofItems first ++ ModuleStub.ofItems second =
      stub ++ ModuleStub.ofItems (first ++ second) := by
  change ModuleStub.mk _ _ _ = ModuleStub.mk _ _ _
  simp [ModuleStub.ofItems]

/-- A report neither sees nor changes what is declared. -/
theorem declare_runModule (source : Source) (items : List ModuleItem)
    (report : Report (List ModuleItem)) :
    (declare items >>= fun _ => report.runModule source) =
      report.run source >>= fun rest => declare (items ++ rest) := by
  refine StateT.ext fun context => ?_
  simp [Report.runModule, append_ofItems]

theorem runModule_gatherAll (source : Source) (reports : List (Report (List ModuleItem))) :
    (Report.gatherAll reports).runModule source = reports.forM (·.runModule source) := by
  induction reports with
  | nil =>
    calc (Report.gatherAll []).runModule source
        = (pure [] : Report (List ModuleItem)).run source >>= declare := rfl
      _ = pure () := by rw [Report.run_pure, pure_bind, declare_nil]
  | cons report reports ih =>
    calc (Report.gatherAll (report :: reports)).runModule source
        = report.run source >>= fun items => (Report.gatherAll reports).run source >>= fun rest =>
            declare (items ++ rest) := by
          rw [Report.runModule, Report.gatherAll_cons]
          simp [Report.run_bind, Report.run_pure]
      _ = report.runModule source >>= fun _ => (Report.gatherAll reports).runModule source := by
          simp only [← declare_runModule, Report.runModule, bind_assoc]
      _ = (report :: reports).forM (·.runModule source) := by
          rw [ih]
          rfl

/-- What a run leaves is what was there before, and then what the report stands for by itself. -/
theorem joins_runModule (source : Source) (report : Report (List ModuleItem))
    (before : Extraction) :
    ((report.runModule source).run before).run.2.Joins [before, ofReport source report] := by
  constructor
  case required =>
    intro name
    simp [Report.runModule, ofReport, RequiredImports.mem_names_foldl_insert, or_comm]
  all_goals simp [Report.runModule, ofReport]

/-- The context in which nothing was extracted. -/
def empty : Extraction :=
  ⟨{}, .empty, []⟩

/-- What a report stands for is what its run leaves if nothing was there before. -/
theorem runModule_empty (source : Source) (report : Report (List ModuleItem)) :
    ((report.runModule source).run empty).run.2 = ofReport source report := by
  refine (joins_runModule source report empty).eq ?_
  constructor <;> simp [empty, RequiredImports.empty]

/-! ## Classes -/

/-- The leaf statements of the body of a class. -/
def bodyLeaves (settings : ExtractSettings) (source : Source) (definition : Node) :
    List PlacedStatement :=
  ((definition.child? .body).map (leafStatements settings source)).getD []

theorem classBody_eq_bodyLeaves (settings : ExtractSettings) (source : Source)
    (definition : Node) :
    classBody settings source definition =
      Report.gatherAll ((bodyLeaves settings source definition).map fun leaf =>
        classStatement source leaf.node leaf.following) := by
  rw [classBody, bodyLeaves]
  cases definition.child? .body with
  | none => rfl
  | some block => exact blockItems_eq_leafStatements settings source (classStatement source) block

/-- The parts of the stub of a class: what its header gives, and what the leaf statements of its
body give. -/
theorem classStub_eq (settings : ExtractSettings) (source : Source) (definition : Node)
    (decorators : List Node) :
    let header := classHeader source definition decorators
    let reports := (bodyLeaves settings source definition).map fun leaf =>
      classStatement source leaf.node leaf.following
    classStub settings source definition decorators =
      ⟨{ name := nameOf source definition, bases := header.value,
          body := reports.flatMap (·.value) },
        header.findings ++ reports.flatMap (·.findings),
        header.required ++ reports.flatMap (·.required)⟩ := by
  rw [classStub, classBody_eq_bodyLeaves]
  simp [Bind.bind, Report.bind, Pure.pure, Report.gatherAll, Report.gather, Functor.map,
    List.flatMap_def]

end Extraction

/-! ## Modules -/

/-- What a statement of a module yields by itself. -/
def extractStatement (settings : ExtractSettings) (source : Source) (statement : PlacedStatement) :
    Extraction :=
  .ofReport source (moduleStatement settings source statement.node statement.following)

theorem extract_joins (settings : ExtractSettings) (source : Source) (root : Node) :
    (extract settings source root).Joins
      ((leafStatements settings source root).map (extractStatement settings source)) := by
  have hjoins := joins_ofReport source ((leafStatements settings source root).map fun leaf =>
    moduleStatement settings source leaf.node leaf.following)
  rw [← blockItems_eq_leafStatements, List.map_map] at hjoins
  exact hjoins

/-- Extraction is compositional.  A module is what its leaf statements yield, each in its place in
the tree and with nothing extracted before, one after the other.  A run over its leaf statements
keeps whatever was there before and adds the same to it.  The body of a class is what its leaf
statements yield, too.  Each leaf statement stands in one place only. -/
theorem extract_compositional (settings : ExtractSettings) (source : Source) (root : Node) :
    (extract settings source root).Joins
      ((leafStatements settings source root).map (extractStatement settings source)) ∧
    (∀ before : Extraction,
      let whole := (moduleItems settings source root).runModule source
      let leaves := (leafStatements settings source root).forM fun leaf =>
        (moduleStatement settings source leaf.node leaf.following).runModule source
      leaves.run before = whole.run before ∧
        (whole.run before).run.2.Joins [before, extract settings source root]) ∧
    (∀ leaf : PlacedStatement,
      let statement := moduleStatement settings source leaf.node leaf.following
      ((statement.runModule source).run .empty).run.2 = extractStatement settings source leaf) ∧
    (∀ definition decorators,
      let stub := classStub settings source definition decorators
      let header := classHeader source definition decorators
      let reports := (bodyLeaves settings source definition).map fun leaf =>
        classStatement source leaf.node leaf.following
      stub.value.body = reports.flatMap (·.value) ∧
        stub.findings = header.findings ++ reports.flatMap (·.findings) ∧
        stub.required = header.required ++ reports.flatMap (·.required)) ∧
    ∀ block, ((leafStatements settings source block).map (·.path)).Nodup ∧
      ∀ leaf ∈ leafStatements settings source block,
        StandsIn block leaf ∧ innerBlocks? settings source leaf.node = none := by
  have hjoins := extract_joins settings source root
  refine ⟨hjoins, fun before => ?_, fun leaf => runModule_empty source _,
    fun definition decorators => ?_, fun block => ?_⟩
  · refine ⟨?_, joins_runModule source _ before⟩
    rw [moduleItems, blockItems_eq_leafStatements, runModule_gatherAll]
    simp
  · simp [classStub, classBody_eq_bodyLeaves, Report.gatherAll, Report.gather, List.flatMap_def]
  · exact ⟨nodup_leafPaths settings source block, fun leaf hleaf =>
      ⟨standsIn_of_mem_leafStatements hleaf, innerBlocks?_of_mem_leafStatements hleaf⟩⟩

end InterfaceStub
