import InterfaceStub.Extraction.Block

/-!
# Laws of reports

A report is a value and what came up while it was made.  A report of a plain value reports nothing,
and reports one after the other are one report.  `blockItems_eq` is the equation for a block.
-/

namespace InterfaceStub.Extraction

open Syntax

namespace Report

@[simp] theorem pure_bind (value : α) (next : α → Report β) :
    (pure value >>= next) = next value := rfl

@[simp] theorem bind_assoc (report : Report α) (next : α → Report β) (last : β → Report γ) :
    (report >>= next >>= last) = report >>= fun value => next value >>= last := by
  simp [Bind.bind, Report.bind]

@[simp] theorem map_pure (f : α → β) (value : α) :
    f <$> (pure value : Report α) = pure (f value) := rfl

theorem gather_pure (values : List α) :
    gather (values.map pure) = (pure values : Report (List α)) := by
  simp [gather, Function.comp_def, pure]

theorem gatherAll_pure (values : List (List α)) :
    gatherAll (values.map pure) = (pure values.flatten : Report (List α)) := by
  rw [gatherAll, gather_pure, map_pure]

theorem gatherAll_singleton (report : Report (List α)) : gatherAll [report] = report := by
  simp [gatherAll, gather, Functor.map, Report.bind]

theorem gatherAll_cons (report : Report (List α)) (reports : List (Report (List α))) :
    gatherAll (report :: reports) =
      report >>= fun items => gatherAll reports >>= fun rest => pure (items ++ rest) := by
  simp [gatherAll, gather, Functor.map, Report.bind, Bind.bind, pure]

/-- Reports in groups, the groups one after the other, are the reports one after the other. -/
theorem gatherAll_flatMap (items : List α) (reports : α → List (Report (List β))) :
    gatherAll (items.map fun item => gatherAll (reports item)) =
      gatherAll (items.flatMap reports) := by
  simp [gatherAll, gather, Functor.map, Report.bind, List.flatten_flatten, Function.comp_def,
    List.flatMap_def]

end Report

/-- The statements of a block, one after the other. -/
theorem blockItems_eq (settings : ExtractSettings) (source : Source)
    (leaf : Node → List Node → Report (List α)) (block : Node) :
    blockItems settings source leaf block =
      Report.gatherAll (block.placedStatements.map fun statement =>
        match innerBlocks? settings source statement.1 with
        | some blocks => Report.gatherAll (blocks.map (blockItems settings source leaf))
        | none => leaf statement.1 statement.2) := by
  rw [blockItems, ← List.attach_map_val (l := block.placedStatements)]
  refine congrArg Report.gatherAll (List.map_congr_left fun statement _ => ?_)
  split
  · rename_i blocks hblocks
    rw [hblocks]
    simp only [List.attach_map_val]
  · rename_i hblocks
    rw [hblocks]

end InterfaceStub.Extraction
