import InterfaceStub.Extraction.Guard
import InterfaceStub.Extraction.Report
import InterfaceStub.Syntax.Statement

/-!
# Blocks

`blockItems` goes through the statements of a block in order.  Of an `if` statement it goes through
the branches that are kept, of a `try` statement through the blocks that run when nothing is raised.
Every other statement is given to a function that says what it declares.
-/

namespace InterfaceStub.Syntax

/-- Each item of a list with the items after it. -/
def withFollowing : List α → List (α × List α)
  | [] => []
  | item :: items => (item, items) :: withFollowing items

theorem mem_of_mem_withFollowing {item : α} {following items : List α}
    (h : (item, following) ∈ withFollowing items) : item ∈ items := by
  induction items with
  | nil => cases h
  | cons head tail ih =>
    rw [withFollowing] at h
    rcases List.mem_cons.1 h with h | h
    · cases h
      exact List.mem_cons_self
    · exact List.mem_cons_of_mem _ (ih h)

/-- The statements of a block, each with the nodes after it. -/
def Node.placedStatements (block : Node) : List (Node × List Node) :=
  (withFollowing block.children).filter (·.1.isPart)

theorem Node.size_lt_of_mem_placedStatements {block : Node} {statement : Node × List Node}
    (h : statement ∈ block.placedStatements) : statement.1.size < block.size :=
  size_lt_of_mem_children (mem_of_mem_withFollowing (List.mem_filter.1 h).1)

end InterfaceStub.Syntax

namespace InterfaceStub.Extraction

open Syntax

/-- The blocks of a statement that are gone through in its place. -/
def innerBlocks? (settings : ExtractSettings) (source : Source) (statement : Node) :
    Option (List Node) :=
  match statement.statement with
  | .conditional => some (branchBlocks settings source statement)
  | .attempt => some statement.attemptBlocks
  | _ => none

theorem size_lt_of_innerBlocks? {settings : ExtractSettings} {source : Source}
    {statement block : Node} {blocks : List Node}
    (h : innerBlocks? settings source statement = some blocks) (hb : block ∈ blocks) :
    block.size < statement.size := by
  rw [innerBlocks?] at h
  split at h
  · exact size_lt_of_mem_branchBlocks (Option.some.inj h ▸ hb)
  · exact Node.size_lt_of_mem_attemptBlocks (Option.some.inj h ▸ hb)
  · cases h

/-- What the statements of a block declare, in order.  `leaf` says it of a statement without blocks
to go through and the nodes after the statement. -/
def blockItems (settings : ExtractSettings) (source : Source)
    (leaf : Node → List Node → Report (List α)) (block : Node) : Report (List α) :=
  Report.gatherAll <| block.placedStatements.attach.map fun statement =>
    match _h : innerBlocks? settings source statement.1.1 with
    | some blocks => Report.gatherAll <| blocks.attach.map fun inner =>
        blockItems settings source leaf inner.1
    | none => leaf statement.1.1 statement.1.2
termination_by block.size
decreasing_by
  exact Nat.lt_trans (size_lt_of_innerBlocks? _h inner.2)
    (Node.size_lt_of_mem_placedStatements statement.2)

end InterfaceStub.Extraction
