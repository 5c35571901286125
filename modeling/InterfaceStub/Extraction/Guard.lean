import InterfaceStub.Settings.Basic
import InterfaceStub.Syntax.Expression

/-!
# Guards

A condition that only asks whether a type checker reads the source picks one side of an `if`
statement.  Any other condition keeps both sides.
-/

namespace InterfaceStub.Extraction

open Syntax

/-- What is known of a condition. -/
inductive Guard where
  /-- It is true for a type checker. -/
  | typeChecking
  /-- It is false for a type checker. -/
  | notTypeChecking
  | unknown
  deriving DecidableEq, Repr

/-- Whether an expression is a name that is true for a type checker alone. -/
def isCheckerName (settings : ExtractSettings) (source : Source) (node : Node) : Bool :=
  source.shapeOf node == .name && settings.isGuardName (source.text node.unwrapped)

/-- What is known of a condition. -/
def guardOf (settings : ExtractSettings) (source : Source) (condition : Node) : Guard :=
  match source.shapeOf condition with
  | .name => if isCheckerName settings source condition then .typeChecking else .unknown
  | .negation =>
    if (condition.unwrapped.child? .argument).any (isCheckerName settings source) then
      .notTypeChecking
    else .unknown
  | _ => .unknown

/-- The blocks that are kept, of the block under a condition and those for when it is false. -/
def Guard.choose (guard : Guard) (block : Option α) (others : List α) : List α :=
  match guard with
  | .typeChecking => block.toList
  | .notTypeChecking => others
  | .unknown => block.toList ++ others

/-- The blocks that are kept of an `if` statement or `elif` clause, when `others` are kept of the
clauses after it. -/
def clauseBlocks (settings : ExtractSettings) (source : Source) (clause : Node)
    (others : List Node) : List Node :=
  let guard := ((clause.child? .condition).map (guardOf settings source)).getD .unknown
  guard.choose (clause.child? .consequence) others

/-- The blocks that are kept of the clauses after the first condition. -/
def alternativeBlocks (settings : ExtractSettings) (source : Source) : List Node → List Node
  | [] => []
  | clause :: rest =>
    match clause.kind with
    | .elifClause => clauseBlocks settings source clause (alternativeBlocks settings source rest)
    | .elseClause => (clause.child? .body).toList
    | _ => []

/-- The blocks of an `if` statement that are kept, in order. -/
def branchBlocks (settings : ExtractSettings) (source : Source) (statement : Node) : List Node :=
  clauseBlocks settings source statement
    (alternativeBlocks settings source (statement.childrenAt .alternative))

/-! ## Size -/

theorem Guard.mem_choose {guard : Guard} {block : Option α} {others : List α} {kept : α}
    (h : kept ∈ guard.choose block others) : block = some kept ∨ kept ∈ others := by
  cases guard <;> simp_all [Guard.choose]

theorem mem_clauseBlocks {settings : ExtractSettings} {source : Source} {clause node : Node}
    {others : List Node} (h : node ∈ clauseBlocks settings source clause others) :
    clause.child? .consequence = some node ∨ node ∈ others :=
  Guard.mem_choose h

theorem size_lt_of_mem_alternativeBlocks {settings : ExtractSettings} {source : Source}
    {block : Node} {clauses : List Node} (h : block ∈ alternativeBlocks settings source clauses) :
    ∃ clause ∈ clauses, block.size < clause.size := by
  induction clauses with
  | nil => cases h
  | cons clause rest ih =>
    rw [alternativeBlocks] at h
    split at h
    · rcases mem_clauseBlocks h with h | h
      · exact ⟨clause, List.mem_cons_self, Node.size_lt_of_child? h⟩
      · obtain ⟨other, hmem, hlt⟩ := ih h
        exact ⟨other, List.mem_cons_of_mem _ hmem, hlt⟩
    · exact ⟨clause, List.mem_cons_self, Node.size_lt_of_child? (Option.mem_toList.1 h)⟩
    · cases h

theorem size_lt_of_mem_branchBlocks {settings : ExtractSettings} {source : Source}
    {block statement : Node} (h : block ∈ branchBlocks settings source statement) :
    block.size < statement.size := by
  rcases mem_clauseBlocks h with h | h
  · exact Node.size_lt_of_child? h
  · obtain ⟨clause, hmem, hlt⟩ := size_lt_of_mem_alternativeBlocks h
    exact Nat.lt_trans hlt (Node.size_lt_of_mem_childrenAt hmem)

end InterfaceStub.Extraction
