import InterfaceStub.Syntax.Node

/-!
# Statements

The sorts of statement that are told apart, and the blocks of statements inside them.
-/

namespace InterfaceStub.Syntax

/-- The sorts of statement that are told apart. -/
inductive Statement where
  | expression
  | importNames
  | importFrom
  | function
  | asyncFunction
  | decorated
  | classDefinition
  | conditional
  | attempt
  | pass
  | other
  deriving DecidableEq, Repr

namespace Node

/-- Whether a function definition is marked as asynchronous. -/
def isAsynchronous (node : Node) : Bool :=
  node.children.any (·.kind == .asyncMark)

/-- The sort of a statement. -/
def statement (node : Node) : Statement :=
  match node.kind with
  | .expressionStatement => .expression
  | .importStatement => .importNames
  | .importFromStatement | .futureImportStatement => .importFrom
  | .functionDefinition => if node.isAsynchronous then .asyncFunction else .function
  | .decoratedDefinition => .decorated
  | .classDefinition => .classDefinition
  | .ifStatement => .conditional
  | .tryStatement => .attempt
  | .passStatement => .pass
  | _ => .other

/-- What a statement is called in messages. -/
def statementName (node : Node) : String :=
  match node.statement with
  | .asyncFunction => "async_function_definition"
  | _ => node.kind.spelling

/-- The decorators of a decorated definition, in order. -/
def decorators (node : Node) : List Node :=
  node.parts.filter (·.kind == .decorator)

/-- The blocks of a `try` statement that run when nothing is raised: its body, its `else` block and
its `finally` block. -/
def attemptBlocks (node : Node) : List Node :=
  let elseClause := (node.parts.filter (·.kind == .elseClause)).getLast?
  let finallyClause := (node.parts.filter (·.kind == .finallyClause)).getLast?
  (node.child? .body).toList ++ (elseClause.bind (·.child? .body)).toList ++
    (finallyClause.bind fun clause => clause.parts.find? (·.kind == .block)).toList

theorem size_lt_of_mem_attemptBlocks {block node : Node} (h : block ∈ node.attemptBlocks) :
    block.size < node.size := by
  have below {clause : Node} {kind : Kind}
      (hc : (node.parts.filter (·.kind == kind)).getLast? = some clause) :
      clause.size < node.size :=
    size_lt_of_mem_parts (List.mem_filter.1 (List.mem_of_getLast? hc)).1
  simp only [attemptBlocks, List.mem_append, Option.mem_toList, Option.bind_eq_some_iff] at h
  rcases h with (h | ⟨clause, hc, h⟩) | ⟨clause, hc, h⟩
  · exact size_lt_of_child? h
  · exact Nat.lt_trans (size_lt_of_child? h) (below hc)
  · exact Nat.lt_trans (size_lt_of_mem_parts (List.mem_of_find?_eq_some h)) (below hc)

end Node

end InterfaceStub.Syntax
