import InterfaceStub.Syntax.Source

/-!
# Expressions

The shape of an expression.  Parentheses and the wrapper that the grammar puts around an annotation
have no meaning of their own, so an expression is judged by what they enclose (`Node.unwrapped`).
-/

namespace InterfaceStub.Syntax

/-- The shapes of expressions that are told apart. -/
inductive Shape where
  | name
  | attribute
  | subscript
  | genericType
  | memberType
  | string
  /-- A string with replacement fields. -/
  | formattedString
  | integer
  | float
  | boolean
  | noneValue
  | ellipsis
  | list
  | tuple
  | dictionary
  | set
  | call
  | negation
  | unary
  | other
  deriving DecidableEq, Repr

/-- Whether an expression of this shape is a constant. -/
def Shape.isConstant : Shape → Bool
  | .string | .integer | .float | .boolean | .noneValue | .ellipsis => true
  | _ => false

/-- Whether a node of this kind only encloses another. -/
def Kind.isWrapper : Kind → Bool
  | .type | .parenthesizedExpression => true
  | _ => false

/-- What parentheses and annotation wrappers enclose; an empty one stands for itself. -/
def Node.unwrapped (node : Node) : Node :=
  if node.kind.isWrapper then
    match _h : node.firstPart? with
    | some inner => inner.unwrapped
    | none => node
  else node
termination_by node.size
decreasing_by exact Node.size_lt_of_firstPart? _h

theorem Node.size_unwrapped_le (node : Node) : node.unwrapped.size ≤ node.size := by
  fun_induction Node.unwrapped node with
  | case1 node _ inner h ih => exact Nat.le_trans ih (Nat.le_of_lt (size_lt_of_firstPart? h))
  | case2 => exact Nat.le_refl _
  | case3 => exact Nat.le_refl _

/-! ## Strings -/

/-- Whether a string has replacement fields, or a mark that it may have some. -/
def Source.hasReplacements (source : Source) (string : Node) : Bool :=
  string.children.any fun child =>
    match child.kind with
    | .interpolation => true
    | .stringStart => (source.text child).toList.any fun c => c == 'f' || c == 'F'
    | _ => false

/-- The node that opens a string; of strings side by side, the one that opens the first. -/
def Node.stringOpening? (string : Node) : Option Node :=
  let opening :=
    match string.kind with
    | .concatenatedString => string.firstPart? >>= firstPart?
    | _ => string.firstPart?
  opening.filter (·.kind == .stringStart)

/-- Whether a string is a string of bytes. -/
def Source.isBytes (source : Source) (string : Node) : Bool :=
  match string.stringOpening? with
  | some opening => (source.text opening).toList.any fun c => c == 'b' || c == 'B'
  | none => false

/-- The text between the opening and the closing mark of a string, escapes as they are written. -/
def Source.quotedText (source : Source) (string : Node) : String :=
  let openings := string.children.filter (·.kind == .stringStart)
  let closings := string.children.filter (·.kind == .stringEnd)
  match openings.getLast?, closings.getLast? with
  | some opening, some closing => source.between opening.label.stop closing.label.start
  | _, _ => ""

/-- The text of a string; strings side by side are joined. -/
def Source.stringText (source : Source) (string : Node) : String :=
  match string.kind with
  | .concatenatedString => String.join (string.parts.map source.quotedText)
  | _ => source.quotedText string

/-! ## Shapes -/

/-- The shape of a node that is no wrapper. -/
def Source.ownShape (source : Source) (node : Node) : Shape :=
  match node.kind with
  | .identifier | .keywordIdentifier => .name
  | .attribute => .attribute
  | .subscript => .subscript
  | .genericType => .genericType
  | .memberType => .memberType
  | .string => if source.hasReplacements node then .formattedString else .string
  | .concatenatedString =>
    if node.parts.any source.hasReplacements then .formattedString else .string
  | .integer => .integer
  | .float => .float
  | .trueLiteral | .falseLiteral => .boolean
  | .noneLiteral => .noneValue
  | .ellipsis => .ellipsis
  | .list => .list
  | .tuple | .expressionList | .patternList => .tuple
  | .dictionary => .dictionary
  | .set => .set
  | .call => .call
  | .notOperator => .negation
  | .unaryOperator => .unary
  | _ => .other

/-- The shape of an expression. -/
def Source.shapeOf (source : Source) (node : Node) : Shape :=
  source.ownShape node.unwrapped

end InterfaceStub.Syntax
