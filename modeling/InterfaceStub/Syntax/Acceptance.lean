import InterfaceStub.Syntax.Source

/-!
# Acceptance

Which syntax trees are taken for valid source.  A tree with an error or a missing token is rejected
at the first of these in document order.  Any other tree is rejected at the first node that breaks
one of two rules which the grammar leaves open: a block is not empty, and no parameter without
default follows one with a default.
-/

namespace InterfaceStub.Syntax

/-- What is wrong with a rejected tree. -/
inductive Fault where
  /-- A token that is not there. -/
  | missing (kind : Kind)
  | invalid
  | emptyBlock
  | requiredAfterDefault
  deriving DecidableEq, Repr

/-- What a message says of a fault. -/
def Fault.reason : Fault → String
  | .missing kind => "missing '" ++ kind.spelling ++ "'"
  | .invalid => "invalid syntax"
  | .emptyBlock => "expected an indented block"
  | .requiredAfterDefault => "non-default argument follows default argument"

/-- A fault and the node it is found at. -/
structure Rejection where
  node : Node
  fault : Fault

/-- Why a source cannot be read as Python. -/
inductive ParseError where
  /-- The parser does not know the language. -/
  | noLanguage
  /-- The parser gave no tree. -/
  | noTree
  /-- The tree was rejected. -/
  | rejected (sourceId : String) (line column : Nat) (reason : String)
  deriving DecidableEq, Repr

/-- The text of a parse error. -/
def ParseError.message : ParseError → String
  | .noLanguage => "failed to set Python language"
  | .noTree => "failed to parse source code"
  | .rejected sourceId line column reason =>
    sourceId ++ ":" ++ line.repr ++ ":" ++ column.repr ++ ": " ++ reason

namespace Node

mutual
/-- The first error or missing token in document order.  A node that is not marked as having one is
not searched. -/
def firstFlaw? : Node → Option Node
  | mk label children =>
    if label.error || label.missing then some (mk label children)
    else if label.hasError then firstFlawAmong? children
    else none

/-- The first error or missing token of some trees. -/
def firstFlawAmong? : List Node → Option Node
  | [] => none
  | node :: nodes => (firstFlaw? node).or (firstFlawAmong? nodes)
end

/-- Whether a parameter takes any number of arguments. -/
def isVariadic (node : Node) : Bool :=
  node.kind == .listSplatPattern || node.kind == .dictionarySplatPattern

/-- Whether a parameter without default follows one with a default, before any star.  `seen` says
that a default came before. -/
def requiredAfterDefault (seen : Bool) : List Node → Bool
  | [] => false
  | parameter :: parameters =>
    match parameter.kind with
    | .defaultParameter | .typedDefaultParameter => requiredAfterDefault true parameters
    | .typedParameter =>
      if parameter.firstPart?.any isVariadic then false
      else seen || requiredAfterDefault seen parameters
    | .identifier | .tuplePattern => seen || requiredAfterDefault seen parameters
    | .keywordSeparator | .listSplatPattern | .dictionarySplatPattern => false
    | _ => requiredAfterDefault seen parameters

/-- The rule of its own that a node breaks. -/
def ownFault? (node : Node) : Option Fault :=
  match node.kind with
  | .block => if node.parts.isEmpty then some .emptyBlock else none
  | .parameters | .lambdaParameters =>
    if requiredAfterDefault false node.parts then some .requiredAfterDefault else none
  | _ => none

mutual
/-- The first node in document order that breaks a rule. -/
def firstFault? : Node → Option Rejection
  | mk label children =>
    match ownFault? (mk label children) with
    | some fault => some ⟨mk label children, fault⟩
    | none => firstFaultAmong? children

/-- The first node of some trees that breaks a rule. -/
def firstFaultAmong? : List Node → Option Rejection
  | [] => none
  | node :: nodes => (firstFault? node).or (firstFaultAmong? nodes)
end

/-- Why a tree is rejected; `none` when it is accepted. -/
def rejection? (root : Node) : Option Rejection :=
  if root.label.hasError then
    let node := root.firstFlaw?.getD root
    some ⟨node, if node.label.missing then .missing node.kind else .invalid⟩
  else root.firstFault?

end Node

/-- The error that a rejection stands for. -/
def Source.parseError (source : Source) (rejection : Rejection) : ParseError :=
  .rejected source.id (source.line rejection.node) (source.column rejection.node)
    rejection.fault.reason

/-- Accepts a tree or says why not. -/
def Source.check (source : Source) (root : Node) : Except ParseError Unit :=
  match root.rejection? with
  | some rejection => .error (source.parseError rejection)
  | none => .ok ()

end InterfaceStub.Syntax
