import InterfaceStub.Alignment
import InterfaceStub.Diagnostic
import InterfaceStub.Syntax.Source

/-!
# Problems

What a stub cannot express, as causes.  `Problem.message` has the wording of all of them.
-/

namespace InterfaceStub.Extraction

open Syntax

/-- A construct of the language that stubs have no room for. -/
inductive Feature where
  | typeComments
  | classDecorators
  | classKeywords
  | positionOnlyArguments
  deriving DecidableEq, Repr

/-- What a feature is called in messages. -/
def Feature.title : Feature → String
  | .typeComments => "type comments"
  | .classDecorators => "class decorators"
  | .classKeywords => "class keywords"
  | .positionOnlyArguments => "position-only arguments"

/-- A constant whose type has no spelling in a stub. -/
inductive UntypedConstant where
  | complex
  | ellipsis
  deriving DecidableEq, Repr

/-- What a constant is called in messages. -/
def UntypedConstant.title : UntypedConstant → String
  | .complex => "complex"
  | .ellipsis => "ellipsis"

/-- Something that a stub cannot express. -/
inductive Problem where
  /-- A node that has no place in its parent. -/
  | inside (parent child : Kind)
  /-- A statement that has no place in a module. -/
  | atTopLevel (statement : String)
  /-- A statement that has no place in a class. -/
  | inClassBody (statement : String)
  /-- An expression that is no annotation. -/
  | typeExpression (kind : Kind)
  /-- A constant that is no annotation. -/
  | constantType (text : String)
  /-- An expression that is no dotted name. -/
  | dottedName (kind : Kind)
  | baseClass (kind : Kind)
  | decorator (kind : Kind)
  /-- The value of an assignment that has no type. -/
  | untyped (constant : UntypedConstant)
  | unsupported (feature : Feature)
  | alignment (error : AlignmentError)
  deriving DecidableEq, Repr

/-- The text of a problem. -/
def Problem.message : Problem → String
  | .inside parent child =>
    "unsupported ast type '" ++ child.spelling ++ "' in '" ++ parent.spelling ++ "'"
  | .atTopLevel statement => "unsupported ast type '" ++ statement ++ "' at top-level"
  | .inClassBody statement => "unsupported ast type '" ++ statement ++ "' in class body"
  | .typeExpression kind => "unsupported ast type '" ++ kind.spelling ++ "' for annotations"
  | .constantType text => "unsupported constant " ++ text ++ " for annotations"
  | .dottedName kind => "unsupported ast type for quoted names '" ++ kind.spelling ++ "'"
  | .baseClass kind => "unsupported base class type '" ++ kind.spelling ++ "'"
  | .decorator kind => "unsupported ast type '" ++ kind.spelling ++ "' for decorators"
  | .untyped constant => constant.title ++ " constants are unsupported"
  | .unsupported feature => feature.title ++ " are currently unsupported"
  | .alignment error => error.message

/-- A problem and the line it is found on. -/
structure Finding where
  line : Nat
  problem : Problem
  deriving DecidableEq, Repr

/-- The diagnostic that reports a finding in a source. -/
def Finding.diagnostic (source : Source) (finding : Finding) : Diagnostic :=
  ⟨source.id, finding.line, finding.problem.message⟩

end InterfaceStub.Extraction
