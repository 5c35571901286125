import InterfaceStub.Proofs.ErasedDeclarations
import InterfaceStub.Proofs.Reports
import InterfaceStub.Proofs.SilentStatements
import InterfaceStub.Proofs.TreeExistence

/-!
# What a stub does not show does not matter

`extract_eq_of_erased_eq` says that two trees have the same stub, required names and diagnostics if
they differ only below parts that a stub does not show.  It follows from `extract_erased`: the
erased tree alone decides.

* Blocks.  `blockItems_kept` is the induction over the tree, for any function of leaf statements.  A
  block may have children that are no statements, such as the block of another statement; of these
  nothing but the label is read (`Kind.isInert`).
* Statements.  `classStatement_kept` and `moduleStatement_kept` say that what a leaf statement
  declares is the same in the erased tree.  Of the nodes after it only the labels are read.
-/

namespace InterfaceStub

open Syntax Extraction

/-! ## Sorts of statements -/

namespace Syntax.Node

variable (scope : Scope)

@[simp] theorem statement_kept (node : Node) :
    (node.kept (.all scope)).statement = node.statement := by
  simp [statement, isAsynchronous, children_kept_all, Function.comp_def]

@[simp] theorem statementName_kept (node : Node) :
    (node.kept (.all scope)).statementName = node.statementName := by
  simp [statementName]

theorem statement_of_isInert {node : Node} (h : node.kind.isInert) : node.statement = .other := by
  unfold statement
  cases hkind : node.kind <;> first | rfl | (rw [hkind] at h; cases h)

theorem isUniform_of_importFrom {node : Node} (h : node.statement = .importFrom) :
    node.kind.isUniform := by
  unfold statement at h
  cases hkind : node.kind <;> rw [hkind] at h
  case functionDefinition =>
    simp only at h
    split at h <;> cases h
  all_goals first | rfl | cases h

/-- The decorators of a decorated definition. -/
theorem decorators_kept {node : Node} (h : node.kind = .decoratedDefinition) :
    (node.kept (.all scope)).decorators = node.decorators.map (kept (.all scope)) := by
  rw [decorators, parts_kept (by rw [h]; rfl), List.filter_map, decorators]
  simp [Function.comp_def]

theorem kind_of_mem_decorators {node decorator : Node} (h : decorator ∈ node.decorators) :
    decorator.kind = .decorator :=
  eq_of_beq (List.mem_filter.1 h).2

end Syntax.Node

namespace Extraction

variable (settings : ExtractSettings) (source : Source) (scope : Scope)

/-! ## Imports -/

theorem joinedName_kept (node : Node) :
    joinedName source (node.kept (.all scope)) = joinedName source node := by
  unfold joinedName
  rw [Node.kind_kept]
  split
  · rename_i hkind
    rw [Node.parts_kept (by rw [hkind]; rfl)]
    simp [Function.comp_def]
  · exact Source.text_kept source _ node

theorem importItem_kept (node : Node) :
    importItem source (node.kept (.all scope)) = importItem source node := by
  unfold importItem
  rw [Node.kind_kept]
  split
  · rename_i hkind
    rw [Node.child?_kept (by rw [hkind]; rfl), Node.child?_kept (by rw [hkind]; rfl)]
    simp [Function.comp_def, joinedName_kept]
  · rw [joinedName_kept]

theorem importNames_kept {statement : Node} (h : statement.kind.isUniform) :
    importNames source (statement.kept (.all scope)) = importNames source statement := by
  simp [importNames, Node.childrenAt_kept h, Function.comp_def, importItem_kept]

theorem importPath_kept {statement : Node} (h : statement.kind.isUniform) :
    importPath source (statement.kept (.all scope)) = importPath source statement := by
  have hrelative {relative : Node} (hkind : relative.kind = .relativeImport) :
      relativePath source (relative.kept (.all scope)) = relativePath source relative := by
    rw [relativePath, Node.parts_kept (by rw [hkind]; rfl), relativePath]
    simp [List.filter_map, Function.comp_def, joinedName_kept]
  rw [importPath, Node.child?_kept h, importPath]
  cases statement.child? .moduleName with
  | none => rfl
  | some path =>
    by_cases hkind : path.kind = .relativeImport
    · simp [hkind, hrelative hkind]
    · simp [hkind, joinedName_kept]

theorem importFrom_kept {statement : Node} (h : statement.kind.isUniform) :
    importFrom source (statement.kept (.all scope)) = importFrom source statement := by
  simp [importFrom, importPath_kept source scope h, Node.childrenAt_kept h, Node.parts_kept h,
    Function.comp_def, importItem_kept]

/-! ## Blocks of a statement -/

theorem isCheckerName_kept (node : Node) :
    isCheckerName settings source (node.kept (.all scope)) =
      isCheckerName settings source node := by
  simp [isCheckerName, Source.shapeOf_kept, Node.unwrapped_kept]

theorem guardOf_kept (condition : Node) :
    guardOf settings source (condition.kept (.all scope)) = guardOf settings source condition := by
  rw [guardOf, Source.shapeOf_kept, isCheckerName_kept, Node.unwrapped_kept, guardOf]
  cases hshape : source.shapeOf condition
  case negation =>
    rw [Node.child?_kept (by rw [Source.kind_of_shapeOf hshape rfl]; rfl)]
    cases condition.unwrapped.child? .argument <;> simp [isCheckerName_kept]
  all_goals rfl

theorem choose_map (guard : Guard) (f : α → β) (block : Option α) (others : List α) :
    guard.choose (block.map f) (others.map f) = (guard.choose block others).map f := by
  cases guard <;> simp [Guard.choose, Option.toList_map]

theorem clauseBlocks_kept {clause : Node} (h : clause.kind.isUniform) (others : List Node) :
    clauseBlocks settings source (clause.kept (.all scope)) (others.map (·.kept (.all scope))) =
      (clauseBlocks settings source clause others).map (·.kept (.all scope)) := by
  rw [clauseBlocks, Node.child?_kept h, Node.child?_kept h, clauseBlocks, ← choose_map]
  simp [Function.comp_def, guardOf_kept]

theorem alternativeBlocks_kept (clauses : List Node) :
    alternativeBlocks settings source (clauses.map (·.kept (.all scope))) =
      (alternativeBlocks settings source clauses).map (·.kept (.all scope)) := by
  induction clauses with
  | nil => rfl
  | cons clause rest ih =>
    rw [List.map_cons, alternativeBlocks, Node.kind_kept, ih, alternativeBlocks]
    split
    case h_1 hkind => exact clauseBlocks_kept settings source scope (by rw [hkind]; rfl) _
    case h_2 hkind => rw [Node.child?_kept (by rw [hkind]; rfl), Option.toList_map]
    case h_3 => rfl

theorem branchBlocks_kept {statement : Node} (h : statement.kind = .ifStatement) :
    branchBlocks settings source (statement.kept (.all scope)) =
      (branchBlocks settings source statement).map (·.kept (.all scope)) := by
  have huniform : statement.kind.isUniform := by rw [h]; rfl
  rw [branchBlocks, Node.childrenAt_kept huniform, alternativeBlocks_kept,
    clauseBlocks_kept settings source scope huniform, branchBlocks]

theorem kind_of_lastClause {clauses : List Node} {clause : Node} {kind : Kind}
    (h : (clauses.filter (·.kind == kind)).getLast? = some clause) : clause.kind = kind :=
  eq_of_beq (List.mem_filter.1 (List.mem_of_getLast? h)).2

/-- What is kept of the last clause of a `try` statement of a kind that does not handle. -/
theorem lastClause_kept {statement : Node} (h : statement.kind = .tryStatement) {kind : Kind}
    (hkind : kind ≠ .other "except_clause" ∧ kind ≠ .other "except_group_clause") :
    ((statement.kept (.all scope)).parts.filter (·.kind == kind)).getLast? =
      ((statement.parts.filter (·.kind == kind)).getLast?).map (·.kept (.all scope)) := by
  rw [Node.parts_of_map (Node.children_kept_all scope statement) (by simp), List.filter_map,
    List.getLast?_map]
  simp only [Function.comp_def, Node.kind_kept]
  refine Option.map_congr fun clause hclause => ?_
  have hlabel : clause.label.kind = kind := kind_of_lastClause hclause
  simp [keepingIn, h, Label.isHandler, hlabel, hkind.1, hkind.2]

/-- The blocks of a `try` statement that are gone through are no handlers. -/
theorem attemptBlocks_kept {statement : Node} (h : statement.kind = .tryStatement) :
    (statement.kept (.all scope)).attemptBlocks =
      statement.attemptBlocks.map (·.kept (.all scope)) := by
  have hbody : (statement.kept (.all scope)).child? .body =
      (statement.child? .body).map (·.kept (.all scope)) :=
    Node.child?_kept_of_below (by simp) fun label hlabel => by
      simp [Keeping.below, keepingIn, h, Label.isHandler, hlabel]
  rw [Node.attemptBlocks, hbody, lastClause_kept scope h (by decide),
    lastClause_kept scope h (by decide), Node.attemptBlocks, List.map_append, List.map_append,
    ← Option.toList_map, ← Option.toList_map, ← Option.toList_map]
  congr 2
  · congr 1
    cases helse : (statement.parts.filter (·.kind == .elseClause)).getLast? with
    | none => rfl
    | some clause => exact Node.child?_kept (by rw [kind_of_lastClause helse]; rfl) scope .body
  · cases hfinally : (statement.parts.filter (·.kind == .finallyClause)).getLast? with
    | none => rfl
    | some clause =>
      have hparts : (clause.kept (.all scope)).parts = clause.parts.map (·.kept (.all scope)) :=
        Node.parts_kept (by rw [kind_of_lastClause hfinally]; rfl) scope
      show (clause.kept (.all scope)).parts.find? (·.kind == .block) =
        (clause.parts.find? (·.kind == .block)).map (·.kept (.all scope))
      rw [hparts, List.find?_map]
      simp only [Function.comp_def, Node.kind_kept]

theorem innerBlocks?_kept (statement : Node) :
    innerBlocks? settings source (statement.kept (.all scope)) =
      (innerBlocks? settings source statement).map (List.map (·.kept (.all scope))) := by
  rw [innerBlocks?, Node.statement_kept, innerBlocks?]
  cases hsort : statement.statement
  case conditional =>
    rw [branchBlocks_kept settings source scope (Node.kind_of_statement hsort rfl)]
    rfl
  case attempt =>
    rw [attemptBlocks_kept scope (Node.kind_of_statement hsort rfl)]
    rfl
  all_goals rfl

/-! ## Blocks -/

theorem withFollowing_map (f : α → β) (items : List α) :
    withFollowing (items.map f) = (withFollowing items).map (Prod.map f (List.map f)) := by
  induction items with
  | nil => rfl
  | cons item items ih => rw [List.map_cons, withFollowing, ih, withFollowing, List.map_cons]; rfl

theorem placedStatements_kept (block : Node) :
    let keep (child : Node) := child.kept (keepingIn scope block.kind child.label)
    (block.kept (.all scope)).placedStatements =
      block.placedStatements.map (Prod.map keep (List.map keep)) := by
  intro keep
  rw [Node.placedStatements, Node.children_kept_all, withFollowing_map, List.filter_map,
    Node.placedStatements]
  simp [Function.comp_def, keep]

/-- A function of leaf statements that does not read what a stub does not show. -/
structure IgnoresErased (leaf : Node → List Node → Report (List α)) (scope : Scope) : Prop where
  all (statement : Node) (following : List Node) (keeping : Node → Keeping) :
    leaf (statement.kept (.all scope)) (following.map fun node => node.kept (keeping node)) =
      leaf statement following
  inert {statement : Node} (h : statement.kind.isInert) (own : Keeping) (following : List Node)
    (keeping : Node → Keeping) :
    leaf (statement.kept own) (following.map fun node => node.kept (keeping node)) =
      leaf statement following

/-- What a block declares is the same in the erased tree. -/
theorem blockItems_kept {leaf : Node → List Node → Report (List α)} (h : IgnoresErased leaf scope)
    (block : Node) :
    blockItems settings source leaf (block.kept (.all scope)) =
      blockItems settings source leaf block := by
  induction hsize : block.size using Nat.strongRecOn generalizing block with
  | ind size ih =>
    rw [blockItems_eq, blockItems_eq, placedStatements_kept, List.map_map]
    refine congrArg Report.gatherAll (List.map_congr_left fun placed hplaced => ?_)
    have hlt := Node.size_lt_of_mem_placedStatements hplaced
    simp only [Function.comp_apply, Prod.map_fst, Prod.map_snd]
    rcases keepingIn_cases scope block.kind placed.1.label with hkeeping | hinert
    · rw [hkeeping, innerBlocks?_kept]
      cases hblocks : innerBlocks? settings source placed.1 with
      | none => exact h.all placed.1 placed.2 _
      | some blocks =>
        simp only [Option.map_some, List.map_map]
        refine congrArg Report.gatherAll (List.map_congr_left fun inner hinner => ?_)
        have hinnerLt := size_lt_of_innerBlocks? hblocks hinner
        exact ih inner.size (by omega) inner rfl
    -- A child that is kept in another way is no statement with blocks to go through.
    · have hnone {node : Node} (hnode : node.kind.isInert) :
          innerBlocks? settings source node = none := by
        rw [innerBlocks?, Node.statement_of_isInert hnode]
      rw [hnone hinert, hnone (by rw [Node.kind_kept]; exact hinert)]
      exact h.inert hinert _ placed.2 _

/-! ## Classes -/

theorem rejectMember_kept (keeping : Keeping) (statement : Node) (name : String) :
    rejectMember source (statement.kept keeping) name = rejectMember source statement name := by
  simp [rejectMember]

/-- What is kept of the parts of an expression statement. -/
theorem parts_kept_of_expression {statement : Node} (h : statement.kind = .expressionStatement) :
    (statement.kept (.all scope)).parts = statement.parts.map fun part =>
      part.kept (if part.kind = .assignment then .assigned scope else .all scope) := by
  rw [Node.parts_of_map (Node.children_kept_all scope statement) (by simp)]
  refine List.map_congr_left fun part _ => ?_
  have hkind : part.label.kind = part.kind := rfl
  simp [keepingIn, h, hkind]

theorem classExpression_kept {statement : Node} (h : statement.kind = .expressionStatement)
    (following : List Node) (keeping : Node → Keeping) :
    classExpression source (statement.kept (.all scope))
        (following.map fun node => node.kept (keeping node)) =
      classExpression source statement following := by
  have hparts := parts_kept_of_expression scope h
  rw [classExpression, Node.firstPart?, hparts, List.head?_map, classExpression, Node.firstPart?]
  cases hown : statement.parts with
  | nil => simp [rejectMember_kept]
  | cons inner rest =>
    by_cases hkind : inner.kind = .assignment
    · simp [hkind, classAssignment_kept]
    · have hconstant : isLoneConstant source (statement.kept (.all scope)) =
          isLoneConstant source statement := by
        rw [isLoneConstant, hparts, hown, isLoneConstant, hown]
        cases rest <;> simp [hkind, Source.shapeOf_kept]
      simp [hkind, hconstant, rejectMember_kept]

theorem decoratedMember_kept {statement : Node} (h : statement.kind = .decoratedDefinition) :
    decoratedMember source (statement.kept (.all scope)) = decoratedMember source statement := by
  rw [decoratedMember, Node.child?_kept (by rw [h]; rfl), Node.decorators_kept scope h,
    decoratedMember]
  cases statement.child? .definition with
  | none => rfl
  | some definition =>
    simp only [Option.map_some, Node.statement_kept, Node.statementName_kept, rejectMember_kept]
    split
    · rename_i hsort
      rw [functionStub_kept source scope (Node.kind_of_statement hsort rfl) fun _ =>
        Node.kind_of_mem_decorators]
    · rfl

/-- What a leaf statement declares in a class is the same in the erased tree. -/
theorem classStatement_kept : IgnoresErased (classStatement source) scope where
  all statement following keeping := by
    rw [classStatement, Node.statement_kept, Node.statementName_kept, classStatement]
    cases hsort : statement.statement
    case expression =>
      exact classExpression_kept source scope (Node.kind_of_statement hsort rfl) following keeping
    case function =>
      have hfunction := functionStub_kept source scope (Node.kind_of_statement hsort rfl)
        fun _ hnone => absurd hnone List.not_mem_nil
      simp only
      rw [← hfunction]
      rfl
    case decorated =>
      exact decoratedMember_kept source scope (Node.kind_of_statement hsort rfl)
    case pass => rfl
    all_goals exact rejectMember_kept source _ statement _
  inert {statement} h own following keeping := by
    have hkept : (statement.kept own).kind.isInert := by rwa [Node.kind_kept]
    rw [classStatement, Node.statement_of_isInert hkept, Node.statementName,
      Node.statement_of_isInert hkept, classStatement, Node.statement_of_isInert h,
      Node.statementName, Node.statement_of_isInert h, Node.kind_kept]
    exact rejectMember_kept source _ statement _

theorem baseClass_of_isInert {node : Node} (h : node.kind.isInert) (keeping : Keeping) :
    baseClass source (node.kept keeping) = baseClass source node := by
  have hbase {node : Node} (h : node.kind.isInert) : baseClass source node = do
      flag source node (.baseClass node.kind)
      return none := by
    have hwrapper : node.kind.isWrapper = false := by
      cases hkind : node.kind <;> first | rfl | (rw [hkind] at h; cases h)
    have hself : node.unwrapped = node := by rw [Node.unwrapped, if_neg (by simp [hwrapper])]
    have hshape : source.shapeOf node = .other := by
      rw [Source.shapeOf, hself, Source.ownShape]
      cases hkind : node.kind <;> first | rfl | (rw [hkind] at h; cases h)
    rw [baseClass, hshape, hself]
  rw [hbase h, hbase (by rwa [Node.kind_kept]), flag_kept, Node.kind_kept]

@[simp] theorem isClassKeyword_kept (keeping : Keeping) (argument : Node) :
    isClassKeyword (argument.kept keeping) = isClassKeyword argument := by
  simp [isClassKeyword]

/-- The bases of a class, when `parent` is the kind of the node around them. -/
theorem classBases_kept (parent : Kind) (arguments : List Node) :
    classBases source (arguments.map fun node => node.kept (keepingIn scope parent node.label)) =
      classBases source arguments := by
  rw [classBases, List.filter_map, List.map_map, classBases]
  simp only [Function.comp_def, isClassKeyword_kept]
  refine congrArg (fun reports => List.filterMap id <$> Report.gather reports)
    (List.map_congr_left fun argument _ => ?_)
  -- The node around the bases may be of any kind, so a base need not be kept as a whole.
  rcases keepingIn_cases scope parent argument.label with hkeeping | hinert
  · rw [hkeeping, baseClass_kept]
  · exact baseClass_of_isInert source hinert _

/-- Of the decorators of a class only the presence is read. -/
theorem classHeader_kept {definition : Node} (h : definition.kind = .classDefinition)
    (decorators : List Node) (keep : Node → Node) :
    classHeader source (definition.kept (.all scope)) (decorators.map keep) =
      classHeader source definition decorators := by
  rw [classHeader, child?_kept_of_definition scope (.inr h) (by decide), classHeader]
  cases definition.child? .superclasses with
  | none => simp
  | some superclasses =>
    have hparts := Node.parts_of_map (Node.children_kept_all scope superclasses) (by simp)
    simp only [Option.map_some, Option.getD_some, hparts, classBases_kept, List.isEmpty_map,
      flag_kept, List.any_map, Function.comp_def, isClassKeyword_kept]

theorem classBody_kept {definition : Node} (h : definition.kind = .classDefinition) :
    classBody settings source (definition.kept (.all scope)) =
      classBody settings source definition := by
  rw [classBody, Node.child?_of_map (Node.children_kept_all scope definition) (by simp), classBody]
  cases definition.child? .body with
  | none => rfl
  | some block =>
    -- Statements of the body belong to the class, whatever the class itself stands in.
    have hblock : ∃ inner, keepingIn scope definition.kind block.label = .all inner := by
      rw [h, keepingIn]
      split
      · exact ⟨.classBody, rfl⟩
      · exact ⟨scope, rfl⟩
    obtain ⟨inner, hinner⟩ := hblock
    simp only [Option.map_some, hinner]
    exact blockItems_kept settings source inner (classStatement_kept source inner) block

theorem classStub_kept {definition : Node} (h : definition.kind = .classDefinition)
    (decorators : List Node) (keep : Node → Node) :
    classStub settings source (definition.kept (.all scope)) (decorators.map keep) =
      classStub settings source definition decorators := by
  rw [classStub, classHeader_kept source scope h, classBody_kept settings source scope h,
    nameOf_kept source scope (.inr h), classStub]

/-! ## Modules -/

theorem moduleExpression_kept {statement : Node} (h : statement.kind = .expressionStatement)
    (following : List Node) (keeping : Node → Keeping) :
    moduleExpression source (statement.kept (.all .module))
        (following.map fun node => node.kept (keeping node)) =
      moduleExpression source statement following := by
  rw [moduleExpression, parts_kept_of_expression .module h, moduleExpression]
  cases statement.parts with
  | nil => rfl
  | cons inner rest =>
    simp only [List.map_cons, Node.kind_kept, flag_kept, List.isEmpty_map]
    by_cases hkind : inner.kind = .assignment
    · simp only [hkind, if_true, moduleAssignment_kept source keeping statement hkind]
    · simp only [if_neg hkind, Source.shapeOf_kept]
      split
      · rename_i hassigns
        exact absurd hassigns hkind
      · rfl
      · rfl

theorem moduleDefinition_kept (definition : Node) {decorators : List Node}
    (hdecorators : ∀ decorator ∈ decorators, decorator.kind = .decorator) :
    moduleDefinition settings source (definition.kept (.all scope))
        (decorators.map (·.kept (.all scope))) =
      moduleDefinition settings source definition decorators := by
  rw [moduleDefinition, Node.statement_kept, Node.statementName_kept, flag_kept, moduleDefinition]
  cases hsort : definition.statement
  case function =>
    simp only [functionStub_kept source scope (Node.kind_of_statement hsort rfl) hdecorators]
  case classDefinition =>
    simp only [classStub_kept settings source scope (Node.kind_of_statement hsort rfl)]
  all_goals rfl

/-- What a leaf statement declares in a module is the same in the erased tree. -/
theorem moduleStatement_kept : IgnoresErased (moduleStatement settings source) .module where
  all statement following keeping := by
    have hdefinition := moduleDefinition_kept settings source .module statement
      (fun _ hnone => absurd hnone List.not_mem_nil)
    rw [moduleStatement, Node.statement_kept, moduleStatement]
    cases hsort : statement.statement
    case expression =>
      exact moduleExpression_kept source (Node.kind_of_statement hsort rfl) following keeping
    case importNames =>
      have huniform : statement.kind.isUniform := by rw [Node.kind_of_statement hsort rfl]; rfl
      simp only [importNames_kept source .module huniform]
    case importFrom =>
      simp only [importFrom_kept source .module (Node.isUniform_of_importFrom hsort)]
    case decorated =>
      have hkind := Node.kind_of_statement hsort rfl
      rw [Node.child?_kept (by rw [hkind]; rfl), Node.decorators_kept .module hkind]
      cases statement.child? .definition with
      | none => rfl
      | some definition =>
        exact moduleDefinition_kept settings source .module definition fun _ =>
          Node.kind_of_mem_decorators
    all_goals exact hdefinition
  inert {statement} h own following keeping := by
    have hkept : (statement.kept own).kind.isInert := by rwa [Node.kind_kept]
    have hreport {node : Node} (hnode : node.kind.isInert) (following : List Node) :
        moduleStatement settings source node following = do
          flag source node (.atTopLevel node.kind.spelling)
          return [] := by
      rw [moduleStatement, Node.statement_of_isInert hnode, moduleDefinition,
        Node.statement_of_isInert hnode, Node.statementName, Node.statement_of_isInert hnode]
    rw [hreport h, hreport hkept, flag_kept, Node.kind_kept]

end Extraction

/-- The stub of a source is that of the erased tree. -/
theorem extract_erased (settings : ExtractSettings) (source : Source) (root : Node) :
    extract settings source root.erased = extract settings source root := by
  have hitems : moduleItems settings source root.erased = moduleItems settings source root :=
    blockItems_kept settings source .module (moduleStatement_kept settings source) root
  rw [extract, hitems, extract]

/-- Parts that a stub does not show do not influence the result.  Two trees that are the same but
for what is below these parts have the same stub, the same required names and the same
diagnostics. -/
theorem extract_eq_of_erased_eq {first second : Node} (h : first.erased = second.erased)
    (settings : ExtractSettings) (source : Source) :
    extract settings source first = extract settings source second := by
  rw [← extract_erased settings source first, h, extract_erased]

/-! A module with the same nodes below each part that is not shown. -/

def leadingComment : Node :=
  .mk { kind := .comment, named := true, extra := true, start := 16, stop := 36 } []

def hiddenFunction (hidden : List Node) : Node :=
  .inner .functionDefinition none 0 49 [
    .token "def" 0 3,
    .inner .identifier (some .name) 4 5 [],
    .inner .parameters (some .parameters) 5 10 [
      .token "(" 5 6,
      .inner .defaultParameter none 6 9 [
        .inner .identifier (some .name) 6 7 [],
        .token "=" 7 8,
        .inner .integer (some .value) 8 9 hidden],
      .token ")" 9 10],
    .token ":" 10 11,
    .inner .block (some .body) 16 49 (leadingComment :: hidden)]

def hiddenAssignment (hidden : List Node) : Node :=
  .inner .expressionStatement none 50 60 [
    .inner .assignment none 50 60 [
      .inner .identifier (some .left) 50 51 [],
      .token ":" 51 52,
      .inner .type (some .type) 53 56 [.inner .identifier none 53 56 []],
      .token "=" 57 58,
      .inner .identifier (some .right) 59 60 hidden]]

def hiddenClass (hidden : List Node) : Node :=
  .inner .classDefinition none 61 83 [
    .token "class" 61 66,
    .inner .identifier (some .name) 67 68 [],
    .token ":" 68 69,
    .inner .block (some .body) 74 83 [
      .inner .expressionStatement none 74 83 [
        .inner .assignment none 74 83 [
          .inner .identifier (some .left) 74 75 [],
          .token "=" 76 77,
          .inner .assignment (some .right) 78 83 [
            .inner .identifier (some .left) 78 79 [],
            .token "=" 80 81,
            .inner .identifier (some .right) 82 83 hidden]]]]]

def hiddenHandler (hidden : List Node) : Node :=
  .inner .tryStatement none 84 121 [
    .token "try" 84 87,
    .token ":" 87 88,
    .inner .block (some .body) 93 102 [
      .inner .importStatement none 93 102 [
        .token "import" 93 99,
        .inner .dottedName (some .name) 100 102 [.inner .identifier none 100 102 []]]],
    .inner (.other "except_clause") none 103 121 hidden]

def hiddenModule (hidden : List Node) : Node :=
  .inner (.other "module") none 0 122
    [hiddenFunction hidden, hiddenAssignment hidden, hiddenClass hidden, hiddenHandler hidden]

def hiddenSource : Source :=
  .ofText "hidden.py" ("def f(a=1):\n    # type: (int) -> str\n    return a\nx: int = g\n" ++
    "class A:\n    y = z = h\ntry:\n    import os\nexcept E:\n    pass\n")

/-- It does not matter that there is a statement below the parts that are not shown. -/
theorem hiddenModule_extract :
    let bare := hiddenModule []
    let full := hiddenModule [.inner .passStatement none 41 49 []]
    bare.erased = full.erased ∧ bare.size < full.size ∧
    (extract {} hiddenSource bare).stub =
      { imports := [⟨"os", none⟩]
        content := [
          .function { name := "f", args := [⟨"a", none, true⟩] },
          .attribute ⟨"x", "int"⟩,
          .classStub { name := "A", body := [
            .field (.unannotated "y"), .field (.unannotated "z")] }] } ∧
    (extract {} hiddenSource bare).diagnostics.map (·.line) = [1] ∧
    extract {} hiddenSource bare = extract {} hiddenSource full := by
  intro bare full
  have herased : bare.erased = full.erased := rfl
  exact ⟨herased, by decide, by decide +kernel, by decide +kernel,
    extract_eq_of_erased_eq herased {} hiddenSource⟩

end InterfaceStub
