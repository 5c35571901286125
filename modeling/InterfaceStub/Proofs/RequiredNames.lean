import InterfaceStub.Proofs.ExtractedForm
import InterfaceStub.Proofs.SilentStatements
import InterfaceStub.Proofs.StubReading

/-!
# The names of `typing` that a stub relies on

Annotations that are inferred are made of names of the module `typing`, and these names are noted as
they are used.  This module accounts for them.

* What relies on nothing.  A text that is copied from the source brings no name of its own, so
  paths, type expressions, signatures and headers of classes note nothing.
* Targets.  `Accounts` is the invariant of everything that binds names to inferred types: each type
  has its names noted, and each noted name is one of a type that some name is bound to.
* Statements.  `memberStatements` are the leaf statements in the bodies of the classes of a module,
  and `members_extract` says that the members of its classes are what these statements declare.
  `mem_required_iff` lists who notes what.
* The names are sufficient (`mem_required_of_inferred`) and, but for the classes, none is noted in
  vain (`required_minimal_iff`): a class notes its names before it looks at the targets.
-/

namespace InterfaceStub

open Syntax Extraction

/-- The annotation of an attribute. -/
def Attribute.type? (declared : Attribute) : Option String :=
  some declared.annotation

/-- The annotation of a declaration that is an attribute. -/
def Declaration.attributeType? : Declaration → Option String
  | .attribute declared => some declared.annotation
  | .typeAlias _ | .function _ | .classStub _ => none

namespace Extraction

variable {settings : ExtractSettings} {source : Source}

/-! ## What relies on nothing -/

@[simp] theorem required_flag (node : Node) (problem : Problem) :
    (flag source node problem).required = [] := rfl

@[simp] theorem Report.required_gather (reports : List (Report α)) :
    (Report.gather reports).required = reports.flatMap Report.required := rfl

@[simp] theorem Report.required_gatherAll (reports : List (Report (List α))) :
    (Report.gatherAll reports).required = reports.flatMap Report.required := by
  rw [Report.gatherAll, Report.required_map, Report.required_gather]

/-- Reports that rely on nothing, one after the other. -/
theorem Report.flatMap_required_map {items : List α} {report : α → Report β}
    (h : ∀ item ∈ items, (report item).required = []) :
    (items.map report).flatMap Report.required = [] := by
  rw [List.flatMap_map, List.flatMap_eq_nil_iff]
  exact h

@[simp] theorem required_namePathIn (outer node : Node) :
    (namePathIn source outer node).required = [] := by
  fun_induction namePathIn source outer node with
  | case2 node hshape object member hobject hmember ih => simp [ih]
  | case4 node hshape object member hobject hmember ih => simp [ih]
  | case1 | case3 | case5 | case6 => rfl

@[simp] theorem required_namePath (node : Node) : (namePath source node).required = [] :=
  required_namePathIn node node

@[simp] theorem required_subscriptBase (subscript : Node) :
    (subscriptBase source subscript).required = [] := by
  unfold subscriptBase
  split
  · rfl
  · split <;> simp

theorem required_appliedTo {base : Report (Option String)} {arguments : List Node}
    (hbase : base.required = [])
    (harguments : ∀ argument ∈ arguments, (typeText source argument).required = []) :
    (appliedTo source base arguments).required = [] := by
  rw [appliedTo, Report.required_bind, hbase, List.nil_append]
  split
  · rfl
  · simpa using harguments

/-- The text of an annotation is copied, and so relies on nothing. -/
@[simp] theorem required_typeText (node : Node) : (typeText source node).required = [] := by
  induction hsize : node.size using Nat.strongRecOn generalizing node with
  | ind size ih =>
    have hinner {inner : Node} (hlt : inner.size < node.unwrapped.size) :
        (typeText source inner).required = [] := by
      have hle := node.size_unwrapped_le
      exact ih inner.size (by omega) inner rfl
    cases hshape : source.shapeOf node
    case subscript =>
      rw [typeText_subscript hshape]
      apply required_appliedTo (required_subscriptBase _)
      intro argument hargument
      exact hinner (size_lt_of_mem_subscriptArguments hargument)
    case genericType =>
      rw [typeText, hshape]
      simp only
      split
      · rename_i base arguments hbase harguments
        simp only [List.attach_map_val]
        apply required_appliedTo (required_namePath base)
        intro argument hargument
        exact hinner (size_lt_of_genericArguments? harguments hargument)
      · rfl
    case list =>
      rw [typeText_list hshape, Report.required_bind, Report.required_gather,
        Report.flatMap_required_map fun item hitem => hinner (Node.size_lt_of_mem_parts hitem)]
      rfl
    all_goals rw [typeText, hshape]
    case name | «attribute» | memberType => exact required_namePath node
    case string => simp only; split <;> rfl
    all_goals rfl

@[simp] theorem required_optionalType (type : Option Node) :
    (optionalType source type).required = [] := by
  cases type with
  | none => rfl
  | some type => exact required_typeText type

@[simp] theorem required_baseClass (node : Node) : (baseClass source node).required = [] := by
  fun_induction baseClass source node with
  | case1 => simp
  | case2 => simp
  | case3 node hshape ih =>
    rw [Report.required_bind, required_subscriptBase, List.nil_append]
    split
    · rfl
    · split
      · rename_i argument hargument
        simp [ih argument hargument]
      · rfl
  | case4 => rfl

/-! ## Signatures -/

@[simp] theorem required_decoratorPath (decorator : Node) :
    (decoratorPath source decorator).required = [] := by
  unfold decoratorPath
  split
  · rfl
  · split <;> simp

@[simp] theorem required_argument (parameter : Parameter) (hasDefault : Bool) :
    (parameter.argument source hasDefault).required = [] := by
  simp [Parameter.argument]

@[simp] theorem required_namedArgument (parameter : Parameter) :
    (parameter.namedArgument source).required = [] := by
  simp [Parameter.namedArgument]

@[simp] theorem required_positionalArguments (parameters : Node) (positional : List Parameter) :
    (positionalArguments source parameters positional).required = [] := by
  unfold positionalArguments
  split
  · simp [List.flatMap_map]
  · rfl

@[simp] theorem required_reportEntries (slashed : Bool) (found : List ParameterEntry) :
    (reportEntries source slashed found).required = [] := by
  induction found generalizing slashed with
  | nil => rfl
  | cons entry rest ih => cases entry <;> cases slashed <;> simp [reportEntries, ih]

@[simp] theorem required_parameterList (name : String) (parameters : Node) :
    (parameterList source name parameters).required = [] := by
  simp [parameterList, List.flatMap_map]

@[simp] theorem required_functionStub (definition : Node) (decorators : List Node) :
    (functionStub source definition decorators).required = [] := by
  unfold functionStub
  cases definition.child? .parameters <;> cases source.signatureDeclaresType definition <;>
    simp [List.flatMap_map]

@[simp] theorem required_classHeader (definition : Node) (decorators : List Node) :
    (classHeader source definition decorators).required = [] := by
  have hbases (arguments : List Node) : (classBases source arguments).required = [] := by
    simp [classBases, List.flatMap_map]
  unfold classHeader
  split
  · simp only [Report.required_bind, required_flag, hbases, List.nil_append]
    split <;> rfl
  · simp only [Report.required_bind, hbases, List.nil_append]
    split <;> rfl

/-! ## Targets -/

/-- The report accounts for the names that it relies on.  `annotation?` gives the annotation of an
item that has an inferred one. -/
structure Report.Accounts (annotation? : α → Option String) (report : Report (List α)) : Prop where
  /-- Every annotation is that of a type whose names are noted. -/
  noted : ∀ item ∈ report.value, ∀ text ∈ annotation? item,
    ∃ type : LiteralType, text = type.spelling ∧ type.required ⊆ report.required
  /-- Every name that is noted is one of a type that is written. -/
  written : ∀ name ∈ report.required, ∃ item ∈ report.value, ∃ type : LiteralType,
    annotation? item = some type.spelling ∧ name ∈ type.required

namespace Report

variable {annotation? : α → Option String}

theorem accounts_nothing {report : Report (List α)} (hvalue : report.value = [])
    (hrequired : report.required = []) : report.Accounts annotation? := by
  constructor
  · intro item hitem
    rw [hvalue] at hitem
    cases hitem
  · intro name hname
    rw [hrequired] at hname
    cases hname

theorem accounts_gatherAll {reports : List (Report (List α))}
    (h : ∀ report ∈ reports, report.Accounts annotation?) :
    (gatherAll reports).Accounts annotation? := by
  constructor
  · intro item hitem text htext
    obtain ⟨report, hreport, hitem⟩ := mem_value_gatherAll.1 hitem
    obtain ⟨type, hspelling, hnoted⟩ := (h report hreport).noted item hitem text htext
    refine ⟨type, hspelling, fun name hname => ?_⟩
    rw [required_gatherAll]
    exact List.mem_flatMap.2 ⟨report, hreport, hnoted hname⟩
  · intro name hname
    rw [required_gatherAll] at hname
    obtain ⟨report, hreport, hname⟩ := List.mem_flatMap.1 hname
    obtain ⟨item, hitem, hwritten⟩ := (h report hreport).written name hname
    exact ⟨item, mem_value_gatherAll.2 ⟨report, hreport, hitem⟩, hwritten⟩

/-- To account for some items is to account for what they are made into. -/
theorem Accounts.map {report : Report (List α)} {f : α → β} {annotation' : β → Option String}
    (h : report.Accounts annotation?) (hf : ∀ item, annotation' (f item) = annotation? item) :
    (List.map f <$> report).Accounts annotation' := by
  constructor
  · intro item hitem text htext
    obtain ⟨own, hown, rfl⟩ := List.mem_map.1 hitem
    rw [hf] at htext
    rw [required_map]
    exact h.noted own hown text htext
  · intro name hname
    rw [required_map] at hname
    obtain ⟨item, hitem, type, htype, hname⟩ := h.written name hname
    exact ⟨f item, List.mem_map_of_mem hitem, type, by rw [hf, htype], hname⟩

theorem Accounts.bind {report : Report α} {next : α → Report (List β)}
    {annotation? : β → Option String} (hrequired : report.required = [])
    (h : (next report.value).Accounts annotation?) : (report >>= next).Accounts annotation? := by
  constructor
  · rw [required_bind, hrequired, List.nil_append]
    exact h.noted
  · rw [required_bind, hrequired, List.nil_append]
    exact h.written

end Report

theorem accounts_bindName (name : Node) (type : LiteralType) :
    (bindName source name type).Accounts Attribute.type? := by
  have hrequired : (bindName source name type).required = type.required := by
    simp [bindName, relyOn]
  constructor
  · intro declared hdeclared text htext
    rw [List.mem_singleton.1 hdeclared] at htext
    cases htext
    exact ⟨type, rfl, by rw [hrequired]; exact List.Subset.refl _⟩
  · intro typing htyping
    rw [hrequired] at htyping
    exact ⟨_, List.mem_singleton.2 rfl, type, rfl, htyping⟩

/-- A target that is neither a name nor a pattern is reported and binds nothing. -/
theorem accounts_refused (node : Node) (problem : Problem) :
    (do flag source node problem; return [] : Report (List α)).Accounts annotation? :=
  Report.accounts_nothing rfl rfl

theorem accounts_bindPattern (assignment pattern : Node) (value : Option Node) :
    (bindPattern source assignment pattern value).Accounts Attribute.type? := by
  induction hsize : pattern.size using Nat.strongRecOn generalizing pattern value with
  | ind size ih =>
    rw [bindPattern]
    apply Report.accounts_gatherAll
    intro report hreport
    obtain ⟨⟨element, own⟩, -, rfl⟩ := List.mem_map.1 hreport
    have hlt := Node.size_lt_of_mem_parts element.2
    simp only
    split
    · exact accounts_bindName _ _
    · split
      · exact ih _ (hsize ▸ hlt) element.1 own rfl
      · exact accounts_refused _ _

theorem accounts_literalTargets (assignment value : Node) (type : LiteralType)
    (targets : List Node) :
    (literalTargets source assignment value type targets).Accounts Attribute.type? := by
  rw [literalTargets]
  apply Report.accounts_gatherAll
  intro report hreport
  obtain ⟨target, -, rfl⟩ := List.mem_map.1 hreport
  split
  · exact accounts_bindName _ _
  · split
    · exact accounts_bindPattern _ _ _
    · exact accounts_refused _ _

theorem accounts_aliasTargets (assignment : Node) (target? : Option String)
    (targets : List Node) :
    (aliasTargets source assignment target? targets).Accounts Declaration.attributeType? := by
  rw [aliasTargets]
  apply Report.accounts_gatherAll
  intro report hreport
  obtain ⟨target, -, rfl⟩ := List.mem_map.1 hreport
  split
  · constructor
    · intro declared hdeclared text htext
      obtain ⟨found, -, rfl⟩ := Option.map_eq_some_iff.1 (Option.mem_toList.1 hdeclared)
      cases htext
    · intro name hname
      cases hname
  · split
    · exact (accounts_bindPattern _ _ _).map fun _ => rfl
    · exact accounts_refused _ _

theorem accounts_inferredDeclarations (assignment value : Node) (targets : List Node) :
    (inferredDeclarations source assignment value targets).Accounts
      Declaration.attributeType? := by
  unfold inferredDeclarations
  split
  · exact (accounts_literalTargets _ _ _ _).map fun _ => rfl
  · exact accounts_refused _ _
  · apply Report.Accounts.bind
    · unfold aliasText
      split <;> simp
    · exact accounts_aliasTargets _ _ _

@[simp] theorem required_reportTypeComment (statement : Node) (following : List Node) :
    (reportTypeComment source statement following).required = [] := by
  unfold reportTypeComment
  split <;> rfl

@[simp] theorem required_annotatedName (assignment annotation : Node) :
    (annotatedName source assignment annotation).required = [] := by
  unfold annotatedName
  split
  · rfl
  · split <;> simp

/-- An assignment without annotation accounts for the names that it relies on. -/
theorem accounts_moduleAssignment {assignment : Node} (hplain : assignment.child? .type = none)
    (statement : Node) (following : List Node) :
    (moduleAssignment source statement assignment following).Accounts
      Declaration.attributeType? := by
  rw [moduleAssignment, hplain]
  simp only
  split
  · exact .bind (required_reportTypeComment _ _) (accounts_inferredDeclarations _ _ _)
  · exact Report.accounts_nothing rfl rfl

/-! ## Statements -/

/-- The statement is this assignment. -/
structure IsAssignment (statement assignment : Node) : Prop where
  kind : statement.kind = .expressionStatement
  first : statement.firstPart? = some assignment
  assigns : assignment.kind = .assignment

/-- The statement is this assignment, which has no annotation. -/
structure IsPlainAssignment (statement assignment : Node) : Prop
    extends IsAssignment statement assignment where
  plain : assignment.child? .type = none

theorem IsAssignment.moduleStatement_eq {statement assignment : Node}
    (h : IsAssignment statement assignment) (following : List Node) :
    moduleStatement settings source statement following =
      List.map .declaration <$> moduleAssignment source statement assignment following := by
  obtain ⟨rest, hparts⟩ := List.head?_eq_some_iff.1 h.first
  have hsort : statement.statement = .expression := by simp [Node.statement, h.kind]
  rw [moduleStatement, hsort]
  simp only [moduleExpression, hparts, h.assigns]

theorem IsPlainAssignment.content_extractStatement {leaf : PlacedStatement} {assignment : Node}
    (h : IsPlainAssignment leaf.node assignment) :
    (extractStatement settings source leaf).stub.content =
      (moduleAssignment source leaf.node assignment leaf.following).value := by
  show (moduleStatement settings source leaf.node leaf.following).value.filterMap _ = _
  rw [h.moduleStatement_eq, Report.value_map, List.filterMap_map]
  exact List.filterMap_some

theorem IsAssignment.classStatement_eq {statement assignment : Node}
    (h : IsAssignment statement assignment) (following : List Node) :
    classStatement source statement following =
      List.map .field <$> classAssignment source statement assignment following := by
  have hsort : statement.statement = .expression := by simp [Node.statement, h.kind]
  rw [classStatement, hsort]
  simp only [classExpression, h.first, h.assigns, beq_self_eq_true, if_true]

/-- The class definition that a statement is, with or without decorators. -/
def classDefinition? (statement : Node) : Option Node :=
  match statement.statement with
  | .classDefinition => some statement
  | .decorated => (statement.child? .definition).filter (·.statement == .classDefinition)
  | _ => none

/-- The leaf statements in the bodies of the classes of a module. -/
def memberStatements (settings : ExtractSettings) (source : Source) (root : Node) :
    List PlacedStatement :=
  ((leafStatements settings source root).filterMap (classDefinition? ·.node)).flatMap
    (bodyLeaves settings source)

theorem mem_memberStatements_iff {root : Node} {member : PlacedStatement} :
    member ∈ memberStatements settings source root ↔
      ∃ leaf ∈ leafStatements settings source root, ∃ definition,
        classDefinition? leaf.node = some definition ∧
          member ∈ bodyLeaves settings source definition := by
  simp only [memberStatements, List.mem_flatMap, List.mem_filterMap]
  constructor
  · rintro ⟨definition, ⟨leaf, hleaf, hclass⟩, hmember⟩
    exact ⟨leaf, hleaf, definition, hclass, hmember⟩
  · rintro ⟨leaf, hleaf, definition, hclass, hmember⟩
    exact ⟨definition, ⟨leaf, hleaf, hclass⟩, hmember⟩

/-- A statement that stands in the block itself and has no inner blocks is a leaf. -/
theorem mem_leafStatements_of_own {block : Node} {statement : PlacedStatement}
    (hown : statement ∈ block.ownStatements)
    (hleaf : innerPlaces? settings source statement.node = none) :
    statement ∈ leafStatements settings source block := by
  rw [leafStatements_eq]
  refine List.mem_flatMap.2 ⟨statement, hown, ?_⟩
  rw [leavesOf, hleaf]
  exact List.mem_singleton.2 rfl

theorem required_classAssignment_of_annotated {assignment annotation : Node}
    (h : assignment.child? .type = some annotation) (statement : Node) (following : List Node) :
    (classAssignment source statement assignment following).required = [] := by
  simp [classAssignment, h]

/-- In a class the names are noted before the targets are looked at. -/
theorem required_classAssignment_of_plain {assignment : Node}
    (h : assignment.child? .type = none) (statement : Node) (following : List Node) :
    (classAssignment source statement assignment following).required = [.any, .classVar] := by
  have htargets (target : Node) : (classVariables source assignment target).required = [] := by
    induction hsize : target.size using Nat.strongRecOn generalizing target with
    | ind size ih =>
      rw [classVariables]
      split
      · rfl
      · split
        · rw [Report.required_gatherAll, List.attach_map_val]
          apply Report.flatMap_required_map
          intro part hpart
          exact ih _ (hsize ▸ Node.size_lt_of_mem_parts hpart) part rfl
        · rfl
  simp [classAssignment, h, relyOn, List.flatMap_map, htargets]

/-- What is no assignment declares no variables of a class, and notes no names. -/
theorem classStatement_of_not_isAssignment {statement : Node}
    (h : ∀ assignment, ¬IsAssignment statement assignment) (following : List Node) :
    (classStatement source statement following).required = [] ∧
      ∀ declared, .field declared ∉ (classStatement source statement following).value := by
  have hexpression (hsort : statement.statement = .expression) :
      (classExpression source statement following).required = [] ∧
        (classExpression source statement following).value = [] := by
    unfold classExpression
    split
    · rename_i inner hfirst
      rw [if_neg]
      · split <;> exact ⟨rfl, rfl⟩
      · intro hassigns
        exact h inner ⟨Node.kind_of_statement hsort rfl, hfirst, eq_of_beq hassigns⟩
    · exact ⟨rfl, rfl⟩
  unfold classStatement
  split
  case h_2 hsort => simp [hexpression hsort]
  case h_3 => simp
  case h_4 =>
    unfold decoratedMember
    split
    · simp
    · split
      · simp
      · simp [rejectMember]
  all_goals simp [rejectMember]

/-- In the body of a class just the assignments without annotation note names, and they all note the
same. -/
theorem mem_required_classStatement {statement : Node} {following : List Node}
    {name : TypingName} :
    name ∈ (classStatement source statement following).required ↔
      (∃ assignment, IsPlainAssignment statement assignment) ∧ name ∈ [.any, .classVar] := by
  by_cases h : ∃ assignment, IsAssignment statement assignment
  · obtain ⟨assignment, hassignment⟩ := h
    rw [hassignment.classStatement_eq, Report.required_map]
    cases htype : assignment.child? .type with
    | some annotation =>
      rw [required_classAssignment_of_annotated htype]
      refine iff_of_false List.not_mem_nil ?_
      rintro ⟨⟨other, hplain⟩, -⟩
      cases hassignment.first.symm.trans hplain.first
      cases htype.symm.trans hplain.plain
    | none =>
      rw [required_classAssignment_of_plain htype]
      exact ⟨fun hname => ⟨⟨assignment, hassignment, htype⟩, hname⟩, fun hname => hname.2⟩
  · rw [(classStatement_of_not_isAssignment (not_exists.1 h) following).1]
    refine iff_of_false List.not_mem_nil ?_
    rintro ⟨⟨other, hplain⟩, -⟩
    exact h ⟨other, hplain.toIsAssignment⟩

@[simp] theorem required_classStub (definition : Node) (decorators : List Node) :
    (classStub settings source definition decorators).required =
      (bodyLeaves settings source definition).flatMap fun leaf =>
        (classStatement source leaf.node leaf.following).required := by
  simp [classStub, classBody_eq_bodyLeaves, List.flatMap_map]

/-- What a statement of a module is, as far as classes and names of `typing` go: an assignment
without annotation, a class, or something that brings neither. -/
inductive ModuleStatementCase (settings : ExtractSettings) (source : Source) (statement : Node)
    (following : List Node) : Prop where
  | plain {assignment : Node} (hplain : IsPlainAssignment statement assignment)
      (hclass : classDefinition? statement = none)
  | classStub {definition : Node} (decorators : List Node)
      (hplain : ∀ assignment, ¬IsPlainAssignment statement assignment)
      (hclass : classDefinition? statement = some definition)
      (heq : moduleStatement settings source statement following =
        (fun cls => [.declaration (.classStub cls)]) <$>
          classStub settings source definition decorators)
  | other (hplain : ∀ assignment, ¬IsPlainAssignment statement assignment)
      (hclass : classDefinition? statement = none)
      (hrequired : (moduleStatement settings source statement following).required = [])
      (hnone : ∀ cls, .declaration (.classStub cls) ∉
        (moduleStatement settings source statement following).value)

theorem not_isPlainAssignment_of_sort {statement : Node} (h : statement.statement ≠ .expression)
    (assignment : Node) : ¬IsPlainAssignment statement assignment := by
  intro hplain
  exact h (by simp [Node.statement, hplain.kind])

theorem moduleStatementCase_of_definition {statement : Node} {following : List Node}
    (definition : Node) (decorators : List Node) (hsort : statement.statement ≠ .expression)
    (hclass : classDefinition? statement =
      if definition.statement = .classDefinition then some definition else none)
    (heq : moduleStatement settings source statement following =
      moduleDefinition settings source definition decorators) :
    ModuleStatementCase settings source statement following := by
  have hplain := not_isPlainAssignment_of_sort hsort
  by_cases hdefines : definition.statement = .classDefinition
  · rw [if_pos hdefines] at hclass
    refine .classStub decorators hplain hclass ?_
    rw [heq, moduleDefinition, hdefines]
    rfl
  · rw [if_neg hdefines] at hclass
    unfold moduleDefinition at heq
    split at heq
    · exact .other hplain hclass (by simp [heq]) (by simp [heq])
    · rename_i hsame
      exact absurd hsame hdefines
    · exact .other hplain hclass (by simp [heq]) (by simp [heq])

/-- An expression that is no assignment declares nothing. -/
theorem moduleExpression_of_not_assigns {statement inner : Node} {rest following : List Node}
    (hparts : statement.parts = inner :: rest) (hassigns : inner.kind ≠ .assignment) :
    (moduleExpression source statement following).value = [] ∧
      (moduleExpression source statement following).required = [] := by
  unfold moduleExpression
  rw [hparts]
  simp only
  split
  · contradiction
  · exact ⟨rfl, rfl⟩
  · split
    · exact ⟨rfl, rfl⟩
    · split <;> exact ⟨rfl, rfl⟩

theorem moduleStatementCase_of_expression {statement : Node} {following : List Node}
    (hsort : statement.statement = .expression) :
    ModuleStatementCase settings source statement following := by
  have hkind := Node.kind_of_statement hsort rfl
  have hclass : classDefinition? statement = none := by simp [classDefinition?, hsort]
  cases hparts : statement.parts with
  | nil =>
    refine .other ?_ hclass ?_ ?_
    · intro assignment hplain
      have hfirst := hplain.first
      simp [Node.firstPart?, hparts] at hfirst
    · simp [moduleStatement, hsort, moduleExpression, hparts]
    · simp [moduleStatement, hsort, moduleExpression, hparts]
  | cons inner rest =>
    have hfirst : statement.firstPart? = some inner := by simp [Node.firstPart?, hparts]
    by_cases hassigns : inner.kind = .assignment
    · cases htype : inner.child? .type with
      | none => exact .plain ⟨⟨hkind, hfirst, hassigns⟩, htype⟩ hclass
      | some annotation =>
        refine .other ?_ hclass ?_ ?_
        · intro assignment hplain
          cases hfirst.symm.trans hplain.first
          cases htype.symm.trans hplain.plain
        · simp [moduleStatement, hsort, moduleExpression, hparts, hassigns, moduleAssignment, htype]
        · simp [moduleStatement, hsort, moduleExpression, hparts, hassigns, moduleAssignment, htype]
    · refine .other ?_ hclass ?_ ?_
      · intro assignment hplain
        cases hfirst.symm.trans hplain.first
        exact hassigns hplain.assigns
      · simp [moduleStatement, hsort, moduleExpression_of_not_assigns hparts hassigns]
      · simp [moduleStatement, hsort, moduleExpression_of_not_assigns hparts hassigns]

/-- Every statement of a module is in one of the three cases. -/
theorem moduleStatement_cases (settings : ExtractSettings) (source : Source) (statement : Node)
    (following : List Node) : ModuleStatementCase settings source statement following := by
  have hother (h : statement.statement ≠ .expression) := not_isPlainAssignment_of_sort h
  cases hsort : statement.statement
  case expression => exact moduleStatementCase_of_expression hsort
  case importNames | importFrom =>
    refine .other (hother (by simp [hsort])) (by simp [classDefinition?, hsort]) ?_ ?_
    · simp [moduleStatement, hsort]
    · simp [moduleStatement, hsort]
  case decorated =>
    cases hdefinition : statement.child? .definition with
    | none =>
      refine .other (hother (by simp [hsort])) ?_ ?_ ?_
      · simp [classDefinition?, hsort, hdefinition]
      · simp [moduleStatement, hsort, hdefinition]
      · simp [moduleStatement, hsort, hdefinition]
    | some definition =>
      apply moduleStatementCase_of_definition definition statement.decorators (by simp [hsort])
      · simp [classDefinition?, hsort, hdefinition, Option.filter]
      · simp [moduleStatement, hsort, hdefinition]
  all_goals
    apply moduleStatementCase_of_definition statement [] (by simp [hsort])
    · simp [classDefinition?, hsort]
    · simp [moduleStatement, hsort]

theorem mem_required_moduleStatement {statement : Node} {following : List Node}
    {name : TypingName} :
    name ∈ (moduleStatement settings source statement following).required ↔
      (∃ assignment, IsPlainAssignment statement assignment ∧
        name ∈ (moduleAssignment source statement assignment following).required) ∨
      ∃ definition, classDefinition? statement = some definition ∧
        ∃ leaf ∈ bodyLeaves settings source definition,
          name ∈ (classStatement source leaf.node leaf.following).required := by
  cases moduleStatement_cases settings source statement following with
  | plain hplain hclass =>
    rw [hplain.moduleStatement_eq, Report.required_map]
    constructor
    · intro hname
      exact .inl ⟨_, hplain, hname⟩
    · rintro (⟨other, hother, hname⟩ | ⟨definition, hdefinition, -⟩)
      · cases hplain.first.symm.trans hother.first
        exact hname
      · cases hclass.symm.trans hdefinition
  | classStub decorators hplain hclass heq =>
    rw [heq, Report.required_map, required_classStub, List.mem_flatMap]
    constructor
    · intro hname
      exact .inr ⟨_, hclass, hname⟩
    · rintro (⟨other, hother, -⟩ | ⟨definition, hdefinition, hname⟩)
      · exact absurd hother (hplain other)
      · cases hclass.symm.trans hdefinition
        exact hname
  | other hplain hclass hrequired =>
    rw [hrequired]
    refine iff_of_false List.not_mem_nil ?_
    rintro (⟨other, hother, -⟩ | ⟨definition, hdefinition, -⟩)
    · exact hplain other hother
    · cases hclass.symm.trans hdefinition

/-- The members of the classes among some items of a module. -/
def membersOf (items : List ModuleItem) : List ClassMember :=
  (items.filterMap ModuleItem.declaration?).flatMap Declaration.members

theorem membersOf_moduleStatement (statement : Node) (following : List Node) :
    membersOf (moduleStatement settings source statement following).value =
      ((classDefinition? statement).toList.flatMap (bodyLeaves settings source)).flatMap fun leaf =>
        (classStatement source leaf.node leaf.following).value := by
  have hnone {items : List ModuleItem} (h : ∀ cls, .declaration (.classStub cls) ∉ items) :
      membersOf items = [] := by
    rw [membersOf, List.flatMap_eq_nil_iff]
    intro declared hdeclared
    obtain ⟨item, hitem, hitem'⟩ := List.mem_filterMap.1 hdeclared
    cases item <;> cases hitem'
    cases declared with
    | classStub cls => exact absurd hitem (h cls)
    | «attribute» | typeAlias | function => rfl
  cases moduleStatement_cases settings source statement following with
  | plain hplain hclass =>
    rw [hclass]
    apply hnone
    intro cls hcls
    rw [hplain.moduleStatement_eq] at hcls
    obtain ⟨declared, hdeclared, heq⟩ := List.mem_map.1 hcls
    cases heq
    cases assignedForm_of_mem hdeclared
  | @classStub definition decorators hplain hclass heq =>
    rw [heq, hclass]
    have hbody : (classStub settings source definition decorators).value.body =
        (bodyLeaves settings source definition).flatMap fun leaf =>
          (classStatement source leaf.node leaf.following).value := by
      simp [classStub, classBody_eq_bodyLeaves, Report.value_gatherAll_map]
    simp [membersOf, ModuleItem.declaration?, Declaration.members, hbody]
  | other hplain hclass hrequired hvalue =>
    rw [hclass]
    exact hnone hvalue

end Extraction

/-- The members of the classes of a module. -/
def ModuleStub.members (stub : ModuleStub) : List ClassMember :=
  stub.content.flatMap Declaration.members

/-- The members of the classes of a module are what the statements in their bodies declare. -/
theorem members_extract (settings : ExtractSettings) (source : Source) (root : Node) :
    (extract settings source root).stub.members =
      (memberStatements settings source root).flatMap fun leaf =>
        (classStatement source leaf.node leaf.following).value := by
  have hleaf (leaf : PlacedStatement) :
      (extractStatement settings source leaf).stub.content.flatMap Declaration.members =
        ((classDefinition? leaf.node).toList.flatMap (bodyLeaves settings source)).flatMap
          fun leaf => (classStatement source leaf.node leaf.following).value :=
    membersOf_moduleStatement leaf.node leaf.following
  rw [ModuleStub.members, (extract_joins settings source root).content, List.flatMap_map,
    List.flatMap_assoc, memberStatements, List.filterMap_eq_flatMap_toList, List.flatMap_assoc,
    List.flatMap_assoc]
  simp only [hleaf, List.flatMap_assoc]

theorem content_extractStatement_subset {settings : ExtractSettings} {source : Source} {root : Node}
    {leaf : PlacedStatement} (h : leaf ∈ leafStatements settings source root) :
    (extractStatement settings source leaf).stub.content ⊆
      (extract settings source root).stub.content := by
  intro declared hdeclared
  rw [(extract_joins settings source root).content]
  exact List.mem_flatMap.2 ⟨_, List.mem_map_of_mem h, hdeclared⟩

theorem TypingName.qualified_injective : Function.Injective TypingName.qualified := by
  intro first second h
  revert h
  cases first <;> cases second <;> decide

theorem mem_required_extract {settings : ExtractSettings} {source : Source} {root : Node}
    {name : TypingName} :
    name.qualified ∈ (extract settings source root).required.names ↔
      ∃ leaf ∈ leafStatements settings source root,
        name ∈ (moduleStatement settings source leaf.node leaf.following).required := by
  rw [(extract_joins settings source root).required]
  simp only [List.mem_map, exists_exists_and_eq_and, extractStatement, Extraction.ofReport,
    RequiredImports.mem_names_ofList, TypingName.qualified_injective.eq_iff, exists_eq_right]

/-- Who notes which names: assignments without annotation, in a module for the types they infer, in
the body of a class always the same two. -/
theorem mem_required_iff {settings : ExtractSettings} {source : Source} {root : Node}
    {name : TypingName} :
    name.qualified ∈ (extract settings source root).required.names ↔
      (∃ leaf ∈ leafStatements settings source root, ∃ assignment,
        IsPlainAssignment leaf.node assignment ∧
          name ∈ (moduleAssignment source leaf.node assignment leaf.following).required) ∨
      (∃ leaf ∈ memberStatements settings source root, ∃ assignment,
        IsPlainAssignment leaf.node assignment) ∧ name ∈ [.any, .classVar] := by
  rw [mem_required_extract]
  simp only [mem_required_moduleStatement, mem_required_classStatement]
  constructor
  · rintro ⟨leaf, hleaf, hplain | ⟨definition, hclass, member, hmember, hplain, hname⟩⟩
    · exact .inl ⟨leaf, hleaf, hplain⟩
    · refine .inr ⟨⟨member, ?_, hplain⟩, hname⟩
      exact mem_memberStatements_iff.2 ⟨leaf, hleaf, definition, hclass, hmember⟩
  · rintro (⟨leaf, hleaf, hplain⟩ | ⟨⟨member, hmember, hplain⟩, hname⟩)
    · exact ⟨leaf, hleaf, .inl hplain⟩
    · obtain ⟨leaf, hleaf, definition, hclass, hmember⟩ := mem_memberStatements_iff.1 hmember
      exact ⟨leaf, hleaf, .inr ⟨definition, hclass, member, hmember, hplain, hname⟩⟩

/-! ## Enough names -/

/-- A name of `typing` that occurs in the spelling of a type is noted for the type. -/
theorem Extraction.LiteralType.mem_required_of_infix {type : LiteralType} {name : TypingName}
    (h : name.spelling.toList <:+: type.spelling.toList) : name ∈ type.required := by
  -- No two of the names begin with the same letter, so the letters tell already.
  have hletters : name.spelling.toList ⊆ type.spelling.toList := h.subset
  revert hletters
  cases type <;> cases name <;> decide

/-- The names of `typing` that occur in an inferred annotation are required, and so are the two that
a variable of a class is written with. -/
theorem mem_required_of_inferred (settings : ExtractSettings) (source : Source) (root : Node) :
    (∀ leaf ∈ leafStatements settings source root, ∀ assignment,
      IsPlainAssignment leaf.node assignment → ∀ declared,
      .attribute declared ∈ (extractStatement settings source leaf).stub.content →
        .attribute declared ∈ (extract settings source root).stub.content ∧
        ∀ name : TypingName, name.spelling.toList <:+: declared.annotation.toList →
          name.qualified ∈ (extract settings source root).required.names) ∧
    ∀ leaf ∈ memberStatements settings source root, ∀ assignment,
      IsPlainAssignment leaf.node assignment → ∀ declared,
      .field declared ∈ (classStatement source leaf.node leaf.following).value →
        .field declared ∈ (extract settings source root).stub.members ∧
        TypingName.any.qualified ∈ (extract settings source root).required.names ∧
        TypingName.classVar.qualified ∈ (extract settings source root).required.names := by
  constructor
  · intro leaf hleaf assignment hplain declared hdeclared
    refine ⟨content_extractStatement_subset hleaf hdeclared, ?_⟩
    · intro name hname
      rw [hplain.content_extractStatement] at hdeclared
      obtain ⟨type, hspelling, hnoted⟩ :=
        (accounts_moduleAssignment hplain.plain _ _).noted _ hdeclared _ rfl
      rw [hspelling] at hname
      exact mem_required_iff.2 (.inl ⟨leaf, hleaf, assignment, hplain,
        hnoted (LiteralType.mem_required_of_infix hname)⟩)
  · intro leaf hleaf assignment hplain declared hdeclared
    have hnoted {name : TypingName} (hname : name ∈ [.any, .classVar]) :
        name.qualified ∈ (extract settings source root).required.names :=
      mem_required_iff.2 (.inr ⟨⟨leaf, hleaf, assignment, hplain⟩, hname⟩)
    refine ⟨?_, hnoted (by simp), hnoted (by simp)⟩
    rw [members_extract]
    exact List.mem_flatMap.2 ⟨leaf, hleaf, hdeclared⟩

/-- The statement `x, y = None, []`. -/
def pairAssignment : Node :=
  .inner .assignment none 0 15 [
    .inner .patternList (some .left) 0 4 [
      .inner .identifier none 0 1 [],
      .token "," 1 2,
      .inner .identifier none 3 4 []],
    .token "=" 5 6,
    .inner .expressionList (some .right) 7 15 [
      .inner .noneLiteral none 7 11 [],
      .token "," 11 12,
      .inner .list none 13 15 [.token "[" 13 14, .token "]" 14 15]]]

def pairStatement : Node :=
  .inner .expressionStatement none 0 15 [pairAssignment]

/-- The assignment `n = 1` in the body of a class. -/
def counterAssignment : Node :=
  .inner .assignment none 29 34 [
    .inner .identifier (some .left) 29 30 [],
    .token "=" 31 32,
    .inner .integer (some .right) 33 34 []]

def counterAssignmentStatement : Node :=
  .inner .expressionStatement none 29 34 [counterAssignment]

def counterAssignmentClass : Node :=
  .inner .classDefinition none 16 34 [
    .token "class" 16 21,
    .inner .identifier (some .name) 22 23 [],
    .token ":" 23 24,
    .inner .block (some .body) 29 34 [counterAssignmentStatement]]

/-- A module with both. -/
def inferredModule : Node :=
  .inner (.other "module") none 0 35 [pairStatement, counterAssignmentClass]

def inferredSource : Source :=
  .ofText "inferred.py" "x, y = None, []\nclass C:\n    n = 1\n"

/-- The item of a pair brings the names of its annotation, the variable of the class two more. -/
theorem inferredModule_required :
    (extract {} inferredSource inferredModule).stub.content =
      [.attribute ⟨"x", "Optional[Any]"⟩, .attribute ⟨"y", "List[Any]"⟩,
        .classStub { name := "C", body := [.field (.unannotated "n")] }] ∧
    "typing.List" ∈ (extract {} inferredSource inferredModule).required.names ∧
    "typing.ClassVar" ∈ (extract {} inferredSource inferredModule).required.names := by
  obtain ⟨hattributes, hfields⟩ := mem_required_of_inferred {} inferredSource inferredModule
  have hpair : ⟨⟨[0], pairStatement⟩, [counterAssignmentClass]⟩ ∈
      leafStatements {} inferredSource inferredModule :=
    mem_leafStatements_of_own (.head _) rfl
  have hclass : ⟨⟨[1], counterAssignmentClass⟩, []⟩ ∈
      leafStatements {} inferredSource inferredModule :=
    mem_leafStatements_of_own (.tail _ (.head _)) rfl
  have hmember : ⟨⟨[0], counterAssignmentStatement⟩, []⟩ ∈
      memberStatements {} inferredSource inferredModule :=
    mem_memberStatements_iff.2 ⟨_, hclass, counterAssignmentClass, rfl,
      mem_leafStatements_of_own (.head _) rfl⟩
  refine ⟨by decide +kernel, ?_, ?_⟩
  · exact (hattributes _ hpair pairAssignment ⟨⟨rfl, rfl, rfl⟩, rfl⟩ ⟨"y", "List[Any]"⟩
      (by decide +kernel)).2 .list ⟨[], "[Any]".toList, by decide⟩
  · exact (hfields _ hmember counterAssignment ⟨⟨rfl, rfl, rfl⟩, rfl⟩ (.unannotated "n")
      (by decide +kernel)).2.2

/-! ## No more names than needed -/

/-- The words of a text: its longest runs of characters that may stand in a path. -/
def wordsOf (text : String) : List String :=
  (text.toList.splitOnP (!isWordChar ·)).map String.ofList

/-- The name stands in the text as a word of its own. -/
def Mentions (text : String) (name : TypingName) : Prop :=
  name.spelling ∈ wordsOf text

instance (text : String) (name : TypingName) : Decidable (Mentions text name) :=
  inferInstanceAs (Decidable (name.spelling ∈ wordsOf text))

theorem Extraction.LiteralType.mentions_of_mem_required {type : LiteralType} {name : TypingName}
    (h : name ∈ type.required) : name ≠ .classVar ∧ Mentions type.spelling name := by
  revert h
  cases type <;> cases name <;> decide +kernel

/-- The stub has a use for the name: `ClassVar` is written around the type of a variable of a class,
any other name stands in an annotation. -/
def ModuleStub.ReliesOn (stub : ModuleStub) (name : TypingName) : Prop :=
  if name = .classVar then ∃ declared, .field declared ∈ stub.members ∧ declared.classVar = true
  else (∃ declared, .attribute declared ∈ stub.content ∧ Mentions declared.annotation name) ∨
    ∃ declared, .field declared ∈ stub.members ∧ Mentions declared.annotation name

namespace Extraction

variable {settings : ExtractSettings} {source : Source}

/-- An assignment without annotation in a class declares the names that it binds. -/
theorem IsPlainAssignment.value_classStatement {statement assignment : Node}
    (h : IsPlainAssignment statement assignment) (following : List Node) :
    (classStatement source statement following).value =
      (boundNames assignment).map fun name => .field (.unannotated (source.text name)) := by
  have htype := h.plain
  rw [h.classStatement_eq]
  simp only [Report.value_map, classAssignment, htype, boundNames, Report.value_bind,
    Report.value_gatherAll_map, value_classVariables, List.map_flatMap, List.map_map,
    Function.comp_def]

end Extraction

theorem ModuleStub.reliesOn_of_attribute {stub : ModuleStub} {declared : Attribute}
    {type : LiteralType} {name : TypingName} (hmem : .attribute declared ∈ stub.content)
    (htype : declared.annotation = type.spelling) (hname : name ∈ type.required) :
    stub.ReliesOn name := by
  obtain ⟨hne, hmentions⟩ := LiteralType.mentions_of_mem_required hname
  rw [ReliesOn, if_neg hne]
  exact .inl ⟨declared, hmem, htype ▸ hmentions⟩

/-- A variable of a class without annotation has a use for the names that classes note. -/
theorem ModuleStub.reliesOn_of_unannotated {stub : ModuleStub} {name : String}
    {typing : TypingName} (hmem : .field (.unannotated name) ∈ stub.members)
    (htyping : typing ∈ [.any, .classVar]) : stub.ReliesOn typing := by
  rw [ReliesOn]
  split
  · exact ⟨_, hmem, rfl⟩
  · rename_i hne
    simp only [List.mem_cons, hne, List.not_mem_nil, or_false] at htyping
    subst htyping
    refine .inr ⟨_, hmem, ?_⟩
    show Mentions "Any" _
    decide +kernel

theorem ModuleStub.ReliesOn.of_subset {first second : ModuleStub} {name : TypingName}
    (h : first.ReliesOn name) (hsubset : first.content ⊆ second.content) :
    second.ReliesOn name := by
  have hmembers : first.members ⊆ second.members := by
    intro member hmember
    obtain ⟨declared, hdeclared, hmember⟩ := List.mem_flatMap.1 hmember
    exact List.mem_flatMap.2 ⟨declared, hsubset hdeclared, hmember⟩
  unfold ModuleStub.ReliesOn at h ⊢
  split
  · rename_i hname
    rw [if_pos hname] at h
    obtain ⟨declared, hdeclared, hvar⟩ := h
    exact ⟨declared, hmembers hdeclared, hvar⟩
  · rename_i hname
    rw [if_neg hname] at h
    rcases h with ⟨declared, hdeclared, hmentions⟩ | ⟨declared, hdeclared, hmentions⟩
    · exact .inl ⟨declared, hsubset hdeclared, hmentions⟩
    · exact .inr ⟨declared, hmembers hdeclared, hmentions⟩

/-- An assignment without annotation in a module has a use for every name that it notes. -/
theorem reliesOn_extractStatement {settings : ExtractSettings} {source : Source}
    {leaf : PlacedStatement} {assignment : Node} (hplain : IsPlainAssignment leaf.node assignment)
    {name : TypingName}
    (hname : name ∈ (moduleAssignment source leaf.node assignment leaf.following).required) :
    (extractStatement settings source leaf).stub.ReliesOn name := by
  obtain ⟨declared, hdeclared, type, htype, hname⟩ :=
    (accounts_moduleAssignment hplain.plain _ _).written name hname
  rw [← hplain.content_extractStatement] at hdeclared
  cases declared with
  | «attribute» => exact ModuleStub.reliesOn_of_attribute hdeclared (Option.some.inj htype) hname
  | typeAlias | function | classStub => cases htype

/-- Every required name is one of `typing` that the stub has a use for. -/
def Extraction.Minimal (extraction : Extraction) : Prop :=
  ∀ name ∈ extraction.required.names, ∃ typing : TypingName,
    typing.qualified = name ∧ extraction.stub.ReliesOn typing

theorem Extraction.minimal_ofReport_iff {source : Source} {report : Report (List ModuleItem)} :
    (ofReport source report).Minimal ↔
      ∀ typing : TypingName, typing.qualified ∈ (ofReport source report).required.names →
        (ofReport source report).stub.ReliesOn typing := by
  constructor
  · intro h typing htyping
    obtain ⟨other, hother, hrelies⟩ := h _ htyping
    rw [← TypingName.qualified_injective hother]
    exact hrelies
  · intro h name hname
    obtain ⟨typing, -, rfl⟩ := List.mem_map.1 (RequiredImports.mem_names_ofList.1 hname)
    exact ⟨typing, rfl, h typing hname⟩

/-- The required names are in use, unless an assignment in the body of a class binds no name and the
rest of the stub has no use for what it notes.  An assignment in a module has by itself a use for
what it notes; one in a class notes the same two names whatever it binds. -/
theorem required_minimal_iff (settings : ExtractSettings) (source : Source) (root : Node) :
    ((extract settings source root).Minimal ↔
      ((∃ leaf ∈ memberStatements settings source root, ∃ assignment,
          IsPlainAssignment leaf.node assignment ∧ boundNames assignment = []) →
        (extract settings source root).stub.ReliesOn .any ∧
          (extract settings source root).stub.ReliesOn .classVar)) ∧
    (∀ leaf ∈ leafStatements settings source root, ∀ assignment,
      IsPlainAssignment leaf.node assignment → (extractStatement settings source leaf).Minimal) ∧
    ∀ leaf ∈ memberStatements settings source root, ∀ assignment,
      IsPlainAssignment leaf.node assignment →
        (classStatement source leaf.node leaf.following).value =
          (boundNames assignment).map (fun name => .field (.unannotated (source.text name))) ∧
        (classStatement source leaf.node leaf.following).required = [.any, .classVar] := by
  refine ⟨?_, ?_, ?_⟩
  · apply Extraction.minimal_ofReport_iff.trans
    constructor
    · rintro h ⟨leaf, hleaf, assignment, hplain, -⟩
      have hrelies {name : TypingName} (hname : name ∈ [.any, .classVar]) :=
        h name (mem_required_iff.2 (.inr ⟨⟨leaf, hleaf, assignment, hplain⟩, hname⟩))
      exact ⟨hrelies (by simp), hrelies (by simp)⟩
    · intro hdropped typing htyping
      rcases mem_required_iff.1 htyping with
        ⟨leaf, hleaf, assignment, hplain, hname⟩ | ⟨⟨leaf, hleaf, assignment, hplain⟩, hname⟩
      · exact (reliesOn_extractStatement hplain hname).of_subset
          (content_extractStatement_subset hleaf)
      · cases hnames : boundNames assignment with
        | nil =>
          obtain ⟨hany, hclassVar⟩ := hdropped ⟨leaf, hleaf, assignment, hplain, hnames⟩
          rcases List.mem_pair.1 hname with rfl | rfl
          · exact hany
          · exact hclassVar
        | cons name names =>
          have hmember : .field (.unannotated (source.text name)) ∈
              (extract settings source root).stub.members := by
            rw [members_extract]
            refine List.mem_flatMap.2 ⟨leaf, hleaf, ?_⟩
            rw [hplain.value_classStatement, hnames]
            exact List.mem_cons_self
          exact ModuleStub.reliesOn_of_unannotated hmember hname
  · intro leaf hleaf assignment hplain
    apply Extraction.minimal_ofReport_iff.2
    intro typing htyping
    obtain ⟨other, hother, heq⟩ := List.mem_map.1 (RequiredImports.mem_names_ofList.1 htyping)
    rw [TypingName.qualified_injective heq, hplain.moduleStatement_eq,
      Report.required_map] at hother
    exact reliesOn_extractStatement hplain hother
  · intro leaf hleaf assignment hplain
    refine ⟨hplain.value_classStatement leaf.following, ?_⟩
    rw [hplain.classStatement_eq, Report.required_map,
      required_classAssignment_of_plain hplain.plain]

/-- The assignment `a.b = 1`. -/
def memberAssignment : Node :=
  .inner .assignment none 15 22 [
    .inner .attribute (some .left) 15 18 [
      .inner .identifier (some .object) 15 16 [],
      .token "." 16 17,
      .inner .identifier (some .attribute) 17 18 []],
    .token "=" 19 20,
    .inner .integer (some .right) 21 22 []]

def memberAssignmentStatement : Node :=
  .inner .expressionStatement none 15 22 [memberAssignment]

def memberAssignmentClass : Node :=
  .inner .classDefinition none 0 22 [
    .token "class" 0 5,
    .inner .identifier (some .name) 6 9 [],
    .token ":" 9 10,
    .inner .block (some .body) 15 22 [memberAssignmentStatement]]

/-- A module with a class that has the assignment in its body and nothing else. -/
def memberAssignmentModule : Node :=
  .inner (.other "module") none 0 23 [memberAssignmentClass]

def memberAssignmentSource : Source :=
  .ofText "member.py" "class Foo:\n    a.b = 1\n"

/-- The class has no members, and yet two names are required. -/
theorem memberAssignmentModule_not_minimal :
    (extract {} memberAssignmentSource memberAssignmentModule).stub.content =
      [.classStub { name := "Foo" }] ∧
    (extract {} memberAssignmentSource memberAssignmentModule).required.names =
      ["typing.Any", "typing.ClassVar"] ∧
    ¬(extract {} memberAssignmentSource memberAssignmentModule).Minimal := by
  have hcontent : (extract {} memberAssignmentSource memberAssignmentModule).stub.content =
      [.classStub { name := "Foo" }] := by decide +kernel
  refine ⟨hcontent, by decide +kernel, ?_⟩
  intro hminimal
  have hmember : ⟨⟨[0], memberAssignmentStatement⟩, []⟩ ∈
      memberStatements {} memberAssignmentSource memberAssignmentModule := by
    have hclass : ⟨⟨[0], memberAssignmentClass⟩, []⟩ ∈
        leafStatements {} memberAssignmentSource memberAssignmentModule :=
      mem_leafStatements_of_own (.head _) rfl
    refine mem_memberStatements_iff.2 ⟨_, hclass, memberAssignmentClass, rfl, ?_⟩
    exact mem_leafStatements_of_own (.head _) rfl
  have hplain : IsPlainAssignment memberAssignmentStatement memberAssignment :=
    ⟨⟨rfl, rfl, rfl⟩, rfl⟩
  have hbound : boundNames memberAssignment = [] := by decide +kernel
  obtain ⟨hany, -⟩ := (required_minimal_iff {} memberAssignmentSource memberAssignmentModule).1.1
    hminimal ⟨_, hmember, memberAssignment, hplain, hbound⟩
  simp [ModuleStub.ReliesOn, ModuleStub.members, hcontent, Declaration.members] at hany

end InterfaceStub
