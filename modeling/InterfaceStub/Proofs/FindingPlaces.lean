import InterfaceStub.Proofs.ExtractedForm
import InterfaceStub.Proofs.SilentStatements
import InterfaceStub.Proofs.TextOrigins

/-!
# Where findings stand

A finding has the line of the node that it is about.  That node is found in many ways: it may be the
statement itself, a parameter, a comment between parameters, or an expression inside parentheses.
In each case it is a node of the statement that is extracted, and this module says so.

`Report.FoundIn` is the property, with one lemma for each way to put reports together and one for
each function that reports.  They end in `foundIn_moduleStatement` and `foundIn_classStatement`.
-/

namespace InterfaceStub

open Syntax Extraction

namespace Extraction

variable {settings : ExtractSettings} {source : Source}

/-! ## Reports -/

namespace Report

/-- Every finding stands at a node of this tree. -/
def FoundIn (source : Source) (tree : Node) (report : Report α) : Prop :=
  ∀ finding ∈ report.findings, ∃ node ∈ tree.nodes, finding.line = source.line node

variable {tree : Node}

theorem foundIn_of_nil {report : Report α} (h : report.findings = []) :
    report.FoundIn source tree := by
  intro finding hfinding
  rw [h] at hfinding
  cases hfinding

theorem foundIn_pure (value : α) : (pure value : Report α).FoundIn source tree :=
  foundIn_of_nil rfl

theorem FoundIn.of_mem {report : Report α} {inner : Node} (h : report.FoundIn source inner)
    (hinner : inner ∈ tree.nodes) : report.FoundIn source tree := by
  intro finding hfinding
  obtain ⟨node, hnode, hline⟩ := h finding hfinding
  exact ⟨node, Node.mem_nodes_trans hnode hinner, hline⟩

theorem FoundIn.bind {report : Report α} {next : α → Report β} (h : report.FoundIn source tree)
    (hnext : (next report.value).FoundIn source tree) : (report >>= next).FoundIn source tree := by
  intro finding hfinding
  rcases List.mem_append.1 hfinding with hfirst | hlater
  · exact h finding hfirst
  · exact hnext finding hlater

theorem FoundIn.map {report : Report α} (h : report.FoundIn source tree) (f : α → β) :
    (f <$> report).FoundIn source tree := by
  intro finding hfinding
  rw [findings_map] at hfinding
  exact h finding hfinding

theorem foundIn_gather {reports : List (Report α)}
    (h : ∀ report ∈ reports, report.FoundIn source tree) :
    (gather reports).FoundIn source tree := by
  intro finding hfinding
  obtain ⟨report, hreport, hfinding⟩ := List.mem_flatMap.1 hfinding
  exact h report hreport finding hfinding

theorem foundIn_gather_map {items : List α} {report : α → Report β}
    (h : ∀ item ∈ items, (report item).FoundIn source tree) :
    (gather (items.map report)).FoundIn source tree :=
  foundIn_gather (List.forall_mem_map.2 h)

theorem foundIn_gatherAll_map {items : List α} {report : α → Report (List β)}
    (h : ∀ item ∈ items, (report item).FoundIn source tree) :
    (gatherAll (items.map report)).FoundIn source tree :=
  (foundIn_gather_map h).map _

end Report

open Report

variable {tree : Node}

theorem foundIn_flag {node : Node} (h : node ∈ tree.nodes) (problem : Problem) :
    (flag source node problem).FoundIn source tree := by
  intro finding hfinding
  rw [List.mem_singleton.1 hfinding]
  exact ⟨node, h, rfl⟩

/-- A problem is reported, and nothing is given. -/
theorem foundIn_refused {node : Node} (h : node ∈ tree.nodes) (problem : Problem) (value : α) :
    (do flag source node problem; return value : Report α).FoundIn source tree :=
  (foundIn_flag h problem).bind (foundIn_pure value)

/-! ## Paths and type expressions -/

theorem foundIn_namePathIn (outer node : Node) :
    (namePathIn source outer node).FoundIn source node := by
  fun_induction namePathIn source outer node with
  | case1 => exact foundIn_pure _
  | case2 node hshape object member hobject hmember ih =>
    have hmem := Node.mem_nodes_trans (Node.mem_nodes_of_child? hobject) node.unwrapped_mem_nodes
    exact (ih.of_mem hmem).bind (foundIn_pure _)
  | case3 => exact foundIn_pure _
  | case4 node hshape object member hobject hmember ih =>
    have hpart := (List.dropLast_sublist _).subset (List.mem_of_mem_head? hobject)
    have hmem := Node.mem_nodes_trans (Node.mem_nodes_of_mem_parts hpart) node.unwrapped_mem_nodes
    exact (ih.of_mem hmem).bind (foundIn_pure _)
  | case5 => exact foundIn_pure _
  | case6 node => exact foundIn_refused node.unwrapped_mem_nodes _ _

theorem foundIn_namePath (node : Node) : (namePath source node).FoundIn source node :=
  foundIn_namePathIn node node

theorem foundIn_subscriptBase (subscript : Node) :
    (subscriptBase source subscript).FoundIn source subscript := by
  unfold subscriptBase
  split
  · exact foundIn_pure _
  · rename_i value hvalue
    have hmem := Node.mem_nodes_of_child? hvalue
    split
    · exact (foundIn_namePath value).of_mem hmem
    · exact (foundIn_namePath value).of_mem hmem
    · exact foundIn_refused hmem _ _

theorem foundIn_appliedTo {base : Report (Option String)} {arguments : List Node}
    (hbase : base.FoundIn source tree)
    (harguments : ∀ argument ∈ arguments, (typeText source argument).FoundIn source tree) :
    (appliedTo source base arguments).FoundIn source tree := by
  unfold appliedTo
  apply hbase.bind
  split
  · exact foundIn_pure _
  · exact (foundIn_gather_map harguments).bind (foundIn_pure _)

theorem foundIn_typeText (node : Node) : (typeText source node).FoundIn source node := by
  induction hsize : node.size using Nat.strongRecOn generalizing node with
  | ind size ih =>
    have hself := node.unwrapped_mem_nodes
    have hinner {inner : Node} (hmem : inner ∈ node.unwrapped.nodes)
        (hlt : inner.size < node.unwrapped.size) : (typeText source inner).FoundIn source node := by
      have hle := node.size_unwrapped_le
      exact (ih inner.size (by omega) inner rfl).of_mem (Node.mem_nodes_trans hmem hself)
    cases hshape : source.shapeOf node
    case subscript =>
      rw [typeText_subscript hshape]
      apply foundIn_appliedTo ((foundIn_subscriptBase _).of_mem hself)
      intro argument hargument
      exact hinner (mem_nodes_of_mem_subscriptArguments hargument)
        (size_lt_of_mem_subscriptArguments hargument)
    case genericType =>
      rw [typeText, hshape]
      simp only
      split
      · rename_i base arguments hbase harguments
        have hmem := Node.mem_nodes_trans (Node.mem_nodes_of_firstPart? hbase) hself
        simp only [List.attach_map_val]
        apply foundIn_appliedTo ((foundIn_namePath base).of_mem hmem)
        intro argument hargument
        exact hinner (mem_nodes_of_genericArguments? harguments hargument)
          (size_lt_of_genericArguments? harguments hargument)
      · exact foundIn_pure _
    case list =>
      rw [typeText_list hshape]
      refine (foundIn_gather_map fun item hitem => ?_).bind (foundIn_pure _)
      exact hinner (Node.mem_nodes_of_mem_parts hitem) (Node.size_lt_of_mem_parts hitem)
    all_goals rw [typeText, hshape]
    case name | «attribute» | memberType => exact foundIn_namePath node
    case noneValue | ellipsis => exact foundIn_pure _
    case string =>
      simp only
      split
      · exact foundIn_refused hself _ _
      · exact foundIn_pure _
    all_goals exact foundIn_refused hself _ _

theorem foundIn_optionalType {type : Option Node} (h : ∀ node ∈ type, node ∈ tree.nodes) :
    (optionalType source type).FoundIn source tree := by
  cases type with
  | none => exact foundIn_pure _
  | some type => exact (foundIn_typeText type).of_mem (h type rfl)

theorem foundIn_baseClass (node : Node) : (baseClass source node).FoundIn source node := by
  fun_induction baseClass source node with
  | case1 node => exact foundIn_namePath node
  | case2 node => exact foundIn_namePath node
  | case3 node hshape ih =>
    have hself := node.unwrapped_mem_nodes
    apply ((foundIn_subscriptBase _).of_mem hself).bind
    split
    · exact foundIn_pure _
    · split
      · rename_i argument hargument
        have hmem : argument ∈ node.unwrapped.nodes :=
          Node.mem_nodes_of_mem_childrenAt (by rw [hargument]; exact List.mem_singleton.2 rfl)
        exact ((ih argument hargument).of_mem (Node.mem_nodes_trans hmem hself)).bind
          (foundIn_pure _)
      · exact foundIn_refused hself _ _
  | case4 node => exact foundIn_refused node.unwrapped_mem_nodes _ _

/-! ## Signatures -/

theorem foundIn_decoratorPath (decorator : Node) :
    (decoratorPath source decorator).FoundIn source decorator := by
  unfold decoratorPath
  split
  · exact foundIn_pure _
  · rename_i expression hexpression
    have hmem := Node.mem_nodes_of_firstPart? hexpression
    split
    · exact (foundIn_namePath expression).of_mem hmem
    · exact (foundIn_namePath expression).of_mem hmem
    · exact foundIn_refused (Node.mem_nodes_trans expression.unwrapped_mem_nodes hmem) _ _

/-- The nodes of an entry that a report may be about: its annotation or what cannot be expressed. -/
def ParameterEntry.reportable : ParameterEntry → List Node
  | .plain _ type _ | .varArg _ type | .kwArg _ type => type.toList
  | .slash node | .typeComment node | .unsupported _ node => [node]
  | .star | .nothing => []

theorem reportable_splatEntry {parameters splat node : Node} {type : Option Node}
    (h : node ∈ (splatEntry parameters splat type).reportable) :
    node = splat ∨ type = some node := by
  unfold splatEntry at h
  split at h
  · split at h
    · split at h <;> exact .inr (Option.mem_toList.1 h)
    · exact .inl (List.mem_singleton.1 h)
  · exact .inl (List.mem_singleton.1 h)

theorem reportable_partEntry {parameters child node : Node}
    (h : node ∈ (partEntry parameters child).reportable) : node ∈ child.nodes := by
  have htype (htype : child.child? .type = some node) : node ∈ child.nodes :=
    Node.mem_nodes_of_child? htype
  unfold partEntry at h
  split at h
  case h_1 | h_9 =>
    rw [List.mem_singleton.1 h]
    exact child.mem_nodes_self
  case h_2 | h_3 => cases h
  case h_4 | h_5 =>
    rcases reportable_splatEntry h with rfl | hnone
    · exact node.mem_nodes_self
    · cases hnone
  case h_6 =>
    split at h
    · rename_i inner hinner
      split at h
      · rcases reportable_splatEntry h with rfl | hannotation
        · exact Node.mem_nodes_of_firstPart? hinner
        · exact htype hannotation
      · exact htype (Option.mem_toList.1 h)
    · cases h
  case h_7 | h_8 =>
    split at h
    · rename_i name hname
      split at h
      · exact htype (Option.mem_toList.1 h)
      · rw [List.mem_singleton.1 h]
        exact Node.mem_nodes_of_child? hname
    · cases h

theorem reportable_of_mem_entries {parameters node : Node} {entry : ParameterEntry}
    (hentry : entry ∈ entries source parameters) (hnode : node ∈ entry.reportable) :
    node ∈ parameters.nodes := by
  obtain ⟨child, hchild, rfl⟩ := List.mem_map.1 hentry
  have hmem := Node.mem_nodes_of_mem_children (List.mem_filter.1 hchild).1
  unfold entryOf at hnode
  split at hnode
  · split at hnode
    · rw [List.mem_singleton.1 hnode]
      exact hmem
    · cases hnode
  · exact Node.mem_nodes_trans (reportable_partEntry hnode) hmem

theorem foundIn_reportEntries {slashed : Bool} {found : List ParameterEntry}
    (h : ∀ entry ∈ found, ∀ node ∈ entry.reportable, node ∈ tree.nodes) :
    (reportEntries source slashed found).FoundIn source tree := by
  induction found generalizing slashed with
  | nil => exact foundIn_pure _
  | cons entry rest ih =>
    obtain ⟨hentry, hrest⟩ := List.forall_mem_cons.1 h
    cases entry with
    | slash node =>
      cases slashed with
      | true => exact ih hrest
      | false => exact (foundIn_flag (hentry node (List.mem_singleton.2 rfl)) _).bind (ih hrest)
    | typeComment node =>
      exact (foundIn_flag (hentry node (List.mem_singleton.2 rfl)) _).bind (ih hrest)
    | unsupported parent child =>
      exact (foundIn_flag (hentry child (List.mem_singleton.2 rfl)) _).bind (ih hrest)
    | _ => exact ih hrest

theorem foundIn_argument {parameter : Parameter} (h : ∀ node ∈ parameter.type, node ∈ tree.nodes)
    (hasDefault : Bool) : (parameter.argument source hasDefault).FoundIn source tree :=
  (foundIn_optionalType h).bind (foundIn_pure _)

theorem foundIn_positionalArguments {parameters : Node} {positional : List Parameter}
    (h : ∀ parameter ∈ positional, ∀ node ∈ parameter.type, node ∈ parameters.nodes) :
    (positionalArguments source parameters positional).FoundIn source parameters := by
  unfold positionalArguments
  split
  · rename_i pairs hpairs
    apply foundIn_gather_map
    rintro ⟨parameter, value⟩ hpair
    unfold alignRight at hpairs
    split at hpairs
    · cases hpairs
      exact foundIn_argument (h parameter (List.of_mem_zip hpair).1) _
    · cases hpairs
  · exact foundIn_refused parameters.mem_nodes_self _ _

theorem foundIn_parameterList (name : String) (parameters : Node) :
    (parameterList source name parameters).FoundIn source parameters := by
  have htypes : ∀ parameter ∈ assignRoles false (entries source parameters),
      ∀ node ∈ parameter.type, node ∈ parameters.nodes := by
    intro parameter hparameter node hnode
    obtain ⟨entry, hentry, hread⟩ := exists_entry_of_mem_assignRoles hparameter
    apply reportable_of_mem_entries hentry
    cases entry <;> cases hread <;> exact Option.mem_toList.2 hnode
  unfold parameterList
  refine (foundIn_reportEntries fun entry hentry node => reportable_of_mem_entries hentry).bind ?_
  rw [List.partition_eq_filter_filter]
  refine (foundIn_positionalArguments fun parameter hparameter => ?_).bind ?_
  · exact htypes parameter (List.mem_filter.1 hparameter).1
  · refine (foundIn_gather_map fun parameter hparameter => ?_).bind (foundIn_pure _)
    exact (foundIn_argument (htypes parameter (List.mem_filter.1 hparameter).1) _).bind
      (foundIn_pure _)

theorem foundIn_functionStub {statement definition : Node} {decorators : List Node}
    (h : DefinedIn statement definition decorators) :
    (functionStub source definition decorators).FoundIn source statement := by
  have hdecorators : (gather (decorators.map (decoratorPath source))).FoundIn source statement :=
    foundIn_gather_map fun decorator hdecorator =>
      (foundIn_decoratorPath decorator).of_mem (h.decorators decorator hdecorator)
  have hreturns : (optionalType source (definition.child? .returnType)).FoundIn source statement :=
    foundIn_optionalType fun type htype =>
      Node.mem_nodes_trans (Node.mem_nodes_of_child? htype) h.definition
  have hcomment (stub : FunctionStub) :
      (if source.signatureDeclaresType definition then do
        flag source definition (.unsupported .typeComments)
        return stub
      else return stub : Report FunctionStub).FoundIn source statement := by
    split
    · exact foundIn_refused h.definition _ _
    · exact foundIn_pure _
  unfold functionStub
  apply hdecorators.bind
  cases hparameters : definition.child? .parameters with
  | none => exact (foundIn_pure _).bind (hreturns.bind (hcomment _))
  | some parameters =>
    have hmem := Node.mem_nodes_trans (Node.mem_nodes_of_child? hparameters) h.definition
    exact ((foundIn_parameterList _ parameters).of_mem hmem).bind (hreturns.bind (hcomment _))

/-! ## Assignments -/

theorem foundIn_bindName (name : Node) (type : LiteralType) :
    (bindName source name type).FoundIn source tree :=
  foundIn_of_nil rfl

/-- A target is a name, a pattern, or refused. -/
theorem foundIn_target {named bound : Report (List α)} {target : Node}
    (hnamed : named.FoundIn source target) (hbound : bound.FoundIn source target)
    (problem : Problem) :
    (if target.isName then named
      else if target.isPattern then bound
      else do
        flag source target problem
        return []).FoundIn source target := by
  split
  · exact hnamed
  · split
    · exact hbound
    · exact foundIn_refused target.mem_nodes_self _ _

theorem foundIn_bindPattern (assignment pattern : Node) (value : Option Node) :
    (bindPattern source assignment pattern value).FoundIn source pattern := by
  induction hsize : pattern.size using Nat.strongRecOn generalizing pattern value with
  | ind size ih =>
    rw [bindPattern]
    apply foundIn_gatherAll_map
    rintro ⟨element, own⟩ -
    have hbound := ih _ (hsize ▸ Node.size_lt_of_mem_parts element.2) element.1 own rfl
    exact (foundIn_target (foundIn_bindName _ _) hbound _).of_mem
      (Node.mem_nodes_of_mem_parts element.2)

theorem foundIn_classVariables (assignment target : Node) :
    (classVariables source assignment target).FoundIn source target := by
  induction hsize : target.size using Nat.strongRecOn generalizing target with
  | ind size ih =>
    rw [classVariables, List.attach_map_val]
    refine foundIn_target (foundIn_pure _) (foundIn_gatherAll_map fun part hpart => ?_) _
    exact (ih _ (hsize ▸ Node.size_lt_of_mem_parts hpart) part rfl).of_mem
      (Node.mem_nodes_of_mem_parts hpart)

theorem foundIn_literalTargets {assignment value : Node} {type : LiteralType} {targets : List Node}
    (h : ∀ target ∈ targets, target ∈ tree.nodes) :
    (literalTargets source assignment value type targets).FoundIn source tree := by
  refine foundIn_gatherAll_map fun target htarget => ?_
  exact (foundIn_target (foundIn_bindName _ _) (foundIn_bindPattern _ _ _) _).of_mem
    (h target htarget)

theorem foundIn_aliasTargets {assignment : Node} {target? : Option String} {targets : List Node}
    (h : ∀ target ∈ targets, target ∈ tree.nodes) :
    (aliasTargets source assignment target? targets).FoundIn source tree := by
  refine foundIn_gatherAll_map fun target htarget => ?_
  exact (foundIn_target (foundIn_pure _) ((foundIn_bindPattern _ _ _).map _) _).of_mem
    (h target htarget)

theorem foundIn_inferredDeclarations {assignment value : Node} {targets : List Node}
    (hassignment : assignment ∈ tree.nodes) (hvalue : value ∈ tree.nodes)
    (htargets : ∀ target ∈ targets, target ∈ tree.nodes) :
    (inferredDeclarations source assignment value targets).FoundIn source tree := by
  unfold inferredDeclarations
  split
  · exact (foundIn_literalTargets htargets).map _
  · exact foundIn_refused hassignment _ _
  · refine FoundIn.bind ?_ (foundIn_aliasTargets htargets)
    unfold aliasText
    split
    · exact (foundIn_typeText value).of_mem hvalue
    · exact foundIn_pure _

theorem foundIn_reportTypeComment (statement : Node) (following : List Node) :
    (reportTypeComment source statement following).FoundIn source statement := by
  unfold reportTypeComment
  split
  · exact foundIn_flag statement.mem_nodes_self _
  · exact foundIn_pure _

theorem foundIn_annotatedName {assignment annotation : Node}
    (h : assignment.child? .type = some annotation) :
    (annotatedName source assignment annotation).FoundIn source assignment := by
  unfold annotatedName
  split
  · exact foundIn_pure _
  · rename_i target htarget
    split
    · have hmem := Node.mem_nodes_of_child? h
      exact ((foundIn_typeText annotation).of_mem hmem).bind (foundIn_pure _)
    · exact foundIn_refused (Node.mem_nodes_of_child? htarget) _ _

theorem foundIn_moduleAssignment {statement assignment : Node} {following : List Node}
    (h : assignment ∈ statement.nodes) :
    (moduleAssignment source statement assignment following).FoundIn source statement := by
  unfold moduleAssignment
  split
  · rename_i annotation htype
    exact ((foundIn_annotatedName htype).of_mem h).bind (foundIn_pure _)
  · split
    · rename_i targets value hpair
      apply (foundIn_reportTypeComment statement following).bind
      apply foundIn_inferredDeclarations h
      · exact Node.mem_nodes_trans (mem_nodes_of_targetsAndValue (by rw [hpair])) h
      · intro target htarget
        exact Node.mem_nodes_trans (mem_nodes_of_mem_targets (by rwa [hpair])) h
    · exact foundIn_pure _

theorem foundIn_classAssignment {statement assignment : Node} {following : List Node}
    (h : assignment ∈ statement.nodes) :
    (classAssignment source statement assignment following).FoundIn source statement := by
  unfold classAssignment
  split
  · rename_i annotation htype
    exact ((foundIn_annotatedName htype).of_mem h).bind (foundIn_pure _)
  · refine FoundIn.bind (foundIn_of_nil rfl) ((foundIn_reportTypeComment _ _).bind ?_)
    refine foundIn_gatherAll_map fun target htarget => ?_
    exact (foundIn_classVariables assignment target).of_mem
      (Node.mem_nodes_trans (mem_nodes_of_mem_targets htarget) h)

/-! ## Statements -/

theorem foundIn_rejectMember (statement : Node) (name : String) :
    (rejectMember source statement name).FoundIn source statement :=
  foundIn_refused statement.mem_nodes_self _ _

theorem foundIn_classExpression (statement : Node) (following : List Node) :
    (classExpression source statement following).FoundIn source statement := by
  unfold classExpression
  split
  · rename_i inner hinner
    split
    · exact (foundIn_classAssignment (Node.mem_nodes_of_firstPart? hinner)).map _
    · split
      · exact foundIn_pure _
      · exact foundIn_rejectMember _ _
  · exact foundIn_rejectMember _ _

/-- The findings of a statement in a class stand at nodes of the statement. -/
theorem foundIn_classStatement (statement : Node) (following : List Node) :
    (classStatement source statement following).FoundIn source statement := by
  unfold classStatement
  split
  · exact foundIn_pure _
  · exact foundIn_classExpression statement following
  · exact (foundIn_functionStub (definedIn_self statement)).bind (foundIn_pure _)
  · unfold decoratedMember
    split
    · exact foundIn_pure _
    · rename_i definition hdefinition
      split
      · exact (foundIn_functionStub (definedIn_decorated hdefinition)).bind (foundIn_pure _)
      · exact foundIn_rejectMember _ _
  · exact foundIn_rejectMember _ _

theorem foundIn_classHeader (definition : Node) (decorators : List Node) :
    (classHeader source definition decorators).FoundIn source definition := by
  have hbases : (classBases source
      (((definition.child? .superclasses).map Node.parts).getD [])).FoundIn source definition := by
    refine (foundIn_gather_map fun argument hargument => ?_).map _
    have hmem := (List.mem_filter.1 hargument).1
    cases hsuperclasses : definition.child? .superclasses with
    | none => simp [hsuperclasses] at hmem
    | some superclasses =>
      rw [hsuperclasses] at hmem
      exact (foundIn_baseClass argument).of_mem (Node.mem_nodes_trans
        (Node.mem_nodes_of_mem_parts hmem) (Node.mem_nodes_of_child? hsuperclasses))
  have hself := definition.mem_nodes_self
  have hkeywords (keyword : Bool) (bases : List String) :
      (if keyword then do
        flag source definition (.unsupported .classKeywords)
        return bases
      else return bases : Report (List String)).FoundIn source definition := by
    split
    · exact foundIn_refused hself _ _
    · exact foundIn_pure _
  unfold classHeader
  split
  · exact (foundIn_flag hself _).bind (hbases.bind (hkeywords _ _))
  · exact hbases.bind (hkeywords _ _)

theorem foundIn_classStub (settings : ExtractSettings) (definition : Node)
    (decorators : List Node) :
    (classStub settings source definition decorators).FoundIn source definition := by
  unfold classStub
  rw [classBody_eq_bodyLeaves]
  refine (foundIn_classHeader definition decorators).bind (FoundIn.bind ?_ (foundIn_pure _))
  refine foundIn_gatherAll_map fun leaf hleaf => ?_
  exact (foundIn_classStatement leaf.node leaf.following).of_mem (mem_nodes_of_mem_bodyLeaves hleaf)

theorem foundIn_moduleExpression (statement : Node) (following : List Node) :
    (moduleExpression source statement following).FoundIn source statement := by
  have hself := statement.mem_nodes_self
  unfold moduleExpression
  split
  · exact foundIn_pure _
  · rename_i inner rest hparts
    have hinner : inner ∈ statement.nodes :=
      Node.mem_nodes_of_mem_parts (by rw [hparts]; exact List.mem_cons_self)
    split
    · exact (foundIn_moduleAssignment hinner).map _
    · exact foundIn_refused hself _ _
    · split
      · exact foundIn_refused hself _ _
      · split
        · exact foundIn_refused hinner _ _
        · exact foundIn_pure _

theorem foundIn_moduleDefinition {statement definition : Node} {decorators : List Node}
    (h : DefinedIn statement definition decorators) :
    (moduleDefinition settings source definition decorators).FoundIn source statement := by
  unfold moduleDefinition
  split
  · exact (foundIn_functionStub h).bind (foundIn_pure _)
  · exact ((foundIn_classStub settings definition decorators).of_mem h.definition).bind
      (foundIn_pure _)
  · exact foundIn_refused h.definition _ _

/-- The findings of a statement in a module stand at nodes of the statement. -/
theorem foundIn_moduleStatement (settings : ExtractSettings) (statement : Node)
    (following : List Node) :
    (moduleStatement settings source statement following).FoundIn source statement := by
  unfold moduleStatement
  split
  · exact foundIn_moduleExpression statement following
  · exact foundIn_pure _
  · exact foundIn_pure _
  · split
    · rename_i definition hdefinition
      exact foundIn_moduleDefinition (definedIn_decorated hdefinition)
    · exact foundIn_pure _
  · exact foundIn_moduleDefinition (definedIn_self statement)

end Extraction

end InterfaceStub
