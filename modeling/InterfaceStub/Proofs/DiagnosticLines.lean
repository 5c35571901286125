import InterfaceStub.Conversion.Batch
import InterfaceStub.Proofs.FindingPlaces
import InterfaceStub.Proofs.SignatureGroups
import InterfaceStub.Proofs.VoidTypes

/-!
# Diagnostics and lines

A diagnostic is written as one line, provided that its message is one.  A message names kinds of
nodes, but it may also quote a constant that stands where a type is expected, and a constant of
bytes can go on for several lines.

* `Problem.oneLine_message_iff` says which texts of a message count.
* `RefusedIn` relates a type expression to the constants that are refused in it, and
  `messagesOneLine_typeText_iff` says that its messages are one line exactly when these are.
* `typesRead` are the type expressions that are read for the stub of a module: those of its
  assignments and of its signatures, also in the bodies of classes.
* `diagnostics_oneLine_iff` puts these together.  `bytesModule` has a diagnostic on three lines.
-/

namespace InterfaceStub

open Syntax Extraction

/-! ## Messages -/

/-- A number is written without the end of a line. -/
theorem oneLine_repr (number : Nat) : OneLine number.repr := by
  intro hmem
  rw [Nat.toList_repr] at hmem
  exact absurd (Nat.isDigit_of_mem_toDigits (by decide) (by decide) hmem) (by decide)

/-- A text between two others that are one line. -/
theorem oneLine_between_iff {before text after : String} (hbefore : OneLine before)
    (hafter : OneLine after) : OneLine (before ++ text ++ after) ↔ AllOneLine [text] := by
  simp [hbefore, hafter]

namespace Extraction

/-- The texts that the message of a problem quotes. -/
def Problem.quoted : Problem → List String
  | .inside parent child => [child.spelling, parent.spelling]
  | .atTopLevel statement | .inClassBody statement => [statement]
  | .typeExpression kind | .dottedName kind | .baseClass kind | .decorator kind => [kind.spelling]
  | .constantType text => [text]
  | .untyped _ | .unsupported _ | .alignment _ => []

/-- A message is one line exactly when the texts that it quotes are. -/
theorem Problem.oneLine_message_iff (problem : Problem) :
    OneLine problem.message ↔ AllOneLine problem.quoted := by
  cases problem with
  | inside parent child =>
    have hbefore : OneLine "unsupported ast type '" := by decide +kernel
    have hbetween : OneLine "' in '" := by decide +kernel
    have hafter : OneLine "'" := by decide +kernel
    unfold Problem.message Problem.quoted
    simp only [oneLine_append, hbefore, hbetween, hafter, allOneLine_cons, allOneLine_nil,
      true_and, and_true]
  | alignment error =>
    have hbefore : OneLine "cannot align " := by decide +kernel
    have hbetween : OneLine " trailing values onto " := by decide +kernel
    have hafter : OneLine " items" := by decide +kernel
    refine iff_of_true ?_ allOneLine_nil
    unfold Problem.message AlignmentError.message
    simp only [oneLine_append, oneLine_repr, hbefore, hbetween, hafter, and_self]
  | untyped constant => cases constant <;> exact iff_of_true (by decide +kernel) allOneLine_nil
  | unsupported feature => cases feature <;> exact iff_of_true (by decide +kernel) allOneLine_nil
  | _ => exact oneLine_between_iff (by decide +kernel) (by decide +kernel)

namespace Report

/-- Every message is one line. -/
def MessagesOneLine (report : Report α) : Prop :=
  ∀ finding ∈ report.findings, OneLine finding.problem.message

@[simp] theorem messagesOneLine_pure (value : α) : (pure value : Report α).MessagesOneLine :=
  fun _ hfinding => nomatch hfinding

@[simp] theorem messagesOneLine_bind {report : Report α} {next : α → Report β} :
    (report >>= next).MessagesOneLine ↔
      report.MessagesOneLine ∧ (next report.value).MessagesOneLine :=
  List.forall_mem_append

@[simp] theorem messagesOneLine_map {f : α → β} {report : Report α} :
    (f <$> report).MessagesOneLine ↔ report.MessagesOneLine := by
  rw [MessagesOneLine, findings_map, MessagesOneLine]

@[simp] theorem messagesOneLine_gather_map {items : List α} {report : α → Report β} :
    (gather (items.map report)).MessagesOneLine ↔
      ∀ item ∈ items, (report item).MessagesOneLine := by
  simp only [MessagesOneLine, gather, List.flatMap_map]
  exact List.forall_mem_flatMap

@[simp] theorem messagesOneLine_gatherAll_map {items : List α} {report : α → Report (List β)} :
    (gatherAll (items.map report)).MessagesOneLine ↔
      ∀ item ∈ items, (report item).MessagesOneLine := by
  rw [gatherAll, messagesOneLine_map, messagesOneLine_gather_map]

end Report

@[simp] theorem messagesOneLine_flag {source : Source} {node : Node} {problem : Problem} :
    (flag source node problem).MessagesOneLine ↔ AllOneLine problem.quoted :=
  List.forall_mem_singleton.trans problem.oneLine_message_iff

end Extraction

/-! ## Kinds of nodes -/

namespace Syntax.Node

/-- Every kind of a tree has a name of one line. -/
def KindsOneLine (tree : Node) : Prop :=
  ∀ node ∈ tree.nodes, OneLine node.kind.spelling

theorem KindsOneLine.of_mem {tree node : Node} (h : tree.KindsOneLine) (hnode : node ∈ tree.nodes) :
    node.KindsOneLine :=
  fun inner hinner => h inner (mem_nodes_trans hinner hnode)

theorem KindsOneLine.self {tree : Node} (h : tree.KindsOneLine) : OneLine tree.kind.spelling :=
  h tree tree.mem_nodes_self

theorem KindsOneLine.unwrapped {tree : Node} (h : tree.KindsOneLine) :
    tree.unwrapped.KindsOneLine :=
  h.of_mem tree.unwrapped_mem_nodes

theorem KindsOneLine.statementName {tree : Node} (h : tree.KindsOneLine) :
    OneLine tree.statementName := by
  unfold Node.statementName
  split
  · decide +kernel
  · exact h.self

end Syntax.Node

namespace Extraction

variable {settings : ExtractSettings} {source : Source}

/-! ## Paths -/

theorem messagesOneLine_namePathIn {outer : Node} (houter : OneLine outer.kind.spelling)
    (node : Node) : (namePathIn source outer node).MessagesOneLine := by
  fun_induction namePathIn source outer node with
  | case1 | case3 | case5 => simp
  | case2 node hshape object member hobject hmember ih => simpa using ih
  | case4 node hshape object member hobject hmember ih => simpa using ih
  | case6 node => simpa [Problem.quoted] using houter

theorem messagesOneLine_namePath {node : Node} (h : node.KindsOneLine) :
    (namePath source node).MessagesOneLine :=
  messagesOneLine_namePathIn h.self node

theorem messagesOneLine_subscriptBase {subscript : Node} (h : subscript.KindsOneLine) :
    (subscriptBase source subscript).MessagesOneLine := by
  unfold subscriptBase
  split
  · simp
  · rename_i value hvalue
    have hkinds := h.of_mem (Node.mem_nodes_of_child? hvalue)
    split
    · exact messagesOneLine_namePath hkinds
    · exact messagesOneLine_namePath hkinds
    · simpa [Problem.quoted] using ⟨hkinds.self, h.self⟩

theorem messagesOneLine_bracketBase {node : Node} (h : node.KindsOneLine) :
    (bracketBase source node).MessagesOneLine := by
  unfold bracketBase
  split
  · exact messagesOneLine_subscriptBase h
  · split
    · rename_i base hbase
      exact messagesOneLine_namePath (h.of_mem (Node.mem_nodes_of_firstPart? hbase))
    · simp

theorem messagesOneLine_baseClass {node : Node} (h : node.KindsOneLine) :
    (baseClass source node).MessagesOneLine := by
  fun_induction baseClass source node with
  | case1 node => exact messagesOneLine_namePath h
  | case2 node => exact messagesOneLine_namePath h
  | case3 node hshape ih =>
    rw [Report.messagesOneLine_bind]
    refine ⟨messagesOneLine_subscriptBase h.unwrapped, ?_⟩
    split
    · simp
    · split
      · rename_i argument hargument
        have hmem : argument ∈ node.unwrapped.nodes :=
          Node.mem_nodes_of_mem_childrenAt (by rw [hargument]; exact List.mem_singleton.2 rfl)
        simpa using ih argument hargument (h.unwrapped.of_mem hmem)
      · have htuple : OneLine Kind.tuple.spelling := by decide +kernel
        simpa [Problem.quoted] using htuple
  | case4 node => simpa [Problem.quoted] using h.unwrapped.self

theorem messagesOneLine_decoratorPath {decorator : Node} (h : decorator.KindsOneLine) :
    (decoratorPath source decorator).MessagesOneLine := by
  unfold decoratorPath
  split
  · simp
  · rename_i expression hexpression
    have hkinds := h.of_mem (Node.mem_nodes_of_firstPart? hexpression)
    split
    · exact messagesOneLine_namePath hkinds
    · exact messagesOneLine_namePath hkinds
    · simpa [Problem.quoted] using hkinds.unwrapped.self

/-! ## Type expressions -/

/-- Whether an expression is a constant that is no type. -/
def isRefusedConstant (source : Source) (node : Node) : Bool :=
  match source.shapeOf node with
  | .integer | .float | .boolean => true
  | .string => source.isBytes node.unwrapped
  | _ => false

/-- The constant is refused where the type expression is read.  Nothing is read in brackets after
something else than a path. -/
inductive RefusedIn (source : Source) : Node → Node → Prop where
  | here {node : Node} (hconstant : isRefusedConstant source node) :
      RefusedIn source node node.unwrapped
  | argument {node argument constant : Node} {arguments : List Node}
      (harguments : bracketArguments? source node.unwrapped = some arguments)
      (hbase : (bracketBase source node.unwrapped).value.isSome) (hargument : argument ∈ arguments)
      (hinner : RefusedIn source argument constant) : RefusedIn source node constant
  | item {node item constant : Node} (hlist : source.shapeOf node = .list)
      (hitem : item ∈ node.unwrapped.parts) (hinner : RefusedIn source item constant) :
      RefusedIn source node constant

/-- All constants that are refused in the type expression are one line. -/
def RefusalsOneLine (source : Source) (node : Node) : Prop :=
  ∀ constant, RefusedIn source node constant → OneLine (source.text constant)

theorem shapeOf_of_bracketArguments? {node : Node} {arguments : List Node}
    (h : bracketArguments? source node.unwrapped = some arguments) :
    source.shapeOf node = .subscript ∨ source.shapeOf node = .genericType := by
  unfold bracketArguments? at h
  split at h
  case h_1 hkind => exact .inl (Source.shapeOf_of_kind hkind rfl)
  case h_2 hkind => exact .inr (Source.shapeOf_of_kind hkind rfl)
  case h_3 => cases h

theorem refusalsOneLine_iff_of_constant {node : Node} (h : isRefusedConstant source node) :
    RefusalsOneLine source node ↔ OneLine (source.text node.unwrapped) := by
  constructor
  · exact fun hlines => hlines _ (.here h)
  · intro hline constant hrefused
    unfold isRefusedConstant at h
    cases hrefused with
    | here => exact hline
    | argument harguments =>
      rcases shapeOf_of_bracketArguments? harguments with hshape | hshape <;> simp [hshape] at h
    | item hshape => simp [hshape] at h

theorem refusalsOneLine_iff_of_arguments {node : Node} {arguments : List Node}
    (harguments : bracketArguments? source node.unwrapped = some arguments) :
    RefusalsOneLine source node ↔ ((bracketBase source node.unwrapped).value.isSome →
      ∀ argument ∈ arguments, RefusalsOneLine source argument) := by
  have hbrackets := shapeOf_of_bracketArguments? harguments
  constructor
  · intro hlines hbase argument hargument constant hrefused
    exact hlines constant (.argument harguments hbase hargument hrefused)
  · intro hlines constant hrefused
    cases hrefused with
    | here hconstant =>
      unfold isRefusedConstant at hconstant
      rcases hbrackets with hshape | hshape <;> simp [hshape] at hconstant
    | argument harguments' hbase hargument hinner =>
      cases harguments.symm.trans harguments'
      exact hlines hbase _ hargument constant hinner
    | item hlist => rcases hbrackets with hshape | hshape <;> cases hlist.symm.trans hshape

theorem refusalsOneLine_iff_of_list {node : Node} (hlist : source.shapeOf node = .list) :
    RefusalsOneLine source node ↔
      ∀ item ∈ node.unwrapped.parts, RefusalsOneLine source item := by
  constructor
  · intro hlines item hitem constant hrefused
    exact hlines constant (.item hlist hitem hrefused)
  · intro hlines constant hrefused
    cases hrefused with
    | here hconstant => simp [isRefusedConstant, hlist] at hconstant
    | argument harguments =>
      rcases shapeOf_of_bracketArguments? harguments with hshape | hshape <;>
        cases hlist.symm.trans hshape
    | item _ hitem hinner => exact hlines _ hitem constant hinner

/-- Nothing is refused in an expression that is no constant and has no parts to read. -/
theorem refusalsOneLine_of_not {node : Node} (hconstant : ¬isRefusedConstant source node)
    (harguments : bracketArguments? source node.unwrapped = none)
    (hlist : source.shapeOf node ≠ .list) : RefusalsOneLine source node := by
  intro constant hrefused
  cases hrefused with
  | here h => exact absurd h hconstant
  | argument h => cases harguments.symm.trans h
  | item h => exact absurd h hlist

theorem messagesOneLine_appliedTo {base : Report (Option String)} {arguments : List Node}
    (hbase : base.MessagesOneLine) :
    (appliedTo source base arguments).MessagesOneLine ↔ (base.value.isSome →
      ∀ argument ∈ arguments, (typeText source argument).MessagesOneLine) := by
  unfold appliedTo
  rw [Report.messagesOneLine_bind, and_iff_right hbase]
  cases base.value <;> simp

/-- The messages on a type expression are one line exactly when the constants that are refused in it
are. -/
theorem messagesOneLine_typeText_iff {node : Node} (h : node.KindsOneLine) :
    (typeText source node).MessagesOneLine ↔ RefusalsOneLine source node := by
  induction hsize : node.size using Nat.strongRecOn generalizing node with
  | ind size ih =>
    have hinner {inner : Node} (hmem : inner ∈ node.unwrapped.nodes)
        (hlt : inner.size < node.unwrapped.size) :
        (typeText source inner).MessagesOneLine ↔ RefusalsOneLine source inner := by
      have hle := node.size_unwrapped_le
      exact ih inner.size (by omega) (h.unwrapped.of_mem hmem) rfl
    cases harguments : bracketArguments? source node.unwrapped with
    | some arguments =>
      rw [typeText_eq_appliedTo harguments, refusalsOneLine_iff_of_arguments harguments,
        messagesOneLine_appliedTo (messagesOneLine_bracketBase h.unwrapped)]
      refine imp_congr_right fun _ => forall₂_congr fun argument hargument => ?_
      unfold bracketArguments? at harguments
      split at harguments
      · cases harguments
        exact hinner (mem_nodes_of_mem_subscriptArguments hargument)
          (size_lt_of_mem_subscriptArguments hargument)
      · exact hinner (mem_nodes_of_genericArguments? harguments hargument)
          (size_lt_of_genericArguments? harguments hargument)
      · cases harguments
    | none =>
      -- Without refused constants there is only something to show of the kinds that are named.
      have hnothing (hconstant : isRefusedConstant source node = false)
          (hlist : source.shapeOf node ≠ .list) (hreport : (typeText source node).MessagesOneLine) :
          (typeText source node).MessagesOneLine ↔ RefusalsOneLine source node :=
        iff_of_true hreport (refusalsOneLine_of_not (by simp [hconstant]) harguments hlist)
      cases hshape : source.shapeOf node
      case list =>
        rw [typeText_list hshape, refusalsOneLine_iff_of_list hshape]
        simp only [Report.messagesOneLine_bind, Report.messagesOneLine_gather_map,
          Report.messagesOneLine_pure, and_true]
        exact forall₂_congr fun item hitem =>
          hinner (Node.mem_nodes_of_mem_parts hitem) (Node.size_lt_of_mem_parts hitem)
      case subscript => simp [bracketArguments?, Source.kind_of_shapeOf hshape rfl] at harguments
      case genericType =>
        have hgeneric : genericArguments? node.unwrapped = none := by
          simpa [bracketArguments?, Source.kind_of_shapeOf hshape rfl] using harguments
        refine hnothing (by simp [isRefusedConstant, hshape]) (by simp [hshape]) ?_
        rw [typeText, hshape]
        simp only
        split
        · rename_i hsome
          cases hgeneric.symm.trans hsome
        · simp
      case integer | float | boolean =>
        rw [refusalsOneLine_iff_of_constant (by simp [isRefusedConstant, hshape]), typeText, hshape]
        simp [Problem.quoted]
      case string =>
        by_cases hbytes : source.isBytes node.unwrapped
        · rw [refusalsOneLine_iff_of_constant (by simp [isRefusedConstant, hshape, hbytes]),
            typeText, hshape]
          simp [hbytes, Problem.quoted]
        · refine hnothing (by simp [isRefusedConstant, hshape, hbytes]) (by simp [hshape]) ?_
          rw [typeText, hshape]
          simp [hbytes]
      all_goals
        refine hnothing (by simp [isRefusedConstant, hshape]) (by simp [hshape]) ?_
        rw [typeText, hshape]
      case name | «attribute» | memberType => exact messagesOneLine_namePath h
      case noneValue | ellipsis => simp
      all_goals simpa [Problem.quoted] using h.unwrapped.self

/-! ## Signatures -/

/-- Nothing that is refused in some type expressions goes on for several lines. -/
def TypesOneLine (source : Source) (types : List Node) : Prop :=
  ∀ expression ∈ types, RefusalsOneLine source expression

@[simp] theorem typesOneLine_nil : TypesOneLine source [] :=
  fun _ hexpression => nomatch hexpression

@[simp] theorem typesOneLine_append {first second : List Node} :
    TypesOneLine source (first ++ second) ↔
      TypesOneLine source first ∧ TypesOneLine source second :=
  List.forall_mem_append

theorem messagesOneLine_optionalType_iff {type : Option Node}
    (h : ∀ node ∈ type, node.KindsOneLine) :
    (optionalType source type).MessagesOneLine ↔ TypesOneLine source type.toList := by
  cases type with
  | none => simp [optionalType]
  | some node =>
    rw [optionalType, messagesOneLine_typeText_iff (h node rfl)]
    simp [TypesOneLine]

theorem parent_of_partEntry {parameters child parent node : Node}
    (h : partEntry parameters child = .unsupported parent node) :
    parent = parameters ∨ parent = child := by
  have hsplat {splat : Node} {type : Option Node}
      (hentry : splatEntry parameters splat type = .unsupported parent node) :
      parent = parameters := by
    unfold splatEntry at hentry
    split at hentry
    · split at hentry
      · split at hentry <;> cases hentry
      · cases hentry
        rfl
    · cases hentry
      rfl
  unfold partEntry at h
  split at h
  case h_4 | h_5 => exact .inl (hsplat h)
  case h_6 =>
    split at h
    · split at h
      · exact .inl (hsplat h)
      · cases h
    · cases h
  case h_7 | h_8 =>
    split at h
    · split at h
      · cases h
      · cases h
        exact .inr rfl
    · cases h
  case h_9 =>
    cases h
    exact .inl rfl
  all_goals cases h

/-- What is dropped from a parameter list is named with nodes of the list. -/
theorem mem_nodes_of_unsupported {parameters parent node : Node}
    (h : .unsupported parent node ∈ entries source parameters) :
    parent ∈ parameters.nodes ∧ node ∈ parameters.nodes := by
  refine ⟨?_, reportable_of_mem_entries h (List.mem_singleton.2 rfl)⟩
  obtain ⟨child, hchild, hentry⟩ := List.mem_map.1 h
  unfold entryOf at hentry
  split at hentry
  · split at hentry <;> cases hentry
  · rcases parent_of_partEntry hentry with rfl | rfl
    · exact parent.mem_nodes_self
    · exact Node.mem_nodes_of_mem_children (List.mem_filter.1 hchild).1

theorem messagesOneLine_reportEntries {slashed : Bool} {found : List ParameterEntry}
    (h : ∀ parent node, .unsupported parent node ∈ found →
      OneLine parent.kind.spelling ∧ OneLine node.kind.spelling) :
    (reportEntries source slashed found).MessagesOneLine := by
  induction found generalizing slashed with
  | nil => simp [reportEntries]
  | cons entry rest ih =>
    have hrest {slashed : Bool} : (reportEntries source slashed rest).MessagesOneLine :=
      ih fun parent node hmem => h parent node (List.mem_cons_of_mem _ hmem)
    cases entry with
    | slash node => cases slashed <;> simp [reportEntries, hrest, Problem.quoted]
    | typeComment node => simp [reportEntries, hrest, Problem.quoted]
    | unsupported parent node =>
      obtain ⟨hparent, hnode⟩ := h parent node List.mem_cons_self
      simp [reportEntries, hrest, Problem.quoted, hparent, hnode]
    | _ => exact hrest

/-- The types of the parameters in a list. -/
def parameterTypes (source : Source) (parameters : Node) : List Node :=
  (assignRoles false (entries source parameters)).filterMap Parameter.type

theorem mem_nodes_of_mem_parameterTypes {parameters type : Node}
    (h : type ∈ parameterTypes source parameters) : type ∈ parameters.nodes := by
  obtain ⟨parameter, hparameter, htype⟩ := List.mem_filterMap.1 h
  obtain ⟨entry, hentry, hread⟩ := exists_entry_of_mem_assignRoles hparameter
  apply reportable_of_mem_entries hentry
  cases entry <;> cases hread <;> exact Option.mem_toList.2 htype

theorem messagesOneLine_parameterList_iff {parameters : Node} (h : parameters.KindsOneLine)
    (name : String) : (parameterList source name parameters).MessagesOneLine ↔
      TypesOneLine source (parameterTypes source parameters) := by
  have hentries : (reportEntries source false (entries source parameters)).MessagesOneLine :=
    messagesOneLine_reportEntries fun parent node hmem =>
      ⟨h parent (mem_nodes_of_unsupported hmem).1, h node (mem_nodes_of_unsupported hmem).2⟩
  have hpositional (positional : List Parameter) :
      (positionalArguments source parameters positional).MessagesOneLine ↔
        ∀ parameter ∈ positional, (optionalType source parameter.type).MessagesOneLine := by
    rw [Report.MessagesOneLine, (positionalArguments_eq source parameters positional).2]
    exact List.forall_mem_flatMap
  have hnamed (parameter : Parameter) : (parameter.namedArgument source).MessagesOneLine ↔
      (optionalType source parameter.type).MessagesOneLine := by
    simp [Parameter.namedArgument, Parameter.argument]
  have htypes : ∀ parameter ∈ assignRoles false (entries source parameters),
      ((optionalType source parameter.type).MessagesOneLine ↔
        ∀ type ∈ parameter.type, RefusalsOneLine source type) := by
    intro parameter hparameter
    rw [messagesOneLine_optionalType_iff, TypesOneLine]
    · simp only [Option.mem_toList, Option.mem_def]
    · intro type htype
      exact h.of_mem
        (mem_nodes_of_mem_parameterTypes (List.mem_filterMap.2 ⟨parameter, hparameter, htype⟩))
  rw [parameterList, List.partition_eq_filter_filter]
  simp only [Report.messagesOneLine_bind, Report.messagesOneLine_gather_map,
    Report.messagesOneLine_pure, and_true, hpositional, hnamed, hentries, true_and]
  rw [TypesOneLine, parameterTypes, List.forall_mem_filterMap]
  constructor
  · rintro ⟨hbefore, hothers⟩ parameter hparameter
    apply (htypes parameter hparameter).1
    by_cases hrole : parameter.role = .positional
    · exact hbefore parameter (List.mem_filter.2 ⟨hparameter, by simp [hrole]⟩)
    · exact hothers parameter (List.mem_filter.2 ⟨hparameter, by simp [hrole]⟩)
  · intro hall
    have hreport (parameter : Parameter)
        (hparameter : parameter ∈ assignRoles false (entries source parameters)) :
        (optionalType source parameter.type).MessagesOneLine :=
      (htypes parameter hparameter).2 (hall parameter hparameter)
    exact ⟨fun parameter hparameter => hreport parameter (List.mem_filter.1 hparameter).1,
      fun parameter hparameter => hreport parameter (List.mem_filter.1 hparameter).1⟩

/-- The type expressions in the signature of a function. -/
def signatureTypes (source : Source) (definition : Node) : List Node :=
  (definition.child? .parameters).toList.flatMap (parameterTypes source) ++
    (definition.child? .returnType).toList

theorem messagesOneLine_functionStub_iff {statement definition : Node} {decorators : List Node}
    (h : statement.KindsOneLine) (hdefined : DefinedIn statement definition decorators) :
    (functionStub source definition decorators).MessagesOneLine ↔
      TypesOneLine source (signatureTypes source definition) := by
  have hkinds := h.of_mem hdefined.definition
  have hdecorators : ∀ decorator ∈ decorators,
      (decoratorPath source decorator).MessagesOneLine := fun decorator hdecorator =>
    messagesOneLine_decoratorPath (h.of_mem (hdefined.decorators decorator hdecorator))
  have hreturns : (optionalType source (definition.child? .returnType)).MessagesOneLine ↔
      TypesOneLine source (definition.child? .returnType).toList :=
    messagesOneLine_optionalType_iff fun type htype =>
      hkinds.of_mem (Node.mem_nodes_of_child? htype)
  have hcomment (stub : FunctionStub) :
      (if source.signatureDeclaresType definition then do
        flag source definition (.unsupported .typeComments)
        return stub
      else return stub : Report FunctionStub).MessagesOneLine := by
    split <;> simp [Problem.quoted]
  unfold functionStub
  rw [Report.messagesOneLine_bind, Report.messagesOneLine_gather_map, and_iff_right hdecorators,
    signatureTypes, typesOneLine_append]
  cases hparameters : definition.child? .parameters with
  | none => simp [hreturns, hcomment]
  | some parameters =>
    have hlist : (parameterList source (nameOf source definition) parameters).MessagesOneLine ↔ _ :=
      messagesOneLine_parameterList_iff (hkinds.of_mem (Node.mem_nodes_of_child? hparameters)) _
    simp [hreturns, hcomment, hlist]

/-! ## Assignments -/

/-- A target is a name, a pattern, or refused. -/
theorem messagesOneLine_target {named bound : Report (List α)} {assignment target : Node}
    (hassignment : OneLine assignment.kind.spelling) (htarget : OneLine target.kind.spelling)
    (hnamed : named.MessagesOneLine) (hbound : bound.MessagesOneLine) :
    (if target.isName then named
      else if target.isPattern then bound
      else do
        flag source target (.inside assignment.kind target.kind)
        return []).MessagesOneLine := by
  split
  · exact hnamed
  · split
    · exact hbound
    · simp [Problem.quoted, hassignment, htarget]

theorem messagesOneLine_bindName (name : Node) (type : LiteralType) :
    (bindName source name type).MessagesOneLine :=
  fun _ hfinding => nomatch hfinding

theorem messagesOneLine_bindPattern {assignment pattern : Node}
    (hassignment : OneLine assignment.kind.spelling) (h : pattern.KindsOneLine)
    (value : Option Node) :
    (bindPattern source assignment pattern value).MessagesOneLine := by
  induction hsize : pattern.size using Nat.strongRecOn generalizing pattern value with
  | ind size ih =>
    rw [bindPattern, Report.messagesOneLine_gatherAll_map]
    rintro ⟨element, own⟩ -
    have hkinds := h.of_mem (Node.mem_nodes_of_mem_parts element.2)
    exact messagesOneLine_target hassignment hkinds.self (messagesOneLine_bindName _ _)
      (ih _ (hsize ▸ Node.size_lt_of_mem_parts element.2) hkinds own rfl)

theorem messagesOneLine_classVariables {assignment target : Node}
    (hassignment : OneLine assignment.kind.spelling) (h : target.KindsOneLine) :
    (classVariables source assignment target).MessagesOneLine := by
  induction hsize : target.size using Nat.strongRecOn generalizing target with
  | ind size ih =>
    rw [classVariables, List.attach_map_val]
    refine messagesOneLine_target hassignment h.self (by simp) ?_
    rw [Report.messagesOneLine_gatherAll_map]
    intro part hpart
    exact ih _ (hsize ▸ Node.size_lt_of_mem_parts hpart)
      (h.of_mem (Node.mem_nodes_of_mem_parts hpart)) rfl

theorem messagesOneLine_reportTypeComment (statement : Node) (following : List Node) :
    (reportTypeComment source statement following).MessagesOneLine := by
  unfold reportTypeComment
  split <;> simp [Problem.quoted]

/-- The annotation of an assignment, if it is one of a name. -/
def annotationRead? (assignment : Node) : Option Node :=
  if (assignment.child? .left).any Node.isName then assignment.child? .type else none

theorem messagesOneLine_annotatedName_iff {assignment annotation : Node}
    (h : assignment.KindsOneLine) (htype : assignment.child? .type = some annotation) :
    (annotatedName source assignment annotation).MessagesOneLine ↔
      TypesOneLine source (annotationRead? assignment).toList := by
  unfold annotatedName annotationRead?
  split
  · simp [*]
  · rename_i target htarget
    split
    · have hkinds := h.of_mem (Node.mem_nodes_of_child? htype)
      simp [messagesOneLine_typeText_iff hkinds, TypesOneLine, *]
    · have hkinds := h.of_mem (Node.mem_nodes_of_child? htarget)
      simp [Problem.quoted, hkinds.self, h.self, *]

/-- The value that names are aliases of. -/
def aliasTypes (source : Source) (value : Node) (targets : List Node) : List Node :=
  if inferType source value = .notLiteral ∧ targets.any Node.isName then [value] else []

theorem messagesOneLine_inferredDeclarations_iff {assignment value : Node} {targets : List Node}
    (hassignment : OneLine assignment.kind.spelling) (hvalue : value.KindsOneLine)
    (htargets : ∀ target ∈ targets, target.KindsOneLine) :
    (inferredDeclarations source assignment value targets).MessagesOneLine ↔
      TypesOneLine source (aliasTypes source value targets) := by
  have hliteral (type : LiteralType) :
      (literalTargets source assignment value type targets).MessagesOneLine := by
    rw [literalTargets, Report.messagesOneLine_gatherAll_map]
    intro target htarget
    exact messagesOneLine_target hassignment (htargets target htarget).self
      (messagesOneLine_bindName _ _)
      (messagesOneLine_bindPattern hassignment (htargets target htarget) _)
  have haliases (target? : Option String) :
      (aliasTargets source assignment target? targets).MessagesOneLine := by
    rw [aliasTargets, Report.messagesOneLine_gatherAll_map]
    intro target htarget
    refine messagesOneLine_target hassignment (htargets target htarget).self (by simp) ?_
    simpa using messagesOneLine_bindPattern hassignment (htargets target htarget) _
  have htext : (aliasText source value targets).MessagesOneLine ↔
      TypesOneLine source (if targets.any Node.isName then [value] else []) := by
    unfold aliasText
    split <;> simp [messagesOneLine_typeText_iff hvalue, TypesOneLine]
  unfold inferredDeclarations aliasTypes
  split
  · simp [*]
  · simp [*, Problem.quoted]
  · simp [*]

/-- The type expressions that are read of an assignment in a module. -/
def assignmentTypes (source : Source) (assignment : Node) : List Node :=
  match assignment.child? .type, assignment.targetsAndValue with
  | some _, _ => (annotationRead? assignment).toList
  | none, (targets, some value) => aliasTypes source value targets
  | none, (_, none) => []

theorem messagesOneLine_moduleAssignment_iff {statement assignment : Node} {following : List Node}
    (h : assignment.KindsOneLine) :
    (moduleAssignment source statement assignment following).MessagesOneLine ↔
      TypesOneLine source (assignmentTypes source assignment) := by
  unfold moduleAssignment assignmentTypes
  cases htype : assignment.child? .type with
  | some annotation => simp [messagesOneLine_annotatedName_iff h htype]
  | none =>
    rcases hpair : assignment.targetsAndValue with ⟨targets, _ | value⟩
    · simp
    · have hvalue := h.of_mem (mem_nodes_of_targetsAndValue (by rw [hpair]))
      have htargets : ∀ target ∈ targets, target.KindsOneLine := fun target htarget =>
        h.of_mem (mem_nodes_of_mem_targets (by rwa [hpair]))
      simp [messagesOneLine_reportTypeComment,
        messagesOneLine_inferredDeclarations_iff h.self hvalue htargets]

theorem messagesOneLine_classAssignment_iff {statement assignment : Node} {following : List Node}
    (h : assignment.KindsOneLine) :
    (classAssignment source statement assignment following).MessagesOneLine ↔
      TypesOneLine source (annotationRead? assignment).toList := by
  unfold classAssignment
  cases htype : assignment.child? .type with
  | some annotation => simp [messagesOneLine_annotatedName_iff h htype]
  | none =>
    have hrely : (relyOn [.any, .classVar]).MessagesOneLine := fun _ hfinding => nomatch hfinding
    have htargets : ∀ target ∈ assignment.targetsAndValue.1,
        (classVariables source assignment target).MessagesOneLine := fun target htarget =>
      messagesOneLine_classVariables h.self (h.of_mem (mem_nodes_of_mem_targets htarget))
    simpa [annotationRead?, htype, hrely, messagesOneLine_reportTypeComment] using htargets

/-! ## Statements -/

/-- The type expressions that are read of an expression statement, given those of an assignment. -/
def expressionTypes (ofAssignment : Node → List Node) (statement : Node) : List Node :=
  (statement.firstPart?.filter (·.kind == .assignment)).toList.flatMap ofAssignment

theorem messagesOneLine_rejectMember {statement : Node} {name : String} (h : OneLine name) :
    (rejectMember source statement name).MessagesOneLine := by
  simp [rejectMember, Problem.quoted, h]

theorem messagesOneLine_classExpression_iff {statement : Node} {following : List Node}
    (h : statement.KindsOneLine) :
    (classExpression source statement following).MessagesOneLine ↔
      TypesOneLine source
        (expressionTypes (fun assignment => (annotationRead? assignment).toList) statement) := by
  have hreject : (rejectMember source statement statement.statementName).MessagesOneLine :=
    messagesOneLine_rejectMember h.statementName
  unfold classExpression expressionTypes
  cases hinner : statement.firstPart? with
  | none => simp [hreject]
  | some inner =>
    have hkinds := h.of_mem (Node.mem_nodes_of_firstPart? hinner)
    by_cases hassignment : inner.kind = .assignment
    · simp [hassignment, Option.filter_some, messagesOneLine_classAssignment_iff hkinds]
    · by_cases hconstant : isLoneConstant source statement <;>
        simp [hassignment, Option.filter_some, hconstant, hreject]

/-- The type expressions that are read of a statement in a class. -/
def memberTypes (source : Source) (statement : Node) : List Node :=
  match statement.statement with
  | .expression => expressionTypes (fun assignment => (annotationRead? assignment).toList) statement
  | .function => signatureTypes source statement
  | .decorated => ((statement.child? .definition).toList.filter (·.statement = .function)).flatMap
      (signatureTypes source)
  | _ => []

theorem messagesOneLine_decoratedMember_iff {statement : Node} (h : statement.KindsOneLine) :
    (decoratedMember source statement).MessagesOneLine ↔
      TypesOneLine source (((statement.child? .definition).toList.filter
        (·.statement = .function)).flatMap (signatureTypes source)) := by
  unfold decoratedMember
  cases hdefinition : statement.child? .definition with
  | none => simp
  | some definition =>
    have hdefined := definedIn_decorated hdefinition
    have hreject : (rejectMember source statement definition.statementName).MessagesOneLine :=
      messagesOneLine_rejectMember (h.of_mem hdefined.definition).statementName
    cases hsort : definition.statement
    case function => simp [hsort, messagesOneLine_functionStub_iff h hdefined]
    all_goals simp [hsort, hreject]

theorem messagesOneLine_classStatement_iff {statement : Node} {following : List Node}
    (h : statement.KindsOneLine) :
    (classStatement source statement following).MessagesOneLine ↔
      TypesOneLine source (memberTypes source statement) := by
  have hreject : (rejectMember source statement statement.statementName).MessagesOneLine :=
    messagesOneLine_rejectMember h.statementName
  unfold classStatement memberTypes
  cases statement.statement
  case expression => exact messagesOneLine_classExpression_iff h
  case function => simp [messagesOneLine_functionStub_iff h (definedIn_self statement)]
  case decorated => exact messagesOneLine_decoratedMember_iff h
  case pass => simp
  all_goals simp [hreject]

theorem messagesOneLine_classHeader {definition : Node} (h : definition.KindsOneLine)
    (decorators : List Node) : (classHeader source definition decorators).MessagesOneLine := by
  have hbases : (classBases source
      (((definition.child? .superclasses).map Node.parts).getD [])).MessagesOneLine := by
    rw [classBases, Report.messagesOneLine_map, Report.messagesOneLine_gather_map]
    intro argument hargument
    have hmem := (List.mem_filter.1 hargument).1
    cases hsuperclasses : definition.child? .superclasses with
    | none => simp [hsuperclasses] at hmem
    | some superclasses =>
      rw [hsuperclasses] at hmem
      exact messagesOneLine_baseClass ((h.of_mem (Node.mem_nodes_of_child? hsuperclasses)).of_mem
        (Node.mem_nodes_of_mem_parts hmem))
  have hkeywords (keyword : Bool) (bases : List String) :
      (if keyword then do
        flag source definition (.unsupported .classKeywords)
        return bases
      else return bases : Report (List String)).MessagesOneLine := by
    split <;> simp [Problem.quoted]
  unfold classHeader
  split
  · refine Report.messagesOneLine_bind.2 ⟨by simp [Problem.quoted], ?_⟩
    exact Report.messagesOneLine_bind.2 ⟨hbases, hkeywords _ _⟩
  · exact Report.messagesOneLine_bind.2 ⟨hbases, hkeywords _ _⟩

/-- The type expressions that are read of a definition in a module. -/
def definitionTypes (settings : ExtractSettings) (source : Source) (definition : Node) :
    List Node :=
  match definition.statement with
  | .function => signatureTypes source definition
  | .classDefinition => (bodyLeaves settings source definition).flatMap fun leaf =>
      memberTypes source leaf.node
  | _ => []

theorem messagesOneLine_moduleDefinition_iff {statement definition : Node} {decorators : List Node}
    (h : statement.KindsOneLine) (hdefined : DefinedIn statement definition decorators) :
    (moduleDefinition settings source definition decorators).MessagesOneLine ↔
      TypesOneLine source (definitionTypes settings source definition) := by
  have hkinds := h.of_mem hdefined.definition
  unfold moduleDefinition definitionTypes
  cases definition.statement
  case function => simp [messagesOneLine_functionStub_iff h hdefined]
  case classDefinition =>
    have hmembers : ∀ leaf ∈ bodyLeaves settings source definition,
        ((classStatement source leaf.node leaf.following).MessagesOneLine ↔
          TypesOneLine source (memberTypes source leaf.node)) := fun leaf hleaf =>
      messagesOneLine_classStatement_iff (hkinds.of_mem (mem_nodes_of_mem_bodyLeaves hleaf))
    simp only [classStub, classBody_eq_bodyLeaves, Report.messagesOneLine_bind,
      messagesOneLine_classHeader hkinds, Report.messagesOneLine_gatherAll_map,
      Report.messagesOneLine_pure, true_and, and_true]
    rw [TypesOneLine, List.forall_mem_flatMap]
    exact forall₂_congr hmembers
  all_goals simp [Problem.quoted, hkinds.statementName]

/-- The type expressions that are read of a statement in a module. -/
def statementTypes (settings : ExtractSettings) (source : Source) (statement : Node) : List Node :=
  match statement.statement with
  | .expression => expressionTypes (assignmentTypes source) statement
  | .decorated => (statement.child? .definition).toList.flatMap (definitionTypes settings source)
  | _ => definitionTypes settings source statement

theorem messagesOneLine_moduleExpression_iff {statement : Node} {following : List Node}
    (h : statement.KindsOneLine) :
    (moduleExpression source statement following).MessagesOneLine ↔
      TypesOneLine source (expressionTypes (assignmentTypes source) statement) := by
  unfold moduleExpression expressionTypes Node.firstPart?
  cases hparts : statement.parts with
  | nil => simp
  | cons inner rest =>
    have hkinds := h.of_mem (Node.mem_nodes_of_mem_parts (hparts ▸ List.mem_cons_self))
    by_cases hassignment : inner.kind = .assignment
    · simp [hassignment, Option.filter_some, messagesOneLine_moduleAssignment_iff hkinds]
    · have hlist : AllOneLine (Problem.inside .expressionStatement .expressionList).quoted := by
        unfold AllOneLine
        decide +kernel
      refine iff_of_true ?_ (by simp [hassignment, Option.filter_some])
      simp only
      split
      · exact absurd ‹_› hassignment
      · simp [Problem.quoted, hkinds.self]
      · split
        · simp [hlist]
        · split <;> simp [Problem.quoted, hkinds.self, h.self]

/-- The messages on a statement are one line exactly when the constants that are refused in its type
expressions are. -/
theorem messagesOneLine_moduleStatement_iff {statement : Node} {following : List Node}
    (h : statement.KindsOneLine) :
    (moduleStatement settings source statement following).MessagesOneLine ↔
      TypesOneLine source (statementTypes settings source statement) := by
  have hdefinition : (moduleDefinition settings source statement []).MessagesOneLine ↔ _ :=
    messagesOneLine_moduleDefinition_iff h (definedIn_self statement)
  unfold moduleStatement statementTypes
  cases hsort : statement.statement
  case expression => exact messagesOneLine_moduleExpression_iff h
  case importNames | importFrom => simp [definitionTypes, hsort]
  case decorated =>
    cases hdecorated : statement.child? .definition with
    | none => simp
    | some definition =>
      simpa using messagesOneLine_moduleDefinition_iff h (definedIn_decorated hdecorated)
  all_goals exact hdefinition

end Extraction

/-! ## Diagnostics -/

/-- The type expressions that are read for the stub of a module. -/
def typesRead (settings : ExtractSettings) (source : Source) (root : Node) : List Node :=
  (leafStatements settings source root).flatMap fun leaf =>
    statementTypes settings source leaf.node

theorem oneLine_messages_iff (settings : ExtractSettings) {source : Source} {root : Node}
    (h : root.KindsOneLine) :
    AllOneLine ((extract settings source root).diagnostics.map (·.message)) ↔
      TypesOneLine source (typesRead settings source root) := by
  have hmessages : AllOneLine ((extract settings source root).diagnostics.map (·.message)) ↔
      (moduleItems settings source root).MessagesOneLine := by
    simp only [extract, List.map_map, allOneLine_map]
    rfl
  rw [hmessages, moduleItems, blockItems_eq_leafStatements, Report.messagesOneLine_gatherAll_map,
    typesRead, TypesOneLine, List.forall_mem_flatMap]
  exact forall₂_congr fun leaf hleaf =>
    messagesOneLine_moduleStatement_iff (h.of_mem (mem_nodes_of_mem_leafStatements hleaf))

theorem Diagnostic.renderAll_eq_joinLines (diagnostics : List Diagnostic) :
    renderAll diagnostics = joinLines (diagnostics.map render) := by
  rw [renderAll, joinLines, List.map_map]
  rfl

/-- A diagnostic is one line exactly when its message is. -/
theorem Diagnostic.oneLine_render_iff {diagnostic : Diagnostic} (h : OneLine diagnostic.sourceId) :
    OneLine diagnostic.render ↔ OneLine diagnostic.message := by
  have hlevel : OneLine "WARNING:" := by decide +kernel
  have hcolon : OneLine ":" := by decide +kernel
  simp only [render, oneLine_append, hlevel, hcolon, oneLine_repr, h, true_and]

/-- The ends of lines in a text of lines are those after the lines and those inside them. -/
theorem count_joinLines (lines : List String) :
    (joinLines lines).toList.count '\n' =
      lines.length + (lines.map (·.toList.count '\n')).sum := by
  induction lines with
  | nil => rfl
  | cons line lines ih =>
    simp [ih]
    omega

theorem count_joinLines_eq_length_iff {lines : List String} :
    (joinLines lines).toList.count '\n' = lines.length ↔ AllOneLine lines := by
  rw [count_joinLines, Nat.add_eq_left, List.sum_eq_zero_iff_forall_eq_nat, List.forall_mem_map]
  exact forall₂_congr fun line _ => List.count_eq_zero

theorem Tally.diagnostics_record (tally : Tally) (report : FileReport) :
    (tally.record report).diagnostics = tally.diagnostics + .ofNat report.diagnostics.length := by
  unfold Tally.record
  split
  · rfl
  · split <;> rfl

/-- The diagnostics of a module have messages of one line exactly when the constants that are
refused in its type expressions are one line each.  In this case, and in no other, their text has
the lines that they are written as, and as many lines as there are diagnostics; this is also what
they are counted as. -/
theorem diagnostics_oneLine_iff (settings : ExtractSettings) {source : Source} {root : Node}
    (hid : OneLine source.id) (hkinds : root.KindsOneLine) :
    let diagnostics := (extract settings source root).diagnostics
    let oneLine := AllOneLine (diagnostics.map (·.message))
    (oneLine ↔ TypesOneLine source (typesRead settings source root)) ∧
      (Text.split '\n' (Diagnostic.renderAll diagnostics) =
        diagnostics.map Diagnostic.render ++ [""] ↔ oneLine) ∧
      ((Diagnostic.renderAll diagnostics).toList.count '\n' = diagnostics.length ↔ oneLine) ∧
      ∀ (tally : Tally) (files : FileSystem) (result : Except ConversionError String),
        (tally.record ⟨files, result, diagnostics⟩).diagnostics =
          tally.diagnostics + .ofNat diagnostics.length := by
  intro diagnostics oneLine
  have hrendered : AllOneLine (diagnostics.map Diagnostic.render) ↔ oneLine := by
    refine allOneLine_map.trans (Iff.trans ?_ allOneLine_map.symm)
    refine forall₂_congr fun diagnostic hdiagnostic => Diagnostic.oneLine_render_iff ?_
    obtain ⟨finding, -, rfl⟩ := List.mem_map.1 hdiagnostic
    exact hid
  refine ⟨oneLine_messages_iff settings hkinds, ?_, ?_, fun tally files result => ?_⟩
  · rw [Diagnostic.renderAll_eq_joinLines, split_joinLines_iff, hrendered]
  · rw [Diagnostic.renderAll_eq_joinLines, ← hrendered, ← count_joinLines_eq_length_iff,
      List.length_map]
  · exact tally.diagnostics_record _

/-- A constant of bytes that goes on for three lines. -/
def bytesConstant : Node :=
  .inner .string none 3 15 [
    .inner .stringStart none 3 7 [],
    .inner (.other "string_content") none 7 12 [],
    .inner .stringEnd none 12 15 []]

/-- The annotation of a variable with it. -/
def bytesModule : Node :=
  .inner (.other "module") none 0 16 [
    .inner .expressionStatement none 0 15 [
      .inner .assignment none 0 15 [
        .inner .identifier (some .left) 0 1 [],
        .token ":" 1 2,
        .inner .type (some .type) 3 15 [bytesConstant]]]]

def bytesSource : Source :=
  .ofText "bytes.py" "x: b\"\"\"\nint\n\"\"\"\n"

/-- One diagnostic, written on three lines. -/
theorem bytesModule_not_oneLine :
    bytesSource.check bytesModule = .ok () ∧ OneLine bytesSource.id ∧ bytesModule.KindsOneLine ∧
      (extract {} bytesSource bytesModule).diagnostics =
        [⟨"bytes.py", 1, "unsupported constant b\"\"\"\nint\n\"\"\" for annotations"⟩] ∧
      (Diagnostic.renderAll (extract {} bytesSource bytesModule).diagnostics).toList.count '\n' ≠
        1 := by
  have hid : OneLine bytesSource.id := by decide +kernel
  have hkinds : bytesModule.KindsOneLine := by
    unfold Node.KindsOneLine
    decide +kernel
  have hdiagnostics : (extract {} bytesSource bytesModule).diagnostics =
      [⟨"bytes.py", 1, "unsupported constant b\"\"\"\nint\n\"\"\" for annotations"⟩] := by
    decide +kernel
  obtain ⟨-, -, hcount, -⟩ := diagnostics_oneLine_iff {} hid hkinds
  refine ⟨rfl, hid, hkinds, hdiagnostics, fun hone => ?_⟩
  rw [hdiagnostics] at hcount hone
  have hline := hcount.1 hone _ (List.mem_singleton.2 rfl)
  exact absurd hline (by decide +kernel)

end InterfaceStub
