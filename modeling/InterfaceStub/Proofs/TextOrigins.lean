import InterfaceStub.Proofs.ClassVariables
import InterfaceStub.Proofs.EmptyBrackets

/-!
# Where the texts of a stub come from

The names of a stub are names of the source.  Its annotations are spelled out by the extraction,
put together from names, or copied from the strings of the source; and a string may go on for
several lines.

* `NamesOneLine` is what a tree of the grammar gives: names stand where they are read, and none
  holds the end of a line.
* Type expressions.  `QuotedIn` relates an expression to the strings that its text is copied from,
  and `oneLine_typeText_iff` says that the text is one line exactly when these strings are.
* `Traced` is the invariant of everything that is extracted, from parameters to modules.
* `split_render_iff` is the result: a stub is written one line for each thing it declares, unless
  one of its annotations quotes a string that is not one line.
-/

namespace InterfaceStub

open Syntax Extraction

/-! ## Names in their places -/

namespace Syntax.Node

/-- Whether the node is the path of an import, or has another name for one. -/
def isImportName (node : Node) : Bool :=
  node.kind == .dottedName || node.kind == .aliasedImport

/-- Whether a name stands in each place of the node where the grammar has one. -/
def namesInPlace (node : Node) : Bool :=
  match node.kind with
  | .attribute => (node.child? .attribute).all isName
  | .memberType => node.parts.getLast?.all isName
  | .functionDefinition | .classDefinition => (node.child? .name).all isName
  | .typedParameter => node.firstPart?.all fun inner => inner.isName || inner.isVariadic
  | .dottedName => node.parts.all isName
  | .aliasedImport =>
    (node.child? .name).all (·.kind == .dottedName) && (node.child? .localName).all isName
  | .importStatement => (node.childrenAt .name).all isImportName
  | .importFromStatement | .futureImportStatement =>
    (node.childrenAt .name).all isImportName &&
      (node.child? .moduleName).all fun path =>
        path.kind == .dottedName || path.kind == .relativeImport
  | .relativeImport => node.parts.all fun part =>
    part.kind == .importPrefix || part.kind == .dottedName
  | _ => true

/-- The names of a tree stand in their places, and none of them holds the end of a line. -/
structure NamesOneLine (source : Source) (root : Node) : Prop where
  inPlace : ∀ node ∈ root.nodes, node.namesInPlace
  oneLine : ∀ node ∈ root.nodes, node.isName → OneLine (source.text node)

end Syntax.Node

namespace Extraction

variable {settings : ExtractSettings} {source : Source} {root : Node}

theorem oneLine_applied_iff {base : String} {texts : List String} (hbase : OneLine base) :
    OneLine (applied base texts) ↔ AllOneLine texts := by
  have hbrackets : OneLine "[" ∧ OneLine "]" := by simp [OneLine]
  simp [applied, hbase, hbrackets, oneLine_commas_iff]

theorem oneLine_listed_iff {texts : List String} : OneLine (listed texts) ↔ AllOneLine texts := by
  have hbrackets : OneLine "[" ∧ OneLine "]" := by simp [OneLine]
  simp [listed, hbrackets, oneLine_commas_iff]

section Names

variable (h : root.NamesOneLine source)

include h

theorem PathOf.oneLine {node : Node} {names : List Node} (hpath : PathOf node names)
    (hnode : node ∈ root.nodes) : OneLine (dottedText source names) := by
  have hdot : OneLine "." := by simp [OneLine]
  rw [dottedText, oneLine_intercalate_iff hdot, allOneLine_map]
  induction hpath with
  | @name node hname =>
    have hself := Node.mem_nodes_trans node.unwrapped_mem_nodes hnode
    simpa using h.oneLine _ hself hname
  | @«attribute» node object member names hkind hobject hmember hpath ih =>
    have hself := Node.mem_nodes_trans node.unwrapped_mem_nodes hnode
    have hname : member.isName := by
      simpa [Node.namesInPlace, hkind, hmember] using h.inPlace _ hself
    intro name hmem
    rcases List.mem_append.1 hmem with hmem | hmem
    · exact ih (Node.mem_nodes_trans (Node.mem_nodes_of_child? hobject) hself) name hmem
    · rw [List.mem_singleton.1 hmem]
      exact h.oneLine _ (Node.mem_nodes_trans (Node.mem_nodes_of_child? hmember) hself) hname
  | @memberType node object member names hkind hobject hmember hpath ih =>
    have hself := Node.mem_nodes_trans node.unwrapped_mem_nodes hnode
    have hname : member.isName := by
      simpa [Node.namesInPlace, hkind, hmember] using h.inPlace _ hself
    have hpart := Node.mem_nodes_of_mem_parts (List.mem_of_getLast? hmember)
    have hbase := Node.mem_nodes_of_mem_parts
      ((List.dropLast_sublist _).subset (List.mem_of_mem_head? hobject))
    intro name hmem
    rcases List.mem_append.1 hmem with hmem | hmem
    · exact ih (Node.mem_nodes_trans hbase hself) name hmem
    · rw [List.mem_singleton.1 hmem]
      exact h.oneLine _ (Node.mem_nodes_trans hpart hself) hname

theorem oneLine_namePath {node : Node} {text : String} (hnode : node ∈ root.nodes)
    (htext : (namePath source node).value = some text) : OneLine text := by
  obtain ⟨names, hpath, rfl⟩ := pathOf_of_namePathIn htext
  exact hpath.oneLine h hnode

theorem oneLine_subscriptBase {subscript : Node} {base : String} (hnode : subscript ∈ root.nodes)
    (hbase : (subscriptBase source subscript).value = some base) : OneLine base := by
  obtain ⟨value, names, hvalue, hpath, rfl⟩ := subscriptBase_eq_some hbase
  exact hpath.oneLine h (Node.mem_nodes_trans (Node.mem_nodes_of_child? hvalue) hnode)

theorem oneLine_baseClass {node : Node} {text : String} (hnode : node ∈ root.nodes)
    (htext : (baseClass source node).value = some text) : OneLine text := by
  fun_induction baseClass source node generalizing text with
  | case1 node => exact oneLine_namePath h hnode htext
  | case2 node => exact oneLine_namePath h hnode htext
  | case3 node hshape ih =>
    have hself := Node.mem_nodes_trans node.unwrapped_mem_nodes hnode
    rw [Report.value_bind] at htext
    split at htext
    · cases htext
    · rename_i base hbase
      split at htext
      · rename_i argument hargument
        obtain ⟨inner, hinner, rfl⟩ := Option.map_eq_some_iff.1 htext
        have hmem : argument ∈ node.unwrapped.nodes :=
          Node.mem_nodes_of_mem_childrenAt (by rw [hargument]; exact List.mem_singleton.2 rfl)
        apply (oneLine_applied_iff (oneLine_subscriptBase h hself hbase)).2
        have hline := ih argument hargument (Node.mem_nodes_trans hmem hself) hinner
        exact allOneLine_cons.2 ⟨hline, allOneLine_nil⟩
      · cases htext
  | case4 => cases htext

theorem oneLine_decoratorPath {decorator : Node} {text : String} (hnode : decorator ∈ root.nodes)
    (htext : (decoratorPath source decorator).value = some text) : OneLine text := by
  unfold decoratorPath at htext
  split at htext
  · cases htext
  · rename_i expression hexpression
    have hmem := Node.mem_nodes_trans (Node.mem_nodes_of_firstPart? hexpression) hnode
    split at htext
    · exact oneLine_namePath h hmem htext
    · exact oneLine_namePath h hmem htext
    · cases htext

/-! ## Imports -/

theorem oneLine_joinedName {node : Node} (hnode : node ∈ root.nodes)
    (hkind : node.kind = .dottedName) : OneLine (joinedName source node) := by
  have hdot : OneLine "." := by simp [OneLine]
  rw [joinedName, hkind]
  simp only [oneLine_intercalate_iff hdot, allOneLine_map]
  intro part hpart
  have hname : part.isName := by
    have hplace := h.inPlace node hnode
    simp only [Node.namesInPlace, hkind, List.all_eq_true] at hplace
    exact hplace part hpart
  exact h.oneLine part (Node.mem_nodes_trans (Node.mem_nodes_of_mem_parts hpart) hnode) hname

theorem allOneLine_importItem {node : Node} (hnode : node ∈ root.nodes)
    (hkind : node.isImportName) : AllOneLine (importItem source node).nameTexts := by
  simp only [Node.isImportName, Bool.or_eq_true, beq_iff_eq] at hkind
  rcases hkind with hkind | hkind
  · have hitem : importItem source node = { name := joinedName source node } := by
      rw [importItem, hkind]
    rw [hitem]
    exact allOneLine_cons.2 ⟨oneLine_joinedName h hnode hkind, allOneLine_nil⟩
  · have hplace := h.inPlace node hnode
    simp only [Node.namesInPlace, hkind, Bool.and_eq_true] at hplace
    rw [importItem, hkind]
    refine allOneLine_cons.2 ⟨?_, ?_⟩
    · cases hname : node.child? .name with
      | none => simp [OneLine]
      | some name =>
        have hmem := Node.mem_nodes_trans (Node.mem_nodes_of_child? hname) hnode
        exact oneLine_joinedName h hmem (by simpa [hname] using hplace.1)
    · cases hlocal : node.child? .localName with
      | none => simp
      | some localName =>
        have hmem := Node.mem_nodes_trans (Node.mem_nodes_of_child? hlocal) hnode
        have hline := h.oneLine localName hmem (by simpa [hlocal] using hplace.2)
        exact allOneLine_cons.2 ⟨hline, allOneLine_nil⟩

theorem allOneLine_importNames {statement : Node} {imported : Import}
    (hnode : statement ∈ root.nodes) (hsort : statement.statement = .importNames)
    (himported : imported ∈ importNames source statement) : AllOneLine imported.nameTexts := by
  have hplace := h.inPlace statement hnode
  simp only [Node.namesInPlace, Node.kind_of_statement hsort rfl, List.all_eq_true] at hplace
  obtain ⟨name, hname, rfl⟩ := List.mem_map.1 himported
  have hmem := Node.mem_nodes_trans (Node.mem_nodes_of_mem_childrenAt hname) hnode
  exact allOneLine_importItem h hmem (hplace name hname)

theorem oneLine_relativePath {relative : Node} (hnode : relative ∈ root.nodes)
    (hkind : relative.kind = .relativeImport) : OneLine (relativePath source relative).1 := by
  have hplace := h.inPlace relative hnode
  simp only [Node.namesInPlace, hkind, List.all_eq_true, Bool.or_eq_true, beq_iff_eq] at hplace
  simp only [relativePath, List.partition_eq_filter_filter]
  cases hlast : (relative.parts.filter (not ∘ fun part => part.kind == .importPrefix)).getLast? with
  | none => simp [OneLine]
  | some path =>
    obtain ⟨hpart, hother⟩ := List.mem_filter.1 (List.mem_of_getLast? hlast)
    have hdotted : path.kind = .dottedName := by
      apply (hplace path hpart).resolve_left
      simpa using hother
    have hmem := Node.mem_nodes_trans (Node.mem_nodes_of_mem_parts hpart) hnode
    exact oneLine_joinedName h hmem hdotted

theorem oneLine_importPath {statement : Node} (hnode : statement ∈ root.nodes)
    (hplace : (statement.child? .moduleName).all fun path =>
      path.kind == .dottedName || path.kind == .relativeImport) :
    OneLine (importPath source statement).1 := by
  unfold importPath
  split
  · rename_i path hpath
    have hmem := Node.mem_nodes_trans (Node.mem_nodes_of_child? hpath) hnode
    split
    · rename_i hrelative
      exact oneLine_relativePath h hmem (eq_of_beq hrelative)
    · rename_i hrelative
      apply oneLine_joinedName h hmem
      simpa [hpath, hrelative] using hplace
  · simp [OneLine]

theorem allOneLine_importFrom {statement : Node} (hnode : statement ∈ root.nodes)
    (hsort : statement.statement = .importFrom) :
    AllOneLine (importFrom source statement).nameTexts := by
  have hplace : (statement.childrenAt .name).all Node.isImportName ∧
      (statement.child? .moduleName).all fun path =>
        path.kind == .dottedName || path.kind == .relativeImport := by
    have hplace := h.inPlace statement hnode
    have hkind : statement.kind = .importFromStatement ∨
        statement.kind = .futureImportStatement := by
      unfold Node.statement at hsort
      split at hsort
      case h_3 hkind => exact .inl hkind
      case h_4 hkind => exact .inr hkind
      case h_5 => split at hsort <;> cases hsort
      all_goals cases hsort
    rcases hkind with hkind | hkind
    · simpa only [Node.namesInPlace, hkind, Bool.and_eq_true] using hplace
    · simpa only [Node.namesInPlace, hkind, Bool.and_eq_true] using hplace
  obtain ⟨hnames, hpath⟩ := hplace
  refine allOneLine_cons.2 ⟨oneLine_importPath h hnode hpath, allOneLine_flatMap.2 ?_⟩
  intro imported himported
  rcases List.mem_append.1 himported with himported | himported
  · obtain ⟨name, hname, rfl⟩ := List.mem_map.1 himported
    have hmem := Node.mem_nodes_trans (Node.mem_nodes_of_mem_childrenAt hname) hnode
    exact allOneLine_importItem h hmem (List.all_eq_true.1 hnames name hname)
  · split at himported
    · rw [List.mem_singleton.1 himported]
      simp [ImportedName.nameTexts, OneLine]
    · cases himported

end Names

/-! ## Type expressions -/

/-- The string is one that the text of the expression is copied from. -/
inductive QuotedIn (source : Source) : Node → Node → Prop where
  | here {node : Node} (hshape : source.shapeOf node = .string) :
      QuotedIn source node node.unwrapped
  | argument {node argument string : Node} {arguments : List Node}
      (harguments : bracketArguments? source node.unwrapped = some arguments)
      (hargument : argument ∈ arguments) (hinner : QuotedIn source argument string) :
      QuotedIn source node string
  | item {node item string : Node} (hkind : node.unwrapped.kind = .list)
      (hitem : item ∈ node.unwrapped.parts) (htext : (typeText source item).value.isSome)
      (hinner : QuotedIn source item string) : QuotedIn source node string

/-- All strings that the text of the expression is copied from are one line. -/
def QuotesOneLine (source : Source) (node : Node) : Prop :=
  ∀ string, QuotedIn source node string → OneLine (source.stringText string)

theorem quotesOneLine_of_kind {node : Node}
    (hkind : node.unwrapped.kind ∉
      [Kind.string, .concatenatedString, .subscript, .genericType, .list]) :
    QuotesOneLine source node := by
  intro string hquoted
  cases hquoted with
  | here hshape =>
    have hkinds := Source.mem_kinds_of_shapeOf hshape (by decide)
    rcases List.mem_pair.1 hkinds with heq | heq <;> simp [heq] at hkind
  | argument harguments =>
    unfold bracketArguments? at harguments
    split at harguments
    case h_1 heq | h_2 heq => simp [heq] at hkind
    case h_3 => cases harguments
  | item heq => simp [heq] at hkind

theorem quotesOneLine_iff_of_string {node : Node} (hshape : source.shapeOf node = .string) :
    QuotesOneLine source node ↔ OneLine (source.stringText node.unwrapped) := by
  have hkinds := Source.mem_kinds_of_shapeOf hshape (by decide)
  constructor
  · intro hlines
    exact hlines _ (.here hshape)
  · intro hline string hquoted
    cases hquoted with
    | here => exact hline
    | argument harguments =>
      rcases List.mem_pair.1 hkinds with heq | heq <;> simp [bracketArguments?, heq] at harguments
    | item heq => simp [heq, Shape.kinds] at hkinds

theorem quotesOneLine_iff_of_arguments {node : Node} {arguments : List Node}
    (harguments : bracketArguments? source node.unwrapped = some arguments) :
    QuotesOneLine source node ↔ ∀ argument ∈ arguments, QuotesOneLine source argument := by
  have hkind : node.unwrapped.kind = .subscript ∨ node.unwrapped.kind = .genericType := by
    unfold bracketArguments? at harguments
    split at harguments
    case h_1 heq => exact .inl heq
    case h_2 heq => exact .inr heq
    case h_3 => cases harguments
  constructor
  · intro hlines argument hargument string hquoted
    exact hlines string (.argument harguments hargument hquoted)
  · intro hlines string hquoted
    cases hquoted with
    | here hshape =>
      have hkinds := Source.mem_kinds_of_shapeOf hshape (by decide)
      rcases hkind with heq | heq <;> simp [heq, Shape.kinds] at hkinds
    | argument harguments' hargument hinner =>
      cases harguments.symm.trans harguments'
      exact hlines _ hargument string hinner
    | item heq => rcases hkind with heq' | heq' <;> cases heq.symm.trans heq'

theorem quotesOneLine_iff_of_list {node : Node} (hkind : node.unwrapped.kind = .list) :
    QuotesOneLine source node ↔ ∀ item ∈ node.unwrapped.parts,
      (typeText source item).value.isSome → QuotesOneLine source item := by
  constructor
  · intro hlines item hitem htext string hquoted
    exact hlines string (.item hkind hitem htext hquoted)
  · intro hlines string hquoted
    cases hquoted with
    | here hshape =>
      have hkinds := Source.mem_kinds_of_shapeOf hshape (by decide)
      simp [hkind, Shape.kinds] at hkinds
    | argument harguments => simp [bracketArguments?, hkind] at harguments
    | item _ hitem htext hinner => exact hlines _ hitem htext string hinner

theorem PathOf.quotesOneLine {node : Node} {names : List Node} (hpath : PathOf node names) :
    QuotesOneLine source node := by
  apply quotesOneLine_of_kind
  cases hpath with
  | name hname =>
    simp only [Node.isName, Bool.or_eq_true, beq_iff_eq] at hname
    rcases hname with hkind | hkind <;> simp [hkind]
  | «attribute» hkind => simp [hkind]
  | memberType hkind => simp [hkind]

/-- The arguments of an expression with brackets are one line exactly when their strings are. -/
theorem allOneLine_texts_iff {nodes : List Node} {texts : List String}
    (htexts : HaveTexts source nodes texts)
    (ih : ∀ node ∈ nodes, ∀ text, (typeText source node).value = some text →
      (OneLine text ↔ QuotesOneLine source node)) :
    AllOneLine texts ↔ ∀ node ∈ nodes, QuotesOneLine source node := by
  constructor
  · intro hlines node hnode
    obtain ⟨text, htext, hvalue⟩ := htexts.exists_text hnode
    exact (ih node hnode text hvalue).1 (hlines text htext)
  · intro hquotes text htext
    obtain ⟨node, hnode, hvalue⟩ := htexts.exists_node htext
    exact (ih node hnode text hvalue).2 (hquotes node hnode)

/-- The text of a type expression is one line exactly when the strings that it is copied from
are. -/
theorem oneLine_typeText_iff (h : root.NamesOneLine source) {node : Node} {text : String}
    (hnode : node ∈ root.nodes) (htext : (typeText source node).value = some text) :
    OneLine text ↔ QuotesOneLine source node := by
  induction hsize : node.size using Nat.strongRecOn generalizing node text with
  | ind size ih =>
    have hself := Node.mem_nodes_trans node.unwrapped_mem_nodes hnode
    have hinner {inner : Node} (hmem : inner ∈ node.unwrapped.nodes)
        (hlt : inner.size < node.unwrapped.size) (text : String)
        (htext : (typeText source inner).value = some text) :
        OneLine text ↔ QuotesOneLine source inner := by
      have hle := node.size_unwrapped_le
      exact ih inner.size (by omega) (Node.mem_nodes_trans hmem hself) htext rfl
    cases typeReading_of_typeText htext with
    | noneType hkind =>
      exact iff_of_true (by simp [OneLine]) (quotesOneLine_of_kind (by simp [hkind]))
    | ellipsis hkind =>
      exact iff_of_true (by simp [OneLine]) (quotesOneLine_of_kind (by simp [hkind]))
    | string hshape => exact (quotesOneLine_iff_of_string hshape).symm
    | path hpath => exact iff_of_true (hpath.oneLine h hnode) hpath.quotesOneLine
    | @subscript value names texts hkind hvalue hpath htexts =>
      have hbase := hpath.oneLine h (Node.mem_nodes_trans (Node.mem_nodes_of_child? hvalue) hself)
      have harguments : bracketArguments? source node.unwrapped =
          some (subscriptArguments source node.unwrapped) := by rw [bracketArguments?, hkind]
      rw [oneLine_applied_iff hbase, quotesOneLine_iff_of_arguments harguments]
      apply allOneLine_texts_iff htexts
      intro argument hargument
      exact hinner (mem_nodes_of_mem_subscriptArguments hargument)
        (size_lt_of_mem_subscriptArguments hargument)
    | @generic base arguments names texts hkind hbase harguments hpath htexts =>
      have hmem := Node.mem_nodes_trans (Node.mem_nodes_of_firstPart? hbase) hself
      have hbrackets : bracketArguments? source node.unwrapped = some arguments := by
        rw [bracketArguments?, hkind]
        exact harguments
      rw [oneLine_applied_iff (hpath.oneLine h hmem), quotesOneLine_iff_of_arguments hbrackets]
      apply allOneLine_texts_iff htexts
      intro argument hargument
      exact hinner (mem_nodes_of_genericArguments? harguments hargument)
        (size_lt_of_genericArguments? harguments hargument)
    | list hkind =>
      rw [oneLine_listed_iff, quotesOneLine_iff_of_list hkind, allOneLine_filterMap]
      refine forall₂_congr fun item hitem => ?_
      have hread := hinner (Node.mem_nodes_of_mem_parts hitem) (Node.size_lt_of_mem_parts hitem)
      cases hvalue : (typeText source item).value with
      | none => simp
      | some text => simpa using hread text hvalue

/-! ## Signatures -/

/-- The expression gives the text, as it is or without the `ClassVar[...]` around it. -/
def Gives (source : Source) (expression : Node) (text : String) : Prop :=
  ∃ full, (typeText source expression).value = some full ∧
    (text = full ∨ classVarType? full = some text)

/-- The annotation is inferred, or given by an expression of the tree. -/
def TypeOrigin (source : Source) (root : Node) (text : String) : Prop :=
  (∃ type : LiteralType, text = type.spelling) ∨
    ∃ expression ∈ root.nodes, Gives source expression text

/-- The names are one line each, and the annotations come from the tree. -/
structure Traced (source : Source) (root : Node) (names types : List String) : Prop where
  names : AllOneLine names
  types : ∀ text ∈ types, TypeOrigin source root text

theorem typeOrigin_of_typeText {node : Node} {text : String} (hnode : node ∈ root.nodes)
    (htext : (typeText source node).value = some text) : TypeOrigin source root text :=
  .inr ⟨node, hnode, text, htext, .inl rfl⟩

theorem typeOrigin_of_optionalType {type : Option Node} {text : String}
    (htype : ∀ node ∈ type, node ∈ root.nodes)
    (htext : (optionalType source type).value = some text) : TypeOrigin source root text := by
  cases type with
  | none => cases htext
  | some node => exact typeOrigin_of_typeText (htype node rfl) htext

/-- The name and the annotation of an entry that is a parameter. -/
def ParameterEntry.nameAndType? : ParameterEntry → Option (Node × Option Node)
  | .plain name type _ | .varArg name type | .kwArg name type => some (name, type)
  | .star | .slash _ | .typeComment _ | .unsupported _ _ | .nothing => none

theorem exists_entry_of_mem_assignRoles {starred : Bool} {found : List ParameterEntry}
    {parameter : Parameter} (hparameter : parameter ∈ assignRoles starred found) :
    ∃ entry ∈ found, entry.nameAndType? = some (parameter.name, parameter.type) := by
  induction found generalizing starred with
  | nil => cases hparameter
  | cons entry rest ih =>
    have hrest {starred : Bool} (hmem : parameter ∈ assignRoles starred rest) :
        ∃ other ∈ entry :: rest, other.nameAndType? = some (parameter.name, parameter.type) := by
      obtain ⟨other, hother, heq⟩ := ih hmem
      exact ⟨other, List.mem_cons_of_mem _ hother, heq⟩
    cases entry
    case plain | varArg | kwArg =>
      rcases List.mem_cons.1 hparameter with rfl | hmem
      · exact ⟨_, List.mem_cons_self, rfl⟩
      · exact hrest hmem
    all_goals exact hrest hparameter

theorem nameAndType?_splatEntry {parameters splat name : Node} {type type' : Option Node}
    (hentry : (splatEntry parameters splat type).nameAndType? = some (name, type')) :
    splat.firstPart? = some name ∧ name.isName ∧ type' = type := by
  unfold splatEntry at hentry
  split at hentry
  · rename_i inner hinner
    split at hentry
    · rename_i hkind
      have hname : inner.isName := by simp [Node.isName, eq_of_beq hkind]
      split at hentry <;> cases hentry <;> exact ⟨hinner, hname, rfl⟩
    · cases hentry
  · cases hentry

/-- The name of a parameter is a name of the tree, and its annotation is a node of the tree. -/
theorem nameAndType?_partEntry (h : root.NamesOneLine source) {parameters child name : Node}
    {type : Option Node} (hchild : child ∈ root.nodes)
    (hentry : (partEntry parameters child).nameAndType? = some (name, type)) :
    (name.isName ∧ name ∈ root.nodes) ∧ ∀ node ∈ type, node ∈ root.nodes := by
  have htype : ∀ node ∈ child.child? .type, node ∈ root.nodes := fun node hnode =>
    Node.mem_nodes_trans (Node.mem_nodes_of_child? hnode) hchild
  unfold partEntry at hentry
  split at hentry
  case h_3 hkind =>
    cases hentry
    exact ⟨⟨by simp [Node.isName, hkind], hchild⟩, by simp⟩
  case h_4 | h_5 =>
    obtain ⟨hfirst, hname, rfl⟩ := nameAndType?_splatEntry hentry
    exact ⟨⟨hname, Node.mem_nodes_trans (Node.mem_nodes_of_firstPart? hfirst) hchild⟩, by simp⟩
  case h_6 hkind =>
    split at hentry
    · rename_i inner hinner
      have hmem := Node.mem_nodes_trans (Node.mem_nodes_of_firstPart? hinner) hchild
      split at hentry
      · obtain ⟨hfirst, hname, rfl⟩ := nameAndType?_splatEntry hentry
        have hpart := Node.mem_nodes_of_firstPart? hfirst
        exact ⟨⟨hname, Node.mem_nodes_trans hpart hmem⟩, htype⟩
      · rename_i hvariadic
        cases hentry
        have hplace := h.inPlace child hchild
        simp only [Node.namesInPlace, hkind, hinner, Option.all_some, hvariadic, Bool.or_false]
          at hplace
        exact ⟨⟨hplace, hmem⟩, htype⟩
    · cases hentry
  case h_7 | h_8 =>
    split at hentry
    · rename_i inner hinner
      split at hentry
      · rename_i hkind
        cases hentry
        have hmem := Node.mem_nodes_trans (Node.mem_nodes_of_child? hinner) hchild
        exact ⟨⟨by simp [Node.isName, eq_of_beq hkind], hmem⟩, htype⟩
      · cases hentry
    · cases hentry
  all_goals cases hentry

theorem exists_of_mem_positionalArguments {parameters : Node} {positional : List Parameter}
    {argument : Argument}
    (hargument : argument ∈ (positionalArguments source parameters positional).value) :
    ∃ parameter ∈ positional, ∃ hasDefault,
      (parameter.argument source hasDefault).value = argument := by
  unfold positionalArguments at hargument
  split at hargument
  · rename_i pairs halign
    rw [Report.gather, List.map_map] at hargument
    obtain ⟨⟨parameter, value⟩, hpair, rfl⟩ := List.mem_map.1 hargument
    unfold alignRight at halign
    split at halign
    · cases halign
      exact ⟨parameter, (List.of_mem_zip hpair).1, _, rfl⟩
    · cases halign
  · cases hargument

theorem exists_of_mem_withRole {role : Role} {named : List Parameter} {argument : Argument}
    (hargument : argument ∈
      withRole role (Report.gather (named.map (·.namedArgument source))).value) :
    ∃ parameter ∈ named, ∃ hasDefault,
      (parameter.argument source hasDefault).value = argument := by
  obtain ⟨pair, hpair, rfl⟩ := List.mem_map.1 hargument
  have hmem := (List.mem_filter.1 hpair).1
  rw [Report.gather, List.map_map] at hmem
  obtain ⟨parameter, hparameter, rfl⟩ := List.mem_map.1 hmem
  exact ⟨parameter, hparameter, _, rfl⟩

/-- Every argument of a function stands for a parameter of its list. -/
theorem exists_of_mem_arguments {name : String} {parameters : Node} {argument : Argument}
    (hargument : argument ∈ (parameterList source name parameters).value.arguments) :
    ∃ parameter ∈ assignRoles false (entries source parameters), ∃ hasDefault,
      (parameter.argument source hasDefault).value = argument := by
  rw [parameterList, List.partition_eq_filter_filter] at hargument
  simp only [FunctionStub.arguments, List.mem_append, Option.mem_toList] at hargument
  have hnamed {role : Role} (hmem : argument ∈ withRole role (Report.gather
      (((assignRoles false (entries source parameters)).filter
        (not ∘ fun parameter => parameter.role == .positional)).map
          (·.namedArgument source))).value) :
      ∃ parameter ∈ assignRoles false (entries source parameters), ∃ hasDefault,
        (parameter.argument source hasDefault).value = argument := by
    obtain ⟨parameter, hparameter, hgives⟩ := exists_of_mem_withRole hmem
    exact ⟨parameter, (List.mem_filter.1 hparameter).1, hgives⟩
  rcases hargument with ((hargs | hvarArg) | hkwArgs) | hkwArg
  · obtain ⟨parameter, hparameter, hgives⟩ := exists_of_mem_positionalArguments hargs
    exact ⟨parameter, (List.mem_filter.1 hparameter).1, hgives⟩
  · exact hnamed (List.mem_of_getLast? hvarArg)
  · exact hnamed hkwArgs
  · exact hnamed (List.mem_of_getLast? hkwArg)

/-- The signature of a function is its parameter list, with the annotation of the result and the
decorators on top. -/
theorem value_functionStub (source : Source) (definition : Node) (decorators : List Node) :
    ∃ signature : FunctionStub, signature.name = nameOf source definition ∧
      (∀ argument ∈ signature.arguments, ∃ parameters,
        definition.child? .parameters = some parameters ∧
          argument ∈ (parameterList source (nameOf source definition) parameters).value.arguments) ∧
      (functionStub source definition decorators).value = { signature with
        returns := (optionalType source (definition.child? .returnType)).value
        decorators := decorators.filterMap fun decorator =>
          (decoratorPath source decorator).value } := by
  have hdecorators : (decorators.map fun decorator =>
      (decoratorPath source decorator).value).filterMap id =
        decorators.filterMap fun decorator => (decoratorPath source decorator).value := by
    rw [List.filterMap_map]
    rfl
  cases hparameters : definition.child? .parameters with
  | none =>
    refine ⟨{ name := nameOf source definition }, rfl, by simp [FunctionStub.arguments], ?_⟩
    simp only [functionStub, hparameters, Report.value_bind, Report.value_pure, Report.gather,
      List.map_map, Function.comp_def, hdecorators]
    split <;> rfl
  | some parameters =>
    refine ⟨(parameterList source (nameOf source definition) parameters).value, rfl, ?_, ?_⟩
    · intro argument hargument
      exact ⟨parameters, rfl, hargument⟩
    · simp only [functionStub, hparameters, Report.value_bind, Report.gather, List.map_map,
        Function.comp_def, hdecorators]
      split <;> rfl

end Extraction

/-- The names of an item of a module. -/
def ModuleItem.nameTexts : ModuleItem → List String
  | .import statement => statement.nameTexts
  | .importFrom statement => statement.nameTexts
  | .declaration declared => declared.nameTexts

/-- The annotations of an item of a module. -/
def ModuleItem.typeTexts : ModuleItem → List String
  | .import _ | .importFrom _ => []
  | .declaration declared => declared.typeTexts

theorem ModuleStub.exists_of_mem_nameTexts {items : List ModuleItem} {text : String}
    (h : text ∈ (ModuleStub.ofItems items).nameTexts) : ∃ item ∈ items, text ∈ item.nameTexts := by
  simp only [nameTexts, ofItems, List.mem_append, List.mem_flatMap, List.mem_filterMap] at h
  rcases h with (⟨statement, ⟨item, hitem, heq⟩, htext⟩ | ⟨statement, ⟨item, hitem, heq⟩, htext⟩) |
    ⟨declared, ⟨item, hitem, heq⟩, htext⟩
  all_goals
    cases item <;> cases heq
    exact ⟨_, hitem, htext⟩

theorem ModuleStub.exists_of_mem_typeTexts {items : List ModuleItem} {text : String}
    (h : text ∈ (ModuleStub.ofItems items).typeTexts) : ∃ item ∈ items, text ∈ item.typeTexts := by
  obtain ⟨declared, hdeclared, htext⟩ := List.mem_flatMap.1 h
  obtain ⟨item, hitem, heq⟩ := List.mem_filterMap.1 hdeclared
  cases item <;> cases heq
  exact ⟨_, hitem, htext⟩

namespace Extraction

variable {settings : ExtractSettings} {source : Source} {root : Node}

section Traced

variable (h : root.NamesOneLine source)

include h

theorem oneLine_nameOf {definition : Node} (hdefinition : definition ∈ root.nodes)
    (hkind : definition.kind = .functionDefinition ∨ definition.kind = .classDefinition) :
    OneLine (nameOf source definition) := by
  unfold nameOf
  cases hname : definition.child? .name with
  | none => simp [OneLine]
  | some name =>
    have hisName : name.isName := by
      have hplace := h.inPlace definition hdefinition
      rcases hkind with hkind | hkind <;> simpa [Node.namesInPlace, hkind, hname] using hplace
    exact h.oneLine name (Node.mem_nodes_trans (Node.mem_nodes_of_child? hname) hdefinition) hisName

theorem traced_argument {name : String} {parameters : Node} {argument : Argument}
    (hparameters : parameters ∈ root.nodes)
    (hargument : argument ∈ (parameterList source name parameters).value.arguments) :
    OneLine argument.name ∧ ∀ text ∈ argument.annotation, TypeOrigin source root text := by
  obtain ⟨parameter, hparameter, hasDefault, rfl⟩ := exists_of_mem_arguments hargument
  obtain ⟨entry, hentry, hread⟩ := exists_entry_of_mem_assignRoles hparameter
  obtain ⟨child, hchild, rfl⟩ := List.mem_map.1 hentry
  have hmem := Node.mem_nodes_trans
    (Node.mem_nodes_of_mem_children (List.mem_filter.1 hchild).1) hparameters
  unfold entryOf at hread
  split at hread
  · split at hread <;> cases hread
  · obtain ⟨⟨hname, hnode⟩, htype⟩ := nameAndType?_partEntry h hmem hread
    refine ⟨h.oneLine _ hnode hname, ?_⟩
    intro text htext
    exact typeOrigin_of_optionalType htype htext

theorem traced_functionStub {definition : Node} {decorators : List Node}
    (hsort : definition.statement = .function) (hdefinition : definition ∈ root.nodes)
    (hdecorators : ∀ decorator ∈ decorators, decorator ∈ root.nodes) :
    Traced source root (functionStub source definition decorators).value.nameTexts
      (functionStub source definition decorators).value.typeTexts := by
  obtain ⟨signature, hname, hparameters, hvalue⟩ :=
    value_functionStub source definition decorators
  have harguments : ∀ argument ∈ signature.arguments, OneLine argument.name ∧
      ∀ text ∈ argument.annotation, TypeOrigin source root text := by
    intro argument hargument
    obtain ⟨parameters, hchild, hmem⟩ := hparameters argument hargument
    have hnode := Node.mem_nodes_trans (Node.mem_nodes_of_child? hchild) hdefinition
    exact traced_argument h hnode hmem
  rw [hvalue]
  constructor
  · refine allOneLine_append.2 ⟨allOneLine_filterMap.2 ?_, allOneLine_cons.2 ⟨?_, ?_⟩⟩
    · intro decorator hdecorator text htext
      exact oneLine_decoratorPath h (hdecorators decorator hdecorator) (Option.mem_toList.1 htext)
    · show OneLine signature.name
      rw [hname]
      exact oneLine_nameOf h hdefinition (.inl (Node.kind_of_statement hsort rfl))
    · exact allOneLine_map.2 fun argument hargument => (harguments argument hargument).1
  · intro text htext
    rcases List.mem_append.1 htext with htext | htext
    · obtain ⟨argument, hargument, hannotation⟩ := List.mem_filterMap.1 htext
      exact (harguments argument hargument).2 text hannotation
    · refine typeOrigin_of_optionalType ?_ (Option.mem_toList.1 htext)
      intro node hnode
      exact Node.mem_nodes_trans (Node.mem_nodes_of_child? hnode) hdefinition

/-! ## Assignments -/

theorem oneLine_boundName {assignment name : Node} (hassignment : assignment ∈ root.nodes)
    (hname : name ∈ boundNames assignment) : OneLine (source.text name) := by
  obtain ⟨target, htarget, hname⟩ := List.mem_flatMap.1 hname
  obtain ⟨hisName, hmem⟩ := mem_targetNames hname
  have hnode := Node.mem_nodes_trans (mem_nodes_of_mem_targets htarget) hassignment
  exact h.oneLine name (Node.mem_nodes_trans hmem hnode) hisName

theorem traced_annotatedName {assignment annotation : Node} {name text : String}
    (hassignment : assignment ∈ root.nodes)
    (hvalue : (annotatedName source assignment annotation).value = some (name, text)) :
    OneLine name ∧ (typeText source annotation).value = some text := by
  unfold annotatedName at hvalue
  split at hvalue
  · cases hvalue
  · rename_i target htarget
    split at hvalue
    · rename_i hname
      obtain ⟨own, hown, heq⟩ := Option.map_eq_some_iff.1 hvalue
      cases heq
      have hmem := Node.mem_nodes_trans (Node.mem_nodes_of_child? htarget) hassignment
      exact ⟨h.oneLine target hmem hname, hown⟩
    · cases hvalue

theorem traced_moduleAssignment {statement assignment : Node} {following : List Node}
    {declared : Declaration} (hassignment : assignment ∈ root.nodes)
    (hdeclared : declared ∈ (moduleAssignment source statement assignment following).value) :
    Traced source root declared.nameTexts declared.typeTexts := by
  cases assignedForm_of_mem hdeclared with
  | annotated htype hvalue =>
    obtain ⟨hname, htext⟩ := traced_annotatedName h hassignment hvalue
    have hmem := Node.mem_nodes_trans (Node.mem_nodes_of_child? htype) hassignment
    refine ⟨allOneLine_cons.2 ⟨hname, allOneLine_nil⟩, ?_⟩
    exact List.forall_mem_singleton.2 (typeOrigin_of_typeText hmem htext)
  | inferred hinferred =>
    obtain ⟨name, hname, type, rfl⟩ := hinferred
    refine ⟨allOneLine_cons.2 ⟨oneLine_boundName h hassignment hname, allOneLine_nil⟩, ?_⟩
    exact List.forall_mem_singleton.2 (.inl ⟨type, rfl⟩)
  | typeAlias hname hvalue _ htext =>
    have hmem := Node.mem_nodes_trans (mem_nodes_of_targetsAndValue hvalue) hassignment
    refine ⟨allOneLine_cons.2 ⟨oneLine_boundName h hassignment hname, allOneLine_nil⟩, ?_⟩
    exact List.forall_mem_singleton.2 (typeOrigin_of_typeText hmem htext)

/-! ## Classes -/

theorem traced_field {statement : Node} {following : List Node} {declared : ClassField}
    (hstatement : statement ∈ root.nodes)
    (hfield : .field declared ∈ (classStatement source statement following).value) :
    OneLine declared.name ∧ TypeOrigin source root declared.annotation := by
  rcases field_cases hfield with ⟨assignment, hplain, name, hname, rfl⟩ |
    ⟨name, text, ⟨assignment, type, hassigns, htype, hvalue⟩, rfl⟩
  · have hmem := Node.mem_nodes_trans (Node.mem_nodes_of_firstPart? hplain.first) hstatement
    exact ⟨oneLine_boundName h hmem hname, .inl ⟨.any, rfl⟩⟩
  · have hmem := Node.mem_nodes_trans (Node.mem_nodes_of_firstPart? hassigns.first) hstatement
    obtain ⟨hname, htext⟩ := traced_annotatedName h hmem hvalue
    have hnode := Node.mem_nodes_trans (Node.mem_nodes_of_child? htype) hmem
    unfold annotatedField
    split
    · rename_i inner hinner
      exact ⟨hname, .inr ⟨type, hnode, text, htext, .inr hinner⟩⟩
    · exact ⟨hname, typeOrigin_of_typeText hnode htext⟩

theorem traced_classStatement {statement : Node} {following : List Node} {member : ClassMember}
    (hstatement : statement ∈ root.nodes)
    (hmember : member ∈ (classStatement source statement following).value) :
    Traced source root member.nameTexts member.typeTexts := by
  cases member with
  | field declared =>
    obtain ⟨hname, htype⟩ := traced_field h hstatement hmember
    exact ⟨allOneLine_cons.2 ⟨hname, allOneLine_nil⟩, List.forall_mem_singleton.2 htype⟩
  | method declared =>
    cases classMemberFrom_of_mem hmember with
    | method hsort hdefined =>
      apply traced_functionStub h hsort (Node.mem_nodes_trans hdefined.definition hstatement)
      intro decorator hdecorator
      exact Node.mem_nodes_trans (hdefined.decorators decorator hdecorator) hstatement

theorem allOneLine_classHeader {definition : Node} {decorators : List Node}
    (hdefinition : definition ∈ root.nodes) :
    AllOneLine (classHeader source definition decorators).value := by
  have hvalue : (classHeader source definition decorators).value =
      (classBases source (((definition.child? .superclasses).map Node.parts).getD [])).value := by
    unfold classHeader
    split <;> simp only [Report.value_bind] <;> split <;> rfl
  rw [hvalue]
  intro base hbase
  obtain ⟨found, hfound, hbase⟩ := List.mem_filterMap.1 hbase
  rw [Report.gather, List.map_map] at hfound
  obtain ⟨argument, hargument, rfl⟩ := List.mem_map.1 hfound
  have hmem := (List.mem_filter.1 hargument).1
  cases hsuper : definition.child? .superclasses with
  | none => simp [hsuper] at hmem
  | some superclasses =>
    have hpart : argument ∈ superclasses.parts := by simpa [hsuper] using hmem
    have hnode := Node.mem_nodes_trans (Node.mem_nodes_of_mem_parts hpart)
      (Node.mem_nodes_of_child? hsuper)
    exact oneLine_baseClass h (Node.mem_nodes_trans hnode hdefinition) hbase

theorem traced_classStub {definition : Node} {decorators : List Node}
    (hsort : definition.statement = .classDefinition) (hdefinition : definition ∈ root.nodes) :
    Traced source root (classStub settings source definition decorators).value.nameTexts
      (classStub settings source definition decorators).value.typeTexts := by
  have hmembers : ∀ member ∈ (classStub settings source definition decorators).value.body,
      Traced source root member.nameTexts member.typeTexts := by
    intro member hmember
    change member ∈ (classBody settings source definition).value at hmember
    rw [classBody_eq_bodyLeaves, Report.mem_value_gatherAll] at hmember
    obtain ⟨report, hreport, hmember⟩ := hmember
    obtain ⟨leaf, hleaf, rfl⟩ := List.mem_map.1 hreport
    exact traced_classStatement h
      (Node.mem_nodes_trans (mem_nodes_of_mem_bodyLeaves hleaf) hdefinition) hmember
  have hname := oneLine_nameOf h hdefinition (.inr (Node.kind_of_statement hsort rfl))
  constructor
  · simp only [ClassStub.nameTexts, allOneLine_append, allOneLine_cons, allOneLine_flatMap]
    refine ⟨⟨⟨allOneLine_nil, hname, ?_⟩, fun keyword hkeyword => by cases hkeyword⟩, ?_⟩
    · exact allOneLine_classHeader h hdefinition
    · intro member hmember
      exact (hmembers member hmember).names
  · intro text htext
    obtain ⟨member, hmember, htext⟩ := List.mem_flatMap.1 htext
    exact (hmembers member hmember).types text htext

/-! ## Modules -/

theorem traced_moduleStatement {statement : Node} {following : List Node} {item : ModuleItem}
    (hstatement : statement ∈ root.nodes)
    (hitem : item ∈ (moduleStatement settings source statement following).value) :
    Traced source root item.nameTexts item.typeTexts := by
  cases moduleItemFrom_of_mem hitem with
  | «import» hsort himported =>
    exact ⟨allOneLine_importNames h hstatement hsort himported, by simp [ModuleItem.typeTexts]⟩
  | importFrom hsort =>
    exact ⟨allOneLine_importFrom h hstatement hsort, by simp [ModuleItem.typeTexts]⟩
  | assigned hfirst hdeclared =>
    have hmem := Node.mem_nodes_trans (Node.mem_nodes_of_firstPart? hfirst) hstatement
    exact traced_moduleAssignment h hmem hdeclared
  | function hsort hdefined =>
    apply traced_functionStub h hsort (Node.mem_nodes_trans hdefined.definition hstatement)
    intro decorator hdecorator
    exact Node.mem_nodes_trans (hdefined.decorators decorator hdecorator) hstatement
  | classStub hsort hdefined =>
    exact traced_classStub h hsort (Node.mem_nodes_trans hdefined.definition hstatement)

/-- Everything that is extracted from a tree comes from the tree. -/
theorem traced_extract (settings : ExtractSettings) :
    Traced source root (extract settings source root).stub.nameTexts
      (extract settings source root).stub.typeTexts := by
  have hitems : ∀ item ∈ (moduleItems settings source root).value,
      Traced source root item.nameTexts item.typeTexts := by
    intro item hitem
    rw [moduleItems, blockItems_eq_leafStatements, Report.mem_value_gatherAll] at hitem
    obtain ⟨report, hreport, hitem⟩ := hitem
    obtain ⟨leaf, hleaf, rfl⟩ := List.mem_map.1 hreport
    exact traced_moduleStatement h (mem_nodes_of_mem_leafStatements hleaf) hitem
  constructor
  · intro text htext
    obtain ⟨item, hitem, htext⟩ := ModuleStub.exists_of_mem_nameTexts htext
    exact (hitems item hitem).names text htext
  · intro text htext
    obtain ⟨item, hitem, htext⟩ := ModuleStub.exists_of_mem_typeTexts htext
    exact (hitems item hitem).types text htext

end Traced

theorem Gives.oneLine_iff (h : root.NamesOneLine source) {expression : Node} {text : String}
    (hgives : Gives source expression text) (hexpression : expression ∈ root.nodes) :
    OneLine text ↔ QuotesOneLine source expression := by
  obtain ⟨full, hfull, htext⟩ := hgives
  rw [← oneLine_typeText_iff h hexpression hfull]
  rcases htext with rfl | hinner
  · exact Iff.rfl
  · have hwrapper : OneLine "ClassVar[" ∧ OneLine "typing.ClassVar[" ∧ OneLine "]" := by
      simp [OneLine]
    rcases classVarType?_eq_some_iff.1 hinner with rfl | rfl <;> simp [hwrapper]

/-- An annotation is not one line exactly when an expression of the tree gives it that quotes a
string which is not. -/
theorem TypeOrigin.not_oneLine_iff (h : root.NamesOneLine source) {text : String}
    (horigin : TypeOrigin source root text) :
    ¬OneLine text ↔ ∃ expression ∈ root.nodes, Gives source expression text ∧
      ¬QuotesOneLine source expression := by
  constructor
  · intro hbroken
    rcases horigin with ⟨type, rfl⟩ | ⟨expression, hexpression, hgives⟩
    · cases type <;> exact absurd (by decide) hbroken
    · exact ⟨expression, hexpression, hgives, fun hquotes =>
        hbroken ((hgives.oneLine_iff h hexpression).2 hquotes)⟩
  · intro hquoted hline
    obtain ⟨expression, hexpression, hgives, hbroken⟩ := hquoted
    exact hbroken ((hgives.oneLine_iff h hexpression).1 hline)

theorem oneLine_of_mem_written {generate : GenerateSettings} {group : String × List String}
    (hgroup : group ∈ (extract settings source root).written generate) :
    OneLine group.1 ∧ AllOneLine group.2 := by
  constructor
  · rw [path_of_mem_written hgroup]
    simp [OneLine]
  · intro name hname
    obtain ⟨-, typing, rfl⟩ := exists_typing_of_mem_written hgroup hname
    cases typing <;> decide

end Extraction

/-- The names of what is extracted are one line each.  The stub is written one line for each thing
that it declares exactly when its annotations are one line each too, and the ones that are not come
from expressions that quote a string of several lines. -/
theorem split_render_iff (settings : ExtractSettings) {source : Source} {root : Node}
    (h : root.NamesOneLine source) :
    AllOneLine (extract settings source root).stub.nameTexts ∧
    (∀ text ∈ (extract settings source root).stub.typeTexts,
      ¬OneLine text ↔ ∃ expression ∈ root.nodes, Gives source expression text ∧
        ¬QuotesOneLine source expression) ∧
    ∀ generate : GenerateSettings,
      ((extract settings source root).lines generate).length =
        (extract settings source root).stub.lineCount
          ((extract settings source root).written generate) ∧
      (Text.split '\n' ((extract settings source root).render generate) =
          (extract settings source root).lines generate ++ [""] ↔
        AllOneLine (extract settings source root).stub.typeTexts) := by
  have htraced := traced_extract h settings
  refine ⟨htraced.names, ?_, ?_⟩
  · intro text htext
    exact (htraced.types text htext).not_oneLine_iff h
  · intro generate
    have hwritten : ∀ group ∈ (extract settings source root).written generate,
        OneLine group.1 ∧ AllOneLine group.2 := fun _ hgroup => oneLine_of_mem_written hgroup
    refine ⟨ModuleStub.length_lines _ _, ?_⟩
    rw [Extraction.render_eq_joinLines, split_joinLines_iff]
    exact (ModuleStub.allOneLine_lines_iff hwritten).trans (and_iff_right htraced.names)

/-- The string of a type that goes on for three lines. -/
def quotedType : Node :=
  .inner .string none 3 14 [
    .inner .stringStart none 3 6 [],
    .inner (.other "string_content") none 6 11 [],
    .inner .stringEnd none 11 14 []]

/-- The annotation of a variable with it. -/
def quotedModule : Node :=
  .inner (.other "module") none 0 15 [
    .inner .expressionStatement none 0 14 [
      .inner .assignment none 0 14 [
        .inner .identifier (some .left) 0 1 [],
        .token ":" 1 2,
        .inner .type (some .type) 3 14 [quotedType]]]]

def quotedSource : Source :=
  .ofText "quoted.py" "x: \"\"\"\nint\n\"\"\"\n"

/-- One attribute, written on three lines. -/
theorem quotedModule_not_oneLine :
    quotedSource.check quotedModule = .ok () ∧
    quotedModule.NamesOneLine quotedSource ∧
    (extract {} quotedSource quotedModule).stub.content = [.attribute ⟨"x", "\nint\n"⟩] ∧
    (extract {} quotedSource quotedModule).lines {} = ["x: \nint\n"] ∧
    Text.split '\n' ((extract {} quotedSource quotedModule).render {}) ≠
      (extract {} quotedSource quotedModule).lines {} ++ [""] := by
  have hnames : quotedModule.NamesOneLine quotedSource :=
    ⟨by decide +kernel, by decide +kernel⟩
  have hcontent : (extract {} quotedSource quotedModule).stub.content =
      [.attribute ⟨"x", "\nint\n"⟩] := by decide +kernel
  refine ⟨rfl, hnames, hcontent, by decide +kernel, ?_⟩
  obtain ⟨-, -, hlines⟩ := split_render_iff {} hnames
  intro hsplit
  have htypes := (hlines {}).2.1 hsplit
  rw [ModuleStub.typeTexts, hcontent] at htypes
  exact absurd (htypes "\nint\n" (.head _)) (by decide)

end InterfaceStub
