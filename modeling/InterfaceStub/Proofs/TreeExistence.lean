import InterfaceStub.Proofs.SyntaxShape

/-!
# Every canonical module has a tree

The relations of `SyntaxShape` say which trees a stub may have.  This module builds one for every
canonical stub, so that what is proved of all of them is not proved of none.

The lemmas follow the grammar from expressions up to modules.  Each says that after any text there
is a node in the place asked for; a row of items is built by `exists_row`.  `Node.Stands` carries
along what the node around has to know of it.
-/

namespace InterfaceStub

open Syntax

/-! ## Building nodes -/

namespace Syntax.Node

/-- A named node. -/
def inner (kind : Kind) (field : Option Field) (start stop : Nat) (children : List Node) : Node :=
  mk { kind, named := true, field, start, stop } children

/-- A token. -/
def token (text : String) (start stop : Nat) : Node :=
  mk { kind := .other text, start, stop } []

/-- A node that covers a text. -/
def leaf (kind : Kind) (field : Option Field) (before text : String) : Node :=
  inner kind field (Text.byteLength before.toList) (Text.byteLength (before ++ text).toList) []

/-- A node that carries meaning and plays a given part: neither a comment nor the mark of an
asynchronous function. -/
def Stands (field : Option Field) (node : Node) : Prop :=
  node.isPart ∧ node.field = field ∧ node.kind ∉ [.comment, .asyncMark]

@[simp] theorem kind_inner (kind : Kind) (field : Option Field) (start stop : Nat)
    (children : List Node) : (inner kind field start stop children).kind = kind := rfl

@[simp] theorem children_inner (kind : Kind) (field : Option Field) (start stop : Nat)
    (children : List Node) : (inner kind field start stop children).children = children := rfl

theorem stands_inner {kind : Kind} (hkind : kind ∉ [.comment, .asyncMark]) (field : Option Field)
    (start stop : Nat) (children : List Node) :
    (inner kind field start stop children).Stands field :=
  ⟨rfl, rfl, hkind⟩

theorem unwrapped_inner {kind : Kind} (hkind : kind.isWrapper = false) (field : Option Field)
    (start stop : Nat) (children : List Node) :
    (inner kind field start stop children).unwrapped = inner kind field start stop children := by
  rw [unwrapped, kind_inner, hkind]
  rfl

theorem covers_leaf (kind : Kind) (field : Option Field) (before text : String) :
    (leaf kind field before text).Covers before text :=
  ⟨rfl, rfl⟩

theorem parts_inner {nodes : List Node} (h : ∀ node ∈ nodes, ∃ field, node.Stands field)
    (kind : Kind) (field : Option Field) (start stop : Nat) :
    (inner kind field start stop nodes).parts = nodes :=
  List.filter_eq_self.2 fun node hnode => by
    obtain ⟨_, hstands⟩ := h node hnode
    exact hstands.1

theorem uncommented_inner {nodes : List Node} (h : ∀ node ∈ nodes, ∃ field, node.Stands field)
    (kind : Kind) (field : Option Field) (start stop : Nat) :
    (inner kind field start stop nodes).Uncommented := by
  intro node hnode
  obtain ⟨_, hpart, -, hkind⟩ := h node hnode
  simp only [isPart, Bool.and_eq_true, Bool.not_eq_true'] at hpart
  exact ⟨hpart.2, fun heq => hkind (heq ▸ List.mem_cons_self)⟩

theorem filter_field {nodes : List Node} {field : Field}
    (h : ∀ node ∈ nodes, node.Stands (some field)) (other : Field) :
    nodes.filter (·.field == some other) = if field = other then nodes else [] := by
  split
  · rename_i heq
    exact List.filter_eq_self.2 fun node hnode => by simp [(h node hnode).2.1, heq]
  · rename_i hne
    exact List.filter_eq_nil_iff.2 fun node hnode => by simp [(h node hnode).2.1, hne]

end Syntax.Node

/-- Where every item has a tree anywhere, a row of items has one. -/
theorem exists_row {tree : String → α → Node → Prop} {good : Node → Prop} {items : List α}
    (h : ∀ item ∈ items, ∀ before, ∃ node, good node ∧ tree before item node) (text : α → String)
    (between before : String) :
    ∃ nodes, (∀ node ∈ nodes, good node) ∧ RowAt tree text between before items nodes := by
  induction items generalizing before with
  | nil => exact ⟨[], by simp, rowAt_nil _ _ _ _⟩
  | cons item items ih =>
    rw [List.forall_mem_cons] at h
    obtain ⟨node, hgood, hnode⟩ := h.1 before
    obtain ⟨nodes, hgoods, hnodes⟩ := ih h.2 (before ++ text item ++ between)
    exact ⟨node :: nodes, by simpa using ⟨hgood, hgoods⟩, rowAt_cons hnode hnodes⟩

/-! ## Expressions -/

theorem exists_pathAt {path : String} (h : IsDotted path) (before : String)
    (field : Option Field) :
    ∃ node : Node, node.Stands field ∧ PathAt before path node ∧
      node.unwrapped.kind ∈ [.identifier, .keywordIdentifier, .attribute, .subscript] := by
  induction h generalizing field with
  | @name name hname =>
    let node := Node.leaf .identifier field before name
    have hself : node.unwrapped = node := Node.unwrapped_inner rfl _ _ _ _
    refine ⟨node, Node.stands_inner (by decide) _ _ _ _, .name ?_ ?_, ?_⟩
    · rw [hself]
      rfl
    · rw [hself]
      exact Node.covers_leaf _ _ _ _
    · rw [hself]
      exact .head _
  | @child parent member hparent hmember ih =>
    obtain ⟨object, hobject, hpath, -⟩ := ih (some .object)
    let last := Node.leaf .identifier (some .attribute) (before ++ parent ++ ".") member
    let node := Node.inner .attribute field 0 0 [object, last]
    have hself : node.unwrapped = node := Node.unwrapped_inner rfl _ _ _ _
    have hlast : last.field = some .attribute := rfl
    have hcovers : last.Covers (before ++ parent ++ ".") member := Node.covers_leaf _ _ _ _
    have hchildren : node.children = [object, last] := rfl
    have hkind : node.kind = .attribute := rfl
    refine ⟨node, Node.stands_inner (by decide) _ _ _ _,
      .member ?_ ?_ hpath ?_ hcovers, ?_⟩
    · rw [hself]
      rfl
    · simp [hself, Node.child?, Node.childrenAt, hchildren, hobject.2.1]
    · simp [hself, Node.child?, Node.childrenAt, hchildren, hobject.2.1, hlast, last]
    · simp [hself, hkind]

/-- A path with arguments in brackets, as a subscript. -/
theorem exists_subscript {base : String} (hbase : IsDotted base)
    (item : String → String → Node → Prop)
    {arguments : List String} (before : String) (field : Option Field)
    (harguments : ∀ argument ∈ arguments, ∀ before, ∃ node : Node,
      node.Stands (some .subscript) ∧ item before argument node) :
    ∃ node value : Node, node.Stands field ∧ node.unwrapped.kind = .subscript ∧
      node.unwrapped.child? .value = some value ∧ PathAt before base value ∧
      RowAt item id ", " (before ++ base ++ "[") arguments
        (node.unwrapped.childrenAt .subscript) := by
  obtain ⟨value, hvalue, hpath, -⟩ := exists_pathAt hbase before (some .value)
  obtain ⟨nodes, hnodes, hrow⟩ := exists_row harguments id ", " (before ++ base ++ "[")
  let node := Node.inner .subscript field 0 0 (value :: nodes)
  have hself : node.unwrapped = node := Node.unwrapped_inner rfl _ _ _ _
  have hchildren : node.children = value :: nodes := rfl
  refine ⟨node, value, Node.stands_inner (by decide) _ _ _ _, ?_, ?_, hpath, ?_⟩
  · rw [hself]
    rfl
  · simp [hself, Node.child?, Node.childrenAt, hchildren, hvalue.2.1]
  · simpa [hself, Node.childrenAt, hchildren, hvalue.2.1, Node.filter_field hnodes] using hrow

theorem exists_typeAt {text : String} (h : IsType text) (before : String) (field : Option Field) :
    ∃ node : Node, node.Stands field ∧ TypeAt before text node := by
  induction h generalizing before field with
  | noneType =>
    refine ⟨.leaf .noneLiteral field before "None", Node.stands_inner (by decide) _ _ _ _,
      .noneType ?_⟩
    rw [Node.leaf, Node.unwrapped_inner rfl]
    rfl
  | ellipsis =>
    refine ⟨.leaf .ellipsis field before "...", Node.stands_inner (by decide) _ _ _ _, .ellipsis ?_⟩
    rw [Node.leaf, Node.unwrapped_inner rfl]
    rfl
  | path htext =>
    obtain ⟨node, hnode, hpath, -⟩ := exists_pathAt htext before field
    exact ⟨node, hnode, .path hpath⟩
  | applied hbase _ ih =>
    obtain ⟨node, value, hnode, hkind, hvalue, hpath, hrow⟩ := exists_subscript hbase TypeAt before
      field fun argument hargument before => ih argument hargument before (some .subscript)
    exact ⟨node, hnode, .subscript hkind hvalue hpath hrow.1 hrow.2⟩
  | @list items _ ih =>
    obtain ⟨nodes, hnodes, hrow⟩ := exists_row (fun item hitem before => ih item hitem before none)
      id ", " (before ++ "[")
    have hparts := Node.parts_inner (fun node hnode => ⟨_, hnodes node hnode⟩) .list field 0 0
    refine ⟨.inner .list field 0 0 nodes, Node.stands_inner (by decide) _ _ _ _, .list ?_ ?_ ?_⟩
    · rw [Node.unwrapped_inner rfl]
      rfl
    · rw [Node.unwrapped_inner rfl, hparts]
      exact hrow.1
    · rw [Node.unwrapped_inner rfl, hparts]
      exact hrow.2

theorem exists_baseAt {text : String} (h : IsBase text) (before : String) (field : Option Field) :
    ∃ node : Node, node.Stands field ∧ BaseAt before text node := by
  induction h generalizing before field with
  | path htext =>
    obtain ⟨node, hnode, hpath, -⟩ := exists_pathAt htext before field
    exact ⟨node, hnode, .path hpath⟩
  | @applied base inner hbase _ ih =>
    have hargument : ∀ argument ∈ [inner], ∀ before, ∃ node : Node,
        node.Stands (some .subscript) ∧ BaseAt before argument node := by
      simpa using fun before => ih before (some .subscript)
    obtain ⟨node, value, hnode, hkind, hvalue, hpath, hrow⟩ :=
      exists_subscript hbase BaseAt before field hargument
    obtain ⟨argument, hargument⟩ := List.length_eq_one_iff.1 hrow.1
    refine ⟨node, hnode, .applied hkind hvalue hpath hargument ?_⟩
    simpa [places, hargument] using hrow.2

theorem exists_aliasTarget {text : String} (h : IsAliasTarget text) (before : String)
    (field : Option Field) :
    ∃ node : Node, node.Stands field ∧ TypeAt before text node ∧
      node.unwrapped.kind ∈ [.identifier, .keywordIdentifier, .attribute, .subscript] := by
  cases h with
  | path htext =>
    obtain ⟨node, hnode, hpath, hkind⟩ := exists_pathAt htext before field
    exact ⟨node, hnode, .path hpath, hkind⟩
  | applied hbase harguments =>
    obtain ⟨node, value, hnode, hkind, hvalue, hpath, hrow⟩ := exists_subscript hbase TypeAt before
      field fun argument hargument before =>
        exists_typeAt (harguments argument hargument) before (some .subscript)
    exact ⟨node, hnode, .subscript hkind hvalue hpath hrow.1 hrow.2, by simp [hkind]⟩

/-! ## Functions -/

/-- The name of a parameter with none, one or two stars before it. -/
theorem exists_starredNameAt {stars : String} (hstars : stars ∈ ["", "*", "**"])
    (before name : String) (field : Option Field) :
    ∃ node : Node, node.Stands field ∧ StarredNameAt before stars name node := by
  have hsplat (kind : Kind) (hkind : kind ∉ [.comment, .asyncMark]) (stars : String) :
      ∃ node inner : Node, node.Stands field ∧ node.kind = kind ∧ node.firstPart? = some inner ∧
        inner.kind = .identifier ∧ inner.Covers (before ++ stars) name :=
    ⟨.inner kind field 0 0 [.leaf .identifier none (before ++ stars) name],
      .leaf .identifier none (before ++ stars) name, Node.stands_inner hkind _ _ _ _, rfl, rfl, rfl,
      Node.covers_leaf _ _ _ _⟩
  simp only [List.mem_cons, List.not_mem_nil, or_false] at hstars
  rcases hstars with rfl | rfl | rfl
  · exact ⟨.leaf .identifier field before name, Node.stands_inner (by decide) _ _ _ _,
      .plain rfl (Node.covers_leaf _ _ _ _)⟩
  · obtain ⟨node, inner, hnode, hkind, hpart, hinner, hname⟩ :=
      hsplat .listSplatPattern (by decide) "*"
    exact ⟨node, hnode, .star hkind hpart hinner hname⟩
  · obtain ⟨node, inner, hnode, hkind, hpart, hinner, hname⟩ :=
      hsplat .dictionarySplatPattern (by decide) "**"
    exact ⟨node, hnode, .doubleStar hkind hpart hinner hname⟩

/-- A parameter that a tree can show: only one without stars has a default. -/
theorem exists_parameterAt {parameter : Parameter} (h : parameter.WellFormed)
    (hdefault : ∀ argument ∈ parameter.argument, argument.hasDefault → parameter.stars = "")
    (before : String) (field : Option Field) :
    ∃ node : Node, node.Stands field ∧ ParameterAt before parameter node := by
  rcases parameter with ⟨stars, _ | ⟨name, annotation, hasDefault⟩⟩
  · rcases h.1 with ⟨hstars, -⟩ | ⟨-, hsome⟩
    · obtain rfl : stars = "*" := hstars
      exact ⟨.inner .keywordSeparator field 0 0 [], Node.stands_inner (by decide) _ _ _ _,
        .separator rfl⟩
    · simp at hsome
  · have hstars : stars ∈ ["", "*", "**"] := by
      rcases h.1 with ⟨-, hnone⟩ | ⟨hstars, -⟩
      · simp at hnone
      · exact hstars
    have hplain : hasDefault = true → stars = "" := hdefault _ rfl
    rcases annotation with _ | annotation <;> cases hasDefault
    · obtain ⟨node, hnode, hname⟩ := exists_starredNameAt hstars before name field
      exact ⟨node, hnode, .bare hname⟩
    · obtain rfl := hplain rfl
      exact ⟨.inner .defaultParameter field 0 0 [.leaf .identifier (some .name) before name,
          .leaf .ellipsis (some .value) before "..."], Node.stands_inner (by decide) _ _ _ _,
        .default rfl rfl rfl (Node.covers_leaf _ _ _ _) rfl rfl⟩
    · obtain ⟨inner, hinner, hname⟩ := exists_starredNameAt hstars before name none
      obtain ⟨type, htype, htypeAt⟩ := exists_typeAt ((h.2 _ rfl).2 annotation rfl)
        (before ++ (stars ++ name) ++ ": ") (some .type)
      refine ⟨.inner .typedParameter field 0 0 [inner, type], Node.stands_inner (by decide) _ _ _ _,
        .typed rfl ?_ hname ?_ htypeAt⟩
      · simp [Node.firstPart?, Node.parts, hinner.1]
      · simp [Node.child?, Node.childrenAt, hinner.2.1, htype.2.1]
    · obtain rfl := hplain rfl
      obtain ⟨type, htype, htypeAt⟩ := exists_typeAt ((h.2 _ rfl).2 annotation rfl)
        (before ++ name ++ ": ") (some .type)
      let inner := Node.leaf .identifier (some .name) before name
      let value := Node.leaf .ellipsis (some .value) before "..."
      have hinner : inner.field = some .name := rfl
      have hvalue : value.field = some .value := rfl
      refine ⟨.inner .typedDefaultParameter field 0 0 [inner, type, value],
        Node.stands_inner (by decide) _ _ _ _,
        .typedDefault rfl rfl rfl (Node.covers_leaf _ _ _ _) ?_ htypeAt ?_⟩
      · simp [Node.child?, Node.childrenAt, hinner, htype.2.1]
      · simp [Node.child?, Node.childrenAt, hinner, htype.2.1, hvalue]

theorem FunctionStub.exists_parameters {function : FunctionStub} (h : function.Canonical)
    (before : String) :
    ∃ nodes : List Node, (∀ node ∈ nodes, node.Stands none) ∧
      RowAt ParameterAt Parameter.text ", " before function.parameters nodes := by
  refine exists_row (fun parameter hparameter before => ?_) _ _ _
  refine exists_parameterAt (parameters_wellFormed h.wellFormed parameter hparameter) ?_ before none
  intro argument hargument hdefault
  simp only [FunctionStub.parameters, List.mem_append, List.mem_map] at hparameter
  rcases hparameter with ((⟨own, -, rfl⟩ | hstar) | ⟨own, -, rfl⟩) | ⟨own, hown, rfl⟩
  · rfl
  · split at hstar
    · obtain rfl := List.mem_singleton.1 hstar
      simp [h.varArg argument hargument] at hdefault
    · simp at hstar
  · rfl
  · obtain rfl := Option.some.inj hargument
    simp [h.kwArg own (Option.mem_toList.1 hown)] at hdefault

theorem exists_signatureAt {function : FunctionStub} (h : function.Canonical) (before : String)
    (field : Option Field) :
    ∃ node : Node, node.Stands field ∧ SignatureAt before function node := by
  obtain ⟨nodes, hnodes, hrow⟩ := function.exists_parameters h (before ++ function.opening)
  obtain ⟨returns, hreturns, hreturnsAt⟩ : ∃ returns : List Node,
      (∀ node ∈ returns, node.Stands (some .returnType)) ∧
      OptionalTypeAt (before ++ function.opening ++ function.parametersText ++ ") -> ")
        function.returns returns.head? := by
    cases hreturns : function.returns with
    | none => exact ⟨[], by simp, rfl⟩
    | some annotation =>
      obtain ⟨type, htype, htypeAt⟩ := exists_typeAt (h.wellFormed.returns annotation hreturns)
        (before ++ function.opening ++ function.parametersText ++ ") -> ") (some .returnType)
      exact ⟨[type], by simpa using htype, type, rfl, htypeAt⟩
  let name := Node.leaf .identifier (some .name) (before ++ "def ") function.name
  let parameters := Node.inner .parameters (some .parameters) 0 0 nodes
  let body := Node.inner .block (some .body) 0 0 []
  have hname : name.Stands (some .name) := Node.stands_inner (by decide) _ _ _ _
  have hparameters : parameters.Stands (some .parameters) := Node.stands_inner (by decide) _ _ _ _
  have hbody : body.Stands (some .body) := Node.stands_inner (by decide) _ _ _ _
  have hchildren : ∀ node ∈ name :: parameters :: body :: returns, ∃ field, node.Stands field := by
    simp only [List.forall_mem_cons]
    exact ⟨⟨_, hname⟩, ⟨_, hparameters⟩, ⟨_, hbody⟩, fun node hnode => ⟨_, hreturns node hnode⟩⟩
  refine ⟨.inner .functionDefinition field 0 0 (name :: parameters :: body :: returns),
    Node.stands_inner (by decide) _ _ _ _, ?_⟩
  have hfilter := Node.filter_field hreturns
  constructor
  · rfl
  · simp only [Node.isAsynchronous, Node.children_inner, List.any_eq_false]
    intro node hnode
    obtain ⟨_, -, -, hkind⟩ := hchildren node hnode
    simp_all
  · exact Node.uncommented_inner hchildren _ _ _ _
  · exact ⟨name, rfl, Node.covers_leaf _ _ _ _⟩
  · refine ⟨parameters, rfl,
      Node.uncommented_inner (fun node hnode => ⟨_, hnodes node hnode⟩) _ _ _ _, ?_⟩
    rw [Node.parts_inner fun node hnode => ⟨_, hnodes node hnode⟩]
    exact hrow
  · simpa [Node.child?, Node.childrenAt, hname.2.1, hparameters.2.1, hbody.2.1, hfilter]
      using hreturnsAt
  · intro other hother
    have heq : body = other := by
      simpa [Node.child?, Node.childrenAt, hname.2.1, hparameters.2.1, hbody.2.1] using hother
    rw [← heq]
    exact fun child hchild => by simp [body] at hchild

theorem exists_functionAt {function : FunctionStub} (h : function.Canonical)
    (margin before : String) :
    ∃ node : Node, node.Stands none ∧ FunctionAt margin before function node := by
  cases hdecorators : function.decorators with
  | nil =>
    obtain ⟨node, hnode, hat⟩ := exists_signatureAt h (before ++ margin) none
    exact ⟨node, hnode, .plain hdecorators hat⟩
  | cons decorator decorators =>
    have hdecorator : ∀ path ∈ function.decorators, ∀ before, ∃ node : Node,
        (node.Stands none ∧ node.kind = .decorator) ∧ DecoratorAt margin before path node := by
      intro path hpath before
      obtain ⟨expression, hexpression, hat, -⟩ :=
        exists_pathAt (h.wellFormed.decorators path hpath) (before ++ margin ++ "@") none
      refine ⟨.inner .decorator none 0 0 [expression], ⟨Node.stands_inner (by decide) _ _ _ _, rfl⟩,
        expression, ?_, hat⟩
      simp [Node.firstPart?, Node.parts, hexpression.1]
    obtain ⟨nodes, hnodes, hrow⟩ := exists_row hdecorator
      (fun path => margin ++ decoratorLine path ++ "\n") "" before
    obtain ⟨definition, hdefinition, hat⟩ := exists_signatureAt h
      (before ++ joinLines (function.decorators.map fun path => margin ++ decoratorLine path) ++
        margin) (some .definition)
    refine ⟨.inner .decoratedDefinition none 0 0 (definition :: nodes),
      Node.stands_inner (by decide) _ _ _ _, .decorated rfl ?_ ?_ hat⟩
    · have hparts : (Node.inner .decoratedDefinition none 0 0 (definition :: nodes)).parts =
          definition :: nodes := Node.parts_inner
        (by simpa using ⟨⟨_, hdefinition⟩, fun node hnode => ⟨_, (hnodes node hnode).1⟩⟩) _ _ _ _
      have hall : nodes.filter (·.kind == .decorator) = nodes :=
        List.filter_eq_self.2 fun node hnode => by simp [(hnodes node hnode).2]
      simpa [Node.decorators, hparts, hat.kind, hall] using hrow
    · simp [Node.child?, Node.childrenAt, hdefinition.2.1]

/-! ## Variables and classes -/

theorem exists_variableAt {type : String} (htype : IsType type) (before name : String) :
    ∃ node : Node, node.Stands none ∧ VariableAt before name type node := by
  obtain ⟨typeNode, hannotated, hat⟩ := exists_typeAt htype (before ++ name ++ ": ") (some .type)
  let target := Node.leaf .identifier (some .left) before name
  let assignment := Node.inner .assignment none 0 0 [target, typeNode]
  have htarget : target.field = some .left := rfl
  refine ⟨.inner .expressionStatement none 0 0 [assignment], Node.stands_inner (by decide) _ _ _ _,
    rfl, assignment, target, typeNode, rfl, rfl, rfl, rfl, Node.covers_leaf _ _ _ _, ?_, hat⟩
  simp [assignment, Node.child?, Node.childrenAt, htarget, hannotated.2.1]

theorem exists_aliasAt {target : String} (htarget : IsAliasTarget target) (before name : String) :
    ∃ node : Node, node.Stands none ∧ AliasAt before name target node := by
  obtain ⟨value, hvalue, hat, hkind⟩ :=
    exists_aliasTarget htarget (before ++ name ++ " = ") (some .right)
  let left := Node.leaf .identifier (some .left) before name
  let assignment := Node.inner .assignment none 0 0 [left, value]
  have hleft : left.field = some .left := rfl
  refine ⟨.inner .expressionStatement none 0 0 [assignment], Node.stands_inner (by decide) _ _ _ _,
    rfl, ?_, assignment, left, value, rfl, rfl, rfl, rfl, Node.covers_leaf _ _ _ _, ?_, ?_, hkind,
    hat⟩
  · refine Node.uncommented_inner (fun node hnode => ?_) _ _ _ _
    rw [List.mem_singleton.1 hnode]
    exact ⟨none, Node.stands_inner (by decide) _ _ _ _⟩
  · simp [assignment, Node.child?, Node.childrenAt, hleft, hvalue.2.1]
  · simp [assignment, Node.child?, Node.childrenAt, hleft, hvalue.2.1]

theorem ClassField.Canonical.writtenType {field : ClassField} (h : field.Canonical) :
    IsType field.writtenType := by
  have hname : Text.isIdentifier "ClassVar" := by decide +kernel
  cases hvar : field.classVar with
  | false => simpa [ClassField.writtenType, hvar] using h.annotation
  | true =>
    have htype : IsType ("ClassVar" ++ "[" ++ ", ".intercalate [field.annotation] ++ "]") :=
      .applied (.name hname) (by simpa using h.annotation)
    simpa [ClassField.writtenType, hvar] using htype

theorem exists_memberAt {member : ClassMember} (h : member.Canonical) (margin before : String) :
    ∃ node : Node, node.Stands none ∧ MemberAt margin before member node := by
  cases member with
  | field declared => exact exists_variableAt h.writtenType (before ++ margin) declared.name
  | method declared => exact exists_functionAt h margin before

theorem exists_classAt {cls : ClassStub} (h : cls.Canonical) (before : String) :
    ∃ node : Node, node.Stands none ∧ ClassAt before cls node := by
  obtain ⟨bases, hbases, hbasesRow⟩ := exists_row (fun base hbase before =>
    exists_baseAt (h.bases base hbase) before none) id ", " (before ++ "class " ++ cls.name ++ "(")
  obtain ⟨members, hmembers, hmembersRow⟩ := exists_row (fun member hmember before =>
    exists_memberAt (h.body member hmember) "    " before) ClassMember.text ""
    (before ++ cls.header ++ "\n")
  let name := Node.leaf .identifier (some .name) (before ++ "class ") cls.name
  let arguments := Node.inner (.other "argument_list") (some .superclasses) 0 0 bases
  let ellipsis := Node.inner .expressionStatement none 0 0 [.inner .ellipsis none 0 0 []]
  let block := Node.inner .block (some .body) 0 0 (if cls.body = [] then [ellipsis] else members)
  have hname : name.field = some .name := rfl
  have harguments : arguments.field = some .superclasses := rfl
  have hblock : block.field = some .body := rfl
  have hstatements : ∀ node ∈ if cls.body = [] then [ellipsis] else members,
      ∃ field, node.Stands field := by
    split
    · intro node hnode
      rw [List.mem_singleton.1 hnode]
      exact ⟨none, Node.stands_inner (by decide) _ _ _ _⟩
    · exact fun node hnode => ⟨_, hmembers node hnode⟩
  refine ⟨.inner .classDefinition none 0 0
      (name :: block :: if cls.bases = [] then [] else [arguments]),
    Node.stands_inner (by decide) _ _ _ _, rfl, ⟨name, rfl, Node.covers_leaf _ _ _ _⟩, ?_, ?_⟩
  · by_cases hnone : cls.bases = []
    · refine .inl ⟨hnone, ?_⟩
      simp [Node.child?, Node.childrenAt, hnone, hname, hblock]
    · refine .inr ⟨hnone, arguments, ?_, ?_⟩
      · simp [Node.child?, Node.childrenAt, hnone, hname, hblock, harguments]
      · rw [Node.parts_inner fun node hnode => ⟨_, hbases node hnode⟩]
        exact hbasesRow
  · refine ⟨block, ?_, Node.uncommented_inner hstatements _ _ _ _, ?_⟩
    · simp [Node.child?, Node.childrenAt, hname, hblock]
    · rw [Node.parts_inner hstatements]
      by_cases hnone : cls.body = []
      · refine .inl ⟨hnone, ellipsis, if_pos hnone, rfl, _, rfl, ?_⟩
        rw [Node.unwrapped_inner rfl]
        rfl
      · rw [if_neg hnone]
        exact .inr ⟨hnone, hmembersRow⟩

theorem exists_declarationAt {declared : Declaration} (h : declared.Canonical) (before : String) :
    ∃ node : Node, node.Stands none ∧ DeclarationAt before declared node := by
  match declared with
  | .attribute declared => exact exists_variableAt h.2 before declared.name
  | .typeAlias declared => exact exists_aliasAt h.2 before declared.name
  | .function declared => exact exists_functionAt h "" before
  | .classStub declared => exact exists_classAt h before

/-! ## Imports -/

theorem IsDotted.exists_segments {path : String} (h : IsDotted path) :
    ∃ segments, segments ≠ [] ∧ path = ".".intercalate segments := by
  induction h with
  | @name name _ => exact ⟨[name], by simp, by simp⟩
  | @child _ member _ _ ih =>
    obtain ⟨segments, hne, rfl⟩ := ih
    refine ⟨segments ++ [member], by simp, ?_⟩
    rw [String.intercalate_append_of_ne_nil hne (by simp), String.intercalate_singleton,
      DottedName.child]

theorem exists_dottedNameAt {path : String} (h : IsDotted path) (before : String)
    (field : Option Field) :
    ∃ node : Node, node.Stands field ∧ DottedNameAt before path node := by
  obtain ⟨segments, -, rfl⟩ := h.exists_segments
  have hsegment : ∀ segment ∈ segments, ∀ before, ∃ node : Node,
      node.Stands none ∧ node.Covers before segment :=
    fun segment _ before => ⟨.leaf .identifier none before segment,
      Node.stands_inner (by decide) _ _ _ _, Node.covers_leaf _ _ _ _⟩
  obtain ⟨nodes, hnodes, hrow⟩ := exists_row hsegment id "." before
  refine ⟨.inner .dottedName field 0 0 nodes, Node.stands_inner (by decide) _ _ _ _, rfl, segments,
    rfl, ?_⟩
  rw [Node.parts_inner fun node hnode => ⟨_, hnodes node hnode⟩]
  exact hrow

theorem exists_importedNameAt (imported : ImportedName) (h : IsDotted imported.name)
    (before : String) :
    ∃ node : Node, (node.Stands (some .name) ∧ node.kind ≠ .wildcardImport) ∧
      ImportedNameAt before imported node := by
  rcases imported with ⟨name, _ | localName⟩
  · obtain ⟨node, hnode, hat⟩ := exists_dottedNameAt h before (some .name)
    exact ⟨node, ⟨hnode, by simp [hat.1]⟩, hat⟩
  · obtain ⟨path, hpath, hat⟩ := exists_dottedNameAt h before (some .name)
    let bound := Node.leaf .identifier (some .localName) (before ++ name ++ " as ") localName
    have hbound : bound.field = some .localName := rfl
    refine ⟨.inner .aliasedImport (some .name) 0 0 [path, bound],
      ⟨Node.stands_inner (by decide) _ _ _ _, by simp⟩, rfl, ⟨path, ?_, hat⟩, bound, ?_,
      Node.covers_leaf _ _ _ _⟩
    · simp [Node.child?, Node.childrenAt, hpath.2.1]
    · simp [Node.child?, Node.childrenAt, hpath.2.1, hbound]

theorem exists_importAt {statement : Import} (h : statement.WellFormed) (before : String) :
    ∃ node : Node, node.Stands none ∧ ImportAt before statement node := by
  obtain ⟨item, ⟨hitem, -⟩, hat⟩ := exists_importedNameAt
    ⟨statement.name, statement.localName⟩ h.1 (before ++ "import ")
  refine ⟨.inner .importStatement none 0 0 [item], Node.stands_inner (by decide) _ _ _ _, rfl, item,
    ?_, hat⟩
  simp [Node.childrenAt, hitem.2.1]

theorem exists_modulePath {statement : ImportFrom} (h : statement.Canonical) (before : String) :
    ∃ node : Node, (node.Stands (some .moduleName) ∧ node.kind ≠ .wildcardImport) ∧
      (statement.level = 0 ∧ DottedNameAt before statement.path node ∨
        statement.level ≠ 0 ∧ RelativePathAt before statement.dots statement.path node) := by
  by_cases hlevel : statement.level = 0
  · rcases h.path with hpath | ⟨-, hpositive⟩
    · obtain ⟨node, hnode, hat⟩ := exists_dottedNameAt hpath before (some .moduleName)
      exact ⟨node, ⟨hnode, by simp [hat.1]⟩, .inl ⟨hlevel, hat⟩⟩
    · exact absurd hlevel hpositive
  · let leading := Node.leaf .importPrefix none before statement.dots
    rcases h.path with hpath | ⟨hempty, -⟩
    · obtain ⟨last, hlast, hat⟩ := exists_dottedNameAt hpath (before ++ statement.dots) none
      refine ⟨.inner .relativeImport (some .moduleName) 0 0 [leading, last],
        ⟨Node.stands_inner (by decide) _ _ _ _, by simp⟩, .inr ⟨hlevel, rfl, leading, [last], ?_,
          rfl, Node.covers_leaf _ _ _ _, .inr ⟨last, rfl, hat⟩⟩⟩
      refine Node.parts_inner (fun node hnode => ⟨none, ?_⟩) _ _ _ _
      simp only [List.mem_cons, List.not_mem_nil, or_false] at hnode
      rcases hnode with rfl | rfl
      · exact Node.stands_inner (by decide) _ _ _ _
      · exact hlast
    · exact ⟨.inner .relativeImport (some .moduleName) 0 0 [leading],
        ⟨Node.stands_inner (by decide) _ _ _ _, by simp⟩, .inr ⟨hlevel, rfl, leading, [], rfl, rfl,
          Node.covers_leaf _ _ _ _, .inl ⟨hempty, rfl⟩⟩⟩

theorem exists_importFromAt {statement : ImportFrom} (h : statement.Canonical) (before : String) :
    ∃ node : Node, node.Stands none ∧ ImportFromAt before statement node := by
  obtain ⟨path, ⟨hpath, hkind⟩, hat⟩ := exists_modulePath h (before ++ "from ")
  rcases h.names with hstar | ⟨-, hnames⟩
  · let all := Node.inner .wildcardImport none 0 0 []
    have hall : all.Stands none := Node.stands_inner (by decide) _ _ _ _
    refine ⟨.inner .importFromStatement none 0 0 [path, all], Node.stands_inner (by decide) _ _ _ _,
      .inr ⟨rfl, path, ?_, hat⟩, .inl ⟨hstar, ?_, all, ?_, rfl⟩⟩
    · simp [Node.child?, Node.childrenAt, hpath.2.1]
    · simp [Node.childrenAt, hpath.2.1, hall.2.1]
    · simp [Node.parts, hpath.1, hall.1]
  · obtain ⟨nodes, hnodes, hrow⟩ := exists_row (fun imported himported before =>
      exists_importedNameAt imported (.name (hnames imported himported).1) before)
      ImportedName.text ", " (before ++ "from " ++ statement.dots ++ statement.path ++ " import ")
    have hfields := Node.filter_field fun node hnode => (hnodes node hnode).1
    refine ⟨.inner .importFromStatement none 0 0 (path :: nodes),
      Node.stands_inner (by decide) _ _ _ _, .inr ⟨rfl, path, ?_, hat⟩, .inr ⟨?_, ?_⟩⟩
    · simp [Node.child?, Node.childrenAt, hpath.2.1]
    · intro part hpart
      rcases List.mem_cons.1 (Node.mem_children_of_mem_parts hpart) with rfl | hpart
      · exact hkind
      · exact (hnodes part hpart).2
    · simpa [Node.childrenAt, hpath.2.1, hfields] using hrow

/-! ## Modules -/

/-- Every canonical module has a tree. -/
theorem exists_moduleAt {stub : ModuleStub} (h : stub.Canonical) : ∃ root, ModuleAt stub root := by
  obtain ⟨imports, himports, himportsRow⟩ := exists_row (fun statement hstatement before =>
    exists_importAt (h.imports statement hstatement) before)
    (fun statement => statement.line ++ "\n") "" ""
  obtain ⟨importFroms, himportFroms, himportFromsRow⟩ := exists_row
    (fun statement hstatement before =>
      exists_importFromAt (h.importFroms statement hstatement) before)
    (fun statement => statement.line ++ "\n") "" (joinLines (stub.imports.map Import.line))
  obtain ⟨content, hcontent, hcontentRow⟩ := exists_row (fun declared hdeclared before =>
    exists_declarationAt (h.content declared hdeclared) before)
    (fun declared => joinLines declared.lines) "" stub.importText
  have hnodes : ∀ node ∈ imports ++ importFroms ++ content, ∃ field, node.Stands field := by
    intro node hnode
    simp only [List.mem_append] at hnode
    rcases hnode with (hnode | hnode) | hnode
    · exact ⟨_, himports node hnode⟩
    · exact ⟨_, himportFroms node hnode⟩
    · exact ⟨_, hcontent node hnode⟩
  exact ⟨.inner (.other "module") none 0 0 (imports ++ importFroms ++ content),
    Node.uncommented_inner hnodes _ _ _ _, imports, importFroms, content,
    Node.parts_inner hnodes _ _ _ _, himportsRow, himportFromsRow, hcontentRow⟩

end InterfaceStub
