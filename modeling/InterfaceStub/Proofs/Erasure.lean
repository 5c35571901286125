import InterfaceStub.Extraction.BaseClass
import InterfaceStub.Proofs.TypeTexts

/-!
# Trees without the parts that a stub does not show

A stub shows no bodies of functions, no default values, no values of annotated variables, none of
variables of a class, and nothing of how exceptions are handled.  `Node.erased` is a tree without
the nodes below these parts.  The parts themselves stay: a default value is still there, but there
is nothing below it.

* What is kept.  `Keeping` says what is kept of a node, and `Keeping.below` what is kept of a child
  of it.  Labels never change, and a node that is kept as a whole keeps all its children.
* Expressions.  What is read of an expression is the same in the erased tree: `unwrapped_kept`,
  `shapeOf_kept`, and one lemma for each function that reads an expression.
-/

namespace InterfaceStub

open Syntax

namespace Syntax

/-! ## What is kept -/

/-- Whether a statement stands in a module or in the body of a class. -/
inductive Scope where
  | module
  | classBody
  deriving DecidableEq

/-- What is kept of a node. -/
inductive Keeping where
  /-- All children, each without what is not shown of it. -/
  | all (scope : Scope)
  /-- A parameter with a default, without what is below the default. -/
  | defaulted (scope : Scope)
  /-- An assignment that is a statement, without what is below a value that is not shown. -/
  | assigned (scope : Scope)
  /-- A later assignment of a chain in a class, without what is below the value of the chain. -/
  | link
  /-- The comments in front. -/
  | lead
  /-- Nothing below the node. -/
  | bare
  deriving DecidableEq

namespace Label

/-- Whether a node is the block of statements of a definition. -/
def isBody (label : Label) : Bool :=
  label.field == some .body && label.kind == .block

/-- Whether a node handles exceptions. -/
def isHandler (label : Label) : Bool :=
  (label.kind == .other "except_clause" || label.kind == .other "except_group_clause") &&
    label.field != some .body

end Label

/-- What is kept of a child of a node of this kind that is kept with all its children. -/
def keepingIn (scope : Scope) (parent : Kind) (child : Label) : Keeping :=
  match parent with
  | .functionDefinition => if child.isBody then .lead else .all scope
  | .classDefinition => if child.isBody then .all .classBody else .all scope
  | .parameters | .lambdaParameters =>
    if child.kind == .defaultParameter || child.kind == .typedDefaultParameter then
      .defaulted scope
    else .all scope
  | .expressionStatement => if child.kind == .assignment then .assigned scope else .all scope
  | .tryStatement => if child.isHandler then .bare else .all scope
  | _ => .all scope

/-- What is kept of the value in an assignment of a chain in a class. -/
def keepingOfValue (value : Label) : Keeping :=
  if value.kind == .assignment then .link else .bare

/-- What is kept of a child, when `parent` is the kind of the node and `annotated` says whether the
node has an annotation. -/
def Keeping.below (keeping : Keeping) (parent : Kind) (annotated : Bool) (child : Label) :
    Keeping :=
  match keeping with
  | .all scope => keepingIn scope parent child
  | .defaulted scope => if child.field == some .value then .bare else .all scope
  | .assigned scope =>
    if child.field == some .right then
      if annotated then .bare
      else if scope = .classBody then keepingOfValue child
      else .all scope
    else .all scope
  | .link => if child.field == some .right then keepingOfValue child else .all .classBody
  | .lead | .bare => .bare

namespace Node

mutual
/-- What is kept of a tree. -/
def kept (keeping : Keeping) : Node → Node
  | mk label children =>
    match keeping with
    | .bare => mk label []
    | .lead => mk label (children.takeWhile (·.label.extra))
    | keeping =>
      let annotated := children.any (·.field == some .type)
      mk label (keptAmong (keeping.below label.kind annotated) children)

/-- What is kept of some trees. -/
def keptAmong (keeping : Label → Keeping) : List Node → List Node
  | [] => []
  | node :: nodes => kept (keeping node.label) node :: keptAmong keeping nodes
end

/-- A tree without what a stub does not show: what is below the body of a function apart from the
comments that lead it, below the default of a parameter, below the value of an annotated assignment
and of one in a class, and below the clauses that handle exceptions. -/
def erased (root : Node) : Node :=
  root.kept (.all .module)

/-! ### Labels and children -/

@[simp] theorem label_kept (keeping : Keeping) (node : Node) :
    (node.kept keeping).label = node.label := by
  cases node with
  | mk label children => cases keeping <;> rfl

@[simp] theorem kind_kept (keeping : Keeping) (node : Node) :
    (node.kept keeping).kind = node.kind :=
  congrArg Label.kind (label_kept keeping node)

@[simp] theorem field_kept (keeping : Keeping) (node : Node) :
    (node.kept keeping).field = node.field :=
  congrArg Label.field (label_kept keeping node)

@[simp] theorem isPart_kept (keeping : Keeping) (node : Node) :
    (node.kept keeping).isPart = node.isPart := by
  simp [isPart]

theorem keptAmong_eq_map (keeping : Label → Keeping) (nodes : List Node) :
    keptAmong keeping nodes = nodes.map fun node => node.kept (keeping node.label) := by
  induction nodes with
  | nil => rfl
  | cons node nodes ih => rw [keptAmong, ih, List.map_cons]

/-- Unless nothing or only the comments in front are kept, all children are. -/
theorem children_kept {keeping : Keeping} (h : keeping ≠ .bare ∧ keeping ≠ .lead) (node : Node) :
    (node.kept keeping).children = node.children.map fun child =>
      child.kept (keeping.below node.kind (node.children.any (·.field == some .type))
        child.label) := by
  cases node with
  | mk label children =>
    rw [← keptAmong_eq_map]
    cases keeping with
    | bare => exact absurd rfl h.1
    | lead => exact absurd rfl h.2
    | _ => rfl

theorem children_kept_all (scope : Scope) (node : Node) :
    (node.kept (.all scope)).children = node.children.map fun child =>
      child.kept (keepingIn scope node.kind child.label) :=
  children_kept (by simp) node

section

variable {node other : Node} {keep : Node → Node}

theorem childrenAt_of_map (hchildren : other.children = node.children.map keep)
    (hlabel : ∀ child, (keep child).label = child.label) (field : Field) :
    other.childrenAt field = (node.childrenAt field).map keep := by
  have hfield (child : Node) : (keep child).field = child.field :=
    congrArg Label.field (hlabel child)
  rw [childrenAt, hchildren, List.filter_map]
  simp [Function.comp_def, hfield, childrenAt]

theorem child?_of_map (hchildren : other.children = node.children.map keep)
    (hlabel : ∀ child, (keep child).label = child.label) (field : Field) :
    other.child? field = (node.child? field).map keep := by
  rw [child?, childrenAt_of_map hchildren hlabel, List.head?_map, child?]

theorem parts_of_map (hchildren : other.children = node.children.map keep)
    (hlabel : ∀ child, (keep child).label = child.label) :
    other.parts = node.parts.map keep := by
  have hpart (child : Node) : (keep child).isPart = child.isPart := by simp [isPart, hlabel]
  rw [parts, hchildren, List.filter_map]
  simp [Function.comp_def, hpart, parts]

end

end Node

/-- Whether the children of a node of this kind are all kept in the way in which the node is. -/
def Kind.isUniform : Kind → Bool
  | .functionDefinition | .classDefinition | .parameters | .lambdaParameters
  | .expressionStatement | .tryStatement => false
  | _ => true

theorem keepingIn_of_isUniform {parent : Kind} (h : parent.isUniform) (scope : Scope)
    (child : Label) : keepingIn scope parent child = .all scope := by
  unfold keepingIn
  split <;> first | rfl | cases h

namespace Node

variable {node : Node} (h : node.kind.isUniform) (scope : Scope)

include h

theorem children_of_isUniform :
    (node.kept (.all scope)).children = node.children.map (kept (.all scope)) := by
  simp only [children_kept_all, keepingIn_of_isUniform h]

theorem childrenAt_kept (field : Field) :
    (node.kept (.all scope)).childrenAt field = (node.childrenAt field).map (kept (.all scope)) :=
  childrenAt_of_map (children_of_isUniform h scope) (label_kept _) field

theorem child?_kept (field : Field) :
    (node.kept (.all scope)).child? field = (node.child? field).map (kept (.all scope)) :=
  child?_of_map (children_of_isUniform h scope) (label_kept _) field

theorem parts_kept :
    (node.kept (.all scope)).parts = node.parts.map (kept (.all scope)) :=
  parts_of_map (children_of_isUniform h scope) (label_kept _)

theorem firstPart?_kept :
    (node.kept (.all scope)).firstPart? = node.firstPart?.map (kept (.all scope)) := by
  rw [firstPart?, parts_kept h, List.head?_map, firstPart?]

end Node

namespace Source

@[simp] theorem text_kept (source : Source) (keeping : Keeping) (node : Node) :
    source.text (node.kept keeping) = source.text node := by
  simp [text]

@[simp] theorem line_kept (source : Source) (keeping : Keeping) (node : Node) :
    source.line (node.kept keeping) = source.line node := by
  simp [line, firstRow]

end Source

/-! ## Expressions -/

theorem Kind.isUniform_of_isWrapper {kind : Kind} (h : kind.isWrapper) : kind.isUniform := by
  cases kind <;> first | rfl | cases h

theorem Node.unwrapped_kept (scope : Scope) (node : Node) :
    (node.kept (.all scope)).unwrapped = node.unwrapped.kept (.all scope) := by
  fun_induction Node.unwrapped node with
  | case1 node hwrapper inner hinner ih =>
    have hfirst := Node.firstPart?_kept (Kind.isUniform_of_isWrapper hwrapper) scope
    rw [hinner] at hfirst
    rw [Node.unwrapped, Node.kind_kept, if_pos hwrapper]
    split
    · rename_i other hother
      cases hfirst.symm.trans hother
      exact ih
    · rename_i hnone
      cases hfirst.symm.trans hnone
  | case2 node hwrapper hinner =>
    have hfirst := Node.firstPart?_kept (Kind.isUniform_of_isWrapper hwrapper) scope
    rw [hinner] at hfirst
    rw [Node.unwrapped, Node.kind_kept, if_pos hwrapper]
    split
    · rename_i other hother
      cases hfirst.symm.trans hother
    · rfl
  | case3 node hwrapper => rw [Node.unwrapped, Node.kind_kept, if_neg hwrapper]

namespace Source

variable (source : Source) (scope : Scope)

theorem hasReplacements_kept (string : Node) :
    source.hasReplacements (string.kept (.all scope)) = source.hasReplacements string := by
  simp [hasReplacements, Node.children_kept_all, Function.comp_def]

theorem ownShape_kept (node : Node) :
    source.ownShape (node.kept (.all scope)) = source.ownShape node := by
  unfold ownShape
  rw [Node.kind_kept]
  split
  case h_7 => rw [hasReplacements_kept]
  case h_8 hkind =>
    rw [Node.parts_kept (by rw [hkind]; rfl)]
    simp [Function.comp_def, hasReplacements_kept]
  all_goals rfl

theorem shapeOf_kept (node : Node) :
    source.shapeOf (node.kept (.all scope)) = source.shapeOf node := by
  rw [shapeOf, Node.unwrapped_kept, ownShape_kept, shapeOf]

/-- The node that opens a string has the same label. -/
theorem stringOpening?_kept (string : Node) :
    ∃ keeping : Node → Keeping, (string.kept (.all scope)).stringOpening? =
      string.stringOpening?.map fun node => node.kept (keeping node) := by
  have hfirst (node : Node) : (node.kept (.all scope)).firstPart? = node.firstPart?.map
      fun child => child.kept (keepingIn scope node.kind child.label) := by
    rw [Node.firstPart?, Node.parts_of_map (Node.children_kept_all scope node) (by simp),
      List.head?_map, Node.firstPart?]
  have hfilter (keeping : Node → Keeping) (opening : Option Node) :
      (opening.map fun node => node.kept (keeping node)).filter (·.kind == .stringStart) =
        (opening.filter (·.kind == .stringStart)).map fun node => node.kept (keeping node) := by
    cases opening with
    | none => rfl
    | some node => by_cases hkind : node.kind = .stringStart <;> simp [Option.filter, hkind]
  unfold Node.stringOpening?
  rw [Node.kind_kept]
  split
  · rename_i hkind
    rw [Node.firstPart?_kept (by rw [hkind]; rfl)]
    cases string.firstPart? with
    | none => exact ⟨fun _ => .bare, rfl⟩
    | some inner =>
      refine ⟨fun child => keepingIn scope inner.kind child.label, ?_⟩
      rw [← hfilter]
      exact congrArg (Option.filter _) (hfirst inner)
  · refine ⟨fun child => keepingIn scope string.kind child.label, ?_⟩
    rw [← hfilter]
    exact congrArg (Option.filter _) (hfirst string)

theorem isBytes_kept (string : Node) :
    source.isBytes (string.kept (.all scope)) = source.isBytes string := by
  obtain ⟨keeping, hopening⟩ := stringOpening?_kept scope string
  rw [isBytes, hopening, isBytes]
  cases string.stringOpening? with
  | none => rfl
  | some opening => simp

theorem quotedText_kept (string : Node) :
    source.quotedText (string.kept (.all scope)) = source.quotedText string := by
  have hlast (kind : Kind) :
      ((string.kept (.all scope)).children.filter (·.kind == kind)).getLast? =
        ((string.children.filter (·.kind == kind)).getLast?).map fun child =>
          child.kept (keepingIn scope string.kind child.label) := by
    rw [Node.children_kept_all, List.filter_map, List.getLast?_map]
    simp [Function.comp_def]
  simp only [quotedText, hlast]
  cases (string.children.filter (·.kind == .stringStart)).getLast? with
  | none => rfl
  | some opening =>
    cases (string.children.filter (·.kind == .stringEnd)).getLast? with
    | none => rfl
    | some closing => simp

theorem stringText_kept (string : Node) :
    source.stringText (string.kept (.all scope)) = source.stringText string := by
  unfold stringText
  rw [Node.kind_kept]
  split
  · rename_i hkind
    rw [Node.parts_kept (by rw [hkind]; rfl)]
    simp [Function.comp_def, quotedText_kept]
  · exact quotedText_kept source scope string

end Source

end Syntax

namespace Extraction

variable (source : Source) (scope : Scope)

@[simp] theorem flag_kept (keeping : Keeping) (node : Node) (problem : Problem) :
    flag source (node.kept keeping) problem = flag source node problem := by
  simp [flag]

/-! ### Dotted paths -/

/-- The path of a member of an object. -/
def memberPath (source : Source) (outer : Node) (object member : Option Node) :
    Report (Option String) :=
  match object, member with
  | some object, some member => do
    let base ← namePathIn source outer object
    return base.map (DottedName.child · (source.text member))
  | _, _ => pure none

theorem namePathIn_eq (source : Source) (outer node : Node) :
    namePathIn source outer node =
      match source.shapeOf node with
      | .name => pure (some (source.text node.unwrapped))
      | .attribute =>
        memberPath source outer (node.unwrapped.child? .object) (node.unwrapped.child? .attribute)
      | .memberType =>
        memberPath source outer node.unwrapped.parts.dropLast.head? node.unwrapped.parts.getLast?
      | _ => do
        flag source node.unwrapped (.dottedName outer.kind)
        return none := by
  rw [namePathIn]
  cases source.shapeOf node
  case «attribute» | memberType =>
    simp only
    split
    · rename_i hobject hmember
      rw [hobject, hmember]
      rfl
    · rename_i hnone
      unfold memberPath
      split
      · rename_i object member hobject hmember
        exact absurd hmember (hnone object member hobject)
      · rfl
  all_goals rfl

/-- Of the expression around a path only the kind is read. -/
theorem namePathIn_kept {outer other : Node} (houter : other.kind = outer.kind) (node : Node) :
    namePathIn source other (node.kept (.all scope)) = namePathIn source outer node := by
  induction hsize : node.size using Nat.strongRecOn generalizing node with
  | ind size ih =>
    have hle := node.size_unwrapped_le
    have hmember (object member : Option Node)
        (hobject : ∀ inner ∈ object, inner.size < node.unwrapped.size) :
        memberPath source other (object.map (·.kept (.all scope)))
            (member.map (·.kept (.all scope))) =
          memberPath source outer object member := by
      cases object with
      | none => rfl
      | some object =>
        cases member with
        | none => rfl
        | some member =>
          have hlt := hobject object rfl
          simp [memberPath, ih object.size (by omega) object rfl]
    rw [namePathIn_eq, namePathIn_eq, Source.shapeOf_kept, Node.unwrapped_kept]
    split
    case h_1 => rw [Source.text_kept]
    case h_2 hshape =>
      have hkind : node.unwrapped.kind.isUniform := by rw [Source.kind_of_shapeOf hshape rfl]; rfl
      rw [Node.child?_kept hkind, Node.child?_kept hkind]
      exact hmember _ _ fun inner hinner => Node.size_lt_of_child? hinner
    case h_3 hshape =>
      have hkind : node.unwrapped.kind.isUniform := by rw [Source.kind_of_shapeOf hshape rfl]; rfl
      rw [Node.parts_kept hkind, ← List.map_dropLast, List.head?_map, List.getLast?_map]
      exact hmember _ _ fun inner hinner => Node.size_lt_of_mem_parts
        ((List.dropLast_sublist _).subset (List.mem_of_mem_head? hinner))
    case h_4 => rw [flag_kept, houter]

theorem namePath_kept (node : Node) :
    namePath source (node.kept (.all scope)) = namePath source node :=
  namePathIn_kept source scope (Node.kind_kept _ node) node

/-! ### Type expressions -/

theorem subscriptBase_kept {subscript : Node} (h : subscript.kind = .subscript) :
    subscriptBase source (subscript.kept (.all scope)) = subscriptBase source subscript := by
  rw [subscriptBase, Node.child?_kept (by rw [h]; rfl), subscriptBase]
  cases subscript.child? .value with
  | none => rfl
  | some value => simp [Source.shapeOf_kept, namePath_kept]

theorem isUniform_of_shapeOf_tuple {node : Node} (h : source.shapeOf node = .tuple) :
    node.unwrapped.kind.isUniform := by
  have hkind := Source.mem_kinds_of_shapeOf h (by decide)
  simp only [Shape.kinds, List.mem_cons, List.not_mem_nil, or_false] at hkind
  rcases hkind with hkind | hkind | hkind <;> rw [hkind] <;> rfl

theorem subscriptArguments_kept {subscript : Node} (h : subscript.kind = .subscript) :
    subscriptArguments source (subscript.kept (.all scope)) =
      (subscriptArguments source subscript).map (·.kept (.all scope)) := by
  rw [subscriptArguments, Node.childrenAt_kept (by rw [h]; rfl), subscriptArguments]
  cases subscript.childrenAt .subscript with
  | nil => rfl
  | cons single rest =>
    cases rest with
    | cons second rest => rfl
    | nil =>
      simp only [List.map_cons, List.map_nil, Source.shapeOf_kept]
      split
      · rename_i hshape
        rw [Node.unwrapped_kept, Node.parts_kept (isUniform_of_shapeOf_tuple source hshape)]
      · rfl

theorem genericArguments?_kept {generic : Node} (h : generic.kind = .genericType) :
    genericArguments? (generic.kept (.all scope)) =
      (genericArguments? generic).map (List.map (·.kept (.all scope))) := by
  rw [genericArguments?, Node.parts_kept (by rw [h]; rfl), ← List.map_tail, List.find?_map,
    genericArguments?, Option.map_map, Option.map_map]
  simp only [Function.comp_def, Node.kind_kept]
  refine Option.map_congr fun bracket hbracket => ?_
  have hkind := List.find?_some hbracket
  exact Node.parts_kept (by rw [eq_of_beq hkind]; rfl) scope

theorem typeText_generic_eq {node : Node} (hshape : source.shapeOf node = .genericType) :
    typeText source node =
      match node.unwrapped.firstPart?, genericArguments? node.unwrapped with
      | some base, some arguments => appliedTo source (namePath source base) arguments
      | _, _ => pure none := by
  split
  · rename_i hbase harguments
    exact typeText_generic hshape hbase harguments
  · rename_i hnone
    rw [typeText, hshape]
    simp only

theorem typeText_kept (node : Node) :
    typeText source (node.kept (.all scope)) = typeText source node := by
  induction hsize : node.size using Nat.strongRecOn generalizing node with
  | ind size ih =>
    have hle := node.size_unwrapped_le
    have htexts (arguments : List Node)
        (h : ∀ argument ∈ arguments, argument.size < node.unwrapped.size) :
        (arguments.map (·.kept (.all scope))).map (typeText source) =
          arguments.map (typeText source) := by
      rw [List.map_map]
      refine List.map_congr_left fun argument hargument => ?_
      have hlt := h argument hargument
      exact ih argument.size (by omega) argument rfl
    have hkept := Source.shapeOf_kept source scope node
    cases hshape : source.shapeOf node <;> rw [hshape] at hkept
    case subscript =>
      have hkind := Source.kind_of_shapeOf hshape rfl
      rw [typeText_subscript hkept, typeText_subscript hshape, Node.unwrapped_kept,
        subscriptBase_kept source scope hkind, subscriptArguments_kept source scope hkind,
        appliedTo, htexts _ fun argument hargument => size_lt_of_mem_subscriptArguments hargument]
      rfl
    case genericType =>
      have hkind := Source.kind_of_shapeOf hshape rfl
      rw [typeText_generic_eq source hkept, typeText_generic_eq source hshape, Node.unwrapped_kept,
        genericArguments?_kept scope hkind, Node.firstPart?_kept (by rw [hkind]; rfl)]
      cases node.unwrapped.firstPart? with
      | none => rfl
      | some base =>
        cases harguments : genericArguments? node.unwrapped with
        | none => rfl
        | some arguments =>
          simp only [Option.map_some, appliedTo, namePath_kept]
          rw [htexts _ fun argument hargument => size_lt_of_genericArguments? harguments hargument]
    case list =>
      have hkind := Source.kind_of_shapeOf hshape rfl
      rw [typeText_list hkept, typeText_list hshape, Node.unwrapped_kept,
        Node.parts_kept (by rw [hkind]; rfl),
        htexts _ fun argument hargument => Node.size_lt_of_mem_parts hargument]
    all_goals rw [typeText, hkept, typeText, hshape]
    case name | «attribute» | memberType => exact namePath_kept source scope node
    all_goals simp [Node.unwrapped_kept, Source.isBytes_kept, Source.stringText_kept]

/-! ### Types of literals -/

theorem numberType?_kept (node : Node) :
    numberType? source (node.kept (.all scope)) = numberType? source node := by
  simp [numberType?, Source.shapeOf_kept, Node.unwrapped_kept]

theorem signedType_kept {unary : Node} (h : unary.kind = .unaryOperator) :
    signedType source (unary.kept (.all scope)) = signedType source unary := by
  have htext : source.text ∘ Node.kept (.all scope) = source.text := by
    funext node
    simp
  rw [signedType, Node.child?_kept (by rw [h]; rfl), Node.child?_kept (by rw [h]; rfl), signedType,
    Option.map_map, htext]
  cases unary.child? .argument with
  | none => rfl
  | some argument =>
    rw [Option.map_some]
    split
    case h_1 hsign harg | h_2 hsign harg =>
      cases harg
      rw [hsign, numberType?_kept]
      rfl
    case h_3 hminus hplus =>
      split
      case h_1 hsign _ => exact absurd hsign fun hsign => hminus _ hsign rfl
      case h_2 hsign _ => exact absurd hsign fun hsign => hplus _ hsign rfl
      case h_3 => rfl

theorem inferType_kept (node : Node) :
    inferType source (node.kept (.all scope)) = inferType source node := by
  rw [inferType, Source.shapeOf_kept, Node.unwrapped_kept, Source.isBytes_kept, numberType?_kept,
    inferType]
  cases hshape : source.shapeOf node
  case unary => exact signedType_kept source scope (Source.kind_of_shapeOf hshape rfl)
  all_goals rfl

/-! ### Base classes -/

/-- The text of a base class in brackets, when `arguments` are what the brackets enclose. -/
def baseApplied (source : Source) (subscript : Node) (arguments : List Node) :
    Report (Option String) := do
  match ← subscriptBase source subscript with
  | none => return none
  | some base =>
    match arguments with
    | [argument] =>
      let inner ← baseClass source argument
      return inner.map fun text => applied base [text]
    | _ =>
      flag source subscript (.baseClass .tuple)
      return none

theorem baseClass_subscript {node : Node} (hshape : source.shapeOf node = .subscript) :
    baseClass source node =
      baseApplied source node.unwrapped (node.unwrapped.childrenAt .subscript) := by
  rw [baseClass, hshape, baseApplied]
  simp only
  congr 1
  funext base?
  cases base? with
  | none => rfl
  | some base =>
    simp only
    split
    · rename_i argument hargument
      rw [hargument]
    · rename_i hmany
      split
      · rename_i argument hargument
        exact absurd hargument (hmany argument)
      · rfl

theorem baseClass_kept (node : Node) :
    baseClass source (node.kept (.all scope)) = baseClass source node := by
  induction hsize : node.size using Nat.strongRecOn generalizing node with
  | ind size ih =>
    have hle := node.size_unwrapped_le
    have hkept := Source.shapeOf_kept source scope node
    cases hshape : source.shapeOf node <;> rw [hshape] at hkept
    case subscript =>
      have hkind := Source.kind_of_shapeOf hshape rfl
      rw [baseClass_subscript source hkept, baseClass_subscript source hshape, Node.unwrapped_kept,
        Node.childrenAt_kept (by rw [hkind]; rfl), baseApplied,
        subscriptBase_kept source scope hkind, baseApplied]
      cases harguments : node.unwrapped.childrenAt .subscript with
      | nil => simp
      | cons argument rest =>
        have hmem : argument ∈ node.unwrapped.childrenAt .subscript := by simp [harguments]
        have hlt := Node.size_lt_of_mem_childrenAt hmem
        cases rest with
        | nil => simp [ih argument.size (by omega) argument rfl]
        | cons second rest => simp
    all_goals rw [baseClass, hkept, baseClass, hshape]
    case name | «attribute» => exact namePath_kept source scope node
    all_goals simp [Node.unwrapped_kept]

end Extraction

end InterfaceStub
