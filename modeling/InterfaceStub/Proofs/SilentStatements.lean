import InterfaceStub.Proofs.Composition
import InterfaceStub.Proofs.TreeExistence
import InterfaceStub.Proofs.TypeTexts

/-!
# Statements that leave no trace

What a stub cannot express is left out and reported, so a statement that neither adds to the stub
nor is reported has to be one that says nothing.  This module lists those statements.

* A report `IsSilent` when it has no items and no findings.  A report of a path or of a type is
  `Explained` when it says why there is none; `explained_typeText` is the induction over type
  expressions.
* `Node.Complete` says that a tree has the children that the grammar demands.  Without them an
  expression can be passed over, as there is nothing to name in a message.
* A target `BindsNothing` when it is a pattern of such patterns.  `isSilent_target_iff` is the one
  step that all functions on targets share.
* `SilentInModule` and `SilentInClass` are the two lists, and `isSilent_leaf_iff` is the result.
-/

namespace InterfaceStub

open Syntax Extraction

namespace Extraction

variable {settings : ExtractSettings} {source : Source}

/-! ## Silent reports -/

namespace Report

/-- The report adds nothing and finds nothing. -/
def IsSilent (report : Report (List α)) : Prop :=
  report.value = [] ∧ report.findings = []

/-- The report has a value or finds why there is none. -/
def Explained (report : Report (Option α)) : Prop :=
  report.value = none → report.findings ≠ []

theorem isSilent_pure {items : List α} : (pure items : Report (List α)).IsSilent ↔ items = [] := by
  simp [IsSilent]

theorem isSilent_map {f : α → β} {report : Report (List α)} :
    (List.map f <$> report).IsSilent ↔ report.IsSilent := by
  simp [IsSilent]

theorem isSilent_bind {report : Report α} {next : α → Report (List β)} :
    (report >>= next).IsSilent ↔ report.findings = [] ∧ (next report.value).IsSilent := by
  simp [IsSilent, and_left_comm]

theorem isSilent_gatherAll {reports : List (Report (List α))} :
    (gatherAll reports).IsSilent ↔ ∀ report ∈ reports, report.IsSilent := by
  simp [IsSilent, gatherAll, gather, forall_and]

theorem not_isSilent_flag (node : Node) (problem : Problem) (next : Unit → Report (List α)) :
    ¬(flag source node problem >>= next).IsSilent := by
  intro h
  cases (isSilent_bind.1 h).1

theorem explained_some (value : α) : (pure (some value) : Report (Option α)).Explained :=
  nofun

theorem explained_flag (node : Node) (problem : Problem) (next : Unit → Report (Option α)) :
    (flag source node problem >>= next).Explained := by
  intro _
  exact List.cons_ne_nil _ _

theorem Explained.map {report : Report (Option α)} (h : report.Explained) (f : α → β) :
    (report >>= fun value => pure (value.map f)).Explained := by
  intro hnone
  have hvalue := h (Option.map_eq_none_iff.1 hnone)
  simpa using hvalue

end Report

end Extraction

/-! ## Complete trees -/

namespace Syntax.Node

/-- Whether a node has the children that the grammar demands of its kind. -/
def hasMandatory (node : Node) : Bool :=
  match node.kind with
  | .assignment => (node.child? .left).isSome
  | .decoratedDefinition => (node.child? .definition).isSome
  | .attribute => (node.child? .object).isSome && (node.child? .attribute).isSome
  | .subscript => (node.child? .value).isSome
  | .genericType => node.parts.tail.any (·.kind == .typeParameter)
  | .memberType => decide (2 ≤ node.parts.length)
  | .expressionStatement => !node.parts.isEmpty
  | .importStatement => !(node.childrenAt .name).isEmpty
  | _ => true

/-- Every node of the tree has the children that the grammar demands. -/
def Complete (root : Node) : Prop :=
  ∀ node ∈ root.nodes, node.hasMandatory

instance (root : Node) : Decidable root.Complete :=
  inferInstanceAs (Decidable (∀ node ∈ root.nodes, node.hasMandatory = true))

theorem Complete.of_mem {root node : Node} (h : root.Complete) (hnode : node ∈ root.nodes) :
    node.Complete :=
  fun inner hinner => h inner (mem_nodes_trans hinner hnode)

theorem Complete.self {root : Node} (h : root.Complete) : root.hasMandatory :=
  h root root.mem_nodes_self

theorem Complete.unwrapped {root : Node} (h : root.Complete) : root.unwrapped.Complete :=
  h.of_mem root.unwrapped_mem_nodes

end Syntax.Node

namespace Extraction

variable {settings : ExtractSettings} {source : Source}

/-! ## Paths and type expressions -/

theorem explained_namePathIn {outer node : Node} (h : node.Complete) :
    (namePathIn source outer node).Explained := by
  have hmandatory := h.unwrapped.self
  fun_induction namePathIn source outer node with
  | case1 => exact Report.explained_some _
  | case2 node hshape object member hobject hmember ih =>
    have hcomplete := h.unwrapped.of_mem (Node.mem_nodes_of_child? hobject)
    exact (ih hcomplete hcomplete.unwrapped.self).map _
  | case3 node hshape hmissing =>
    have hkind := Source.kind_of_shapeOf hshape rfl
    simp only [Node.hasMandatory, hkind, Bool.and_eq_true, Option.isSome_iff_exists] at hmandatory
    obtain ⟨⟨object, hobject⟩, member, hmember⟩ := hmandatory
    exact (hmissing object member hobject hmember).elim
  | case4 node hshape object member hobject hmember ih =>
    have hpart := (List.dropLast_sublist _).subset (List.mem_of_mem_head? hobject)
    have hcomplete := h.unwrapped.of_mem (Node.mem_nodes_of_mem_parts hpart)
    exact (ih hcomplete hcomplete.unwrapped.self).map _
  | case5 node hshape hmissing =>
    have hkind := Source.kind_of_shapeOf hshape rfl
    simp only [Node.hasMandatory, hkind, decide_eq_true_eq] at hmandatory
    -- Of two parts the last is the member, and there is one before it.
    obtain ⟨object, hobject⟩ : ∃ object, node.unwrapped.parts.dropLast.head? = some object := by
      rw [← Option.isSome_iff_exists, List.isSome_head?, Ne, ← List.length_eq_zero_iff,
        List.length_dropLast]
      omega
    obtain ⟨member, hmember⟩ : ∃ member, node.unwrapped.parts.getLast? = some member := by
      rw [← Option.isSome_iff_exists, List.getLast?_isSome, Ne, ← List.length_eq_zero_iff]
      omega
    exact (hmissing object member hobject hmember).elim
  | case6 => exact Report.explained_flag _ _ _

theorem explained_subscriptBase {subscript : Node} (h : subscript.Complete)
    (hkind : subscript.kind = .subscript) : (subscriptBase source subscript).Explained := by
  have hmandatory := h.self
  simp only [Node.hasMandatory, hkind, Option.isSome_iff_exists] at hmandatory
  obtain ⟨value, hvalue⟩ := hmandatory
  have hcomplete := h.of_mem (Node.mem_nodes_of_child? hvalue)
  rw [subscriptBase, hvalue]
  simp only
  split
  · exact explained_namePathIn hcomplete
  · exact explained_namePathIn hcomplete
  · exact Report.explained_flag _ _ _

theorem none_mem_of_allTexts? {texts : List (Option String)} (h : allTexts? texts = none) :
    none ∈ texts := by
  fun_induction allTexts? texts with
  | case1 => cases h
  | case2 => exact List.mem_cons_self
  | case3 text texts ih => exact List.mem_cons_of_mem _ (ih (Option.map_eq_none_iff.1 h))

theorem explained_appliedTo {base : Report (Option String)} {arguments : List Node}
    (hbase : base.Explained)
    (harguments : ∀ argument ∈ arguments, (typeText source argument).Explained) :
    (appliedTo source base arguments).Explained := by
  intro hnone
  rw [appliedTo, Report.value_bind] at hnone
  rw [appliedTo, Report.findings_bind]
  cases hpath : base.value with
  | none => exact List.append_ne_nil_of_left_ne_nil (hbase hpath) _
  | some path =>
    rw [hpath] at hnone
    have hmissing := none_mem_of_allTexts? (Option.map_eq_none_iff.1 hnone)
    rw [Report.gather, List.map_map] at hmissing
    obtain ⟨argument, hargument, hvalue⟩ := List.mem_map.1 hmissing
    have hfindings := harguments argument hargument hvalue
    apply List.append_ne_nil_of_right_ne_nil
    intro hnil
    rw [Report.findings_bind] at hnil
    have hgathered := (List.append_eq_nil_iff.1 hnil).1
    rw [Report.gather, List.flatMap_map, List.flatMap_eq_nil_iff] at hgathered
    exact hfindings (hgathered argument hargument)

/-- Where a type expression has no text, the reason is found. -/
theorem explained_typeText {node : Node} (h : node.Complete) :
    (typeText source node).Explained := by
  induction hsize : node.size using Nat.strongRecOn generalizing node with
  | ind size ih =>
    have hinner {inner : Node} (hmem : inner ∈ node.unwrapped.nodes)
        (hlt : inner.size < node.unwrapped.size) : (typeText source inner).Explained := by
      have hle := node.size_unwrapped_le
      exact ih inner.size (by omega) (h.unwrapped.of_mem hmem) rfl
    cases hshape : source.shapeOf node
    case subscript =>
      have hkind := Source.kind_of_shapeOf hshape rfl
      rw [typeText_subscript hshape]
      refine explained_appliedTo (explained_subscriptBase h.unwrapped hkind) ?_
      intro argument hargument
      exact hinner (mem_nodes_of_mem_subscriptArguments hargument)
        (size_lt_of_mem_subscriptArguments hargument)
    case genericType =>
      have hkind := Source.kind_of_shapeOf hshape rfl
      have hmandatory := h.unwrapped.self
      simp only [Node.hasMandatory, hkind] at hmandatory
      obtain ⟨arguments, harguments⟩ :
          ∃ arguments, genericArguments? node.unwrapped = some arguments := by
        simpa [genericArguments?, ← Option.isSome_iff_exists, List.find?_isSome] using hmandatory
      obtain ⟨base, hbase⟩ : ∃ base, node.unwrapped.firstPart? = some base := by
        rw [Node.firstPart?, ← Option.isSome_iff_exists, List.isSome_head?]
        rintro hnil
        simp [hnil] at hmandatory
      rw [typeText_generic hshape hbase harguments]
      refine explained_appliedTo
        (explained_namePathIn (h.unwrapped.of_mem (Node.mem_nodes_of_firstPart? hbase))) ?_
      intro argument hargument
      exact hinner (mem_nodes_of_genericArguments? harguments hargument)
        (size_lt_of_genericArguments? harguments hargument)
    case list =>
      rw [typeText_list hshape]
      intro hnone
      cases hnone
    all_goals
      rw [typeText, hshape]
    case name | «attribute» | memberType => exact explained_namePathIn h
    case noneValue | ellipsis => exact Report.explained_some _
    case string =>
      simp only
      split
      · exact Report.explained_flag _ _ _
      · exact Report.explained_some _
    all_goals exact Report.explained_flag _ _ _

/-! ## Targets -/

/-- The target is a pattern, and so is everything in it: there is no name to bind. -/
inductive BindsNothing : Node → Prop where
  | pattern {target : Node} (hpattern : target.isPattern)
      (hparts : ∀ part ∈ target.parts, BindsNothing part) : BindsNothing target

theorem not_bindsNothing_of_isName {target : Node} (h : target.isName) :
    ¬BindsNothing target := by
  rintro ⟨hpattern, _⟩
  simp only [Node.isName, Node.isPattern, Bool.or_eq_true, beq_iff_eq] at h hpattern
  rcases h with h | h <;> simp [h] at hpattern

/-- A target leaves no trace when it is a pattern whose parts bind nothing, given that names leave
one and that patterns are judged by their parts. -/
theorem isSilent_target_iff {named bound : Report (List α)} {target : Node} {problem : Problem}
    (hnamed : target.isName → ¬named.IsSilent)
    (hbound : bound.IsSilent ↔ ∀ part ∈ target.parts, BindsNothing part) :
    (if target.isName then named
      else if target.isPattern then bound
      else do
        flag source target problem
        return []).IsSilent ↔ BindsNothing target := by
  by_cases hname : target.isName
  · rw [if_pos hname]
    exact iff_of_false (hnamed hname) (not_bindsNothing_of_isName hname)
  · rw [if_neg hname]
    by_cases hpattern : target.isPattern
    · rw [if_pos hpattern, hbound]
      exact ⟨.pattern hpattern, fun ⟨_, hparts⟩ => hparts⟩
    · rw [if_neg hpattern]
      exact iff_of_false (Report.not_isSilent_flag _ _ _) fun ⟨h, _⟩ => hpattern h

theorem length_elementValues (source : Source) (elements : List Node) (value : Option Node) :
    (elementValues source elements value).length = elements.length := by
  rw [elementValues]
  split
  · rename_i values hvalues
    obtain ⟨value, _, hmatched⟩ := Option.bind_eq_some_iff.1 hvalues
    rw [matchedElements?] at hmatched
    split at hmatched
    case h_1 | h_2 =>
      split at hmatched
      · rename_i hlength
        cases hmatched
        rw [List.length_map]
        exact of_decide_eq_true (Bool.and_eq_true_iff.1 hlength).1
      · cases hmatched
    case h_3 => cases hmatched
  · exact List.length_map _

theorem not_isSilent_bindName (name : Node) (type : LiteralType) :
    ¬(bindName source name type).IsSilent := by
  intro h
  cases h.1

theorem isSilent_bindPattern_iff {assignment pattern : Node} {value : Option Node} :
    (bindPattern source assignment pattern value).IsSilent ↔
      ∀ part ∈ pattern.parts, BindsNothing part := by
  induction hsize : pattern.size using Nat.strongRecOn generalizing pattern value with
  | ind size ih =>
    rw [bindPattern, Report.isSilent_gatherAll]
    have helement (element : { part // part ∈ pattern.parts }) (value : Option Node) :
        (if element.1.isName then bindName source element.1 (typeAt source value)
          else if element.1.isPattern then bindPattern source assignment element.1 value
          else do
            flag source element.1 (.inside assignment.kind element.1.kind)
            return []).IsSilent ↔ BindsNothing element.1 :=
      isSilent_target_iff (fun _ => not_isSilent_bindName _ _)
        (ih _ (hsize ▸ Node.size_lt_of_mem_parts element.2) rfl)
    -- There is a value, or the lack of one, for every element.
    have hpaired : (pattern.parts.attach.zip (elementValues source pattern.parts value)).map
        Prod.fst = pattern.parts.attach := List.map_fst_zip (by simp [length_elementValues])
    constructor
    · intro h part hpart
      obtain ⟨pair, hpair, hfst⟩ := List.mem_map.1 (hpaired ▸ List.mem_attach _ ⟨part, hpart⟩)
      have hsilent := (helement pair.1 pair.2).1 (h _ (List.mem_map_of_mem hpair))
      rwa [hfst] at hsilent
    · intro h report hreport
      obtain ⟨pair, _, rfl⟩ := List.mem_map.1 hreport
      exact (helement pair.1 pair.2).2 (h pair.1.1 pair.1.2)

theorem isSilent_literalTargets_iff {assignment value : Node} {type : LiteralType}
    {targets : List Node} :
    (literalTargets source assignment value type targets).IsSilent ↔
      ∀ target ∈ targets, BindsNothing target := by
  rw [literalTargets, Report.isSilent_gatherAll, List.forall_mem_map]
  refine forall₂_congr fun target _ => ?_
  exact isSilent_target_iff (fun _ => not_isSilent_bindName _ _) isSilent_bindPattern_iff

/-- Names of a value that is no literal are aliases of it, or the value has no text. -/
theorem isSilent_alias_iff {assignment value : Node} {targets : List Node} (h : value.Complete) :
    (aliasText source value targets >>= fun text =>
        aliasTargets source assignment text targets).IsSilent ↔
      ∀ target ∈ targets, BindsNothing target := by
  rw [Report.isSilent_bind, aliasTargets, Report.isSilent_gatherAll, List.forall_mem_map]
  by_cases hany : targets.any Node.isName
  · obtain ⟨target, htarget, hname⟩ := List.any_eq_true.1 hany
    have hbinds : ¬∀ target ∈ targets, BindsNothing target :=
      fun hnothing => not_bindsNothing_of_isName hname (hnothing target htarget)
    refine iff_of_false ?_ hbinds
    rw [aliasText, if_pos hany]
    rintro ⟨hfindings, hsilent⟩
    have hvalue := (hsilent target htarget).1
    rw [if_pos hname] at hvalue
    cases htext : (typeText source value).value with
    | none => exact explained_typeText h htext hfindings
    | some text => simp [htext] at hvalue
  · rw [aliasText, if_neg hany]
    refine (and_iff_right rfl).trans (forall₂_congr fun target htarget => ?_)
    have hbound := @isSilent_bindPattern_iff source assignment target none
    refine isSilent_target_iff (fun hname => ?_) (Report.isSilent_map.trans hbound)
    exact absurd (List.any_eq_true.2 ⟨target, htarget, hname⟩) hany

theorem isSilent_classVariables_iff {assignment target : Node} :
    (classVariables source assignment target).IsSilent ↔ BindsNothing target := by
  induction hsize : target.size using Nat.strongRecOn generalizing target with
  | ind size ih =>
    rw [classVariables]
    refine isSilent_target_iff (fun _ hsilent => by cases hsilent.1) ?_
    rw [List.attach_map_val, Report.isSilent_gatherAll, List.forall_mem_map]
    exact forall₂_congr fun part hpart => ih _ (hsize ▸ Node.size_lt_of_mem_parts hpart) rfl

/-! ## Constants -/

/-- What the parentheses enclose is a number, a truth value, `None`, `...`, or a string without
replacement fields. -/
def IsConstant (source : Source) (node : Node) : Prop :=
  node.unwrapped.kind ∈
      [.integer, .float, .trueLiteral, .falseLiteral, .noneLiteral, .ellipsis] ∨
    (node.unwrapped.kind = .string ∧ source.hasReplacements node.unwrapped = false) ∨
    (node.unwrapped.kind = .concatenatedString ∧
      ∀ part ∈ node.unwrapped.parts, source.hasReplacements part = false)

theorem isConstant_shapeOf_iff {node : Node} :
    (source.shapeOf node).isConstant ↔ IsConstant source node := by
  rw [Source.shapeOf, Source.ownShape, IsConstant]
  split
  case h_7 hkind | h_8 hkind => split <;> simp_all [Shape.isConstant]
  all_goals simp_all [Shape.isConstant]

/-- What the parentheses enclose is an imaginary number. -/
def IsImaginary (source : Source) (node : Node) : Prop :=
  node.unwrapped.kind ∈ [.integer, .float] ∧
    (source.text node.unwrapped).toList.getLast? ∈ [some 'j', some 'J']

/-- The value is a constant whose type has no spelling: `...`, or an imaginary number with or
without a sign. -/
inductive IsUntyped (source : Source) (value : Node) : Prop where
  | ellipsis (hkind : value.unwrapped.kind = .ellipsis)
  | imaginary (hnumber : IsImaginary source value)
  | signed {operator argument : Node} (hkind : value.unwrapped.kind = .unaryOperator)
      (hoperator : value.unwrapped.child? .operator = some operator)
      (hsign : source.text operator ∈ ["-", "+"])
      (hargument : value.unwrapped.child? .argument = some argument)
      (hnumber : IsImaginary source argument)

theorem endsImaginary_iff {number : String} :
    endsImaginary number ↔ number.toList.getLast? ∈ [some 'j', some 'J'] := by
  rw [endsImaginary]
  split <;> simp_all

theorem numberType?_eq_untyped_iff {node : Node} :
    (∃ constant, numberType? source node = some (.untyped constant)) ↔
      IsImaginary source node := by
  have htyped (type : LiteralType) :
      (∃ constant,
        some (if endsImaginary (source.text node.unwrapped) then Inferred.untyped .complex
          else .known type) = some (.untyped constant)) ↔
      endsImaginary (source.text node.unwrapped) := by
    by_cases hends : endsImaginary (source.text node.unwrapped) <;> simp [hends]
  have hinteger : source.shapeOf node = .integer ↔ node.unwrapped.kind = .integer :=
    ⟨(Source.kind_of_shapeOf · rfl), (Source.shapeOf_of_kind · rfl)⟩
  have hfloat : source.shapeOf node = .float ↔ node.unwrapped.kind = .float :=
    ⟨(Source.kind_of_shapeOf · rfl), (Source.shapeOf_of_kind · rfl)⟩
  rw [IsImaginary, ← endsImaginary_iff, List.mem_pair, ← hinteger, ← hfloat]
  by_cases hnumber : source.shapeOf node = .integer ∨ source.shapeOf node = .float
  · rw [and_iff_right hnumber]
    rcases hnumber with hshape | hshape
    · rw [numberType?, hshape]
      exact htyped .int
    · rw [numberType?, hshape]
      exact htyped .float
  · have hnone : numberType? source node = none := by
      rw [numberType?]
      cases hshape : source.shapeOf node <;> simp_all
    refine iff_of_false ?_ fun himaginary => hnumber himaginary.1
    rw [hnone]
    rintro ⟨constant, heq⟩
    cases heq

theorem getD_numberType?_eq_untyped_iff {node : Node} :
    (∃ constant, (numberType? source node).getD .notLiteral = .untyped constant) ↔
      IsImaginary source node := by
  rw [← numberType?_eq_untyped_iff]
  cases numberType? source node <;> simp

theorem isUntyped_iff {value : Node} :
    IsUntyped source value ↔ ∃ constant, inferType source value = .untyped constant := by
  constructor
  · intro h
    cases h with
    | ellipsis hkind =>
      have hshape : source.shapeOf value = .ellipsis := Source.shapeOf_of_kind hkind rfl
      exact ⟨.ellipsis, by rw [inferType, hshape]⟩
    | imaginary hnumber =>
      obtain ⟨constant, hconstant⟩ := getD_numberType?_eq_untyped_iff.2 hnumber
      refine ⟨constant, ?_⟩
      rcases List.mem_pair.1 hnumber.1 with hkind | hkind
      · have hshape : source.shapeOf value = .integer := Source.shapeOf_of_kind hkind rfl
        rw [inferType, hshape]
        exact hconstant
      · have hshape : source.shapeOf value = .float := Source.shapeOf_of_kind hkind rfl
        rw [inferType, hshape]
        exact hconstant
    | signed hkind hoperator hsign hargument hnumber =>
      obtain ⟨constant, hconstant⟩ := getD_numberType?_eq_untyped_iff.2 hnumber
      have hshape : source.shapeOf value = .unary := Source.shapeOf_of_kind hkind rfl
      refine ⟨constant, ?_⟩
      rw [inferType, hshape]
      show signedType source value.unwrapped = .untyped constant
      rw [signedType, hoperator, hargument, Option.map_some]
      rcases List.mem_pair.1 hsign with hsign | hsign <;> rw [hsign] <;> exact hconstant
  · rintro ⟨constant, h⟩
    rw [inferType] at h
    split at h
    case h_3 | h_4 => exact .imaginary (getD_numberType?_eq_untyped_iff.1 ⟨constant, h⟩)
    case h_6 hshape =>
      exact .ellipsis (Source.kind_of_shapeOf hshape rfl)
    case h_12 hshape =>
      have hkind := Source.kind_of_shapeOf hshape rfl
      rw [signedType] at h
      split at h
      case h_1 argument hoperator hargument | h_2 argument hoperator hargument =>
        obtain ⟨operator, hchild, hsign⟩ := Option.map_eq_some_iff.1 hoperator
        exact .signed hkind hchild (by simp [hsign]) hargument
          (getD_numberType?_eq_untyped_iff.1 ⟨constant, h⟩)
      case h_3 => cases h
    all_goals cases h

/-! ## Assignments -/

theorem mem_nodes_of_targetsAndValue {assignment value : Node}
    (h : assignment.targetsAndValue.2 = some value) : value ∈ assignment.nodes := by
  fun_induction Node.targetsAndValue assignment with
  | case1 assignment target right hright hkind targets found hrest ih =>
    rw [hrest] at ih
    exact Node.mem_nodes_trans (ih h) (Node.mem_nodes_of_child? hright)
  | case2 assignment target right hright hkind =>
    cases h
    exact Node.mem_nodes_of_child? hright
  | case3 => cases h

/-- The assignment has no type comment and no target that binds anything. -/
structure BindsNoName (source : Source) (statement assignment : Node) (following : List Node) :
    Prop where
  uncommented : source.statementDeclaresType statement following = false
  targets : ∀ target ∈ assignment.targetsAndValue.1, BindsNothing target

theorem explained_annotatedName {assignment annotation : Node} (h : assignment.Complete)
    (hkind : assignment.kind = .assignment) (htype : assignment.child? .type = some annotation) :
    (annotatedName source assignment annotation).Explained := by
  have hmandatory := h.self
  simp only [Node.hasMandatory, hkind, Option.isSome_iff_exists] at hmandatory
  obtain ⟨target, htarget⟩ := hmandatory
  rw [annotatedName, htarget]
  simp only
  split
  · exact (explained_typeText (h.of_mem (Node.mem_nodes_of_child? htype))).map _
  · exact Report.explained_flag _ _ _

theorem Report.Explained.not_isSilent {report : Report (Option α)} (h : report.Explained)
    (f : α → β) : ¬(report >>= fun value => pure (value.map f).toList).IsSilent := by
  intro hsilent
  obtain ⟨hfindings, hnone⟩ := Report.isSilent_bind.1 hsilent
  refine h ?_ hfindings
  simpa using Report.isSilent_pure.1 hnone

theorem isSilent_reportTypeComment_iff {statement : Node} {following : List Node}
    {next : Unit → Report (List α)} :
    (reportTypeComment source statement following >>= next).IsSilent ↔
      source.statementDeclaresType statement following = false ∧ (next ()).IsSilent := by
  rw [reportTypeComment]
  split
  · rename_i hcomment
    refine iff_of_false (Report.not_isSilent_flag _ _ _) ?_
    simp [hcomment]
  · rename_i hcomment
    rw [Report.pure_bind]
    exact (and_iff_right (Bool.eq_false_iff.2 hcomment)).symm

theorem isSilent_inferredDeclarations_iff {assignment value : Node} {targets : List Node}
    (h : value.Complete) :
    (inferredDeclarations source assignment value targets).IsSilent ↔
      ¬IsUntyped source value ∧ ∀ target ∈ targets, BindsNothing target := by
  rw [isUntyped_iff, inferredDeclarations]
  split
  · rename_i type htype
    rw [Report.isSilent_map, isSilent_literalTargets_iff, htype]
    exact (and_iff_right nofun).symm
  · rename_i constant htype
    refine iff_of_false (Report.not_isSilent_flag _ _ _) ?_
    rintro ⟨htyped, _⟩
    exact htyped ⟨constant, htype⟩
  · rename_i htype
    rw [isSilent_alias_iff h, htype]
    exact (and_iff_right nofun).symm

theorem isSilent_moduleAssignment_iff {statement assignment : Node} {following : List Node}
    (h : assignment.Complete) (hkind : assignment.kind = .assignment) :
    (moduleAssignment source statement assignment following).IsSilent ↔
      assignment.child? .type = none ∧
        (assignment.targetsAndValue.2 = none ∨
          BindsNoName source statement assignment following ∧
            ∀ value ∈ assignment.targetsAndValue.2, ¬IsUntyped source value) := by
  rw [moduleAssignment]
  cases htype : assignment.child? .type with
  | some annotation =>
    exact iff_of_false ((explained_annotatedName h hkind htype).not_isSilent _) nofun
  | none =>
    simp only [true_and]
    split
    · rename_i targets value hpair
      have hvalue : value ∈ assignment.nodes := mem_nodes_of_targetsAndValue (by rw [hpair])
      rw [isSilent_reportTypeComment_iff, isSilent_inferredDeclarations_iff (h.of_mem hvalue)]
      simp only [hpair]
      constructor
      · rintro ⟨huncommented, htyped, htargets⟩
        refine .inr ⟨⟨huncommented, by rwa [hpair]⟩, ?_⟩
        rintro other hother
        cases hother
        exact htyped
      · rintro (hnone | ⟨⟨huncommented, htargets⟩, htyped⟩)
        · cases hnone
        · rw [hpair] at htargets
          exact ⟨huncommented, htyped value rfl, htargets⟩
    · rename_i targets hpair
      refine iff_of_true (Report.isSilent_pure.2 rfl) (.inl ?_)
      rw [hpair]

theorem isSilent_classAssignment_iff {statement assignment : Node} {following : List Node}
    (h : assignment.Complete) (hkind : assignment.kind = .assignment) :
    (classAssignment source statement assignment following).IsSilent ↔
      assignment.child? .type = none ∧ BindsNoName source statement assignment following := by
  rw [classAssignment]
  cases htype : assignment.child? .type with
  | some annotation =>
    exact iff_of_false ((explained_annotatedName h hkind htype).not_isSilent _) nofun
  | none =>
    simp only [true_and]
    rw [Report.isSilent_bind, relyOn, and_iff_right rfl, isSilent_reportTypeComment_iff,
      Report.isSilent_gatherAll, List.forall_mem_map]
    simp only [isSilent_classVariables_iff]
    exact ⟨fun ⟨huncommented, htargets⟩ => ⟨huncommented, htargets⟩,
      fun ⟨huncommented, htargets⟩ => ⟨huncommented, htargets⟩⟩

end Extraction

/-! ## Statements -/

/-- The kinds of statement of each sort.  A kind in none of these lists is of the sort `other`. -/
def Syntax.Statement.kinds : Statement → List Kind
  | .expression => [.expressionStatement]
  | .importNames => [.importStatement]
  | .importFrom => [.importFromStatement, .futureImportStatement]
  | .function | .asyncFunction => [.functionDefinition]
  | .decorated => [.decoratedDefinition]
  | .classDefinition => [.classDefinition]
  | .conditional => [.ifStatement]
  | .attempt => [.tryStatement]
  | .pass => [.passStatement]
  | .other => []

/-- A sort of statement that has one kind only tells the kind. -/
theorem Syntax.Node.kind_of_statement {node : Node} {sort : Statement} {kind : Kind}
    (h : node.statement = sort) (hkinds : sort.kinds = [kind]) : node.kind = kind := by
  subst h
  rw [statement] at hkinds
  split at hkinds
  case h_5 hkind =>
    rw [hkind]
    split at hkinds
    all_goals exact (List.cons.inj hkinds).1
  all_goals simp_all [Statement.kinds]

namespace Extraction

variable {settings : ExtractSettings} {source : Source}

/-- The expression statement is one constant, such as a documentation text, or an assignment without
annotation that is dropped. -/
inductive SaysNothing (source : Source) (dropped : Node → Prop) (statement : Node) : Prop where
  | constant {value : Node} (hkind : statement.kind = .expressionStatement)
      (hparts : statement.parts = [value]) (hconstant : IsConstant source value)
  | assignment {assignment : Node} (hkind : statement.kind = .expressionStatement)
      (hfirst : statement.firstPart? = some assignment) (hassigns : assignment.kind = .assignment)
      (hplain : assignment.child? .type = none) (hdropped : dropped assignment)

/-- The statements of a module that leave no trace.  An assignment is dropped when there is no name
to bind and the value could be the value of one, and also when the targets end without a value, as
in `a = b: int`. -/
def SilentInModule (source : Source) (statement : Node) (following : List Node) : Prop :=
  SaysNothing source (fun assignment =>
    assignment.targetsAndValue.2 = none ∨
      BindsNoName source statement assignment following ∧
        ∀ value ∈ assignment.targetsAndValue.2, ¬IsUntyped source value) statement

/-- The statements of a class that leave no trace.  An assignment is dropped when there is no name
to bind; the value does not matter. -/
def SilentInClass (source : Source) (statement : Node) (following : List Node) : Prop :=
  statement.kind = .passStatement ∨
    SaysNothing source (BindsNoName source statement · following) statement

theorem not_isConstant_of_assigns {node : Node}
    (h : node.kind = .assignment ∨ node.kind = .augmentedAssignment) :
    ¬IsConstant source node := by
  have hself : node.unwrapped = node := by
    rw [Node.unwrapped]
    rcases h with h | h <;> simp [h, Kind.isWrapper]
  rw [IsConstant, hself]
  rcases h with h | h <;> simp [h]

section ExpressionStatement

variable {dropped : Node → Prop} {statement inner : Node} {rest following : List Node}

theorem SaysNothing.kind (h : SaysNothing source dropped statement) :
    statement.kind = .expressionStatement := by
  cases h <;> assumption

theorem saysNothing_iff_of_assigns (hkind : statement.kind = .expressionStatement)
    (hparts : statement.parts = inner :: rest) (hassigns : inner.kind = .assignment) :
    SaysNothing source dropped statement ↔ inner.child? .type = none ∧ dropped inner := by
  have hfirst : statement.firstPart? = some inner := by simp [Node.firstPart?, hparts]
  constructor
  · intro h
    cases h with
    | constant _ hsingle hconstant =>
      obtain ⟨rfl, -⟩ := List.cons.inj (hparts.symm.trans hsingle)
      exact absurd hconstant (not_isConstant_of_assigns (.inl hassigns))
    | assignment _ hfirst' _ hplain hdropped =>
      obtain rfl := Option.some.inj (hfirst.symm.trans hfirst')
      exact ⟨hplain, hdropped⟩
  · rintro ⟨hplain, hdropped⟩
    exact .assignment hkind hfirst hassigns hplain hdropped

theorem saysNothing_iff_of_not_assigns (hkind : statement.kind = .expressionStatement)
    (hparts : statement.parts = inner :: rest) (hassigns : inner.kind ≠ .assignment) :
    SaysNothing source dropped statement ↔ rest = [] ∧ IsConstant source inner := by
  have hfirst : statement.firstPart? = some inner := by simp [Node.firstPart?, hparts]
  constructor
  · intro h
    cases h with
    | constant _ hsingle hconstant =>
      obtain ⟨rfl, rfl⟩ := List.cons.inj (hparts.symm.trans hsingle)
      exact ⟨rfl, hconstant⟩
    | assignment _ hfirst' hassigns' _ _ =>
      obtain rfl := Option.some.inj (hfirst.symm.trans hfirst')
      exact absurd hassigns' hassigns
  · rintro ⟨rfl, hconstant⟩
    exact .constant hkind hparts hconstant

/-- An expression statement begins with a part. -/
theorem exists_parts_eq_cons (h : statement.Complete)
    (hkind : statement.kind = .expressionStatement) :
    ∃ inner rest, statement.parts = inner :: rest ∧ statement.firstPart? = some inner ∧
      inner.Complete := by
  have hmandatory := h.self
  simp only [Node.hasMandatory, hkind, Bool.not_eq_true', List.isEmpty_eq_false_iff] at hmandatory
  obtain ⟨inner, rest, hparts⟩ := List.exists_cons_of_ne_nil hmandatory
  have hfirst : statement.firstPart? = some inner := by simp [Node.firstPart?, hparts]
  exact ⟨inner, rest, hparts, hfirst, h.of_mem (Node.mem_nodes_of_firstPart? hfirst)⟩

theorem isSilent_moduleExpression_iff (h : statement.Complete)
    (hkind : statement.kind = .expressionStatement) :
    (moduleExpression source statement following).IsSilent ↔
      SilentInModule source statement following := by
  obtain ⟨inner, rest, hparts, -, hinner⟩ := exists_parts_eq_cons h hkind
  rw [moduleExpression, hparts, SilentInModule]
  simp only
  split
  · rename_i hassigns
    rw [Report.isSilent_map, isSilent_moduleAssignment_iff hinner hassigns,
      saysNothing_iff_of_assigns hkind hparts hassigns]
  · rename_i haugmented
    rw [saysNothing_iff_of_not_assigns hkind hparts (by simp [haugmented])]
    refine iff_of_false (Report.not_isSilent_flag _ _ _) ?_
    rintro ⟨-, hconstant⟩
    exact not_isConstant_of_assigns (.inr haugmented) hconstant
  · rename_i hassigns _
    rw [saysNothing_iff_of_not_assigns hkind hparts hassigns, ← isConstant_shapeOf_iff]
    by_cases hrest : rest = []
    · subst hrest
      by_cases hconstant : (source.shapeOf inner).isConstant
      · refine iff_of_true ?_ ⟨rfl, hconstant⟩
        simp [hconstant, Report.IsSilent]
      · refine iff_of_false ?_ (fun hsilent => hconstant hsilent.2)
        simpa [hconstant] using Report.not_isSilent_flag _ _ _
    · refine iff_of_false ?_ (fun hsilent => hrest hsilent.1)
      simpa [hrest] using Report.not_isSilent_flag _ _ _

theorem isLoneConstant_iff (hparts : statement.parts = inner :: rest) :
    isLoneConstant source statement ↔ rest = [] ∧ IsConstant source inner := by
  rw [isLoneConstant, hparts, ← isConstant_shapeOf_iff]
  cases rest <;> simp

theorem isSilent_classExpression_iff (h : statement.Complete)
    (hkind : statement.kind = .expressionStatement) :
    (classExpression source statement following).IsSilent ↔
      SaysNothing source (BindsNoName source statement · following) statement := by
  obtain ⟨inner, rest, hparts, hfirst, hinner⟩ := exists_parts_eq_cons h hkind
  rw [classExpression, hfirst]
  simp only
  split
  · rename_i hassigns
    have hassigns := eq_of_beq hassigns
    rw [Report.isSilent_map, isSilent_classAssignment_iff hinner hassigns,
      saysNothing_iff_of_assigns hkind hparts hassigns]
  · rename_i hassigns
    rw [saysNothing_iff_of_not_assigns hkind hparts (by simpa using hassigns),
      ← isLoneConstant_iff hparts]
    split
    · rename_i hconstant
      exact iff_of_true ⟨rfl, rfl⟩ hconstant
    · rename_i hconstant
      exact iff_of_false (Report.not_isSilent_flag _ _ _) hconstant

end ExpressionStatement

theorem not_isSilent_moduleDefinition (definition : Node) (decorators : List Node) :
    ¬(moduleDefinition settings source definition decorators).IsSilent := by
  rw [moduleDefinition]
  intro h
  split at h
  · cases h.1
  · cases h.1
  · exact Report.not_isSilent_flag _ _ _ h

theorem exists_definition {statement : Node} (h : statement.Complete)
    (hsort : statement.statement = .decorated) :
    ∃ definition, statement.child? .definition = some definition := by
  have hkind := Node.kind_of_statement hsort rfl
  have hmandatory := h.self
  simpa only [Node.hasMandatory, hkind, Option.isSome_iff_exists] using hmandatory

theorem not_isSilent_decoratedMember {statement : Node} (h : statement.Complete)
    (hsort : statement.statement = .decorated) : ¬(decoratedMember source statement).IsSilent := by
  obtain ⟨definition, hdefinition⟩ := exists_definition h hsort
  rw [decoratedMember, hdefinition]
  intro hsilent
  simp only at hsilent
  split at hsilent
  · cases hsilent.1
  · exact Report.not_isSilent_flag _ _ _ hsilent

theorem isSilent_moduleStatement_iff {statement : Node} {following : List Node}
    (h : statement.Complete) :
    (moduleStatement settings source statement following).IsSilent ↔
      SilentInModule source statement following := by
  by_cases hkind : statement.kind = .expressionStatement
  · have hsort : statement.statement = .expression := by simp [Node.statement, hkind]
    rw [moduleStatement, hsort]
    exact isSilent_moduleExpression_iff h hkind
  · -- No other statement is on the list, and each of them leaves a trace.
    refine iff_of_false ?_ fun hsilent => hkind hsilent.kind
    rw [moduleStatement]
    split
    · rename_i hsort
      exact absurd (Node.kind_of_statement hsort rfl) hkind
    · rename_i hsort
      have himport := Node.kind_of_statement hsort rfl
      have hmandatory := h.self
      simp only [Node.hasMandatory, himport, Bool.not_eq_true', List.isEmpty_eq_false_iff]
        at hmandatory
      simpa [Report.isSilent_pure, importNames] using hmandatory
    · intro hsilent
      cases hsilent.1
    · rename_i hsort
      obtain ⟨definition, hdefinition⟩ := exists_definition h hsort
      rw [hdefinition]
      exact not_isSilent_moduleDefinition _ _
    · exact not_isSilent_moduleDefinition _ _

theorem isSilent_classStatement_iff {statement : Node} {following : List Node}
    (h : statement.Complete) :
    (classStatement source statement following).IsSilent ↔
      SilentInClass source statement following := by
  by_cases hpass : statement.kind = .passStatement
  · have hsort : statement.statement = .pass := by simp [Node.statement, hpass]
    rw [classStatement, hsort]
    exact iff_of_true ⟨rfl, rfl⟩ (.inl hpass)
  rw [SilentInClass, or_iff_right hpass]
  by_cases hkind : statement.kind = .expressionStatement
  · have hsort : statement.statement = .expression := by simp [Node.statement, hkind]
    rw [classStatement, hsort]
    exact isSilent_classExpression_iff h hkind
  · refine iff_of_false ?_ fun hsilent => hkind hsilent.kind
    rw [classStatement]
    split
    · rename_i hsort
      exact absurd (Node.kind_of_statement hsort rfl) hpass
    · rename_i hsort
      exact absurd (Node.kind_of_statement hsort rfl) hkind
    · intro hsilent
      cases hsilent.1
    · rename_i hsort
      exact not_isSilent_decoratedMember h hsort
    · exact Report.not_isSilent_flag _ _ _

end Extraction

theorem Extraction.mem_nodes_of_mem_bodyLeaves {settings : ExtractSettings} {source : Source}
    {definition : Node} {leaf : PlacedStatement}
    (h : leaf ∈ bodyLeaves settings source definition) : leaf.node ∈ definition.nodes := by
  rw [bodyLeaves] at h
  cases hbody : definition.child? .body with
  | none => simp [hbody] at h
  | some block =>
    rw [hbody] at h
    exact Node.mem_nodes_trans (mem_nodes_of_mem_leafStatements h) (Node.mem_nodes_of_child? hbody)

/-- In a complete tree the statements that neither add to the stub nor are reported are those on the
two lists, one for modules and one for the bodies of classes. -/
theorem isSilent_leaf_iff (settings : ExtractSettings) (source : Source) {root : Node}
    (hroot : root.Complete) :
    (∀ leaf ∈ leafStatements settings source root,
      (moduleStatement settings source leaf.node leaf.following).IsSilent ↔
        SilentInModule source leaf.node leaf.following) ∧
    ∀ definition ∈ root.nodes, ∀ leaf ∈ bodyLeaves settings source definition,
      (classStatement source leaf.node leaf.following).IsSilent ↔
        SilentInClass source leaf.node leaf.following := by
  refine ⟨fun leaf hleaf => ?_, fun definition hdefinition leaf hleaf => ?_⟩
  · exact isSilent_moduleStatement_iff (hroot.of_mem (mem_nodes_of_mem_leafStatements hleaf))
  · have hbody : leaf.node ∈ definition.nodes := mem_nodes_of_mem_bodyLeaves hleaf
    exact isSilent_classStatement_iff (hroot.of_mem (Node.mem_nodes_trans hbody hdefinition))

/-- The assignment `a = b: int`, whose targets end without a value. -/
def valuelessAssignment : Node :=
  .inner .assignment none 0 10 [
    .inner .identifier (some .left) 0 1 [],
    .token "=" 2 3,
    .inner .assignment (some .right) 4 10 [
      .inner .identifier (some .left) 4 5 [],
      .token ":" 5 6,
      .inner .type (some .type) 7 10 [.inner .identifier none 7 10 []]]]

def valuelessStatement : Node :=
  .inner .expressionStatement none 0 10 [valuelessAssignment]

/-- The target `()`. -/
def emptyTarget : Node :=
  .inner .tuplePattern (some .left) 24 26 [.token "(" 24 25, .token ")" 25 26]

/-- The assignment `() = x`. -/
def namelessAssignment : Node :=
  .inner .assignment none 24 30 [
    emptyTarget,
    .token "=" 27 28,
    .inner .identifier (some .right) 29 30 []]

def namelessStatement : Node :=
  .inner .expressionStatement none 24 30 [namelessAssignment]

/-- A class with the assignment `() = x` in its body. -/
def namelessClass : Node :=
  .inner .classDefinition none 11 30 [
    .token "class" 11 16,
    .inner .identifier (some .name) 17 18 [],
    .token ":" 18 19,
    .inner .block (some .body) 24 30 [namelessStatement]]

/-- A module of the two statements. -/
def tracelessModule : Node :=
  .inner (.other "module") none 0 31 [valuelessStatement, namelessClass]

def tracelessSource : Source :=
  .ofText "traceless.py" "a = b: int\nclass C:\n    () = x\n"

/-- Neither assignment leaves a trace, the first because it stands in a module. -/
theorem tracelessModule_isSilent :
    tracelessModule.Complete ∧
    (moduleStatement {} tracelessSource valuelessStatement [namelessClass]).IsSilent ∧
    (classStatement tracelessSource namelessStatement []).IsSilent := by
  have hcomplete : tracelessModule.Complete := by decide
  obtain ⟨hmodule, hclass⟩ := isSilent_leaf_iff {} tracelessSource hcomplete
  have hmem : namelessClass ∈ tracelessModule.nodes :=
    Node.mem_nodes_of_mem_children (.tail _ (.head _))
  refine ⟨hcomplete, ?_, ?_⟩
  · refine (hmodule ⟨⟨[0], valuelessStatement⟩, [namelessClass]⟩ ?_).2
      (.assignment rfl rfl rfl rfl (.inl ?_))
    · rw [leafStatements_eq]
      exact List.mem_flatMap.2 ⟨_, .head _, .head _⟩
    · decide +kernel
  · refine (hclass namelessClass hmem ⟨⟨[0], namelessStatement⟩, []⟩ ?_).2
      (.inr (.assignment rfl rfl rfl rfl ⟨rfl, ?_⟩))
    · show _ ∈ leafStatements _ _ _
      rw [leafStatements_eq]
      exact List.mem_flatMap.2 ⟨_, .head _, .head _⟩
    · have htargets : namelessAssignment.targetsAndValue.1 = [emptyTarget] := by
        rw [Node.targetsAndValue]
        rfl
      have hparts : emptyTarget.parts = [] := rfl
      rw [htargets, List.forall_mem_singleton]
      exact .pattern rfl (by simp [hparts])

end InterfaceStub
