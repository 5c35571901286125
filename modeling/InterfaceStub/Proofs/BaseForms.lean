import InterfaceStub.Proofs.RequiredNames
import InterfaceStub.Proofs.RoundTrip
import InterfaceStub.Proofs.VoidTypes

/-!
# Base classes among the type expressions

`baseClass` and `typeText` each go down an expression in a way of their own.  The brackets after a
base class hold one base class.  Those after the path of a type hold any number of types, and a
tuple in them stands for its items.  What is accepted as a base class should still read the same as
a type.

* `IsBaseForm` are the expressions that can be a base class: a dotted path, or an expression with
  one such expression in brackets.  In these there is no tuple to take apart.
* `IsBaseForm.baseClass_eq_typeText` says that on them the two reports are equal, with everything
  that is found.
* `isBaseForm_of_baseClass` says that nothing else is accepted as a base class.
* `baseClass_restricts_typeText` puts these together.
-/

namespace InterfaceStub

open Syntax Extraction

namespace Extraction

variable {source : Source} {node : Node}

/-- A dotted path, or an expression with one such expression in brackets. -/
inductive IsBaseForm : Node → Prop where
  | name {node : Node} (hname : node.unwrapped.isName) : IsBaseForm node
  | attribute {node : Node} (hkind : node.unwrapped.kind = .attribute) : IsBaseForm node
  | applied {node argument : Node} (hkind : node.unwrapped.kind = .subscript)
      (hargument : node.unwrapped.childrenAt .subscript = [argument])
      (hinner : IsBaseForm argument) : IsBaseForm node

theorem IsBaseForm.mem_kinds (h : IsBaseForm node) :
    node.unwrapped.kind ∈ [.identifier, .keywordIdentifier, .attribute, .subscript] := by
  cases h with
  | name hname =>
    simp only [Node.isName, Bool.or_eq_true, beq_iff_eq] at hname
    rcases hname with hkind | hkind <;> simp [hkind]
  | «attribute» hkind => simp [hkind]
  | applied hkind => simp [hkind]

theorem IsBaseForm.shapeOf_ne_tuple (h : IsBaseForm node) : source.shapeOf node ≠ .tuple := by
  rw [Ne, Source.shapeOf_eq_iff (by decide)]
  have hkind := h.mem_kinds
  simp only [List.mem_cons, List.not_mem_nil, or_false] at hkind
  rcases hkind with hkind | hkind | hkind | hkind <;> rw [hkind] <;> decide

theorem Report.gather_singleton_bind (report : Report α) (next : List α → Report β) :
    (Report.gather [report] >>= next) = report >>= fun value => next [value] := by
  simp [Report.gather, Bind.bind, Report.bind]

/-- Where a single argument reads the same as a base class and as a type, so do the brackets around
it. -/
theorem baseApplied_eq_appliedTo {argument : Node} (subscript : Node)
    (h : baseClass source argument = typeText source argument) :
    baseApplied source subscript [argument] =
      appliedTo source (subscriptBase source subscript) [argument] := by
  rw [baseApplied, appliedTo]
  congr 1
  funext base?
  cases base? with
  | none => rfl
  | some base =>
    simp only [List.map_cons, List.map_nil, Report.gather_singleton_bind, h]
    congr 1
    funext inner
    cases inner <;> rfl

/-- An expression of this form is read the same as a base class and as a type. -/
theorem IsBaseForm.baseClass_eq_typeText (h : IsBaseForm node) :
    baseClass source node = typeText source node := by
  induction h with
  | name hname => rw [baseClass, typeText, Source.shapeOf_eq_name_iff.2 hname]
  | «attribute» hkind =>
    rw [baseClass, typeText, (Source.shapeOf_of_kind hkind rfl : source.shapeOf _ = .attribute)]
  | @applied node argument hkind hargument hinner ih =>
    have hshape : source.shapeOf node = .subscript := Source.shapeOf_of_kind hkind rfl
    have harguments : subscriptArguments source node.unwrapped = [argument] := by
      rw [subscriptArguments_eq, hargument]
      rw [hargument]
      exact fun other hother => List.mem_singleton.1 hother ▸ hinner.shapeOf_ne_tuple
    rw [baseClass_subscript source hshape, typeText_subscript hshape, hargument, harguments,
      baseApplied_eq_appliedTo _ ih]

/-- Nothing else is accepted as a base class. -/
theorem isBaseForm_of_baseClass (h : (baseClass source node).value.isSome) : IsBaseForm node := by
  fun_induction baseClass source node with
  | case1 node hshape => exact .name (Source.shapeOf_eq_name_iff.1 hshape)
  | case2 node hshape => exact .attribute (Source.kind_of_shapeOf hshape rfl)
  | case3 node hshape ih =>
    rw [Report.value_bind] at h
    split at h
    · cases h
    · split at h
      · rename_i argument hargument
        have hinner : (baseClass source argument).value.isSome := by simpa using h
        exact .applied (Source.kind_of_shapeOf hshape rfl) hargument (ih argument hargument hinner)
      · cases h
  | case4 => cases h

/-! ## Base classes as types and aliases -/

/-- Where a base class has a text, nothing else is reported. -/
theorem baseClass_eq_pure {text : String} (h : (baseClass source node).value = some text) :
    baseClass source node = pure (some text) := by
  have hfindings : (baseClass source node).findings = [] := whole_baseClass node (by rw [h]; rfl)
  have hrequired : (baseClass source node).required = [] := required_baseClass node
  calc baseClass source node
      = ⟨(baseClass source node).value, (baseClass source node).findings,
          (baseClass source node).required⟩ := rfl
    _ = pure (some text) := by rw [h, hfindings, hrequired]; rfl

theorem aliasTargets_of_isName (assignment : Node) (text : String) {targets : List Node}
    (h : ∀ target ∈ targets, target.isName) :
    aliasTargets source assignment (some text) targets =
      pure (targets.map fun target => .typeAlias ⟨source.text target, text⟩) := by
  have hdeclared : aliasTargets source assignment (some text) targets = Report.gatherAll
      ((targets.map fun target =>
        [Declaration.typeAlias ⟨source.text target, text⟩]).map pure) := by
    rw [List.map_map]
    exact congrArg Report.gatherAll
      (List.map_congr_left fun target htarget => if_pos (h target htarget))
  rw [hdeclared, Report.gatherAll_pure, ← List.flatMap_def, ← List.map_eq_flatMap]

/-- Names are aliases of an expression of this form. -/
theorem IsBaseForm.inferredDeclarations_eq {text : String} (h : IsBaseForm node)
    (htext : typeText source node = pure (some text)) (assignment : Node) {targets : List Node}
    (htargets : ∀ target ∈ targets, target.isName) :
    inferredDeclarations source assignment node targets =
      pure (targets.map fun target => .typeAlias ⟨source.text target, text⟩) := by
  rw [inferredDeclarations, inferType_of_kind h.mem_kinds]
  cases targets with
  | nil => rfl
  | cons target targets =>
    have hany : (target :: targets).any Node.isName :=
      List.any_eq_true.2 ⟨target, .head _, htargets target (.head _)⟩
    simp only [aliasText, hany, if_true, htext, Report.pure_bind,
      aliasTargets_of_isName assignment text htargets]

end Extraction

/-- What is accepted as a base class reads the same as a type and as the target of an alias, and
nothing is reported. -/
theorem baseClass_restricts_typeText (source : Source) (node : Node) :
    (IsBaseForm node → baseClass source node = typeText source node) ∧
    ∀ text, (baseClass source node).value = some text →
      IsBaseForm node ∧ baseClass source node = pure (some text) ∧
      typeText source node = pure (some text) ∧
      ∀ assignment targets, (∀ target ∈ targets, target.isName) →
        inferredDeclarations source assignment node targets =
          pure (targets.map fun target => .typeAlias ⟨source.text target, text⟩) := by
  refine ⟨IsBaseForm.baseClass_eq_typeText, fun text htext => ?_⟩
  have hsilent := baseClass_eq_pure htext
  have hform : IsBaseForm node := isBaseForm_of_baseClass (by rw [htext]; rfl)
  have htype : typeText source node = pure (some text) := by
    rw [← hform.baseClass_eq_typeText, hsilent]
  exact ⟨hform, hsilent, htype, fun assignment targets => hform.inferredDeclarations_eq htype _⟩

/-- The expression in `X = Mapping[(pkg.Key[T])]`. -/
def nestedBase : Node :=
  .inner .subscript (some .right) 4 25 [
    .inner .identifier (some .value) 4 11 [],
    .token "[" 11 12,
    .inner .parenthesizedExpression (some .subscript) 12 24 [
      .token "(" 12 13,
      .inner .subscript none 13 23 [
        .inner .attribute (some .value) 13 20 [
          .inner .identifier (some .object) 13 16 [],
          .token "." 16 17,
          .inner .identifier (some .attribute) 17 20 []],
        .token "[" 20 21,
        .inner .identifier (some .subscript) 21 22 [],
        .token "]" 22 23],
      .token ")" 23 24],
    .token "]" 24 25]

/-- The name that it is assigned to. -/
def nestedBaseName : Node :=
  .inner .identifier (some .left) 0 1 []

def nestedBaseAssignment : Node :=
  .inner .assignment none 0 25 [nestedBaseName, .token "=" 2 3, nestedBase]

def nestedBaseSource : Source :=
  .ofText "nested.py" "X = Mapping[(pkg.Key[T])]\n"

/-- The parentheses are gone in the base class, in the type and in the alias. -/
theorem nestedBase_reads_alike :
    baseClass nestedBaseSource nestedBase = pure (some "Mapping[pkg.Key[T]]") ∧
    typeText nestedBaseSource nestedBase = pure (some "Mapping[pkg.Key[T]]") ∧
    inferredDeclarations nestedBaseSource nestedBaseAssignment nestedBase [nestedBaseName] =
      pure [.typeAlias ⟨"X", "Mapping[pkg.Key[T]]"⟩] := by
  have htext : (baseClass nestedBaseSource nestedBase).value = some "Mapping[pkg.Key[T]]" := by
    decide +kernel
  have hname : nestedBaseSource.text nestedBaseName = "X" := by decide +kernel
  obtain ⟨-, hread⟩ := baseClass_restricts_typeText nestedBaseSource nestedBase
  obtain ⟨-, hbase, htype, halias⟩ := hread _ htext
  have hdeclared := halias nestedBaseAssignment [nestedBaseName] (by decide)
  rw [List.map_singleton, hname] at hdeclared
  exact ⟨hbase, htype, hdeclared⟩

end InterfaceStub
