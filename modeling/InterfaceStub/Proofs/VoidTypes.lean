import InterfaceStub.Proofs.EmptyBrackets
import InterfaceStub.Proofs.Erasure
import InterfaceStub.Proofs.SilentStatements

/-!
# Types that have no text

An expression that a stub cannot express has no text, and the reason is reported.  So a text and a
report exclude each other, and one of them is always there.

* A report is `Whole` when nothing was left out of its value: there is no value, or nothing was
  found.  Together with `Explained` this says that there is a value exactly when nothing was found.
* Paths and base classes are whole without exception.  A type expression is whole unless it has a
  list in it, since a list leaves out the items that have no text.
* `typeText_eq_appliedTo` has both forms of brackets after a path in one equation, and
  `findings_appliedTo` says that every argument in them is looked at.
-/

namespace InterfaceStub

open Syntax Extraction

namespace Extraction

variable {source : Source}

namespace Report

/-- Nothing was left out of the value, if there is one. -/
def Whole (report : Report (Option α)) : Prop :=
  report.value.isSome → report.findings = []

theorem whole_pure (value : Option α) : (pure value : Report (Option α)).Whole :=
  fun _ => rfl

theorem whole_of_value_eq_none {report : Report (Option α)} (h : report.value = none) :
    report.Whole := by
  intro hvalue
  rw [h] at hvalue
  cases hvalue

theorem Whole.map {report : Report (Option α)} (h : report.Whole) (f : α → β) :
    (report >>= fun value => pure (value.map f)).Whole := by
  intro hvalue
  have hfindings := h (by simpa using hvalue)
  simpa using hfindings

/-- A report that is whole and explained has a value exactly when it finds nothing. -/
theorem isSome_value_iff {report : Report (Option α)} (hwhole : report.Whole)
    (hexplained : report.Explained) : report.value.isSome ↔ report.findings = [] := by
  refine ⟨hwhole, fun hfindings => ?_⟩
  rw [Option.isSome_iff_ne_none]
  exact fun hnone => hexplained hnone hfindings

end Report

/-! ## Paths and base classes -/

theorem whole_namePathIn (outer node : Node) : (namePathIn source outer node).Whole := by
  fun_induction namePathIn source outer node with
  | case1 | case3 | case5 => exact Report.whole_pure _
  | case2 node hshape object member hobject hmember ih => exact ih.map _
  | case4 node hshape object member hobject hmember ih => exact ih.map _
  | case6 => exact Report.whole_of_value_eq_none rfl

theorem whole_subscriptBase (subscript : Node) : (subscriptBase source subscript).Whole := by
  unfold subscriptBase
  split
  · exact Report.whole_pure _
  · split
    · exact whole_namePathIn _ _
    · exact whole_namePathIn _ _
    · exact Report.whole_of_value_eq_none rfl

theorem whole_baseApplied {subscript : Node} {arguments : List Node}
    (h : ∀ argument ∈ arguments, (baseClass source argument).Whole) :
    (baseApplied source subscript arguments).Whole := by
  intro hvalue
  rw [baseApplied, Report.value_bind] at hvalue
  rw [baseApplied, Report.findings_bind]
  cases hbase : (subscriptBase source subscript).value with
  | none =>
    rw [hbase] at hvalue
    cases hvalue
  | some base =>
    have hsilent := whole_subscriptBase subscript (by rw [hbase]; rfl)
    rw [hbase] at hvalue
    rw [hsilent, List.nil_append]
    cases arguments with
    | nil => cases hvalue
    | cons argument rest =>
      cases rest with
      | nil => exact (h argument List.mem_cons_self).map _ hvalue
      | cons => cases hvalue

theorem whole_baseClass (node : Node) : (baseClass source node).Whole := by
  induction hsize : node.size using Nat.strongRecOn generalizing node with
  | ind size ih =>
    cases hshape : source.shapeOf node
    case subscript =>
      rw [baseClass_subscript source hshape]
      refine whole_baseApplied fun argument hargument => ih argument.size ?_ argument rfl
      have hlt := Node.size_lt_of_mem_childrenAt hargument
      have hle := node.size_unwrapped_le
      omega
    all_goals rw [baseClass, hshape]
    case name | «attribute» => exact whole_namePathIn node node
    all_goals exact Report.whole_of_value_eq_none rfl

theorem explained_baseApplied {subscript : Node} {arguments : List Node}
    (hsubscript : (subscriptBase source subscript).Explained)
    (h : ∀ argument ∈ arguments, (baseClass source argument).Explained) :
    (baseApplied source subscript arguments).Explained := by
  intro hnone
  rw [baseApplied, Report.value_bind] at hnone
  rw [baseApplied, Report.findings_bind]
  cases hbase : (subscriptBase source subscript).value with
  | none => exact List.append_ne_nil_of_left_ne_nil (hsubscript hbase) _
  | some base =>
    rw [hbase] at hnone
    apply List.append_ne_nil_of_right_ne_nil
    cases arguments with
    | nil => exact List.cons_ne_nil _ _
    | cons argument rest =>
      cases rest with
      | nil => exact (h argument List.mem_cons_self).map _ hnone
      | cons => exact List.cons_ne_nil _ _

/-- Where a base class has no text, the reason is found. -/
theorem explained_baseClass {node : Node} (h : node.Complete) :
    (baseClass source node).Explained := by
  induction hsize : node.size using Nat.strongRecOn generalizing node with
  | ind size ih =>
    cases hshape : source.shapeOf node
    case subscript =>
      have hkind := Source.kind_of_shapeOf hshape rfl
      rw [baseClass_subscript source hshape]
      refine explained_baseApplied (explained_subscriptBase h.unwrapped hkind) ?_
      intro argument hargument
      have hlt := Node.size_lt_of_mem_childrenAt hargument
      have hle := node.size_unwrapped_le
      have hcomplete := h.unwrapped.of_mem (Node.mem_nodes_of_mem_childrenAt hargument)
      exact ih argument.size (by omega) hcomplete rfl
    all_goals rw [baseClass, hshape]
    case name | «attribute» => exact explained_namePathIn h
    all_goals exact Report.explained_flag _ _ _

/-! ## Arguments in brackets -/

/-- What is reported of the path before the brackets of a subscript or a generic type. -/
def bracketBase (source : Source) (node : Node) : Report (Option String) :=
  match node.kind with
  | .subscript => subscriptBase source node
  | _ =>
    match node.firstPart? with
    | some base => namePath source base
    | none => pure none

theorem whole_bracketBase (node : Node) : (bracketBase source node).Whole := by
  unfold bracketBase
  split
  · exact whole_subscriptBase node
  · split
    · exact whole_namePathIn _ _
    · exact Report.whole_pure _

/-- An expression with brackets after a path is read as a path and its arguments. -/
theorem typeText_eq_appliedTo {node : Node} {arguments : List Node}
    (h : bracketArguments? source node.unwrapped = some arguments) :
    typeText source node = appliedTo source (bracketBase source node.unwrapped) arguments := by
  unfold bracketArguments? at h
  split at h
  · rename_i hkind
    cases h
    rw [bracketBase, hkind]
    exact typeText_subscript (Source.shapeOf_of_kind hkind rfl)
  · rename_i hkind
    obtain ⟨bracket, hbracket, -⟩ := Option.map_eq_some_iff.1 h
    obtain ⟨base, hbase⟩ : ∃ base, node.unwrapped.firstPart? = some base := by
      rw [Node.firstPart?, ← Option.isSome_iff_exists, List.isSome_head?]
      rintro hnil
      simp [hnil] at hbracket
    rw [bracketBase, hkind, hbase]
    exact typeText_generic (Source.shapeOf_of_kind hkind rfl) hbase h
  · cases h

variable {base : Report (Option String)} {arguments : List Node}

/-- Every argument is looked at, also after one that has no text. -/
theorem findings_appliedTo (hbase : base.Whole) (hpath : base.value.isSome) :
    (appliedTo source base arguments).findings =
      arguments.flatMap fun argument => (typeText source argument).findings := by
  obtain ⟨path, hpath'⟩ := Option.isSome_iff_exists.1 hpath
  rw [appliedTo, Report.findings_bind, hbase hpath, hpath']
  simp [Report.gather, List.flatMap_map]

theorem isSome_allTexts?_iff {texts : List (Option String)} :
    (allTexts? texts).isSome ↔ ∀ text ∈ texts, text.isSome := by
  fun_induction allTexts? texts with
  | case1 => simp
  | case2 => simp
  | case3 text texts ih => simpa using ih

/-- A path with arguments has a text exactly when all of them have one. -/
theorem isSome_value_appliedTo :
    (appliedTo source base arguments).value.isSome ↔
      base.value.isSome ∧ ∀ argument ∈ arguments, (typeText source argument).value.isSome := by
  rw [appliedTo, Report.value_bind]
  cases base.value with
  | none => simp
  | some path => simp [Report.gather, isSome_allTexts?_iff]

theorem whole_appliedTo (hbase : base.Whole)
    (harguments : ∀ argument ∈ arguments, (typeText source argument).Whole) :
    (appliedTo source base arguments).Whole := by
  intro hvalue
  obtain ⟨hpath, htexts⟩ := isSome_value_appliedTo.1 hvalue
  rw [findings_appliedTo hbase hpath, List.flatMap_eq_nil_iff]
  exact fun argument hargument => harguments argument hargument (htexts argument hargument)

/-! ## Type expressions -/

/-- Nothing is left out of a type expression that has no list in it. -/
theorem whole_typeText {node : Node} (h : ∀ inner ∈ node.nodes, inner.kind ≠ .list) :
    (typeText source node).Whole := by
  induction hsize : node.size using Nat.strongRecOn generalizing node with
  | ind size ih =>
    have hself := node.unwrapped_mem_nodes
    have hinner {inner : Node} (hmem : inner ∈ node.unwrapped.nodes)
        (hlt : inner.size < node.unwrapped.size) : (typeText source inner).Whole := by
      have hle := node.size_unwrapped_le
      refine ih inner.size (by omega) (fun deep hdeep => ?_) rfl
      exact h deep (Node.mem_nodes_trans hdeep (Node.mem_nodes_trans hmem hself))
    cases hshape : source.shapeOf node
    case subscript =>
      rw [typeText_subscript hshape]
      refine whole_appliedTo (whole_subscriptBase _) fun argument hargument => ?_
      exact hinner (mem_nodes_of_mem_subscriptArguments hargument)
        (size_lt_of_mem_subscriptArguments hargument)
    case genericType =>
      rw [typeText_generic_eq source hshape]
      split
      · rename_i base arguments hbase harguments
        refine whole_appliedTo (whole_namePathIn _ _) fun argument hargument => ?_
        exact hinner (mem_nodes_of_genericArguments? harguments hargument)
          (size_lt_of_genericArguments? harguments hargument)
      · exact Report.whole_pure _
    case list => exact absurd (Source.kind_of_shapeOf hshape rfl) (h _ hself)
    all_goals rw [typeText, hshape]
    case name | «attribute» | memberType => exact whole_namePathIn node node
    case noneValue | ellipsis => exact Report.whole_pure _
    case string =>
      simp only
      split
      · exact Report.whole_of_value_eq_none rfl
      · exact Report.whole_pure _
    all_goals exact Report.whole_of_value_eq_none rfl

/-- Where a type, a base class or a path has no text, something is reported, and where it has one,
nothing is; only a list in a type expression can leave out what it reports.  After a path that can
be expressed every argument in brackets is looked at. -/
theorem void_iff_reported (source : Source) {node : Node} (h : node.Complete) :
    ((typeText source node).value = none → (typeText source node).findings ≠ []) ∧
    ((∀ inner ∈ node.nodes, inner.kind ≠ .list) →
      ((typeText source node).value.isSome ↔ (typeText source node).findings = [])) ∧
    ((baseClass source node).value.isSome ↔ (baseClass source node).findings = []) ∧
    ((namePath source node).value.isSome ↔ (namePath source node).findings = []) ∧
    ∀ arguments, bracketArguments? source node.unwrapped = some arguments →
      (bracketBase source node.unwrapped).value.isSome →
      (typeText source node).findings =
        (arguments.flatMap fun argument => (typeText source argument).findings) ∧
      ((typeText source node).value.isSome ↔
        ∀ argument ∈ arguments, (typeText source argument).value.isSome) := by
  refine ⟨explained_typeText h, fun hlist => ?_, ?_, ?_, fun arguments harguments hbase => ?_⟩
  · exact Report.isSome_value_iff (whole_typeText hlist) (explained_typeText h)
  · exact Report.isSome_value_iff (whole_baseClass node) (explained_baseClass h)
  · exact Report.isSome_value_iff (whole_namePathIn node node) (explained_namePathIn h)
  · rw [typeText_eq_appliedTo harguments, isSome_value_appliedTo]
    exact ⟨findings_appliedTo (whole_bracketBase _) hbase, and_iff_right hbase⟩

end Extraction

/-! Brackets with two arguments that have no text, and a list with one item that has none. -/

/-- The annotation in `x: Dict[3, f()]`. -/
def unsupportedType : Node :=
  .inner .type (some .type) 3 15 [
    .inner .genericType none 3 15 [
      .inner .identifier none 3 7 [],
      .inner .typeParameter none 7 15 [
        .token "[" 7 8,
        .inner .type none 8 9 [.inner .integer none 8 9 []],
        .token "," 9 10,
        .inner .type none 11 14 [
          .inner .call none 11 14 [
            .inner .identifier none 11 12 [],
            .token "(" 12 13,
            .token ")" 13 14]],
        .token "]" 14 15]]]

def unsupportedSource : Source :=
  .ofText "unsupported.py" "x: Dict[3, f()]\n"

/-- The second argument is reported although the first one has no text either. -/
theorem unsupportedType_void :
    unsupportedType.Complete ∧ (∀ inner ∈ unsupportedType.nodes, inner.kind ≠ .list) ∧
    (typeText unsupportedSource unsupportedType).findings =
      [⟨1, .constantType "3"⟩, ⟨1, .typeExpression .call⟩] ∧
    ¬(typeText unsupportedSource unsupportedType).value.isSome := by
  have hcomplete : unsupportedType.Complete := by decide
  have hlist : ∀ inner ∈ unsupportedType.nodes, inner.kind ≠ .list := by decide
  have hfindings : (typeText unsupportedSource unsupportedType).findings =
      [⟨1, .constantType "3"⟩, ⟨1, .typeExpression .call⟩] := by decide +kernel
  obtain ⟨-, hvoid, -⟩ := Extraction.void_iff_reported unsupportedSource hcomplete
  refine ⟨hcomplete, hlist, hfindings, fun hsome => ?_⟩
  rw [(hvoid hlist).1 hsome] at hfindings
  cases hfindings

/-- The annotation in `x: List[[3]]`. -/
def partialListType : Node :=
  .inner .type (some .type) 3 12 [
    .inner .genericType none 3 12 [
      .inner .identifier none 3 7 [],
      .inner .typeParameter none 7 12 [
        .token "[" 7 8,
        .inner .type none 8 11 [
          .inner .list none 8 11 [
            .token "[" 8 9,
            .inner .integer none 9 10 [],
            .token "]" 10 11]],
        .token "]" 11 12]]]

example :
    (typeText (.ofText "list.py" "x: List[[3]]\n") partialListType).value = some "List[[]]" ∧
    (typeText (.ofText "list.py" "x: List[[3]]\n") partialListType).findings =
      [⟨1, .constantType "3"⟩] := by
  decide +kernel

end InterfaceStub
