import InterfaceStub.Proofs.PatternPlaces

/-!
# The names that targets stand for

The targets of an assignment are taken apart in three ways: with the type of a literal, as aliases
of a type expression, and as variables of a class.  All three come to the same names, the leaves of
the targets from left to right.

* `literalTargets_eq` and `aliasTargets_eq` put what a module does with a target in terms of
  `bindElement`, whose report is known.  `findings_classVariables` says what is found in a target
  of a class.
* `targets_expand_alike` compares a module and a class, name by name and finding by finding.
-/

namespace InterfaceStub

open Syntax Extraction

namespace Extraction

variable {source : Source}

/-! ## Targets -/

/-- What is found in some targets: everything that is neither a name nor a pattern. -/
def strayFindings (source : Source) (targets : List Node) : List Finding :=
  (targets.flatMap strayTargets).map fun stray =>
    ⟨source.line stray, .inside .assignment stray.kind⟩

theorem findings_gatherAll_map (items : List α) (report : α → Report (List β)) :
    (Report.gatherAll (items.map report)).findings =
      items.flatMap fun item => (report item).findings := by
  rw [Report.gatherAll, Report.findings_map, Report.gather, List.flatMap_map]

/-- A name that is given a value of known type meets the value like any other target. -/
theorem literalTargets_eq {value : Node} {type : LiteralType}
    (htype : inferType source value = .known type) (assignment : Node) (targets : List Node) :
    literalTargets source assignment value type targets =
      Report.gatherAll (targets.map fun target =>
        bindElement source assignment target (some value)) := by
  have hown : typeAt source (some value) = type := by
    rw [typeAt, Option.map_some, htype]
  simp only [literalTargets, bindElement, hown]

/-- In an assignment of a type expression, all but the names meet no value. -/
theorem aliasTargets_eq (assignment : Node) (text : Option String) (targets : List Node) :
    aliasTargets source assignment text targets =
      Report.gatherAll (targets.map fun target =>
        if target.isName then
          pure (text.map fun text => .typeAlias ⟨source.text target, text⟩).toList
        else List.map .attribute <$> bindElement source assignment target none) := by
  refine congrArg Report.gatherAll (List.map_congr_left fun target _ => ?_)
  by_cases hname : target.isName
  · simp [hname]
  · by_cases hpattern : target.isPattern
    · simp [bindElement, hname, hpattern]
    · simp only [bindElement, hname, hpattern]
      rfl

/-- What is found in a target of a class. -/
theorem findings_classVariables (assignment target : Node) :
    (classVariables source assignment target).findings =
      (strayTargets target).map fun stray =>
        ⟨source.line stray, .inside assignment.kind stray.kind⟩ := by
  induction hsize : target.size using Nat.strongRecOn generalizing target with
  | ind size ih =>
    rw [classVariables]
    by_cases hname : target.isName
    · simp [hname, strayTargets]
    · by_cases hpattern : target.isPattern
      · rw [if_neg hname, if_pos hpattern, List.attach_map_val, findings_gatherAll_map,
          strayTargets_of_isPattern hpattern, List.map_flatMap]
        refine List.flatMap_congr fun part hpart => ?_
        exact ih _ (hsize ▸ Node.size_lt_of_mem_parts hpart) part rfl
      · simp [hname, hpattern, strayTargets, flag]

/-! ## Assignments -/

section

variable {statement assignment value : Node} {targets following : List Node}

theorem IsPlainAssignment.moduleAssignment_eq (h : IsPlainAssignment statement assignment)
    (hpair : assignment.targetsAndValue = (targets, some value)) :
    moduleAssignment source statement assignment following =
      (reportTypeComment source statement following >>= fun _ =>
        inferredDeclarations source assignment value targets) := by
  rw [moduleAssignment, h.plain, hpair]

theorem IsPlainAssignment.classAssignment_eq (h : IsPlainAssignment statement assignment)
    (hpair : assignment.targetsAndValue = (targets, some value)) :
    classAssignment source statement assignment following =
      (relyOn [.any, .classVar] >>= fun _ =>
        reportTypeComment source statement following >>= fun _ =>
          Report.gatherAll (targets.map (classVariables source assignment))) := by
  rw [classAssignment, h.plain, hpair]

end

/-- The names that a target declares when it meets a value are all it has. -/
theorem map_name_bindElement (assignment target : Node) (value : Option Node) :
    (bindElement source assignment target value).value.map Attribute.name =
      (targetNames target).map source.text := by
  rw [bindElement_eq, ← map_name_namePlaces, List.map_map, List.map_map]
  rfl

theorem map_name_literalTargets {value : Node} {type : LiteralType}
    (htype : inferType source value = .known type) (assignment : Node) (targets : List Node) :
    (literalTargets source assignment value type targets).value.map Attribute.name =
      (targets.flatMap targetNames).map source.text := by
  rw [literalTargets_eq htype, Report.value_gatherAll_map, List.map_flatMap, List.map_flatMap]
  exact List.flatMap_congr fun target _ => map_name_bindElement assignment target _

theorem findings_literalTargets {assignment value : Node} {type : LiteralType}
    (hkind : assignment.kind = .assignment) (htype : inferType source value = .known type)
    (targets : List Node) :
    (literalTargets source assignment value type targets).findings =
      strayFindings source targets := by
  rw [literalTargets_eq htype, findings_gatherAll_map, strayFindings, List.map_flatMap]
  simp only [bindElement_eq, hkind]

/-- Names are left out if there is nothing that they could be aliases of. -/
theorem map_name_aliasTargets (assignment : Node) (text : Option String) (targets : List Node) :
    (aliasTargets source assignment text targets).value.map Declaration.name =
      (targets.flatMap fun target =>
        if target.isName && text.isNone then [] else targetNames target).map source.text := by
  rw [aliasTargets_eq, Report.value_gatherAll_map, List.map_flatMap, List.map_flatMap]
  refine List.flatMap_congr fun target _ => ?_
  by_cases hname : target.isName
  · cases text with
    | none => simp [hname]
    | some text => simp [hname, targetNames_of_isName, Declaration.name]
  · simp only [hname, Bool.false_and, Bool.false_eq_true, if_false, Report.value_map, List.map_map]
    exact map_name_bindElement assignment target none

/-- Where something can be an alias, every name of the targets is declared. -/
theorem map_name_aliasText {value : Node} {text : String}
    (htext : (typeText source value).value = some text) (assignment : Node)
    (targets : List Node) :
    (aliasTargets source assignment (aliasText source value targets).value targets).value.map
        Declaration.name = (targets.flatMap targetNames).map source.text := by
  rw [map_name_aliasTargets]
  congr 1
  refine List.flatMap_congr fun target htarget => ?_
  by_cases hname : target.isName
  · have hany : targets.any Node.isName := List.any_eq_true.2 ⟨target, htarget, hname⟩
    simp [aliasText, hany, htext]
  · simp [hname]

/-- The names in patterns are those of all targets but the names themselves. -/
theorem flatMap_filter_isPattern (targets : List Node) :
    (targets.filter Node.isPattern).flatMap targetNames =
      targets.flatMap fun target => if target.isName then [] else targetNames target := by
  induction targets with
  | nil => rfl
  | cons target targets ih =>
    rw [List.flatMap_cons, ← ih, List.filter_cons]
    by_cases hpattern : target.isPattern
    · rw [if_pos hpattern, if_neg (Node.not_isName_of_isPattern hpattern), List.flatMap_cons]
    · by_cases hname : target.isName
      · simp [hpattern, hname]
      · simp [hpattern, hname, targetNames]

/-- Where nothing can be an alias, the names of the patterns are declared. -/
theorem map_name_aliasText_of_none {value : Node} (htext : (typeText source value).value = none)
    (assignment : Node) (targets : List Node) :
    (aliasTargets source assignment (aliasText source value targets).value targets).value.map
        Declaration.name =
      ((targets.filter Node.isPattern).flatMap targetNames).map source.text := by
  have hnone : (aliasText source value targets).value = none := by
    rw [aliasText]
    split
    · exact htext
    · rfl
  rw [map_name_aliasTargets, hnone, flatMap_filter_isPattern]
  simp only [Option.isNone_none, Bool.and_true]

/-! ## In a module and in a class -/

section

variable {settings : ExtractSettings} {leaf : PlacedStatement} {assignment value : Node}
  {targets : List Node}

theorem IsPlainAssignment.content_eq (h : IsPlainAssignment leaf.node assignment)
    (hpair : assignment.targetsAndValue = (targets, some value)) :
    (extractStatement settings source leaf).stub.content =
      (inferredDeclarations source assignment value targets).value := by
  rw [h.content_extractStatement, h.moduleAssignment_eq hpair, Report.value_bind]

theorem IsPlainAssignment.findings_classStatement (h : IsPlainAssignment leaf.node assignment)
    (hpair : assignment.targetsAndValue = (targets, some value)) :
    (classStatement source leaf.node leaf.following).findings =
      (reportTypeComment source leaf.node leaf.following).findings ++
        strayFindings source targets := by
  rw [h.classStatement_eq, h.classAssignment_eq hpair, strayFindings, List.map_flatMap]
  simp only [Report.findings_map, Report.findings_bind, relyOn, List.nil_append,
    findings_gatherAll_map, findings_classVariables, h.assigns]

theorem IsPlainAssignment.findings_moduleStatement (h : IsPlainAssignment leaf.node assignment)
    (hpair : assignment.targetsAndValue = (targets, some value)) {type : LiteralType}
    (htype : inferType source value = .known type) :
    (moduleStatement settings source leaf.node leaf.following).findings =
      (reportTypeComment source leaf.node leaf.following).findings ++
        strayFindings source targets := by
  rw [h.moduleStatement_eq, h.moduleAssignment_eq hpair, inferredDeclarations, htype]
  simp only [Report.findings_map, Report.findings_bind, findings_literalTargets h.assigns htype]

end

end Extraction

/-- The targets of an assignment without annotation stand for the same names in a module and in a
class: their leaves, from left to right.  In a class each of them is a variable of the class.  In a
module they are declared if the type of the value is known, or if the value is a type expression
that has a text; if it has none, the targets that are names are left out.  If the type is known, a
module and a class find the same: each leaf that is neither a name nor a pattern, once. -/
theorem targets_expand_alike {leaf : PlacedStatement} {assignment value : Node}
    {targets : List Node} (hplain : IsPlainAssignment leaf.node assignment)
    (hpair : assignment.targetsAndValue = (targets, some value)) (settings : ExtractSettings)
    (source : Source) :
    let names := (targets.flatMap targetNames).map source.text
    let declared := (extractStatement settings source leaf).stub.content.map Declaration.name
    let inModule := moduleStatement settings source leaf.node leaf.following
    let inClass := classStatement source leaf.node leaf.following
    let comment := (reportTypeComment source leaf.node leaf.following).findings
    let strays := strayFindings source targets
    inClass.value = names.map (fun name => .field (.unannotated name)) ∧
    (∀ type, inferType source value = .known type → declared = names) ∧
    (∀ text, inferType source value = .notLiteral → (typeText source value).value = some text →
      declared = names) ∧
    (inferType source value = .notLiteral → (typeText source value).value = none →
      declared = ((targets.filter Node.isPattern).flatMap targetNames).map source.text) ∧
    (∀ type, inferType source value = .known type →
      inModule.findings = comment ++ strays ∧ inClass.findings = comment ++ strays) ∧
    strays.length = (targets.map fun target => (strayTargets target).length).sum := by
  intro names declared inModule inClass comment strays
  have hdeclared : declared =
      (inferredDeclarations source assignment value targets).value.map Declaration.name := by
    rw [← hplain.content_eq hpair]
  refine ⟨?_, fun type htype => ?_, fun text htype htext => ?_, fun htype htext => ?_,
    fun type htype => ?_, ?_⟩
  · rw [hplain.value_classStatement, boundNames, hpair, List.map_map]
    rfl
  · rw [hdeclared, inferredDeclarations, htype, Report.value_map, List.map_map]
    exact map_name_literalTargets htype assignment targets
  · rw [hdeclared, inferredDeclarations, htype]
    exact map_name_aliasText htext assignment targets
  · rw [hdeclared, inferredDeclarations, htype]
    exact map_name_aliasText_of_none htext assignment targets
  · exact ⟨hplain.findings_moduleStatement hpair htype, hplain.findings_classStatement hpair⟩
  · show (strayFindings source targets).length = _
    rw [strayFindings, List.length_map, List.length_flatMap]

/-- The target `x, (y, a.b)`. -/
def chainedTarget : Node :=
  .inner .patternList (some .left) 0 11 [
    .inner .identifier none 0 1 [],
    .token "," 1 2,
    .inner .tuplePattern none 3 11 [
      .token "(" 3 4,
      .inner .identifier none 4 5 [],
      .token "," 5 6,
      .inner .attribute none 7 10 [
        .inner .identifier (some .object) 7 8 [],
        .token "." 8 9,
        .inner .identifier (some .attribute) 9 10 []],
      .token ")" 10 11]]

def lastTarget : Node :=
  .inner .identifier (some .left) 14 15 []

/-- The value `f()`. -/
def calledValue : Node :=
  .inner .call (some .right) 18 21 [
    .inner .identifier (some (.other "function")) 18 19 [],
    .inner (.other "argument_list") (some (.other "arguments")) 19 21 [
      .token "(" 19 20,
      .token ")" 20 21]]

def lastAssignment : Node :=
  .inner .assignment (some .right) 14 21 [lastTarget, .token "=" 16 17, calledValue]

/-- The assignment `x, (y, a.b) = w = f()`. -/
def chainedAssignment : Node :=
  .inner .assignment none 0 21 [chainedTarget, .token "=" 12 13, lastAssignment]

/-- The assignment as the only statement of a block. -/
def chainedStatement : PlacedStatement :=
  ⟨⟨[0], .inner .expressionStatement none 0 21 [chainedAssignment]⟩, []⟩

def chainedSource : Source :=
  .ofText "chained.py" "x, (y, a.b) = w = f()\n"

/-- The names are `x`, `y` and `w` in both, and `a.b` is found once in both. -/
theorem chainedStatement_expands_alike :
    IsPlainAssignment chainedStatement.node chainedAssignment ∧
    chainedAssignment.targetsAndValue = ([chainedTarget, lastTarget], some calledValue) ∧
    inferType chainedSource calledValue = .known .any ∧
    (extractStatement {} chainedSource chainedStatement).stub.content.map Declaration.name =
      ["x", "y", "w"] ∧
    (classStatement chainedSource chainedStatement.node []).value.map ClassMember.name =
      ["x", "y", "w"] ∧
    (moduleStatement {} chainedSource chainedStatement.node []).findings.length = 1 ∧
    (classStatement chainedSource chainedStatement.node []).findings.length = 1 := by
  have hplain : IsPlainAssignment chainedStatement.node chainedAssignment := ⟨⟨rfl, rfl, rfl⟩, rfl⟩
  have hpair : chainedAssignment.targetsAndValue =
      ([chainedTarget, lastTarget], some calledValue) := by
    have hlast : lastAssignment.targetsAndValue = ([lastTarget], some calledValue) := by
      rw [Node.targetsAndValue_eq]
      rfl
    rw [Node.targetsAndValue_eq]
    show ([chainedTarget] ++ lastAssignment.targetsAndValue.1, lastAssignment.targetsAndValue.2) = _
    rw [hlast]
    rfl
  have htype : inferType chainedSource calledValue = .known .any := by decide +kernel
  obtain ⟨hclass, hknown, -, -, hfindings, -⟩ :=
    targets_expand_alike hplain hpair {} chainedSource
  obtain ⟨hmodule, hmember⟩ := hfindings _ htype
  refine ⟨hplain, hpair, htype, (hknown _ htype).trans ?_, ?_, ?_, ?_⟩
  · decide +kernel
  · refine (congrArg (List.map ClassMember.name) hclass).trans ?_
    decide +kernel
  · refine (congrArg List.length hmodule).trans ?_
    decide +kernel
  · refine (congrArg List.length hmember).trans ?_
    decide +kernel

end InterfaceStub
