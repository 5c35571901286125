import InterfaceStub.Proofs.Composition
import InterfaceStub.Proofs.OwnDefaults
import InterfaceStub.Proofs.RoundTrip
import InterfaceStub.Proofs.TypeTexts

/-!
# The form of what is extracted

Whatever the tree, accepted or not, the declarations of a module have a form of their own: the
parameters with a default come last, a class has bases and a body and nothing else, `ClassVar[...]`
is taken off every type that has it, and an alias stands for a path or for a path with arguments.

* Where things come from.  `ModuleItemFrom` and `ClassMemberFrom` say which part of a statement
  gives which item; both have one case for each sort of statement that gives any.
* Functions.  `functionStub_defaultsLast` holds for every parameter list, since the values are
  aligned and not read off.
* Aliases.  A value that is no literal and has a text is a path, or has brackets after a path:
  `aliasReading_of_typeText` rules out everything else.
* Assignments.  `boundNames` are the names that an assignment binds, and `assignedForm_of_mem` is
  the inversion of what it declares in a module.
* `extract_extractedForm` goes over the leaf statements of the module and of its classes.
-/

namespace InterfaceStub

open Syntax Extraction

namespace Extraction

variable {settings : ExtractSettings} {source : Source}

/-! ## Where things come from -/

theorem Report.mem_value_gatherAll {reports : List (Report (List α))} {item : α} :
    item ∈ (Report.gatherAll reports).value ↔ ∃ report ∈ reports, item ∈ report.value := by
  simp [Report.gatherAll, Report.gather]

theorem Report.value_gatherAll_map (items : List α) (report : α → Report (List β)) :
    (Report.gatherAll (items.map report)).value =
      items.flatMap fun item => (report item).value := by
  simp only [Report.gatherAll, Report.gather, Report.value_map, List.map_map, Function.comp_def,
    List.flatMap_def]

/-- The definition and its decorators are parts of the statement. -/
structure DefinedIn (statement definition : Node) (decorators : List Node) : Prop where
  definition : definition ∈ statement.nodes
  decorators : ∀ decorator ∈ decorators, decorator ∈ statement.nodes

theorem definedIn_self (statement : Node) : DefinedIn statement statement [] :=
  ⟨statement.mem_nodes_self, by simp⟩

theorem definedIn_decorated {statement definition : Node}
    (h : statement.child? .definition = some definition) :
    DefinedIn statement definition statement.decorators := by
  refine ⟨Node.mem_nodes_of_child? h, fun decorator hdecorator => ?_⟩
  exact Node.mem_nodes_of_mem_parts (List.mem_filter.1 hdecorator).1

/-- The item is an import, or a declaration of this part of a statement. -/
inductive ModuleItemFrom (settings : ExtractSettings) (source : Source) (statement : Node)
    (following : List Node) : ModuleItem → Prop where
  | import {imported : Import} (hsort : statement.statement = .importNames)
      (himported : imported ∈ importNames source statement) :
      ModuleItemFrom settings source statement following (.import imported)
  | importFrom (hsort : statement.statement = .importFrom) :
      ModuleItemFrom settings source statement following
        (.importFrom (importFrom source statement))
  | assigned {assignment : Node} {declared : Declaration}
      (hfirst : statement.firstPart? = some assignment)
      (hdeclared : declared ∈ (moduleAssignment source statement assignment following).value) :
      ModuleItemFrom settings source statement following (.declaration declared)
  | function {definition : Node} {decorators : List Node}
      (hsort : definition.statement = .function)
      (hdefined : DefinedIn statement definition decorators) :
      ModuleItemFrom settings source statement following
        (.declaration (.function (functionStub source definition decorators).value))
  | classStub {definition : Node} {decorators : List Node}
      (hsort : definition.statement = .classDefinition)
      (hdefined : DefinedIn statement definition decorators) :
      ModuleItemFrom settings source statement following
        (.declaration (.classStub (classStub settings source definition decorators).value))

theorem moduleItemFrom_of_definition {statement definition : Node}
    {decorators following : List Node} {item : ModuleItem}
    (hdefined : DefinedIn statement definition decorators)
    (h : item ∈ (moduleDefinition settings source definition decorators).value) :
    ModuleItemFrom settings source statement following item := by
  rw [moduleDefinition] at h
  split at h
  · rename_i hsort
    cases List.mem_singleton.1 h
    exact .function hsort hdefined
  · rename_i hsort
    cases List.mem_singleton.1 h
    exact .classStub hsort hdefined
  · cases h

theorem moduleItemFrom_of_mem {statement : Node} {following : List Node} {item : ModuleItem}
    (h : item ∈ (moduleStatement settings source statement following).value) :
    ModuleItemFrom settings source statement following item := by
  rw [moduleStatement] at h
  split at h
  · rw [moduleExpression] at h
    split at h
    · cases h
    · rename_i inner rest hparts
      split at h
      · obtain ⟨declared, hdeclared, rfl⟩ := List.mem_map.1 h
        exact .assigned (by simp [Node.firstPart?, hparts]) hdeclared
      · cases h
      · simp only at h
        split at h
        · cases h
        · split at h <;> cases h
  · rename_i hsort
    obtain ⟨imported, himported, rfl⟩ := List.mem_map.1 h
    exact .import hsort himported
  · rename_i hsort
    cases List.mem_singleton.1 h
    exact .importFrom hsort
  · split at h
    · rename_i definition hdefinition
      exact moduleItemFrom_of_definition (definedIn_decorated hdefinition) h
    · cases h
  · exact moduleItemFrom_of_definition (definedIn_self statement) h

/-- The member is what this part of a statement declares. -/
inductive ClassMemberFrom (source : Source) (statement : Node) (following : List Node) :
    ClassMember → Prop where
  | assigned {assignment : Node} {declared : ClassField}
      (hfirst : statement.firstPart? = some assignment)
      (hdeclared : declared ∈ (classAssignment source statement assignment following).value) :
      ClassMemberFrom source statement following (.field declared)
  | method {definition : Node} {decorators : List Node}
      (hsort : definition.statement = .function)
      (hdefined : DefinedIn statement definition decorators) :
      ClassMemberFrom source statement following
        (.method (functionStub source definition decorators).value)

theorem classMemberFrom_of_mem {statement : Node} {following : List Node} {member : ClassMember}
    (h : member ∈ (classStatement source statement following).value) :
    ClassMemberFrom source statement following member := by
  rw [classStatement] at h
  split at h
  · cases h
  · rw [classExpression] at h
    split at h
    · rename_i inner hfirst
      split at h
      · obtain ⟨declared, hdeclared, rfl⟩ := List.mem_map.1 h
        exact .assigned hfirst hdeclared
      · split at h <;> cases h
    · cases h
  · rename_i hsort
    cases List.mem_singleton.1 h
    exact .method hsort (definedIn_self statement)
  · rw [decoratedMember] at h
    split at h
    · cases h
    · rename_i definition hdefinition
      split at h
      · rename_i hsort
        cases List.mem_singleton.1 h
        exact .method hsort (definedIn_decorated hdefinition)
      · cases h
  · cases h

end Extraction

/-! ## Functions -/

/-- The positional parameters with a default come last, and no starred one has a default. -/
structure FunctionStub.DefaultsLast (function : FunctionStub) : Prop where
  args : function.args.Pairwise fun first second => first.hasDefault → second.hasDefault
  varArg : ∀ argument ∈ function.varArg, argument.hasDefault = false
  kwArg : ∀ argument ∈ function.kwArg, argument.hasDefault = false

namespace Extraction

variable {settings : ExtractSettings} {source : Source}

theorem pairwise_positionalArguments (source : Source) (parameters : Node)
    (positional : List Parameter) :
    (positionalArguments source parameters positional).value.Pairwise fun first second =>
      first.hasDefault → second.hasDefault := by
  cases haligned : alignRight positional (positional.filterMap Parameter.value) with
  | ok pairs =>
    have hsorted := pairwise_of_alignRight haligned
    rw [← map_hasDefault_positionalArguments haligned] at hsorted
    exact List.pairwise_map.1 hsorted
  | error error =>
    rw [positionalArguments, haligned]
    exact List.Pairwise.nil

/-- Only a parameter that is given by name keeps a default among those that are not positional. -/
theorem hasDefault_of_mem_withRole {role : Role} {parameters : List Parameter} {argument : Argument}
    (hrole : role ≠ .keywordOnly)
    (h : argument ∈ withRole role (Report.gather (parameters.map (·.namedArgument source))).value) :
    argument.hasDefault = false := by
  obtain ⟨⟨own, _⟩, hpair, rfl⟩ := List.mem_map.1 h
  obtain ⟨hpair, hown⟩ := List.mem_filter.1 hpair
  rw [Report.gather, List.map_map] at hpair
  obtain ⟨parameter, _, hparameter⟩ := List.mem_map.1 hpair
  cases hparameter
  have hother : parameter.role ≠ .keywordOnly := by
    rintro heq
    exact hrole (heq ▸ (eq_of_beq hown).symm)
  show (parameter.role == .keywordOnly && parameter.value.isSome) = false
  simp [hother]

theorem parameterList_defaultsLast (source : Source) (name : String) (parameters : Node) :
    (parameterList source name parameters).value.DefaultsLast := by
  rw [parameterList]
  constructor
  · exact pairwise_positionalArguments source parameters _
  · intro argument hargument
    exact hasDefault_of_mem_withRole (by decide) (List.mem_of_getLast? hargument)
  · intro argument hargument
    exact hasDefault_of_mem_withRole (by decide) (List.mem_of_getLast? hargument)

theorem functionStub_defaultsLast (source : Source) (definition : Node) (decorators : List Node) :
    (functionStub source definition decorators).value.DefaultsLast := by
  -- The annotation of the result and the decorators come on top of the parameters.
  have hkept {signature : FunctionStub} (h : signature.DefaultsLast) (returns : Option String)
      (paths : List String) : { signature with returns, decorators := paths }.DefaultsLast :=
    ⟨h.args, h.varArg, h.kwArg⟩
  rw [functionStub]
  simp only [Report.value_bind]
  split
  · simp only [Report.value_bind]
    split <;> exact hkept (parameterList_defaultsLast source _ _) _ _
  · simp only [Report.value_bind]
    split <;> exact hkept ⟨List.Pairwise.nil, by simp, by simp⟩ _ _

/-! ## Aliases -/

/-- The text of what an alias can stand for: a dotted path, or one with arguments in brackets. -/
inductive AliasReading (source : Source) (value : Node) : String → Prop where
  | path {names : List Node} (hpath : PathOf value names) :
      AliasReading source value (dottedText source names)
  | applied {base : Node} {names arguments : List Node} {texts : List String}
      (hkind : value.unwrapped.kind ∈ [Kind.subscript, .genericType])
      (hbase : base ∈ value.unwrapped.children) (hpath : PathOf base names)
      (harguments : ∀ argument ∈ arguments, argument ∈ value.unwrapped.nodes)
      (htexts : HaveTexts source arguments texts) :
      AliasReading source value (applied (dottedText source names) texts)

/-- The text of a value that is no literal is that of a path, or of a path with arguments. -/
theorem aliasReading_of_typeText {value : Node} {text : String}
    (hliteral : inferType source value = .notLiteral)
    (h : (typeText source value).value = some text) : AliasReading source value text := by
  cases typeReading_of_typeText h with
  | path hpath => exact .path hpath
  | subscript hkind hvalue hpath htexts =>
    refine .applied (by simp [hkind]) ?_ hpath ?_ htexts
    · exact Node.mem_children_of_mem_childrenAt (Node.mem_childrenAt_of_child? hvalue)
    · exact fun argument hargument => mem_nodes_of_mem_subscriptArguments hargument
  | generic hkind hbase harguments hpath htexts =>
    refine .applied (by simp [hkind]) ?_ hpath ?_ htexts
    · exact Node.mem_children_of_mem_parts (Node.mem_parts_of_firstPart? hbase)
    · exact fun argument hargument => mem_nodes_of_genericArguments? harguments hargument
  -- What is left are literals, which have a type or are refused.
  | noneType hkind =>
    have hshape : source.shapeOf value = .noneValue := Source.shapeOf_of_kind hkind rfl
    rw [inferType, hshape] at hliteral
    cases hliteral
  | ellipsis hkind =>
    have hshape : source.shapeOf value = .ellipsis := Source.shapeOf_of_kind hkind rfl
    rw [inferType, hshape] at hliteral
    cases hliteral
  | list hkind =>
    have hshape : source.shapeOf value = .list := Source.shapeOf_of_kind hkind rfl
    rw [inferType, hshape] at hliteral
    cases hliteral
  | string hshape =>
    rw [inferType, hshape] at hliteral
    cases hliteral

/-! ## Assignments -/

/-- The names of a target, left to right. -/
def targetNames (target : Node) : List Node :=
  if target.isName then [target]
  else if target.isPattern then target.parts.attach.flatMap fun part => targetNames part.1
  else []
termination_by target.size
decreasing_by exact Node.size_lt_of_mem_parts part.2

/-- The names that an assignment binds, left to right. -/
def boundNames (assignment : Node) : List Node :=
  assignment.targetsAndValue.1.flatMap targetNames

theorem targetNames_of_isName {target : Node} (h : target.isName) :
    targetNames target = [target] := by
  rw [targetNames, if_pos h]

theorem targetNames_of_isPattern {target : Node} (hname : ¬target.isName) (h : target.isPattern) :
    targetNames target = target.parts.flatMap targetNames := by
  rw [targetNames, if_neg hname, if_pos h, flatMap_attach_val]

theorem mem_targetNames {target name : Node} (hname : name ∈ targetNames target) :
    name.isName ∧ name ∈ target.nodes := by
  induction hsize : target.size using Nat.strongRecOn generalizing target with
  | ind size ih =>
    by_cases htarget : target.isName
    · rw [targetNames_of_isName htarget] at hname
      rw [List.mem_singleton.1 hname]
      exact ⟨htarget, target.mem_nodes_self⟩
    · by_cases hpattern : target.isPattern
      · rw [targetNames_of_isPattern htarget hpattern] at hname
        obtain ⟨part, hpart, hname⟩ := List.mem_flatMap.1 hname
        obtain ⟨hisName, hmem⟩ := ih _ (hsize ▸ Node.size_lt_of_mem_parts hpart) hname rfl
        exact ⟨hisName, Node.mem_nodes_trans hmem (Node.mem_nodes_of_mem_parts hpart)⟩
      · rw [targetNames, if_neg htarget, if_neg hpattern] at hname
        cases hname

theorem mem_nodes_of_mem_targets {assignment target : Node}
    (htarget : target ∈ assignment.targetsAndValue.1) : target ∈ assignment.nodes := by
  fun_induction Node.targetsAndValue assignment with
  | case1 assignment own right hright hkind targets found hrest ih =>
    rw [hrest] at ih
    rcases List.mem_append.1 htarget with hown | hlater
    · exact Node.mem_nodes_of_child? (Option.mem_toList.1 hown)
    · exact Node.mem_nodes_trans (ih hlater) (Node.mem_nodes_of_child? hright)
  | case2 | case3 => exact Node.mem_nodes_of_child? (Option.mem_toList.1 htarget)

/-- The attribute has one of these names and the type of a literal. -/
def IsInferred (source : Source) (names : List Node) (declared : Attribute) : Prop :=
  ∃ name ∈ names, ∃ type : LiteralType, declared = ⟨source.text name, type.spelling⟩

theorem IsInferred.of_mem {names : List Node} {declared : Attribute} {target : Node}
    {targets : List Node} (h : IsInferred source names declared)
    (hnames : names = targetNames target) (htarget : target ∈ targets) :
    IsInferred source (targets.flatMap targetNames) declared := by
  obtain ⟨name, hname, type, heq⟩ := h
  exact ⟨name, List.mem_flatMap.2 ⟨target, htarget, hnames ▸ hname⟩, type, heq⟩

theorem isInferred_of_mem_bindName {name : Node} {type : LiteralType} {declared : Attribute}
    (h : declared ∈ (bindName source name type).value) : IsInferred source [name] declared :=
  ⟨name, List.mem_singleton.2 rfl, type, List.mem_singleton.1 h⟩

theorem isInferred_of_mem_bindPattern {assignment pattern : Node} {value : Option Node}
    {declared : Attribute} (h : declared ∈ (bindPattern source assignment pattern value).value) :
    IsInferred source (pattern.parts.flatMap targetNames) declared := by
  induction hsize : pattern.size using Nat.strongRecOn generalizing pattern value with
  | ind size ih =>
    rw [bindPattern, Report.mem_value_gatherAll] at h
    obtain ⟨report, hreport, h⟩ := h
    obtain ⟨⟨element, own⟩, -, rfl⟩ := List.mem_map.1 hreport
    simp only at h
    split at h
    · rename_i hname
      exact (isInferred_of_mem_bindName h).of_mem (targetNames_of_isName hname).symm element.2
    · rename_i hname
      split at h
      · rename_i hpattern
        have hinner := ih _ (hsize ▸ Node.size_lt_of_mem_parts element.2) h rfl
        exact hinner.of_mem (targetNames_of_isPattern hname hpattern).symm element.2
      · cases h

theorem isInferred_of_mem_literalTargets {assignment value : Node} {type : LiteralType}
    {targets : List Node} {declared : Attribute}
    (h : declared ∈ (literalTargets source assignment value type targets).value) :
    IsInferred source (targets.flatMap targetNames) declared := by
  rw [literalTargets, Report.mem_value_gatherAll] at h
  obtain ⟨report, hreport, h⟩ := h
  obtain ⟨target, htarget, rfl⟩ := List.mem_map.1 hreport
  split at h
  · rename_i hname
    exact (isInferred_of_mem_bindName h).of_mem (targetNames_of_isName hname).symm htarget
  · rename_i hname
    split at h
    · rename_i hpattern
      exact (isInferred_of_mem_bindPattern h).of_mem
        (targetNames_of_isPattern hname hpattern).symm htarget
    · cases h

/-- What an assignment can declare: the name that it annotates, names with a type that is inferred,
and aliases of its value. -/
inductive AssignedForm (source : Source) (assignment : Node) : Declaration → Prop where
  | annotated {type : Node} {name text : String}
      (htype : assignment.child? .type = some type)
      (hvalue : (annotatedName source assignment type).value = some (name, text)) :
      AssignedForm source assignment (.attribute ⟨name, text⟩)
  | inferred {declared : Attribute}
      (hinferred : IsInferred source (boundNames assignment) declared) :
      AssignedForm source assignment (.attribute declared)
  | typeAlias {name value : Node} {text : String} (hname : name ∈ boundNames assignment)
      (hvalue : assignment.targetsAndValue.2 = some value)
      (hliteral : inferType source value = .notLiteral)
      (htext : (typeText source value).value = some text) :
      AssignedForm source assignment (.typeAlias ⟨source.text name, text⟩)

theorem assignedForm_of_mem_aliasTargets {assignment value : Node} {targets : List Node}
    {declared : Declaration} (hpair : assignment.targetsAndValue = (targets, some value))
    (hliteral : inferType source value = .notLiteral)
    (h : declared ∈
      (aliasTargets source assignment (aliasText source value targets).value targets).value) :
    AssignedForm source assignment declared := by
  have hnames : boundNames assignment = targets.flatMap targetNames := by rw [boundNames, hpair]
  rw [aliasTargets, Report.mem_value_gatherAll] at h
  obtain ⟨report, hreport, h⟩ := h
  obtain ⟨target, htarget, rfl⟩ := List.mem_map.1 hreport
  split at h
  · rename_i hname
    obtain ⟨text, htext, rfl⟩ := Option.map_eq_some_iff.1 (Option.mem_toList.1 h)
    rw [aliasText] at htext
    split at htext
    · refine .typeAlias ?_ (by rw [hpair]) hliteral htext
      rw [hnames]
      refine List.mem_flatMap.2 ⟨target, htarget, ?_⟩
      rw [targetNames_of_isName hname]
      exact List.mem_singleton.2 rfl
    · cases htext
  · rename_i hname
    split at h
    · rename_i hpattern
      obtain ⟨declared, hdeclared, rfl⟩ := List.mem_map.1 h
      apply AssignedForm.inferred
      rw [hnames]
      exact (isInferred_of_mem_bindPattern hdeclared).of_mem
        (targetNames_of_isPattern hname hpattern).symm htarget
    · cases h

theorem assignedForm_of_mem {statement assignment : Node} {following : List Node}
    {declared : Declaration}
    (h : declared ∈ (moduleAssignment source statement assignment following).value) :
    AssignedForm source assignment declared := by
  rw [moduleAssignment] at h
  split at h
  · rename_i annotation htype
    obtain ⟨⟨name, text⟩, hvalue, rfl⟩ := Option.map_eq_some_iff.1 (Option.mem_toList.1 h)
    exact .annotated htype hvalue
  · split at h
    · rename_i targets value hpair
      rw [Report.value_bind, inferredDeclarations] at h
      split at h
      · obtain ⟨declared, hdeclared, rfl⟩ := List.mem_map.1 h
        apply AssignedForm.inferred
        rw [boundNames, hpair]
        exact isInferred_of_mem_literalTargets hdeclared
      · cases h
      · rename_i hliteral
        exact assignedForm_of_mem_aliasTargets hpair hliteral h
    · cases h

/-! ## Classes -/

/-- A target in a class declares the names that it binds. -/
theorem value_classVariables (assignment target : Node) :
    (classVariables source assignment target).value =
      (targetNames target).map fun name => .unannotated (source.text name) := by
  induction hsize : target.size using Nat.strongRecOn generalizing target with
  | ind size ih =>
    rw [classVariables, targetNames]
    split
    · rfl
    · split
      · have hpart (part : { part // part ∈ target.parts }) :=
          ih _ (hsize ▸ Node.size_lt_of_mem_parts part.2) part.1 rfl
        simp only [Report.value_gatherAll_map, hpart, List.map_flatMap]
      · rfl

theorem classVarType?_qualified_append (inner : String) :
    classVarType? ("typing.ClassVar[" ++ inner ++ "]") = some inner := by
  have hchars : ("typing.ClassVar[" ++ inner ++ "]").toList =
      "typing.ClassVar[".toList ++ (inner.toList ++ [']']) := by simp
  rw [classVarType?, hchars, textAfter?_append]
  simp

end Extraction

/-- The text is a type with `ClassVar[...]` around it. -/
def IsClassVarType (text : String) : Prop :=
  ∃ inner, text = "ClassVar[" ++ inner ++ "]" ∨ text = "typing.ClassVar[" ++ inner ++ "]"

/-- A variable of the instances has no `ClassVar[...]` around its type, and the defaults of a method
come last. -/
def ClassMember.ExtractedForm : ClassMember → Prop
  | .field declared => declared.classVar = false →
      classVarType? declared.annotation = none ∧ ¬IsClassVarType declared.annotation
  | .method declared => declared.DefaultsLast

/-- A class has neither keywords nor decorators, and its members have the form of members. -/
structure ClassStub.ExtractedForm (cls : ClassStub) : Prop where
  keywords : cls.keywords = []
  decorators : cls.decorators = []
  body : ∀ member ∈ cls.body, member.ExtractedForm

namespace Extraction

variable {settings : ExtractSettings} {source : Source}

theorem extractedForm_annotatedField (name text : String) :
    (ClassMember.field (annotatedField name text)).ExtractedForm := by
  rw [annotatedField]
  split
  · intro hinstance
    cases hinstance
  · rename_i hplain
    intro _
    refine ⟨hplain, ?_⟩
    rintro ⟨inner, rfl | rfl⟩
    · cases hplain.symm.trans (classVarType?_append inner)
    · cases hplain.symm.trans (classVarType?_qualified_append inner)

theorem extractedForm_of_classMemberFrom {statement : Node} {following : List Node}
    {member : ClassMember} (h : ClassMemberFrom source statement following member) :
    member.ExtractedForm := by
  cases h with
  | method => exact functionStub_defaultsLast source _ _
  | assigned _ hdeclared =>
    rw [classAssignment] at hdeclared
    split at hdeclared
    · obtain ⟨⟨name, text⟩, _, rfl⟩ := Option.map_eq_some_iff.1 (Option.mem_toList.1 hdeclared)
      exact extractedForm_annotatedField name text
    · obtain ⟨report, hreport, hdeclared⟩ := Report.mem_value_gatherAll.1 hdeclared
      obtain ⟨target, _, rfl⟩ := List.mem_map.1 hreport
      rw [value_classVariables] at hdeclared
      obtain ⟨name, _, rfl⟩ := List.mem_map.1 hdeclared
      intro hinstance
      cases hinstance

theorem classStub_extractedForm (settings : ExtractSettings) (source : Source) (definition : Node)
    (decorators : List Node) :
    (classStub settings source definition decorators).value.ExtractedForm := by
  refine ⟨rfl, rfl, fun member hmember => ?_⟩
  change member ∈ (classBody settings source definition).value at hmember
  rw [classBody_eq_bodyLeaves] at hmember
  obtain ⟨report, hreport, hmember⟩ := Report.mem_value_gatherAll.1 hmember
  obtain ⟨leaf, _, rfl⟩ := List.mem_map.1 hreport
  exact extractedForm_of_classMemberFrom (classMemberFrom_of_mem hmember)

end Extraction

/-! ## Modules -/

/-- The form of a declaration of the module with this tree.  An alias stands for the value of one of
its assignments. -/
def Declaration.ExtractedForm (source : Source) (root : Node) : Declaration → Prop
  | .attribute _ => True
  | .typeAlias declared => ∃ assignment ∈ root.nodes, ∃ value,
      assignment.targetsAndValue.2 = some value ∧ AliasReading source value declared.target
  | .function declared => declared.DefaultsLast
  | .classStub declared => declared.ExtractedForm

theorem Extraction.extractedForm_of_moduleItemFrom {settings : ExtractSettings} {source : Source}
    {root statement : Node} {following : List Node} {declared : Declaration}
    (hstatement : statement ∈ root.nodes)
    (h : ModuleItemFrom settings source statement following (.declaration declared)) :
    declared.ExtractedForm source root := by
  cases h with
  | function => exact functionStub_defaultsLast source _ _
  | classStub => exact classStub_extractedForm settings source _ _
  | @assigned assignment _ hfirst hdeclared =>
    cases assignedForm_of_mem hdeclared with
    | annotated => trivial
    | inferred => trivial
    | typeAlias _ hvalue hliteral htext =>
      have hmem := Node.mem_nodes_trans (Node.mem_nodes_of_firstPart? hfirst) hstatement
      exact ⟨assignment, hmem, _, hvalue, aliasReading_of_typeText hliteral htext⟩

/-- What is extracted has the form of a stub, whatever the tree is. -/
theorem extract_extractedForm (settings : ExtractSettings) (source : Source) (root : Node) :
    ∀ declared ∈ (extract settings source root).stub.content,
      declared.ExtractedForm source root := by
  intro declared hdeclared
  rw [(extract_joins settings source root).content, List.mem_flatMap] at hdeclared
  obtain ⟨part, hpart, hdeclared⟩ := hdeclared
  obtain ⟨leaf, hleaf, rfl⟩ := List.mem_map.1 hpart
  obtain ⟨item, hitem, hitem'⟩ := List.mem_filterMap.1 hdeclared
  cases item <;> cases hitem'
  exact extractedForm_of_moduleItemFrom (mem_nodes_of_mem_leafStatements hleaf)
    (moduleItemFrom_of_mem hitem)

/-- A class with the variable `x: int` and the method `def f(self, a=1): pass`. -/
def variableClass : Node :=
  .inner .classDefinition none 0 46 [
    .token "class" 0 5,
    .inner .identifier (some .name) 6 7 [],
    .token ":" 7 8,
    .inner .block (some .body) 13 46 [
      .inner .expressionStatement none 13 19 [
        .inner .assignment none 13 19 [
          .inner .identifier (some .left) 13 14 [],
          .token ":" 14 15,
          .inner .type (some .type) 16 19 [.inner .identifier none 16 19 []]]],
      .inner .functionDefinition none 24 46 [
        .token "def" 24 27,
        .inner .identifier (some .name) 28 29 [],
        .inner .parameters (some .parameters) 29 40 [
          .token "(" 29 30,
          .inner .identifier none 30 34 [],
          .token "," 34 35,
          .inner .defaultParameter none 36 39 [
            .inner .identifier (some .name) 36 37 [],
            .token "=" 37 38,
            .inner .integer (some .value) 38 39 []],
          .token ")" 39 40],
        .token ":" 40 41,
        .inner .block (some .body) 42 46 [
          .inner .passStatement none 42 46 [.token "pass" 42 46]]]]]

def variableClassModule : Node :=
  .inner (.other "module") none 0 47 [variableClass]

def variableClassSource : Source :=
  .ofText "variable.py" "class C:\n    x: int\n    def f(self, a=1): pass\n"

/-- What the class is extracted to. -/
def variableClassStub : ClassStub where
  name := "C"
  body := [
    .field ⟨"x", "int", false⟩,
    .method { name := "f", args := [⟨"self", none, false⟩, ⟨"a", none, true⟩] }]

theorem variableClassStub_extractedForm :
    .classStub variableClassStub ∈
      (extract {} variableClassSource variableClassModule).stub.content ∧
    (Declaration.classStub variableClassStub).ExtractedForm variableClassSource
      variableClassModule := by
  have hmem : .classStub variableClassStub ∈
      (extract {} variableClassSource variableClassModule).stub.content := by
    have hcontent : (extract {} variableClassSource variableClassModule).stub.content =
        [.classStub variableClassStub] := by decide +kernel
    rw [hcontent]
    exact List.mem_singleton.2 rfl
  exact ⟨hmem, extract_extractedForm {} variableClassSource variableClassModule _ hmem⟩

end InterfaceStub
