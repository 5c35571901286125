import InterfaceStub.Extraction.ModuleBody
import InterfaceStub.Proofs.Erasure
import Mathlib.Data.List.TakeWhile

/-!
# Declarations in a tree without the parts that a stub does not show

The signature of a function and what an assignment declares are the same in the erased tree.

* Signatures.  An entry of a parameter list is read through its labels and its annotation, and
  `ParameterEntry.trim` keeps these.  `functionStub_kept` is the result for a function.
* Assignments.  Of a value that is not shown only the presence is read.  `moduleAssignment_kept` and
  `classAssignment_kept` are the results.
-/

namespace InterfaceStub

open Syntax Extraction

namespace Syntax

/-! ## Children in given parts -/

namespace Node

theorem field_of_child? {node child : Node} {field : Field} (h : node.child? field = some child) :
    child.field = some field :=
  eq_of_beq (List.mem_filter.1 (mem_childrenAt_of_child? h)).2

/-- What is kept of the first child that plays one part. -/
theorem child?_kept_of_below {keeping target : Keeping} {node : Node} {field : Field}
    (hall : keeping ≠ .bare ∧ keeping ≠ .lead)
    (h : ∀ label : Label, label.field = some field →
      keeping.below node.kind (node.children.any (·.field == some .type)) label = target) :
    (node.kept keeping).child? field = (node.child? field).map (kept target) := by
  rw [child?_of_map (children_kept hall node) (fun child => label_kept _ child)]
  refine Option.map_congr fun child hchild => ?_
  rw [h child.label (field_of_child? hchild)]

theorem kept_bare_kept (keeping : Keeping) (node : Node) :
    (node.kept keeping).kept .bare = node.kept .bare := by
  cases node with
  | mk label children => cases keeping <;> rfl

end Node

/-- Whether a node of this kind is no expression, no target and no statement that can be extracted,
so that nothing below it is read. -/
def Kind.isInert : Kind → Bool
  | .block | .assignment | .defaultParameter | .typedDefaultParameter | .other _ => true
  | _ => false

/-- A child is kept in the way in which its parent is, or nothing below it is read. -/
theorem keepingIn_cases (scope : Scope) (parent : Kind) (child : Label) :
    keepingIn scope parent child = .all scope ∨ child.kind.isInert := by
  unfold keepingIn
  split
  case h_1 | h_2 =>
    split
    · rename_i hbody
      exact .inr (by simp [(Bool.and_eq_true_iff.1 hbody).2 |> eq_of_beq, Kind.isInert])
    · exact .inl rfl
  case h_3 | h_4 =>
    split
    · rename_i hdefault
      rcases Bool.or_eq_true_iff.1 hdefault with hkind | hkind <;>
        exact .inr (by simp [eq_of_beq hkind, Kind.isInert])
    · exact .inl rfl
  case h_5 =>
    split
    · rename_i hkind
      exact .inr (by simp [eq_of_beq hkind, Kind.isInert])
    · exact .inl rfl
  case h_6 =>
    split
    · rename_i hhandler
      rcases Bool.or_eq_true_iff.1 (Bool.and_eq_true_iff.1 hhandler).1 with hkind | hkind <;>
        exact .inr (by simp [eq_of_beq hkind, Kind.isInert])
    · exact .inl rfl
  case h_7 => exact .inl rfl

end Syntax

namespace Extraction

variable (source : Source) (scope : Scope)

theorem commentDeclaresType_kept (keeping : Keeping) (node : Node) :
    source.commentDeclaresType (node.kept keeping) = source.commentDeclaresType node := by
  simp [Source.commentDeclaresType]

/-! ## Signatures -/

/-- An entry with its annotation changed, and nothing below any other node. -/
def ParameterEntry.trim (keep : Node → Node) : ParameterEntry → ParameterEntry
  | .plain name type value => .plain (name.kept .bare) (type.map keep) (value.map (·.kept .bare))
  | .varArg name type => .varArg (name.kept .bare) (type.map keep)
  | .kwArg name type => .kwArg (name.kept .bare) (type.map keep)
  | .star => .star
  | .slash node => .slash (node.kept .bare)
  | .typeComment node => .typeComment (node.kept .bare)
  | .unsupported parent child => .unsupported (parent.kept .bare) (child.kept .bare)
  | .nothing => .nothing

theorem splatEntry_kept {parameters other splat : Node}
    (hother : other.kept .bare = parameters.kept .bare)
    (hsplat : splat.kind = .listSplatPattern ∨ splat.kind = .dictionarySplatPattern)
    (type : Option Node) :
    (splatEntry other (splat.kept (.all scope)) (type.map (·.kept (.all scope)))).trim id =
      (splatEntry parameters splat type).trim (·.kept (.all scope)) := by
  have huniform : splat.kind.isUniform := by rcases hsplat with h | h <;> rw [h] <;> rfl
  rw [splatEntry, Node.firstPart?_kept huniform, splatEntry]
  cases splat.firstPart? with
  | none => simp [ParameterEntry.trim, Node.kept_bare_kept, hother]
  | some name =>
    simp only [Option.map_some, Node.kind_kept]
    split
    · split <;> simp [ParameterEntry.trim, Node.kept_bare_kept]
    · simp [ParameterEntry.trim, Node.kept_bare_kept, hother]

/-- An entry with a default. -/
def defaultEntry (child : Node) : ParameterEntry :=
  match child.child? .name with
  | some name =>
    if name.kind == .identifier then .plain name (child.child? .type) (child.child? .value)
    else .unsupported child name
  | none => .nothing

theorem partEntry_of_default (parameters : Node) {child : Node}
    (hkind : child.kind = .defaultParameter ∨ child.kind = .typedDefaultParameter) :
    partEntry parameters child = defaultEntry child := by
  rcases hkind with hkind | hkind <;> rw [partEntry, hkind] <;> rfl

/-- Of a default only the presence is read. -/
theorem trim_defaultEntry {keeping value : Keeping} {child : Node}
    (hkept : ∀ field, field ≠ .value →
      (child.kept keeping).child? field = (child.child? field).map (·.kept (.all scope)))
    (hvalue : (child.kept keeping).child? .value = (child.child? .value).map (·.kept value)) :
    (defaultEntry (child.kept keeping)).trim id =
      (defaultEntry child).trim (·.kept (.all scope)) := by
  rw [defaultEntry, hkept .name (by decide), hkept .type (by decide), hvalue, defaultEntry]
  cases child.child? .name with
  | none => rfl
  | some name =>
    simp only [Option.map_some, Node.kind_kept]
    split <;> simp [ParameterEntry.trim, Node.kept_bare_kept, Function.comp_def]

/-- An entry that is kept as a whole. -/
theorem partEntry_kept {parameters other : Node} (hother : other.kept .bare = parameters.kept .bare)
    (child : Node) :
    (partEntry other (child.kept (.all scope))).trim id =
      (partEntry parameters child).trim (·.kept (.all scope)) := by
  unfold partEntry
  rw [Node.kind_kept]
  split
  case h_4 hkind => exact splatEntry_kept scope hother (.inl hkind) none
  case h_5 hkind => exact splatEntry_kept scope hother (.inr hkind) none
  case h_6 hkind =>
    have huniform : child.kind.isUniform := by rw [hkind]; rfl
    rw [Node.firstPart?_kept huniform, Node.child?_kept huniform]
    cases child.firstPart? with
    | none => rfl
    | some inner =>
      have hkept : (inner.kept (.all scope)).isVariadic = inner.isVariadic := by
        simp [Node.isVariadic]
      simp only [Option.map_some, hkept]
      by_cases hvariadic : inner.isVariadic
      · rw [if_pos hvariadic, if_pos hvariadic]
        exact splatEntry_kept scope hother (by simpa [Node.isVariadic] using hvariadic) _
      · rw [if_neg hvariadic, if_neg hvariadic]
        simp [ParameterEntry.trim, Node.kept_bare_kept]
  case h_7 hkind | h_8 hkind =>
    have huniform : child.kind.isUniform := by rw [hkind]; rfl
    exact trim_defaultEntry scope (fun field _ => Node.child?_kept huniform scope field)
      (Node.child?_kept huniform scope .value)
  all_goals simp [ParameterEntry.trim, Node.kept_bare_kept, hother]

/-- An entry without what is below its default. -/
theorem partEntry_kept_defaulted (parameters other : Node) {child : Node}
    (hkind : child.kind = .defaultParameter ∨ child.kind = .typedDefaultParameter) :
    (partEntry other (child.kept (.defaulted scope))).trim id =
      (partEntry parameters child).trim (·.kept (.all scope)) := by
  rw [partEntry_of_default other (by simpa using hkind), partEntry_of_default parameters hkind]
  have hvalue : (child.kept (.defaulted scope)).child? .value =
      (child.child? .value).map (·.kept .bare) :=
    Node.child?_kept_of_below (by simp) fun label hlabel => by simp [Keeping.below, hlabel]
  refine trim_defaultEntry scope (fun field hfield => ?_) hvalue
  exact Node.child?_kept_of_below (by simp) fun label hlabel => by
    simp [Keeping.below, hlabel, hfield]

/-- Of what has no place among parameters nothing but the label is read. -/
theorem partEntry_of_isInert {parameters other child : Node}
    (hother : other.kept .bare = parameters.kept .bare) (hinert : child.kind.isInert)
    (hdefault : child.kind ≠ .defaultParameter ∧ child.kind ≠ .typedDefaultParameter)
    (keeping : Keeping) :
    (partEntry other (child.kept keeping)).trim id =
      (partEntry parameters child).trim (·.kept (.all scope)) := by
  have hentry (parameters : Node) {child : Node} (hinert : child.kind.isInert)
      (hdefault : child.kind ≠ .defaultParameter ∧ child.kind ≠ .typedDefaultParameter) :
      partEntry parameters child = .unsupported parameters child := by
    unfold partEntry
    split
    case h_7 hkind => exact absurd hkind hdefault.1
    case h_8 hkind => exact absurd hkind hdefault.2
    case h_9 => rfl
    all_goals simp_all [Kind.isInert]
  rw [hentry parameters hinert hdefault,
    hentry other (by simpa using hinert) (by simpa using hdefault)]
  simp [ParameterEntry.trim, Node.kept_bare_kept, hother]

/-- What is kept of a parameter with a default. -/
theorem keepingIn_of_default (parent : Kind) {child : Label}
    (hkind : child.kind = .defaultParameter ∨ child.kind = .typedDefaultParameter) :
    keepingIn scope parent child = .all scope ∨
      keepingIn scope parent child = .defaulted scope := by
  unfold keepingIn
  rcases hkind with hkind | hkind <;> split <;> simp [hkind, Label.isBody, Label.isHandler]

/-- What an entry of a parameter list is, in the erased tree. -/
theorem entryOf_kept (parameters child : Node) :
    (entryOf source (parameters.kept (.all scope))
        (child.kept (keepingIn scope parameters.kind child.label))).trim id =
      (entryOf source parameters child).trim (·.kept (.all scope)) := by
  have hother := Node.kept_bare_kept (.all scope) parameters
  rw [entryOf, entryOf, Node.label_kept, commentDeclaresType_kept]
  split
  · split <;> simp [ParameterEntry.trim, Node.kept_bare_kept]
  -- A default has children that are read, so it is not enough that its kind is inert.
  · by_cases hdefault : child.kind = .defaultParameter ∨ child.kind = .typedDefaultParameter
    · rcases keepingIn_of_default scope parameters.kind hdefault with hkeeping | hkeeping <;>
        rw [hkeeping]
      · exact partEntry_kept scope hother child
      · exact partEntry_kept_defaulted scope parameters _ hdefault
    · rcases keepingIn_cases scope parameters.kind child.label with hkeeping | hinert
      · rw [hkeeping]
        exact partEntry_kept scope hother child
      · exact partEntry_of_isInert scope hother hinert (not_or.1 hdefault) _

theorem entries_kept (parameters : Node) :
    (entries source (parameters.kept (.all scope))).map (·.trim id) =
      (entries source parameters).map (·.trim (·.kept (.all scope))) := by
  simp only [entries, Node.children_kept_all, List.filter_map, List.map_map, Function.comp_def,
    Node.label_kept, entryOf_kept]

/-! ### What is read of entries -/

theorem reportEntries_trim (keep : Node → Node) (slashed : Bool) (entries : List ParameterEntry) :
    reportEntries source slashed (entries.map (·.trim keep)) =
      reportEntries source slashed entries := by
  induction entries generalizing slashed with
  | nil => rfl
  | cons entry rest ih =>
    rw [List.map_cons]
    generalize rest.map (·.trim keep) = trimmed at ih ⊢
    cases entry <;> simp [ParameterEntry.trim, reportEntries, ih]

/-- A parameter with its annotation changed, and nothing below any other node. -/
def Parameter.trim (keep : Node → Node) (parameter : Parameter) : Parameter where
  role := parameter.role
  name := parameter.name.kept .bare
  type := parameter.type.map keep
  value := parameter.value.map (·.kept .bare)

theorem assignRoles_trim (keep : Node → Node) (starred : Bool) (entries : List ParameterEntry) :
    assignRoles starred (entries.map (·.trim keep)) =
      (assignRoles starred entries).map (·.trim keep) := by
  induction entries generalizing starred with
  | nil => rfl
  | cons entry rest ih =>
    rw [List.map_cons]
    generalize rest.map (·.trim keep) = trimmed at ih ⊢
    cases entry <;> simp [ParameterEntry.trim, assignRoles, Parameter.trim, ih]

theorem alignRight_map (f : α → γ) (g : β → δ) (first : List α) (second : List β) :
    alignRight (first.map f) (second.map g) =
      (alignRight first second).map (List.map (Prod.map f (Option.map g))) := by
  rw [alignRight, List.length_map, List.length_map, alignRight]
  split
  · rw [Except.map, ← List.zip_map]
    simp [Function.comp_def]
  · rfl

section

variable {keep : Node → Node} (hkeep : ∀ type, typeText source (keep type) = typeText source type)

include hkeep

theorem argument_trim (parameter : Parameter) (hasDefault : Bool) :
    (parameter.trim keep).argument source hasDefault = parameter.argument source hasDefault := by
  have htype : optionalType source (parameter.type.map keep) =
      optionalType source parameter.type := by
    cases parameter.type with
    | none => rfl
    | some type => exact hkeep type
  simp [Parameter.argument, Parameter.trim, htype]

theorem positionalArguments_trim {parameters other : Node} (hother : other.label = parameters.label)
    (positional : List Parameter) :
    positionalArguments source other (positional.map (·.trim keep)) =
      positionalArguments source parameters positional := by
  have hvalues : (positional.map (·.trim keep)).filterMap Parameter.value =
      (positional.filterMap Parameter.value).map (·.kept .bare) := by
    rw [List.filterMap_map, List.map_filterMap]
    rfl
  rw [positionalArguments, hvalues, alignRight_map, positionalArguments]
  cases alignRight positional (positional.filterMap Parameter.value) with
  | error error => simp [Except.map, flag, Source.line, Source.firstRow, hother]
  | ok pairs =>
    simp only [Except.map, List.map_map]
    refine congrArg Report.gather (List.map_congr_left fun pair _ => ?_)
    simp [argument_trim source hkeep]

theorem namedArgument_trim (parameter : Parameter) :
    (parameter.trim keep).namedArgument source = parameter.namedArgument source := by
  have hvalue : (parameter.trim keep).value.isSome = parameter.value.isSome := Option.isSome_map
  rw [Parameter.namedArgument, argument_trim source hkeep, hvalue]
  rfl

/-- The parameters with these entries, as the function with this name and nothing else. -/
def signatureOf (source : Source) (name : String) (parameters : Node)
    (entries : List ParameterEntry) : Report FunctionStub := do
  reportEntries source false entries
  let (positional, named) := (assignRoles false entries).partition (·.role == .positional)
  let args ← positionalArguments source parameters positional
  let others ← Report.gather (named.map (·.namedArgument source))
  return {
    name, args
    varArg := (withRole .varArg others).getLast?
    kwArgs := withRole .keywordOnly others
    kwArg := (withRole .kwArg others).getLast? }

theorem signatureOf_trim {parameters other : Node} (hother : other.label = parameters.label)
    (name : String) (entries : List ParameterEntry) :
    signatureOf source name other (entries.map (·.trim keep)) =
      signatureOf source name parameters entries := by
  have hrole (p : Role → Bool) (found : List Parameter) :
      (found.map (·.trim keep)).filter (fun parameter => p parameter.role) =
        (found.filter fun parameter => p parameter.role).map (·.trim keep) := List.filter_map
  have hnamed (named : List Parameter) :
      (named.map (·.trim keep)).map (·.namedArgument source) =
        named.map (·.namedArgument source) := by
    rw [List.map_map]
    exact List.map_congr_left fun parameter _ => namedArgument_trim source hkeep parameter
  simp only [signatureOf, List.partition_eq_filter_filter, reportEntries_trim, assignRoles_trim,
    Function.comp_def]
  rw [hrole (· == .positional), hrole (fun role => !(role == .positional)),
    positionalArguments_trim source hkeep hother, hnamed]

end

theorem parameterList_kept (name : String) (parameters : Node) :
    parameterList source name (parameters.kept (.all scope)) =
      parameterList source name parameters := by
  have hlabel := Node.label_kept (.all scope) parameters
  calc parameterList source name (parameters.kept (.all scope))
    _ = signatureOf source name parameters
        ((entries source (parameters.kept (.all scope))).map (·.trim id)) :=
      (signatureOf_trim source (fun _ => rfl) hlabel.symm name _).symm
    _ = signatureOf source name parameters
        ((entries source parameters).map (·.trim (·.kept (.all scope)))) := by
      rw [entries_kept]
    _ = parameterList source name parameters :=
      signatureOf_trim source (typeText_kept source scope) rfl name _

/-! ### Functions -/

theorem decoratorPath_kept {decorator : Node} (h : decorator.kind = .decorator) :
    decoratorPath source (decorator.kept (.all scope)) = decoratorPath source decorator := by
  rw [decoratorPath, Node.firstPart?_kept (by rw [h]; rfl), decoratorPath]
  cases decorator.firstPart? with
  | none => rfl
  | some expression =>
    simp only [Option.map_some, Source.shapeOf_kept, namePath_kept, Node.unwrapped_kept, flag_kept,
      Node.kind_kept]

theorem optionalType_kept (type : Option Node) :
    optionalType source (type.map (·.kept (.all scope))) = optionalType source type := by
  cases type with
  | none => rfl
  | some type => exact typeText_kept source scope type

/-- What is kept of the children of a definition other than its body. -/
theorem child?_kept_of_definition {definition : Node}
    (h : definition.kind = .functionDefinition ∨ definition.kind = .classDefinition)
    {field : Field} (hfield : field ≠ .body) :
    (definition.kept (.all scope)).child? field =
      (definition.child? field).map (·.kept (.all scope)) :=
  Node.child?_kept_of_below (by simp) fun label hlabel => by
    rcases h with h | h <;> simp [Keeping.below, keepingIn, h, Label.isBody, hlabel, hfield]

theorem nameOf_kept {definition : Node}
    (h : definition.kind = .functionDefinition ∨ definition.kind = .classDefinition) :
    nameOf source (definition.kept (.all scope)) = nameOf source definition := by
  rw [nameOf, child?_kept_of_definition scope h (by decide), nameOf]
  cases definition.child? .name <;> simp

theorem signatureDeclaresType_kept (definition : Node) :
    source.signatureDeclaresType (definition.kept (.all scope)) =
      source.signatureDeclaresType definition := by
  have hcomments (keeping : Keeping) (hkeeping : keeping ≠ .bare) (body : Node) :
      ((body.kept keeping).children.takeWhile (·.label.extra)).any source.commentDeclaresType =
        (body.children.takeWhile (·.label.extra)).any source.commentDeclaresType := by
    by_cases hlead : keeping = .lead
    · cases body with
      | mk label children =>
        rw [hlead, Node.kept]
        exact congrArg (List.any · _) List.takeWhile_idem
    · rw [Node.children_kept ⟨hkeeping, hlead⟩, List.takeWhile_map, List.any_map]
      simp [Function.comp_def, commentDeclaresType_kept]
  rw [Source.signatureDeclaresType, Node.children_kept_all, List.any_map,
    Node.child?_of_map (Node.children_kept_all scope definition) (by simp),
    Source.signatureDeclaresType]
  simp only [Function.comp_def, commentDeclaresType_kept]
  cases hbody : definition.child? .body with
  | none => rfl
  | some body =>
    -- Only handlers are kept bare, and what plays the part of a body is none.
    have hbare : keepingIn scope definition.kind body.label ≠ .bare := by
      have hfield : body.label.field = some .body := Node.field_of_child? hbody
      unfold keepingIn
      split <;> simp [Label.isHandler, hfield] <;> split <;> simp
    simp only [Option.map_some, hcomments _ hbare]

theorem functionStub_kept {definition : Node} (h : definition.kind = .functionDefinition)
    {decorators : List Node} (hdecorators : ∀ decorator ∈ decorators, decorator.kind = .decorator) :
    functionStub source (definition.kept (.all scope)) (decorators.map (·.kept (.all scope))) =
      functionStub source definition decorators := by
  have hpaths : (decorators.map (·.kept (.all scope))).map (decoratorPath source) =
      decorators.map (decoratorPath source) := by
    rw [List.map_map]
    exact List.map_congr_left fun decorator hdecorator =>
      decoratorPath_kept source scope (hdecorators decorator hdecorator)
  rw [functionStub, hpaths, nameOf_kept source scope (.inl h),
    child?_kept_of_definition scope (.inl h) (by decide),
    child?_kept_of_definition scope (.inl h) (by decide), optionalType_kept,
    signatureDeclaresType_kept, flag_kept, functionStub]
  cases definition.child? .parameters with
  | none => rfl
  | some parameters => simp only [Option.map_some, parameterList_kept]

/-! ## Targets -/

end Extraction

namespace Syntax.Node

@[simp] theorem isName_kept (keeping : Keeping) (node : Node) :
    (node.kept keeping).isName = node.isName := by
  simp [isName]

@[simp] theorem isPattern_kept (keeping : Keeping) (node : Node) :
    (node.kept keeping).isPattern = node.isPattern := by
  simp [isPattern]

@[simp] theorem isStarred_kept (keeping : Keeping) (node : Node) :
    (node.kept keeping).isStarred = node.isStarred := by
  simp [isStarred]

theorem isUniform_of_isPattern {node : Node} (h : node.isPattern) : node.kind.isUniform := by
  simp only [isPattern, Bool.or_eq_true, beq_iff_eq] at h
  rcases h with (h | h) | h <;> rw [h] <;> rfl

theorem targetsAndValue_eq (assignment : Node) :
    assignment.targetsAndValue =
      match assignment.child? .right with
      | some right =>
        if right.kind == .assignment then
          ((assignment.child? .left).toList ++ right.targetsAndValue.1, right.targetsAndValue.2)
        else ((assignment.child? .left).toList, some right)
      | none => ((assignment.child? .left).toList, none) := by
  rw [targetsAndValue]
  split <;> rename_i hright <;> rw [hright]

/-- The targets and the value of a chain that is kept as a whole. -/
theorem targetsAndValue_kept (scope : Scope) {assignment : Node}
    (h : assignment.kind = .assignment) :
    (assignment.kept (.all scope)).targetsAndValue =
      (assignment.targetsAndValue.1.map (kept (.all scope)),
        assignment.targetsAndValue.2.map (kept (.all scope))) := by
  induction hsize : assignment.size using Nat.strongRecOn generalizing assignment with
  | ind size ih =>
    have huniform : assignment.kind.isUniform := by rw [h]; rfl
    rw [targetsAndValue_eq, child?_kept huniform, child?_kept huniform, targetsAndValue_eq]
    cases hright : assignment.child? .right with
    | none => simp [Option.toList_map]
    | some right =>
      have hlt := size_lt_of_child? hright
      by_cases hkind : right.kind = .assignment
      · simp [hkind, ih right.size (by omega) hkind rfl, Option.toList_map]
      · simp [hkind, Option.toList_map]

/-- The targets of a chain of which the value is not kept. -/
theorem targets_kept_link (assignment : Node) :
    (assignment.kept .link).targetsAndValue.1 =
      assignment.targetsAndValue.1.map (kept (.all .classBody)) := by
  induction hsize : assignment.size using Nat.strongRecOn generalizing assignment with
  | ind size ih =>
    have hleft : (assignment.kept .link).child? .left =
        (assignment.child? .left).map (kept (.all .classBody)) :=
      child?_kept_of_below (by simp) fun label hlabel => by simp [Keeping.below, hlabel]
    rw [targetsAndValue_eq, hleft, child?_of_map (children_kept (by simp) assignment) (by simp),
      targetsAndValue_eq]
    cases hright : assignment.child? .right with
    | none => simp [Option.toList_map]
    | some right =>
      have hlt := size_lt_of_child? hright
      have hfield : right.label.field = some .right := field_of_child? hright
      have hvalue : keepingOfValue right.label =
          if right.kind == .assignment then .link else .bare := rfl
      simp only [Option.map_some, kind_kept, Keeping.below, hfield, beq_self_eq_true, if_true,
        hvalue]
      by_cases hkind : right.kind = .assignment
      · simp [hkind, ih right.size (by omega) right rfl, Option.toList_map]
      · simp [hkind, Option.toList_map]

theorem any_field_eq (node : Node) (field : Field) :
    node.children.any (·.field == some field) = (node.child? field).isSome := by
  rw [child?, childrenAt, List.head?_filter, List.isSome_find?]

/-- A node is kept in the same way if all its children are. -/
theorem kept_congr {first second : Keeping} {node : Node} (hfirst : first ≠ .bare ∧ first ≠ .lead)
    (hsecond : second ≠ .bare ∧ second ≠ .lead)
    (h : ∀ child, first.below node.kind (node.child? .type).isSome child =
      second.below node.kind (node.child? .type).isSome child) :
    node.kept first = node.kept second := by
  have hext {a b : Node} (hlabel : a.label = b.label) (hchildren : a.children = b.children) :
      a = b := by
    cases a
    cases b
    exact congrArg₂ mk hlabel hchildren
  refine hext (by simp) ?_
  simp only [children_kept hfirst, children_kept hsecond, any_field_eq, h]

theorem kept_assigned_module {assignment : Node} (hkind : assignment.kind = .assignment)
    (htype : assignment.child? .type = none) :
    assignment.kept (.assigned .module) = assignment.kept (.all .module) :=
  kept_congr (by simp) (by simp) fun child => by simp [Keeping.below, keepingIn, hkind, htype]

theorem kept_assigned_classBody {assignment : Node} (htype : assignment.child? .type = none) :
    assignment.kept (.assigned .classBody) = assignment.kept .link :=
  kept_congr (by simp) (by simp) fun child => by simp [Keeping.below, htype]

/-- The targets of an assignment without annotation that is a statement. -/
theorem targets_kept_assigned (scope : Scope) {assignment : Node}
    (hkind : assignment.kind = .assignment) (htype : assignment.child? .type = none) :
    (assignment.kept (.assigned scope)).targetsAndValue.1 =
      assignment.targetsAndValue.1.map (kept (.all scope)) := by
  cases scope with
  | module => rw [kept_assigned_module hkind htype, targetsAndValue_kept .module hkind]
  | classBody => rw [kept_assigned_classBody htype, targets_kept_link]

end Syntax.Node

namespace Extraction

variable (source : Source) (scope : Scope)

/-! ### Patterns -/

theorem matchedElements?_kept (elements : List Node) (value : Node) :
    matchedElements? source (elements.map (·.kept (.all scope))) (value.kept (.all scope)) =
      (matchedElements? source elements value).map (List.map (·.kept (.all scope))) := by
  have hmatched (h : value.kind.isUniform) :
      (if (value.kept (.all scope)).parts.length = (elements.map (·.kept (.all scope))).length &&
          !(elements.map (·.kept (.all scope)) ++ (value.kept (.all scope)).parts).any
            Node.isStarred then some (value.kept (.all scope)).parts else none) =
        (if value.parts.length = elements.length && !(elements ++ value.parts).any Node.isStarred
          then some value.parts else none).map (List.map (·.kept (.all scope))) := by
    rw [Node.parts_kept h, ← List.map_append, List.any_map]
    simp only [List.length_map, Function.comp_def, Node.isStarred_kept]
    split <;> rfl
  have huniform (h : value.unwrapped.kind.isUniform) : value.kind.isUniform := by
    by_cases hwrapper : value.kind.isWrapper
    · exact Kind.isUniform_of_isWrapper hwrapper
    · rwa [Node.unwrapped, if_neg hwrapper] at h
  rw [matchedElements?, Source.shapeOf_kept, matchedElements?]
  split
  case h_1 hshape => exact hmatched (huniform (isUniform_of_shapeOf_tuple source hshape))
  case h_2 hshape =>
    exact hmatched (huniform (by rw [Source.kind_of_shapeOf hshape rfl]; rfl))
  case h_3 => rfl

theorem elementValues_kept (elements : List Node) (value : Option Node) :
    elementValues source (elements.map (·.kept (.all scope))) (value.map (·.kept (.all scope))) =
      (elementValues source elements value).map (Option.map (·.kept (.all scope))) := by
  have hmatched : (value.map (·.kept (.all scope))).bind
      (matchedElements? source (elements.map (·.kept (.all scope)))) =
        (value.bind (matchedElements? source elements)).map (List.map (·.kept (.all scope))) := by
    cases value with
    | none => rfl
    | some value => exact matchedElements?_kept source scope elements value
  rw [elementValues, hmatched, elementValues]
  cases value.bind (matchedElements? source elements) with
  | none => simp [Function.comp_def]
  | some values => simp

theorem typeAt_kept (value : Option Node) :
    typeAt source (value.map (·.kept (.all scope))) = typeAt source value := by
  cases value with
  | none => rfl
  | some value => simp [typeAt, inferType_kept]

@[simp] theorem bindName_kept (keeping : Keeping) (name : Node) (type : LiteralType) :
    bindName source (name.kept keeping) type = bindName source name type := by
  simp [bindName]

/-- Binds the names of one element of a pattern. -/
def bindElement (source : Source) (assignment element : Node) (value : Option Node) :
    Report (List Attribute) :=
  if element.isName then bindName source element (typeAt source value)
  else if element.isPattern then bindPattern source assignment element value
  else do
    flag source element (.inside assignment.kind element.kind)
    return []

theorem bindPattern_eq (assignment pattern : Node) (value : Option Node) :
    bindPattern source assignment pattern value =
      Report.gatherAll ((pattern.parts.zip (elementValues source pattern.parts value)).map
        fun pair => bindElement source assignment pair.1 pair.2) := by
  have hzip : (pattern.parts.attach.zip (elementValues source pattern.parts value)).map
      (Prod.map Subtype.val id) = pattern.parts.zip (elementValues source pattern.parts value) := by
    rw [← List.zip_map, List.attach_map_subtype_val, List.map_id]
  rw [bindPattern, ← hzip, List.map_map]
  rfl

/-- Of the assignment only the kind is read. -/
theorem bindPattern_kept {assignment other : Node} (hother : other.kind = assignment.kind)
    {pattern : Node} (hpattern : pattern.isPattern) (value : Option Node) :
    bindPattern source other (pattern.kept (.all scope)) (value.map (·.kept (.all scope))) =
      bindPattern source assignment pattern value := by
  induction hsize : pattern.size using Nat.strongRecOn generalizing pattern value with
  | ind size ih =>
    rw [bindPattern_eq, Node.parts_kept (Node.isUniform_of_isPattern hpattern), elementValues_kept,
      List.zip_map, bindPattern_eq, List.map_map]
    refine congrArg Report.gatherAll (List.map_congr_left fun pair hpair => ?_)
    have hlt := Node.size_lt_of_mem_parts (List.of_mem_zip hpair).1
    simp only [Function.comp_apply, Prod.map_fst, Prod.map_snd, bindElement, Node.isName_kept,
      Node.isPattern_kept, bindName_kept, typeAt_kept, flag_kept, hother, Node.kind_kept]
    by_cases hinner : pair.1.isPattern
    · rw [ih pair.1.size (by omega) hinner pair.2 rfl]
    · rw [if_neg hinner, if_neg hinner]

theorem classVariables_kept {assignment other : Node} (hother : other.kind = assignment.kind)
    (target : Node) :
    classVariables source other (target.kept (.all scope)) =
      classVariables source assignment target := by
  induction hsize : target.size using Nat.strongRecOn generalizing target with
  | ind size ih =>
    rw [classVariables, Node.isName_kept, Node.isPattern_kept, classVariables]
    by_cases hpattern : target.isPattern
    · rw [List.attach_map_val, List.attach_map_val,
        Node.parts_kept (Node.isUniform_of_isPattern hpattern), List.map_map, Source.text_kept]
      have hparts : target.parts.map (classVariables source other ∘ (·.kept (.all scope))) =
          target.parts.map (classVariables source assignment) :=
        List.map_congr_left fun part hpart => by
          have hlt := Node.size_lt_of_mem_parts hpart
          exact ih part.size (by omega) part rfl
      rw [hparts, flag_kept, hother, Node.kind_kept]
    · simp [hpattern, hother]

/-! ## Assignments -/

/-- Of the nodes after a statement only the labels are read. -/
theorem statementDeclaresType_kept (keeping : Node → Keeping) (statement : Node)
    (following : List Node) :
    source.statementDeclaresType (statement.kept (.all scope))
        (following.map fun node => node.kept (keeping node)) =
      source.statementDeclaresType statement following := by
  simp only [Source.statementDeclaresType, Node.children_kept_all, List.takeWhile_map,
    List.any_append, List.any_map, Function.comp_def, commentDeclaresType_kept, Source.firstRow,
    Source.lastRow, Node.label_kept]

theorem reportTypeComment_kept (keeping : Node → Keeping) (statement : Node)
    (following : List Node) :
    reportTypeComment source (statement.kept (.all scope))
        (following.map fun node => node.kept (keeping node)) =
      reportTypeComment source statement following := by
  rw [reportTypeComment, statementDeclaresType_kept, flag_kept, reportTypeComment]

theorem annotatedName_kept {assignment other : Node} (hkind : other.kind = assignment.kind)
    (hleft : other.child? .left = (assignment.child? .left).map (·.kept (.all scope)))
    (type : Node) :
    annotatedName source other (type.kept (.all scope)) = annotatedName source assignment type := by
  rw [annotatedName, hleft, annotatedName]
  cases assignment.child? .left with
  | none => rfl
  | some target => simp [typeText_kept, hkind]

theorem literalTargets_kept {assignment : Node} (value : Node) (type : LiteralType)
    (targets : List Node) :
    literalTargets source (assignment.kept (.all scope)) (value.kept (.all scope)) type
        (targets.map (·.kept (.all scope))) =
      literalTargets source assignment value type targets := by
  rw [literalTargets, List.map_map, literalTargets]
  refine congrArg Report.gatherAll (List.map_congr_left fun target _ => ?_)
  simp only [Function.comp_apply, Node.isName_kept, Node.isPattern_kept, bindName_kept, flag_kept,
    Node.kind_kept]
  by_cases hpattern : target.isPattern
  · have hbound := bindPattern_kept source scope (Node.kind_kept (.all scope) assignment) hpattern
      (some value)
    rw [← hbound, Option.map_some]
  · rw [if_neg hpattern, if_neg hpattern]

theorem aliasTargets_kept {assignment : Node} (target? : Option String) (targets : List Node) :
    aliasTargets source (assignment.kept (.all scope)) target?
        (targets.map (·.kept (.all scope))) =
      aliasTargets source assignment target? targets := by
  rw [aliasTargets, List.map_map, aliasTargets]
  refine congrArg Report.gatherAll (List.map_congr_left fun target _ => ?_)
  simp only [Function.comp_apply, Node.isName_kept, Node.isPattern_kept, Source.text_kept,
    flag_kept, Node.kind_kept]
  by_cases hpattern : target.isPattern
  · have hbound := bindPattern_kept source scope (Node.kind_kept (.all scope) assignment) hpattern
      none
    rw [← hbound, Option.map_none]
  · rw [if_neg hpattern, if_neg hpattern]

theorem inferredDeclarations_kept (assignment value : Node) (targets : List Node) :
    inferredDeclarations source (assignment.kept (.all scope)) (value.kept (.all scope))
        (targets.map (·.kept (.all scope))) =
      inferredDeclarations source assignment value targets := by
  have halias : aliasText source (value.kept (.all scope)) (targets.map (·.kept (.all scope))) =
      aliasText source value targets := by
    simp [aliasText, Function.comp_def, typeText_kept]
  rw [inferredDeclarations, inferType_kept, halias, inferredDeclarations]
  cases inferType source value with
  | known type => simp only [literalTargets_kept]
  | untyped constant => simp only [flag_kept]
  | notLiteral => simp only [aliasTargets_kept]

/-- What is kept of the children of an assignment other than its value. -/
theorem child?_kept_of_assigned (assignment : Node) {field : Field} (hfield : field ≠ .right) :
    (assignment.kept (.assigned scope)).child? field =
      (assignment.child? field).map (·.kept (.all scope)) :=
  Node.child?_kept_of_below (by simp) fun label hlabel => by simp [Keeping.below, hlabel, hfield]

theorem moduleAssignment_kept (keeping : Node → Keeping) (statement : Node) {assignment : Node}
    (hkind : assignment.kind = .assignment) (following : List Node) :
    moduleAssignment source (statement.kept (.all .module)) (assignment.kept (.assigned .module))
        (following.map fun node => node.kept (keeping node)) =
      moduleAssignment source statement assignment following := by
  rw [moduleAssignment, child?_kept_of_assigned .module assignment (by decide), moduleAssignment]
  cases htype : assignment.child? .type with
  | some type =>
    simp only [Option.map_some]
    rw [annotatedName_kept source .module (Node.kind_kept _ assignment)
      (child?_kept_of_assigned .module assignment (by decide))]
  | none =>
    simp only [Option.map_none]
    rw [Node.kept_assigned_module hkind htype, Node.targetsAndValue_kept .module hkind]
    cases assignment.targetsAndValue with
    | mk targets value? =>
      cases value? with
      | none => rfl
      | some value =>
        simp only [Option.map_some, reportTypeComment_kept]
        exact congrArg _ (funext fun _ =>
          inferredDeclarations_kept source .module assignment value targets)

theorem classAssignment_kept (keeping : Node → Keeping) (statement : Node) {assignment : Node}
    (hkind : assignment.kind = .assignment) (following : List Node) :
    classAssignment source (statement.kept (.all scope)) (assignment.kept (.assigned scope))
        (following.map fun node => node.kept (keeping node)) =
      classAssignment source statement assignment following := by
  rw [classAssignment, child?_kept_of_assigned scope assignment (by decide), classAssignment]
  cases htype : assignment.child? .type with
  | some type =>
    simp only [Option.map_some]
    rw [annotatedName_kept source scope (Node.kind_kept _ assignment)
      (child?_kept_of_assigned scope assignment (by decide))]
  | none =>
    have hvariables : (assignment.targetsAndValue.1.map (Node.kept (.all scope))).map
        (classVariables source (assignment.kept (.assigned scope))) =
          assignment.targetsAndValue.1.map (classVariables source assignment) := by
      rw [List.map_map]
      exact List.map_congr_left fun target _ =>
        classVariables_kept source scope (Node.kind_kept _ assignment) target
    simp only [Option.map_none]
    rw [reportTypeComment_kept, Node.targets_kept_assigned scope hkind htype, hvariables]

end Extraction

end InterfaceStub
