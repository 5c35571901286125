import InterfaceStub.Proofs.LeafStatements
import InterfaceStub.Proofs.RightAlignment
import InterfaceStub.Proofs.TreeExistence

/-!
# Default values and the parameters they belong to

The arguments that a function takes by position get their defaults from the right: the number of
values is counted, and the last parameters have one.  An accepted tree has no parameter without a
value after one with a value, so that this would give every parameter its own.  But acceptance looks
no further than the first splat, and a `**` does not end the positional parameters.

* `positionalNodes` are the positional parameters of a list, and `map_hasDefault_args_iff` says when
  their arguments have their own defaults.
* `valuesLast_of_requiredAfterDefault` is what acceptance says of the parameters before the first
  splat.
* `args_hasDefault_eq_hasValue_iff` puts these together: what is left to ask for concerns the
  positional parameters after the first splat.  `splatModule` is a tree where it fails.
-/

namespace InterfaceStub

open Syntax Extraction

/-! ## Positional parameters -/

/-- Whether a parameter has a value of its own. -/
def Syntax.Node.hasValue (node : Node) : Bool :=
  (node.child? .value).isSome

/-- Whether a parameter takes any number of arguments, with or without an annotation. -/
def Syntax.Node.isSplat (node : Node) : Bool :=
  node.isVariadic || (node.kind == .typedParameter && node.firstPart?.any Node.isVariadic)

/-- Whether a parameter is written with a default. -/
def Syntax.Node.isDefaultParameter (node : Node) : Bool :=
  node.kind == .defaultParameter || node.kind == .typedDefaultParameter

/-- What the grammar says of a parameter list: the parameters with a value are those written with a
default. -/
structure ParametersShape (parameters : Node) : Prop where
  kind : parameters.kind = .parameters
  value : ∀ part ∈ parameters.parts, part.hasValue = part.isDefaultParameter

namespace Extraction

/-- The positional parameters among the parts of a parameter list. -/
def positionalNodes (parameters : Node) : List Node → List Node
  | [] => []
  | part :: rest =>
    match partEntry parameters part with
    | .plain .. => part :: positionalNodes parameters rest
    | .star | .varArg .. => []
    | _ => positionalNodes parameters rest

/-- The positional parameters of a list, as they are read. -/
def positionalParameters (source : Source) (parameters : Node) : List Parameter :=
  (assignRoles false (entries source parameters)).filter (·.role == .positional)

theorem assignRoles_true_positional (found : List ParameterEntry) :
    (assignRoles true found).filter (·.role == .positional) = [] := by
  induction found with
  | nil => rfl
  | cons entry rest ih => cases entry <;> simp [assignRoles, ih]

theorem splatEntry_ne_plain (parameters splat : Node) (type : Option Node) {name : Node}
    {own value : Option Node} : splatEntry parameters splat type ≠ .plain name own value := by
  rw [splatEntry]
  split
  · split
    · split <;> simp
    · simp
  · simp

/-- The parts that are plain parameters, and the values that are read of them. -/
theorem cases_of_partEntry {parameters part name : Node} {type value : Option Node}
    (h : partEntry parameters part = .plain name type value) :
    (part.kind = .identifier ∨ part.kind = .typedParameter) ∧ value = none ∨
      part.isDefaultParameter = true ∧ value = part.child? .value := by
  rw [partEntry] at h
  split at h
  case h_3 hkind =>
    cases h
    exact .inl ⟨.inl hkind, rfl⟩
  case h_4 | h_5 => exact absurd h (splatEntry_ne_plain _ _ _)
  case h_6 hkind =>
    split at h
    · split at h
      · exact absurd h (splatEntry_ne_plain _ _ _)
      · cases h
        exact .inl ⟨.inr hkind, rfl⟩
    · cases h
  case h_7 hkind | h_8 hkind =>
    split at h
    · split at h
      · cases h
        exact .inr ⟨by simp [Node.isDefaultParameter, hkind], rfl⟩
      · cases h
    · cases h
  all_goals cases h

/-- The value of a plain parameter is its own, when only those written with a default have one. -/
theorem isSome_of_partEntry {parameters part name : Node} {type value : Option Node}
    (h : partEntry parameters part = .plain name type value)
    (hvalue : part.hasValue = part.isDefaultParameter) : value.isSome = part.hasValue := by
  rcases cases_of_partEntry h with ⟨hkind, rfl⟩ | ⟨_, rfl⟩
  · rcases hkind with hkind | hkind <;> simp [hvalue, Node.isDefaultParameter, hkind]
  · rfl

/-- Extras declare nothing. -/
theorem assignRoles_entries (source : Source) (starred : Bool) (parameters : Node) :
    assignRoles starred (entries source parameters) =
      assignRoles starred (parameters.parts.map (partEntry parameters)) := by
  rw [entries, Node.parts]
  generalize parameters.children = children
  induction children generalizing starred with
  | nil => rfl
  | cons child children ih =>
    by_cases hnamed : child.label.named
    · by_cases hextra : child.label.extra
      · have hpart : child.isPart = false := by simp [Node.isPart, hextra]
        simp only [List.filter_cons, hnamed, hpart, ↓reduceIte, Bool.false_eq_true, List.map_cons,
          entryOf, hextra, ← ih]
        split <;> rfl
      · have hpart : child.isPart = true := by simp [Node.isPart, hnamed, hextra]
        simp only [List.filter_cons, hnamed, hpart, ↓reduceIte, List.map_cons, entryOf, hextra,
          Bool.false_eq_true]
        cases partEntry parameters child <;> simp only [assignRoles, ih]
    · have hpart : child.isPart = false := by simp [Node.isPart, hnamed]
      simp only [List.filter_cons, hnamed, hpart, Bool.false_eq_true, ↓reduceIte, ih]

/-- What is read of the positional parameters of a parameter list is whether they have a value of
their own. -/
theorem map_value_positional (source : Source) {parameters : Node}
    (hshape : ParametersShape parameters) :
    (positionalParameters source parameters).map (·.value.isSome) =
      (positionalNodes parameters parameters.parts).map Node.hasValue := by
  have hvalue := hshape.value
  rw [positionalParameters, assignRoles_entries]
  generalize parameters.parts = parts at hvalue ⊢
  induction parts with
  | nil => rfl
  | cons part rest ih =>
    obtain ⟨hown, hothers⟩ := List.forall_mem_cons.1 hvalue
    have hrest := ih hothers
    rw [List.map_cons, positionalNodes]
    cases hentry : partEntry parameters part with
    | plain name type value => simp [assignRoles, hrest, isSome_of_partEntry hentry hown]
    | star => simp [assignRoles, assignRoles_true_positional]
    | varArg name type => simp [assignRoles, assignRoles_true_positional]
    | _ => simpa [assignRoles] using hrest

theorem args_functionStub {source : Source} {definition parameters : Node}
    (decorators : List Node) (h : definition.child? .parameters = some parameters) :
    (functionStub source definition decorators).value.args =
      (positionalArguments source parameters (positionalParameters source parameters)).value := by
  have hargs (name : String) : (parameterList source name parameters).value.args =
      (positionalArguments source parameters (positionalParameters source parameters)).value := by
    rw [parameterList, List.partition_eq_filter_filter]
    rfl
  rw [functionStub, h, ← hargs (nameOf source definition)]
  simp only [Report.value_bind]
  split <;> rfl

/-- The arguments that a function takes by position have their own defaults exactly where no
parameter without a value comes after one with a value. -/
theorem map_hasDefault_args_iff {source : Source} {definition parameters : Node}
    (decorators : List Node) (hparameters : definition.child? .parameters = some parameters)
    (hshape : ParametersShape parameters) :
    (functionStub source definition decorators).value.args.map (·.hasDefault) =
        (positionalNodes parameters parameters.parts).map Node.hasValue ↔
      (positionalNodes parameters parameters.parts).Pairwise fun first second =>
        first.hasValue → second.hasValue := by
  have hread := map_value_positional source hshape
  rw [args_functionStub decorators hparameters, ← hread]
  generalize positionalParameters source parameters = positional at hread ⊢
  have hsorted : (positionalNodes parameters parameters.parts).Pairwise
        (fun first second => first.hasValue → second.hasValue) ↔
      positional.Pairwise fun first second => first.value.isSome → second.value.isSome := by
    have hflags := congrArg
      (List.Pairwise fun earlier later : Bool => earlier → later) hread
    rw [List.pairwise_map, List.pairwise_map] at hflags
    exact Iff.of_eq hflags.symm
  obtain ⟨pairs, hpairs⟩ := exists_alignRight_filterMap Parameter.value positional
  rw [hsorted, map_hasDefault_positionalArguments hpairs, alignRight_filterMap_iff hpairs]

/-! ## What acceptance says -/

/-- The parameters with a value come last, and all have one if `seen`. -/
def ValuesLast (seen : Bool) (nodes : List Node) : Prop :=
  nodes.Pairwise (fun first second => first.hasValue → second.hasValue) ∧
    (seen → ∀ node ∈ nodes, node.hasValue)

instance (seen : Bool) (nodes : List Node) : Decidable (ValuesLast seen nodes) :=
  inferInstanceAs (Decidable (_ ∧ _))

theorem valuesLast_nil (seen : Bool) : ValuesLast seen [] :=
  ⟨List.Pairwise.nil, fun _ _ hnode => nomatch hnode⟩

/-- `later` says that one with a value came before the rest. -/
theorem ValuesLast.cons {seen later : Bool} {part : Node} {nodes : List Node}
    (h : ValuesLast later nodes) (hpart : seen → part.hasValue) (hlater : part.hasValue → later) :
    ValuesLast seen (part :: nodes) := by
  refine ⟨List.pairwise_cons.2 ⟨fun node hnode hvalue => h.2 (hlater hvalue) node hnode, h.1⟩, ?_⟩
  intro hseen node hnode
  rcases List.mem_cons.1 hnode with rfl | hnode
  · exact hpart hseen
  · exact h.2 (hlater (hpart hseen)) node hnode

/-- A part that is passed over, or is a parameter, or ends the positional ones. -/
theorem ValuesLast.positionalNodes_cons {parameters part : Node} {rest : List Node}
    {seen later : Bool} (h : ValuesLast later (positionalNodes parameters rest))
    (hseen : seen → later)
    (hplain : ∀ name type value, partEntry parameters part = .plain name type value →
      (seen → part.hasValue) ∧ (part.hasValue → later)) :
    ValuesLast seen (positionalNodes parameters (part :: rest)) := by
  rw [positionalNodes]
  split
  case h_1 name type value hentry =>
    obtain ⟨hpart, hlater⟩ := hplain _ _ _ hentry
    exact h.cons hpart hlater
  case h_2 | h_3 => exact valuesLast_nil seen
  case h_4 => exact ⟨h.1, fun hown => h.2 (hseen hown)⟩

/-- What the scan for a parameter without default does with one part that is no splat. -/
theorem requiredAfterDefault_cons {seen : Bool} {part : Node} {rest : List Node}
    (hsplat : ¬part.isSplat) (h : Node.requiredAfterDefault seen (part :: rest) = false) :
    part.kind = .keywordSeparator ∨
      (part.isDefaultParameter = true ∧ Node.requiredAfterDefault true rest = false) ∨
      (part.isDefaultParameter = false ∧ seen = false ∧
        Node.requiredAfterDefault false rest = false) ∨
      (part.isDefaultParameter = false ∧ part.kind ≠ .identifier ∧ part.kind ≠ .typedParameter ∧
        Node.requiredAfterDefault seen rest = false) := by
  have hrequired (hdefault : part.isDefaultParameter = false)
      (hscan : (seen || Node.requiredAfterDefault seen rest) = false) :
      part.isDefaultParameter = false ∧ seen = false ∧
        Node.requiredAfterDefault false rest = false := by
    obtain ⟨rfl, hscan⟩ := Bool.or_eq_false_iff.1 hscan
    exact ⟨hdefault, rfl, hscan⟩
  rw [Node.requiredAfterDefault] at h
  split at h
  case h_1 hkind | h_2 hkind => exact .inr (.inl ⟨by simp [Node.isDefaultParameter, hkind], h⟩)
  case h_3 hkind =>
    split at h
    · rename_i hvariadic
      exact absurd (by simp [Node.isSplat, hkind, hvariadic]) hsplat
    · exact .inr (.inr (.inl (hrequired (by simp [Node.isDefaultParameter, hkind]) h)))
  case h_4 hkind | h_5 hkind =>
    exact .inr (.inr (.inl (hrequired (by simp [Node.isDefaultParameter, hkind]) h)))
  case h_6 hkind => exact .inl hkind
  case h_7 hkind | h_8 hkind =>
    exact absurd (by simp [Node.isSplat, Node.isVariadic, hkind]) hsplat
  case h_9 hdefault htypedDefault htyped hidentifier _ _ _ _ =>
    exact .inr (.inr (.inr
      ⟨by simpa [Node.isDefaultParameter] using ⟨hdefault, htypedDefault⟩, hidentifier, htyped, h⟩))

/-- Up to the first splat, the positional parameters with a value come last.  `seen` says that one
with a value came before. -/
theorem valuesLast_of_requiredAfterDefault {parameters : Node} {seen : Bool} {parts : List Node}
    (hvalue : ∀ part ∈ parts, part.hasValue = part.isDefaultParameter)
    (h : Node.requiredAfterDefault seen parts = false) :
    ValuesLast seen (positionalNodes parameters (parts.takeWhile (!·.isSplat))) := by
  induction parts generalizing seen with
  | nil => exact valuesLast_nil seen
  | cons part rest ih =>
    have hown := hvalue part List.mem_cons_self
    have hrest {later : Bool} (hscan : Node.requiredAfterDefault later rest = false) :=
      ih (fun other hother => hvalue other (List.mem_cons_of_mem _ hother)) hscan
    by_cases hsplat : part.isSplat
    · rw [List.takeWhile_cons_of_neg (by simp [hsplat])]
      exact valuesLast_nil seen
    rw [List.takeWhile_cons_of_pos (by simp [hsplat])]
    rcases requiredAfterDefault_cons hsplat h with
      hkind | ⟨hdefault, hscan⟩ | ⟨hdefault, rfl, hscan⟩ | ⟨hdefault, hidentifier, htyped, hscan⟩
    · rw [positionalNodes, partEntry, hkind]
      exact valuesLast_nil seen
    · -- The parameter has a value, so all after it need one.
      exact (hrest hscan).positionalNodes_cons (fun _ => rfl) fun _ _ _ _ =>
        ⟨fun _ => hown.trans hdefault, fun _ => rfl⟩
    · refine (hrest hscan).positionalNodes_cons id fun _ _ _ _ => ⟨nofun, fun hhas => ?_⟩
      rw [hown, hdefault] at hhas
      exact hhas
    · refine (hrest hscan).positionalNodes_cons id fun _ _ _ hentry => ?_
      rcases cases_of_partEntry hentry with ⟨hkind | hkind, _⟩ | ⟨hkind, _⟩
      · exact absurd hkind hidentifier
      · exact absurd hkind htyped
      · exact absurd hkind (by simp [hdefault])

end Extraction

namespace Syntax.Node

theorem firstFault?_of_firstFaultAmong? {nodes : List Node} (h : firstFaultAmong? nodes = none)
    {node : Node} (hnode : node ∈ nodes) : node.firstFault? = none := by
  induction nodes with
  | nil => cases hnode
  | cons head tail ih =>
    rw [firstFaultAmong?, Option.or_eq_none_iff] at h
    rcases List.mem_cons.1 hnode with rfl | hnode
    · exact h.1
    · exact ih h.2 hnode

/-- In a tree without a fault no node breaks a rule. -/
theorem ownFault?_of_firstFault? {node inner : Node} {path : List Nat}
    (h : node.firstFault? = none) (hat : node.at? path = some inner) : inner.ownFault? = none := by
  induction path generalizing node with
  | nil =>
    obtain ⟨label, children⟩ := node
    cases Option.some.inj hat
    rw [firstFault?] at h
    split at h
    · cases h
    · assumption
  | cons position path ih =>
    obtain ⟨child, hchild, hinner⟩ := Option.bind_eq_some_iff.1 hat
    obtain ⟨label, children⟩ := node
    rw [firstFault?] at h
    split at h
    · cases h
    · exact ih (firstFault?_of_firstFaultAmong? h (List.mem_of_getElem? hchild)) hinner

theorem firstFault?_of_rejection? {root : Node} (h : root.rejection? = none) :
    root.firstFault? = none := by
  rw [rejection?] at h
  split at h
  · cases h
  · exact h

end Syntax.Node

/-! ## Arguments and their own defaults -/

theorem requiredAfterDefault_of_rejection? {root definition parameters : Node} {path : List Nat}
    (haccepted : root.rejection? = none) (hplace : root.at? path = some definition)
    (hparameters : definition.child? .parameters = some parameters)
    (hkind : parameters.kind = .parameters) :
    Node.requiredAfterDefault false parameters.parts = false := by
  obtain ⟨position, hposition⟩ := List.mem_iff_getElem?.1
    (Node.mem_children_of_mem_childrenAt (Node.mem_childrenAt_of_child? hparameters))
  have hat : root.at? (path ++ [position]) = some parameters := by
    simp [Node.at?_append, hplace, Node.at?, hposition]
  have hfault := Node.ownFault?_of_firstFault? (Node.firstFault?_of_rejection? haccepted) hat
  simpa [Node.ownFault?, hkind] using hfault

theorem positionalNodes_takeWhile_isPrefix (parameters : Node) (wanted : Node → Bool)
    (parts : List Node) :
    positionalNodes parameters (parts.takeWhile wanted) <+: positionalNodes parameters parts := by
  induction parts with
  | nil => exact List.nil_prefix
  | cons part rest ih =>
    by_cases hpart : wanted part
    · rw [List.takeWhile_cons_of_pos hpart, positionalNodes, positionalNodes]
      split
      · exact (List.prefix_cons_inj _).2 ih
      · exact List.nil_prefix
      · exact List.nil_prefix
      · exact ih
    · rw [List.takeWhile_cons_of_neg hpart]
      exact List.nil_prefix

theorem pairwise_append_iff_valuesLast {before after : List Node}
    (hbefore : ValuesLast false before) :
    (before ++ after).Pairwise (fun first second => first.hasValue → second.hasValue) ↔
      ValuesLast (before.any Node.hasValue) after := by
  rw [List.pairwise_append]
  constructor
  · rintro ⟨_, hafter, hacross⟩
    refine ⟨hafter, fun hsome node hnode => ?_⟩
    obtain ⟨first, hfirst, hvalue⟩ := List.any_eq_true.1 hsome
    exact hacross first hfirst node hnode hvalue
  · rintro ⟨hafter, hall⟩
    refine ⟨hbefore.1, hafter, fun first hfirst node hnode hvalue => ?_⟩
    exact hall (List.any_eq_true.2 ⟨first, hfirst, hvalue⟩) node hnode

/-- The positional parameters in front of the first splat. -/
def positionalBeforeSplat (parameters : Node) : List Node :=
  positionalNodes parameters (parameters.parts.takeWhile (!·.isSplat))

/-- The positional parameters after the first splat. -/
def positionalAfterSplat (parameters : Node) : List Node :=
  (positionalNodes parameters parameters.parts).drop (positionalBeforeSplat parameters).length

/-- In an accepted tree the positional arguments have the defaults of their own parameters exactly
where this holds of the positional parameters after the first splat: those with a value come last,
and all have one if one before the splat has. -/
theorem args_hasDefault_eq_hasValue_iff {source : Source} {root definition parameters : Node}
    {path : List Nat} (decorators : List Node) (haccepted : root.rejection? = none)
    (hplace : root.at? path = some definition)
    (hparameters : definition.child? .parameters = some parameters)
    (hshape : ParametersShape parameters) :
    (functionStub source definition decorators).value.args.map (·.hasDefault) =
        (positionalNodes parameters parameters.parts).map Node.hasValue ↔
      ValuesLast ((positionalBeforeSplat parameters).any Node.hasValue)
        (positionalAfterSplat parameters) := by
  have hbefore : ValuesLast false (positionalBeforeSplat parameters) :=
    valuesLast_of_requiredAfterDefault hshape.value
      (requiredAfterDefault_of_rejection? haccepted hplace hparameters hshape.kind)
  have hsplit : positionalBeforeSplat parameters ++ positionalAfterSplat parameters =
      positionalNodes parameters parameters.parts :=
    List.prefix_iff_eq_append.1 (positionalNodes_takeWhile_isPrefix ..)
  rw [map_hasDefault_args_iff decorators hparameters hshape,
    ← pairwise_append_iff_valuesLast hbefore, hsplit]

/-- The parameter list `(a=1, **k, b)`. -/
def splatParameters : Node :=
  .inner .parameters (some .parameters) 5 18 [
    .token "(" 5 6,
    .inner .defaultParameter none 6 9 [
      .inner .identifier (some .name) 6 7 [],
      .token "=" 7 8,
      .inner .integer (some .value) 8 9 []],
    .token "," 9 10,
    .inner .dictionarySplatPattern none 11 14 [
      .token "**" 11 13,
      .inner .identifier none 13 14 []],
    .token "," 14 15,
    .inner .identifier none 16 17 [],
    .token ")" 17 18]

/-- The definition `def f(a=1, **k, b): pass`. -/
def splatFunction : Node :=
  .inner .functionDefinition none 0 24 [
    .token "def" 0 3,
    .inner .identifier (some .name) 4 5 [],
    splatParameters,
    .token ":" 18 19,
    .inner .block (some .body) 20 24 [.inner .passStatement none 20 24 [.token "pass" 20 24]]]

/-- The module with nothing but the definition. -/
def splatModule : Node :=
  .inner (.other "module") none 0 25 [splatFunction]

theorem splatParameters_shape : ParametersShape splatParameters :=
  ⟨rfl, by decide⟩

/-- The text of the module. -/
def splatSource : Source :=
  .ofText "f.py" "def f(a=1, **k, b): pass\n"

/-- The tree is accepted, and yet the default of `a` goes to `b`. -/
theorem splatModule_moves_default :
    splatModule.rejection? = none ∧
      (positionalNodes splatParameters splatParameters.parts).map Node.hasValue = [true, false] ∧
      (functionStub splatSource splatFunction []).value.args.map (·.hasDefault) = [false, true] ∧
      (functionStub splatSource splatFunction []).value.args.map (·.hasDefault) ≠
        (positionalNodes splatParameters splatParameters.parts).map Node.hasValue := by
  have haccepted : splatModule.rejection? = none := rfl
  have hplace : splatModule.at? [0] = some splatFunction := rfl
  refine ⟨haccepted, by decide, by rfl, fun hown => ?_⟩
  have hlast :=
    (args_hasDefault_eq_hasValue_iff [] haccepted hplace rfl splatParameters_shape).1 hown
  exact absurd hlast (by decide)

end InterfaceStub
