import InterfaceStub.Proofs.OwnDefaults

/-!
# The groups of a parameter list

A star divides the parameters of a function: those before it are given by position, those after it
by name only.  What has no place in a stub is dropped and reported.

* `Node.parameterName?` and `Node.splatName?` say what a part of a parameter list declares, and
  `Node.isStarMarker` which parts divide the list.
* `PartReading` compares this with the entry that is made of a part.  `partReading_partEntry` is the
  only place where the kinds of parts are gone through.
* `assignRoles_map_partEntry` divides the parameters at the first star marker.
* `noteOn` is what is reported of one child of the list, and `findings_reportEntries` says that all
  of it is reported, but of several slashes only the first.
* `signature_grouped` is the result, for the arguments of a function and for its findings.
-/

namespace InterfaceStub

open Syntax Extraction

/-! ## What the parts of a parameter list declare -/

namespace Syntax.Node

/-- The name of a parameter that takes one argument. -/
def parameterName? (part : Node) : Option Node :=
  let name :=
    match part.kind with
    | .identifier => some part
    | .typedParameter => part.firstPart?
    | .defaultParameter | .typedDefaultParameter => part.child? .name
    | _ => none
  name.filter (·.kind == .identifier)

/-- What stands in front of the annotation, if there is one. -/
def annotated? (part : Node) : Option Node :=
  if part.kind == .typedParameter then part.firstPart? else some part

/-- The name after these stars. -/
def splatName? (stars : Kind) (part : Node) : Option Node :=
  ((part.annotated?.filter (·.kind == stars)).bind firstPart?).filter (·.kind == .identifier)

/-- Whether what follows is given by name only: a star, alone or with a name. -/
def isStarMarker (part : Node) : Bool :=
  part.kind == .keywordSeparator || (part.splatName? .listSplatPattern).isSome

/-- Whether a part declares a parameter, with or without stars. -/
def declaresParameter (part : Node) : Bool :=
  part.parameterName?.isSome || (part.splatName? .listSplatPattern).isSome ||
    (part.splatName? .dictionarySplatPattern).isSome

/-- Whether a part is a star or a slash alone. -/
def isSeparator (part : Node) : Bool :=
  part.kind == .keywordSeparator || part.kind == .positionalSeparator

/-- Whether a part has what the grammar demands of a parameter: a name or a splat stands in front of
an annotation, a parameter with a default has a name, and a bare one has neither a type nor a
value. -/
def hasParameterShape (part : Node) : Bool :=
  match part.kind with
  | .identifier | .listSplatPattern | .dictionarySplatPattern =>
    !(part.child? .type).isSome && !part.hasValue
  | .typedParameter =>
    part.firstPart?.any (fun inner => inner.kind == .identifier || inner.isVariadic) &&
      !part.hasValue
  | .defaultParameter | .typedDefaultParameter => (part.child? .name).isSome
  | _ => true

/-- A part declares a parameter for one argument, for the remaining positional ones, or for the
remaining named ones. -/
structure Declares (part : Node) (single positional named : Option Node) : Prop where
  single : part.parameterName? = single
  positional : part.splatName? .listSplatPattern = positional
  named : part.splatName? .dictionarySplatPattern = named

end Syntax.Node

namespace Extraction

/-- The parent and the node that are named when a part is dropped. -/
def blamed (parameters part : Node) : Node × Node :=
  match part.kind with
  | .typedParameter => (parameters, part.firstPart?.getD part)
  | .defaultParameter | .typedDefaultParameter => (part, (part.child? .name).getD part)
  | _ => (parameters, part)

/-- What a part declares, and the entry that is made of it. -/
inductive PartReading (parameters part : Node) : ParameterEntry → Prop where
  | plain {name : Node} (h : part.Declares (some name) none none) (hkind : ¬part.isSeparator) :
      PartReading parameters part (.plain name (part.child? .type) (part.child? .value))
  | varArg {name : Node} (h : part.Declares none (some name) none) (hkind : ¬part.isSeparator) :
      PartReading parameters part (.varArg name (part.child? .type))
  | kwArg {name : Node} (h : part.Declares none none (some name)) (hkind : ¬part.isSeparator) :
      PartReading parameters part (.kwArg name (part.child? .type))
  | star (h : part.Declares none none none) (hkind : part.kind = .keywordSeparator) :
      PartReading parameters part .star
  | slash (h : part.Declares none none none) (hkind : part.kind = .positionalSeparator) :
      PartReading parameters part (.slash part)
  | dropped (h : part.Declares none none none) (hkind : ¬part.isSeparator) :
      PartReading parameters part
        (.unsupported (blamed parameters part).1 (blamed parameters part).2)

theorem annotated?_of_ne {part : Node} (h : part.kind ≠ .typedParameter) :
    part.annotated? = some part := by
  simp [Node.annotated?, h]

/-- Without stars there is nothing but the name of a parameter. -/
theorem declares_of_not_isVariadic {part inner : Node} {name : Option Node}
    (hannotated : part.annotated? = some inner) (hstars : ¬inner.isVariadic)
    (hname : part.parameterName? = name) : part.Declares name none none := by
  simp only [Node.isVariadic, Bool.or_eq_true, beq_iff_eq, not_or] at hstars
  exact ⟨hname, by simp [Node.splatName?, hannotated, Option.filter_some, hstars],
    by simp [Node.splatName?, hannotated, Option.filter_some, hstars]⟩

/-- A splat is read by the name after its stars. -/
theorem partReading_splatEntry {parameters part splat : Node} (hsplat : splat.isVariadic)
    (hannotated : part.annotated? = some splat) (hname : part.parameterName? = none)
    (hkind : ¬part.isSeparator) (hblamed : blamed parameters part = (parameters, splat)) :
    PartReading parameters part (splatEntry parameters splat (part.child? .type)) := by
  have hsplatName (stars : Kind) : part.splatName? stars =
      if splat.kind = stars then splat.firstPart?.filter (·.kind == .identifier) else none := by
    by_cases hstars : splat.kind = stars <;>
      simp [Node.splatName?, hannotated, hstars, Option.filter_some]
  have hdropped (h : splat.firstPart?.filter (·.kind == .identifier) = none) :
      PartReading parameters part (.unsupported parameters splat) := by
    have hnothing : part.Declares none none none :=
      ⟨hname, by simp [hsplatName, h], by simp [hsplatName, h]⟩
    have hread : PartReading parameters part _ := .dropped hnothing hkind
    rwa [hblamed] at hread
  simp only [Node.isVariadic, Bool.or_eq_true, beq_iff_eq] at hsplat
  unfold splatEntry
  split
  · rename_i name hfirst
    split
    · rename_i hidentifier
      have hfilter : splat.firstPart?.filter (·.kind == .identifier) = some name := by
        simp [hfirst, Option.filter_some, eq_of_beq hidentifier]
      rcases hsplat with hstars | hstars
      · rw [if_pos (by simp [hstars])]
        refine .varArg ⟨hname, ?_, ?_⟩ hkind <;> simp [hsplatName, hstars, hfilter]
      · rw [if_neg (by simp [hstars])]
        refine .kwArg ⟨hname, ?_, ?_⟩ hkind <;> simp [hsplatName, hstars, hfilter]
    · rename_i hidentifier
      exact hdropped (by simp [hfirst, Option.filter_some, hidentifier])
  · rename_i hfirst
    exact hdropped (by simp [hfirst])

/-- The entry that is made of a part is what the part declares. -/
theorem partReading_partEntry (parameters : Node) {part : Node} (h : part.hasParameterShape) :
    PartReading parameters part (partEntry parameters part) := by
  have hother {name : Option Node} (hkind : part.kind ≠ .typedParameter ∧ ¬part.isVariadic)
      (hname : part.parameterName? = name) : part.Declares name none none :=
    declares_of_not_isVariadic (annotated?_of_ne hkind.1) hkind.2 hname
  unfold Node.hasParameterShape Node.hasValue at h
  unfold partEntry
  split
  case h_1 hkind =>
    exact .slash (hother (by simp [hkind, Node.isVariadic]) (by simp [Node.parameterName?, hkind]))
      hkind
  case h_2 hkind =>
    exact .star (hother (by simp [hkind, Node.isVariadic]) (by simp [Node.parameterName?, hkind]))
      hkind
  case h_3 hkind =>
    simp only [hkind, Bool.and_eq_true, Bool.not_eq_true', Option.isSome_eq_false_iff,
      Option.isNone_iff_eq_none] at h
    have hname : part.parameterName? = some part := by
      simp [Node.parameterName?, hkind, Option.filter_some]
    have hread : PartReading parameters part _ :=
      .plain (hother (by simp [hkind, Node.isVariadic]) hname) (by simp [Node.isSeparator, hkind])
    rwa [h.1, h.2] at hread
  case h_4 hkind | h_5 hkind =>
    simp only [hkind, Bool.and_eq_true, Bool.not_eq_true', Option.isSome_eq_false_iff,
      Option.isNone_iff_eq_none] at h
    rw [← h.1]
    apply partReading_splatEntry (by simp [Node.isVariadic, hkind])
      (annotated?_of_ne (by simp [hkind]))
    all_goals simp [Node.parameterName?, Node.isSeparator, blamed, hkind]
  case h_6 hkind =>
    simp only [hkind, Bool.and_eq_true, Bool.not_eq_true', Option.isSome_eq_false_iff,
      Option.isNone_iff_eq_none, Option.any_eq_true] at h
    obtain ⟨⟨inner, hinner, hsort⟩, hvalue⟩ := h
    have hseparator : ¬part.isSeparator := by simp [Node.isSeparator, hkind]
    have hannotated : part.annotated? = some inner := by simp [Node.annotated?, hkind, hinner]
    have hname : part.parameterName? = if inner.kind = .identifier then some inner else none := by
      simp [Node.parameterName?, hkind, hinner, Option.filter_some]
    rw [hinner]
    by_cases hstars : inner.isVariadic
    · simp only [hstars, if_true]
      apply partReading_splatEntry hstars hannotated _ hseparator (by simp [blamed, hkind, hinner])
      simp only [Node.isVariadic, Bool.or_eq_true, beq_iff_eq] at hstars
      rcases hstars with hstars | hstars <;> simp [hname, hstars]
    · have hidentifier : inner.kind = .identifier := by simpa [hstars] using hsort
      have hdeclares : part.Declares (some inner) none none :=
        declares_of_not_isVariadic hannotated hstars (by rw [hname, if_pos hidentifier])
      have hread : PartReading parameters part _ := .plain hdeclares hseparator
      simpa [hstars, hvalue] using hread
  case h_7 hkind | h_8 hkind =>
    simp only [hkind, Option.isSome_iff_exists] at h
    obtain ⟨name, hchild⟩ := h
    have hseparator : ¬part.isSeparator := by simp [Node.isSeparator, hkind]
    have hname : part.parameterName? = if name.kind = .identifier then some name else none := by
      simp [Node.parameterName?, hkind, hchild, Option.filter_some]
    have hdeclares := hother (by simp [hkind, Node.isVariadic]) hname
    rw [hchild]
    by_cases hidentifier : name.kind = .identifier
    · rw [if_pos hidentifier] at hdeclares
      have hread : PartReading parameters part _ := .plain hdeclares hseparator
      simpa [hidentifier] using hread
    · rw [if_neg hidentifier] at hdeclares
      have hread : PartReading parameters part _ := .dropped hdeclares hseparator
      simpa [blamed, hkind, hchild, hidentifier] using hread
  case h_9 hslash hstar hidentifier hlist hdictionary htyped hdefault htypedDefault =>
    clear h
    have hname : part.parameterName? = none := by
      unfold Node.parameterName?
      split <;> simp_all
    have hblamed : blamed parameters part = (parameters, part) := by
      unfold blamed
      split <;> simp_all
    have hseparator : ¬part.isSeparator := by simpa [Node.isSeparator] using ⟨hstar, hslash⟩
    have hnothing := hother ⟨htyped, by simpa [Node.isVariadic] using ⟨hlist, hdictionary⟩⟩ hname
    have hread : PartReading parameters part _ := .dropped hnothing hseparator
    rwa [hblamed] at hread

/-! ## Parameters on both sides of the star -/

/-- The parameter for one argument that a part declares. -/
def singleParameter? (role : Role) (part : Node) : Option Parameter :=
  part.parameterName?.map fun name => ⟨role, name, part.child? .type, part.child? .value⟩

/-- The parameter with stars that a part declares. -/
def splatParameter? (role : Role) (stars : Kind) (part : Node) : Option Parameter :=
  (part.splatName? stars).map fun name => ⟨role, name, part.child? .type, none⟩

/-- The parameter that a part declares, where one for a single argument has this role. -/
def declared? (role : Role) (part : Node) : Option Parameter :=
  ((singleParameter? role part).or (splatParameter? .varArg .listSplatPattern part)).or
    (splatParameter? .kwArg .dictionarySplatPattern part)

/-- One part adds the parameter that it declares, and a star marker changes the roles after it. -/
theorem assignRoles_cons {parameters part : Node} (h : part.hasParameterShape) (starred : Bool)
    (rest : List ParameterEntry) :
    assignRoles starred (partEntry parameters part :: rest) =
      (declared? (if starred then .keywordOnly else .positional) part).toList ++
        assignRoles (starred || part.isStarMarker) rest := by
  have hread := partReading_partEntry parameters h
  generalize partEntry parameters part = entry at hread
  cases hread with
  | plain hdeclares hkind | varArg hdeclares hkind | kwArg hdeclares hkind
  | dropped hdeclares hkind =>
    obtain ⟨hsingle, hpositional, hnamed⟩ := hdeclares
    have hstar := (not_or.1 (mt Bool.or_eq_true_iff.2 hkind)).1
    simp [assignRoles, declared?, singleParameter?, splatParameter?, Node.isStarMarker, hsingle,
      hpositional, hnamed, hstar]
  | star hdeclares hkind =>
    obtain ⟨hsingle, hpositional, hnamed⟩ := hdeclares
    have hstar : part.isStarMarker = true := by simp [Node.isStarMarker, hkind]
    simp [assignRoles, declared?, singleParameter?, splatParameter?, hsingle, hpositional, hnamed,
      hstar]
  | slash hdeclares hkind =>
    obtain ⟨hsingle, hpositional, hnamed⟩ := hdeclares
    have hstar : part.isStarMarker = false := by simp [Node.isStarMarker, hpositional, hkind]
    simp [assignRoles, declared?, singleParameter?, splatParameter?, hsingle, hpositional, hnamed,
      hstar]

/-- A star marker is no parameter for one argument. -/
theorem parameterName?_of_isStarMarker {part : Node} (h : part.hasParameterShape)
    (hstar : part.isStarMarker) : part.parameterName? = none := by
  have hread := partReading_partEntry part h
  generalize partEntry part part = entry at hread
  cases hread with
  | plain hdeclares hkind =>
    have hkind := (not_or.1 (mt Bool.or_eq_true_iff.2 hkind)).1
    simp [Node.isStarMarker, hdeclares.positional, hkind] at hstar
  | varArg hdeclares | kwArg hdeclares | star hdeclares | slash hdeclares | dropped hdeclares =>
    exact hdeclares.single

theorem assignRoles_true_map_partEntry {parameters : Node} {parts : List Node}
    (h : ∀ part ∈ parts, part.hasParameterShape) :
    assignRoles true (parts.map (partEntry parameters)) =
      parts.filterMap (declared? .keywordOnly) := by
  induction parts with
  | nil => rfl
  | cons part rest ih =>
    obtain ⟨hpart, hrest⟩ := List.forall_mem_cons.1 h
    rw [List.map_cons, assignRoles_cons hpart, Bool.true_or, ih hrest, if_pos rfl]
    cases hdeclared : declared? .keywordOnly part <;> simp [hdeclared]

/-- The parts in front of the first star marker. -/
def beforeStar (parameters : Node) : List Node :=
  parameters.parts.takeWhile (!·.isStarMarker)

/-- The first star marker and the parts after it. -/
def fromStar (parameters : Node) : List Node :=
  parameters.parts.dropWhile (!·.isStarMarker)

/-- The parameters in front of the first star marker are positional, and those after it are given by
name. -/
theorem assignRoles_map_partEntry {parameters : Node} {parts : List Node}
    (h : ∀ part ∈ parts, part.hasParameterShape) :
    assignRoles false (parts.map (partEntry parameters)) =
      (parts.takeWhile (!·.isStarMarker)).filterMap (declared? .positional) ++
        (parts.dropWhile (!·.isStarMarker)).filterMap (declared? .keywordOnly) := by
  induction parts with
  | nil => rfl
  | cons part rest ih =>
    obtain ⟨hpart, hrest⟩ := List.forall_mem_cons.1 h
    rw [List.map_cons, assignRoles_cons hpart, Bool.false_or, if_neg Bool.false_ne_true]
    by_cases hstar : part.isStarMarker
    · -- The marker itself is no parameter for one argument, so either role will do.
      have hrole : declared? .positional part = declared? .keywordOnly part := by
        simp [declared?, singleParameter?, parameterName?_of_isStarMarker hpart hstar]
      rw [hstar, assignRoles_true_map_partEntry hrest, hrole]
      cases hdeclared : declared? .keywordOnly part <;> simp [hstar, hdeclared]
    · rw [Bool.not_eq_true] at hstar
      rw [hstar, ih hrest]
      cases hdeclared : declared? .positional part <;> simp [hstar, hdeclared]

/-- The parameter that a part declares, where it has the role asked for. -/
theorem filter_declared? {part : Node} (h : part.hasParameterShape) {single : Role}
    (hsingle : single = .positional ∨ single = .keywordOnly) (role : Role) :
    (declared? single part).filter (·.role == role) =
      match role with
      | .varArg => splatParameter? .varArg .listSplatPattern part
      | .kwArg => splatParameter? .kwArg .dictionarySplatPattern part
      | role => if single = role then singleParameter? role part else none := by
  have hread := partReading_partEntry part h
  generalize partEntry part part = entry at hread
  cases hread with
  | plain hdeclares | varArg hdeclares | kwArg hdeclares | star hdeclares | slash hdeclares
  | dropped hdeclares =>
    obtain ⟨hname, hpositional, hnamed⟩ := hdeclares
    rcases hsingle with rfl | rfl <;> cases role <;>
      simp [declared?, singleParameter?, splatParameter?, hname, hpositional, hnamed,
        Option.filter_some]

theorem beforeStar_append_fromStar (parameters : Node) :
    beforeStar parameters ++ fromStar parameters = parameters.parts :=
  List.takeWhile_append_dropWhile

section

variable {source : Source} {parameters : Node}
  (hshape : ∀ part ∈ parameters.parts, part.hasParameterShape)

include hshape

/-- The parameters with one role are what the parts declare, in their order. -/
theorem filter_role_assignRoles (role : Role) :
    (assignRoles false (entries source parameters)).filter (·.role == role) =
      match role with
      | .positional => (beforeStar parameters).filterMap (singleParameter? .positional)
      | .keywordOnly => (fromStar parameters).filterMap (singleParameter? .keywordOnly)
      | .varArg => parameters.parts.filterMap (splatParameter? .varArg .listSplatPattern)
      | .kwArg => parameters.parts.filterMap (splatParameter? .kwArg .dictionarySplatPattern) := by
  rw [assignRoles_entries, assignRoles_map_partEntry hshape, List.filter_append,
    List.filter_filterMap, List.filter_filterMap]
  change List.filterMap _ (beforeStar parameters) ++ List.filterMap _ (fromStar parameters) = _
  rw [← beforeStar_append_fromStar, List.forall_mem_append] at hshape
  rw [List.filterMap_congr fun part hpart => filter_declared? (hshape.1 part hpart) (.inl rfl) role,
    List.filterMap_congr fun part hpart => filter_declared? (hshape.2 part hpart) (.inr rfl) role]
  cases role <;> simp [← beforeStar_append_fromStar]

end

/-! ## The arguments of a signature -/

/-- What a part says of the type of its parameter. -/
def annotationOf (source : Source) (part : Node) : Report (Option String) :=
  optionalType source (part.child? .type)

/-- The argument for a part that declares a parameter with this name. -/
def argumentOf (source : Source) (part : Node) (hasDefault : Bool) (name : Node) : Argument :=
  ⟨source.text name, (annotationOf source part).value, hasDefault⟩

/-- The arguments of a function are what the parts of its parameter list declare. -/
structure SignatureGroups (source : Source) (parameters : Node) (stub : FunctionStub) : Prop where
  /-- Those in front of the star are given by position. -/
  args : stub.args.map (fun argument => (argument.name, argument.annotation)) =
    (beforeStar parameters).filterMap fun part => part.parameterName?.map fun name =>
      (source.text name, (annotationOf source part).value)
  /-- Those after the star are given by name, and have a default where they have a value. -/
  kwArgs : stub.kwArgs = (fromStar parameters).filterMap fun part =>
    part.parameterName?.map (argumentOf source part part.hasValue)
  /-- Of several splats the last one counts. -/
  varArg : stub.varArg = (parameters.parts.filterMap fun part =>
    (part.splatName? .listSplatPattern).map (argumentOf source part false)).getLast?
  kwArg : stub.kwArg = (parameters.parts.filterMap fun part =>
    (part.splatName? .dictionarySplatPattern).map (argumentOf source part false)).getLast?

theorem map_fst_alignRight {first : List α} {second : List β} {pairs : List (α × Option β)}
    (h : alignRight first second = .ok pairs) : pairs.map (·.1) = first := by
  rw [alignRight] at h
  split at h
  · cases h
    exact List.map_fst_zip (by simp; omega)
  · cases h

/-- Aligning the default values keeps the positional parameters and their order. -/
theorem positionalArguments_eq (source : Source) (parameters : Node) (positional : List Parameter) :
    (positionalArguments source parameters positional).value.map
        (fun argument => (argument.name, argument.annotation)) =
      positional.map (fun parameter =>
        (source.text parameter.name, (optionalType source parameter.type).value)) ∧
    (positionalArguments source parameters positional).findings =
      positional.flatMap fun parameter => (optionalType source parameter.type).findings := by
  obtain ⟨pairs, hpairs⟩ : ∃ pairs,
      alignRight positional (positional.filterMap Parameter.value) = .ok pairs :=
    ⟨_, if_pos (List.length_filterMap_le _ _)⟩
  have hfirst := map_fst_alignRight hpairs
  rw [positionalArguments, hpairs]
  generalize positional = first at *
  subst hfirst
  simp [Report.gather, Parameter.argument, List.flatMap_map, Function.comp_def]

/-- The other arguments with one role are those of the parameters with the role. -/
theorem withRole_gather (source : Source) {role : Role} (hrole : role ≠ .positional)
    (parameters : List Parameter) :
    withRole role (Report.gather ((parameters.filter (not ∘ (·.role == .positional))).map
        (·.namedArgument source))).value =
      (parameters.filter (·.role == role)).map fun parameter =>
        ⟨source.text parameter.name, (optionalType source parameter.type).value,
          role == .keywordOnly && parameter.value.isSome⟩ := by
  have hboth : parameters.filter (fun parameter => parameter.role == role &&
      (not ∘ (·.role == .positional)) parameter) = parameters.filter (·.role == role) := by
    refine List.filter_congr fun parameter _ => ?_
    by_cases hparameter : parameter.role = role
    · simp [hparameter, hrole]
    · simp [hparameter]
  rw [withRole, Report.gather, List.map_map, List.filter_map, List.map_map]
  simp only [Function.comp_def, Parameter.namedArgument, Parameter.argument, Report.value_bind,
    Report.value_pure, List.filter_filter] at hboth ⊢
  rw [hboth]
  refine List.map_congr_left fun parameter hparameter => ?_
  simp only [eq_of_beq (List.mem_filter.1 hparameter).2]

/-- The parameters of a list are grouped by the star. -/
theorem signatureGroups_parameterList (source : Source) (name : String) {parameters : Node}
    (hshape : ∀ part ∈ parameters.parts, part.hasParameterShape) :
    SignatureGroups source parameters (parameterList source name parameters).value := by
  rw [parameterList, List.partition_eq_filter_filter]
  simp only [Report.value_bind, Report.value_pure]
  constructor
  case args =>
    simp only [(positionalArguments_eq ..).1, filter_role_assignRoles hshape, List.map_filterMap]
    simp only [singleParameter?, Option.map_map, Function.comp_def, annotationOf]
  case kwArgs =>
    simp only [withRole_gather source (show Role.keywordOnly ≠ .positional by decide),
      filter_role_assignRoles hshape, List.map_filterMap, singleParameter?, Option.map_map]
    rfl
  case varArg =>
    simp only [withRole_gather source (show Role.varArg ≠ .positional by decide),
      filter_role_assignRoles hshape, List.map_filterMap, splatParameter?, Option.map_map]
    rfl
  case kwArg =>
    simp only [withRole_gather source (show Role.kwArg ≠ .positional by decide),
      filter_role_assignRoles hshape, List.map_filterMap, splatParameter?, Option.map_map]
    rfl

/-! ## What is reported -/

/-- A list without the items that follow another one of their sort. -/
def onlyFirst (sort : α → Bool) : List α → List α
  | [] => []
  | item :: rest => item :: if sort item then rest.filter (!sort ·) else onlyFirst sort rest

/-- Whether a child is a slash alone. -/
def isSlash (child : Node) : Bool :=
  !child.label.extra && child.kind == .positionalSeparator

/-- What is reported of one child of a parameter list: a comment that declares types, a slash, and
a part that declares nothing and is no separator. -/
def noteOn (source : Source) (parameters child : Node) : Option Finding :=
  if child.label.extra then
    if source.commentDeclaresType child then some ⟨source.line child, .unsupported .typeComments⟩
    else none
  else if child.kind == .positionalSeparator then
    some ⟨source.line child, .unsupported .positionOnlyArguments⟩
  else if child.kind == .keywordSeparator || child.declaresParameter then none
  else
    let (parent, node) := blamed parameters child
    some ⟨source.line node, .inside parent.kind node.kind⟩

/-- What is reported of a parameter list beside its annotations. -/
def notes (source : Source) (parameters : Node) : List Finding :=
  (onlyFirst isSlash (parameters.children.filter (·.label.named))).filterMap
    (noteOn source parameters)

theorem findings_reportEntries_cons {source : Source} {parameters child : Node}
    (hshape : child.isPart → child.hasParameterShape) (hnamed : child.label.named)
    (slashed : Bool) (rest : List ParameterEntry) :
    (reportEntries source slashed (entryOf source parameters child :: rest)).findings =
      (if slashed && isSlash child then [] else (noteOn source parameters child).toList) ++
        (reportEntries source (slashed || isSlash child) rest).findings := by
  by_cases hextra : child.label.extra
  · by_cases hcomment : source.commentDeclaresType child <;>
      simp [entryOf, noteOn, isSlash, hextra, hcomment, reportEntries, flag]
  · have hread := partReading_partEntry parameters (hshape (by simp [Node.isPart, hnamed, hextra]))
    rw [entryOf, if_neg hextra]
    generalize partEntry parameters child = entry at hread
    cases hread with
    | plain hdeclares hkind | varArg hdeclares hkind | kwArg hdeclares hkind
    | dropped hdeclares hkind =>
      obtain ⟨hname, hpositional, hnamed⟩ := hdeclares
      obtain ⟨hstar, hslash⟩ : (child.kind == .keywordSeparator) = false ∧
          (child.kind == .positionalSeparator) = false := by
        simpa [Node.isSeparator] using hkind
      simp [noteOn, isSlash, Node.declaresParameter, hextra, hname, hpositional, hnamed, hstar,
        hslash, reportEntries, flag]
    | star hdeclares hkind =>
      have hslash : isSlash child = false := by simp [isSlash, hkind]
      simp [noteOn, hslash, hextra, hkind, reportEntries]
    | slash hdeclares hkind =>
      have hslash : isSlash child = true := by simp [isSlash, hextra, hkind]
      cases slashed <;> simp [noteOn, hslash, hextra, hkind, reportEntries, flag]

/-- What is reported of some children is what each of them gives, but only the first slash counts.
`slashed` says that one came before. -/
theorem findings_reportEntries {source : Source} {parameters : Node} {children : List Node}
    (hnamed : ∀ child ∈ children, child.label.named)
    (hshape : ∀ child ∈ children, child.isPart → child.hasParameterShape) (slashed : Bool) :
    (reportEntries source slashed (children.map (entryOf source parameters))).findings =
      (if slashed then children.filter (!isSlash ·) else onlyFirst isSlash children).filterMap
        (noteOn source parameters) := by
  induction children generalizing slashed with
  | nil => cases slashed <;> rfl
  | cons child rest ih =>
    obtain ⟨hchildNamed, hrestNamed⟩ := List.forall_mem_cons.1 hnamed
    obtain ⟨hchild, hrest⟩ := List.forall_mem_cons.1 hshape
    rw [List.map_cons, findings_reportEntries_cons hchild hchildNamed, ih hrestNamed hrest]
    cases slashed <;> cases hslash : isSlash child <;>
      cases hnote : noteOn source parameters child <;> simp [onlyFirst, hslash, hnote]

/-- The parts whose annotations are read, in the order in which this is done: the positional
parameters come first. -/
def annotatedParts (parameters : Node) : List Node :=
  (beforeStar parameters).filter (·.parameterName?.isSome) ++
    (beforeStar parameters).filter (fun part =>
      part.declaresParameter && !part.parameterName?.isSome) ++
    (fromStar parameters).filter (·.declaresParameter)

/-- What is found in the types of parameters is found in those of the parts that declare them. -/
theorem flatMap_type_filterMap (source : Source) {declare : Node → Option Parameter}
    {declares : Node → Bool} {parts : List Node}
    (htype : ∀ part, ∀ parameter ∈ declare part, parameter.type = part.child? .type)
    (hdeclares : ∀ part, (declare part).isSome = declares part) :
    ((parts.filterMap declare).flatMap fun parameter =>
        (optionalType source parameter.type).findings) =
      (parts.filter declares).flatMap fun part => (annotationOf source part).findings := by
  induction parts with
  | nil => rfl
  | cons part rest ih =>
    have hpart := hdeclares part
    cases hdeclare : declare part with
    | none =>
      rw [hdeclare] at hpart
      simp [hdeclare, ← hpart, ih]
    | some parameter =>
      rw [hdeclare] at hpart
      simp [hdeclare, ← hpart, ih, htype part parameter hdeclare, annotationOf]

theorem type_of_mem_declared? {role : Role} {part : Node} {parameter : Parameter}
    (h : parameter ∈ declared? role part) : parameter.type = part.child? .type := by
  simp only [declared?, singleParameter?, splatParameter?, Option.mem_def, Option.or_eq_some_iff,
    Option.map_eq_some_iff] at h
  rcases h with (⟨_, _, rfl⟩ | ⟨_, _, _, rfl⟩) | ⟨_, _, _, rfl⟩ <;> rfl

/-- The annotations of the parameters that are not positional are read in the order of the parts. -/
theorem findings_gather_namedArgument (source : Source) {parameters : Node}
    (hshape : ∀ part ∈ parameters.parts, part.hasParameterShape) :
    (Report.gather (((assignRoles false (entries source parameters)).filter
        (not ∘ (·.role == .positional))).map (·.namedArgument source))).findings =
      ((beforeStar parameters).filter (fun part =>
          part.declaresParameter && !part.parameterName?.isSome) ++
        (fromStar parameters).filter (·.declaresParameter)).flatMap fun part =>
          (annotationOf source part).findings := by
  have htypes (role : Role) (part : Node) (parameter : Parameter)
      (h : parameter ∈ (declared? role part).filter (not ∘ (·.role == .positional))) :
      parameter.type = part.child? .type :=
    type_of_mem_declared? (Option.filter_eq_some_iff.1 h).1
  have hbefore (part : Node) : ((declared? .positional part).filter
      (not ∘ (·.role == .positional))).isSome =
        (part.declaresParameter && !part.parameterName?.isSome) := by
    cases hname : part.parameterName? <;> cases hpositional : part.splatName? .listSplatPattern <;>
      cases hnamed : part.splatName? .dictionarySplatPattern <;>
      simp [declared?, singleParameter?, splatParameter?, Node.declaresParameter, hname,
        hpositional, hnamed, Option.filter_some]
  have hfrom (part : Node) : ((declared? .keywordOnly part).filter
      (not ∘ (·.role == .positional))).isSome = part.declaresParameter := by
    cases hname : part.parameterName? <;> cases hpositional : part.splatName? .listSplatPattern <;>
      cases hnamed : part.splatName? .dictionarySplatPattern <;>
      simp [declared?, singleParameter?, splatParameter?, Node.declaresParameter, hname,
        hpositional, hnamed, Option.filter_some]
  rw [assignRoles_entries, assignRoles_map_partEntry hshape, List.filter_append,
    List.filter_filterMap, List.filter_filterMap, List.flatMap_append,
    ← flatMap_type_filterMap source (htypes .positional) hbefore,
    ← flatMap_type_filterMap source (htypes .keywordOnly) hfrom, ← List.flatMap_append]
  simp [Report.gather, List.flatMap_map, Parameter.namedArgument, Parameter.argument, beforeStar,
    fromStar]

theorem findings_parameterList (source : Source) (name : String) {parameters : Node}
    (hshape : ∀ part ∈ parameters.parts, part.hasParameterShape) :
    (parameterList source name parameters).findings = notes source parameters ++
      (annotatedParts parameters).flatMap fun part => (annotationOf source part).findings := by
  have hnotes : (reportEntries source false (entries source parameters)).findings =
      notes source parameters := by
    rw [entries, findings_reportEntries, if_neg Bool.false_ne_true, notes]
    · exact fun child hchild => (List.mem_filter.1 hchild).2
    · intro child hchild hpart
      exact hshape child (List.mem_filter.2 ⟨(List.mem_filter.1 hchild).1, hpart⟩)
  have hpositional : (positionalArguments source parameters
      ((assignRoles false (entries source parameters)).filter (·.role == .positional))).findings =
        ((beforeStar parameters).filter (·.parameterName?.isSome)).flatMap fun part =>
          (annotationOf source part).findings := by
    rw [(positionalArguments_eq ..).2, filter_role_assignRoles hshape]
    exact flatMap_type_filterMap source (by simp [singleParameter?]) (by simp [singleParameter?])
  rw [parameterList, List.partition_eq_filter_filter]
  simp only [Report.findings_bind, Report.findings_pure, List.append_nil, hnotes, hpositional,
    findings_gather_namedArgument source hshape, annotatedParts, List.flatMap_append,
    List.append_assoc]

end Extraction

/-! ## Signatures -/

/-- The parameters of a function are divided by the first star marker, each group in the order of
the source.  What declares no parameter is reported, each part by itself except that several slashes
count once, and nothing else is reported but what comes up in the annotations, the decorators and
the comments. -/
theorem signature_grouped {source : Source} {definition parameters : Node} (decorators : List Node)
    (hparameters : definition.child? .parameters = some parameters)
    (hshape : ∀ part ∈ parameters.parts, part.hasParameterShape) :
    SignatureGroups source parameters (functionStub source definition decorators).value ∧
      (functionStub source definition decorators).findings =
        decorators.flatMap (fun decorator => (decoratorPath source decorator).findings) ++
        notes source parameters ++
        (annotatedParts parameters).flatMap (fun part => (annotationOf source part).findings) ++
        (optionalType source (definition.child? .returnType)).findings ++
        (if source.signatureDeclaresType definition then
          [⟨source.line definition, .unsupported .typeComments⟩] else []) := by
  have hgroups := signatureGroups_parameterList source (nameOf source definition) hshape
  have hfindings := findings_parameterList source (nameOf source definition) hshape
  rw [functionStub, hparameters]
  constructor
  · simp only [Report.value_bind]
    split <;> exact ⟨hgroups.args, hgroups.kwArgs, hgroups.varArg, hgroups.kwArg⟩
  · simp only [Report.findings_bind, hfindings, Report.gather, List.flatMap_map]
    split <;> simp [flag]

/-- The parameter list `(a, /, b: int, *args: str, (c, d), /, e=1, **kw)`. -/
def groupedParameters : Node :=
  .inner .parameters (some .parameters) 5 53 [
    .token "(" 5 6,
    .inner .identifier none 6 7 [],
    .token "," 7 8,
    .inner .positionalSeparator none 9 10 [.token "/" 9 10],
    .token "," 10 11,
    .inner .typedParameter none 12 18 [
      .inner .identifier none 12 13 [],
      .token ":" 13 14,
      .inner .type (some .type) 15 18 [.inner .identifier none 15 18 []]],
    .token "," 18 19,
    .inner .typedParameter none 20 30 [
      .inner .listSplatPattern none 20 25 [
        .token "*" 20 21,
        .inner .identifier none 21 25 []],
      .token ":" 25 26,
      .inner .type (some .type) 27 30 [.inner .identifier none 27 30 []]],
    .token "," 30 31,
    .inner .tuplePattern none 32 38 [
      .token "(" 32 33,
      .inner .identifier none 33 34 [],
      .token "," 34 35,
      .inner .identifier none 36 37 [],
      .token ")" 37 38],
    .token "," 38 39,
    .inner .positionalSeparator none 40 41 [.token "/" 40 41],
    .token "," 41 42,
    .inner .defaultParameter none 43 46 [
      .inner .identifier (some .name) 43 44 [],
      .token "=" 44 45,
      .inner .integer (some .value) 45 46 []],
    .token "," 46 47,
    .inner .dictionarySplatPattern none 48 52 [
      .token "**" 48 50,
      .inner .identifier none 50 52 []],
    .token ")" 52 53]

/-- The definition of a function with these parameters. -/
def groupedFunction : Node :=
  .inner .functionDefinition none 0 59 [
    .token "def" 0 3,
    .inner .identifier (some .name) 4 5 [],
    groupedParameters,
    .token ":" 53 54,
    .inner .block (some .body) 55 59 [.inner .passStatement none 55 59 [.token "pass" 55 59]]]

/-- The text of the definition. -/
def groupedSource : Source :=
  .ofText "f.py" "def f(a, /, b: int, *args: str, (c, d), /, e=1, **kw): pass\n"

/-- The tuple is dropped, and the two slashes are reported once. -/
theorem groupedFunction_signature :
    (∀ part ∈ groupedParameters.parts, part.hasParameterShape) ∧
      (functionStub groupedSource groupedFunction []).value.args.map
          (fun argument => (argument.name, argument.annotation)) =
        [("a", none), ("b", some "int")] ∧
      (functionStub groupedSource groupedFunction []).value.kwArgs = [⟨"e", none, true⟩] ∧
      (functionStub groupedSource groupedFunction []).value.varArg =
        some ⟨"args", some "str", false⟩ ∧
      (functionStub groupedSource groupedFunction []).value.kwArg = some ⟨"kw", none, false⟩ ∧
      (functionStub groupedSource groupedFunction []).findings =
        [⟨1, .unsupported .positionOnlyArguments⟩, ⟨1, .inside .parameters .tuplePattern⟩] := by
  have hshape : ∀ part ∈ groupedParameters.parts, part.hasParameterShape := by decide
  have hparameters : groupedFunction.child? .parameters = some groupedParameters := rfl
  obtain ⟨hgroups, hfindings⟩ := @signature_grouped groupedSource _ _ [] hparameters hshape
  exact ⟨hshape, hgroups.args.trans (by decide +kernel), hgroups.kwArgs.trans rfl,
    hgroups.varArg.trans (by decide +kernel), hgroups.kwArg.trans rfl,
    hfindings.trans (by decide +kernel)⟩

end InterfaceStub
