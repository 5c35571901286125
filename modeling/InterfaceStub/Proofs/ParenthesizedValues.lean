import InterfaceStub.Proofs.Parentheses
import InterfaceStub.Proofs.TargetExpansion

/-!
# Parentheses around values

A pattern is matched with a value by the elements of both.  Whether a value has elements is judged
without the parentheses around it, but the elements are those of the node as it stands, and the one
of a pair of parentheses is what it encloses.  So a tuple in parentheses is split as if it were a
tuple with that tuple as its one element.

* Types.  `boundTypes` are the types of the names of a target that meets a value, and `elementTypes`
  those of the names of a pattern that meets the elements of a tuple or list.
* `SplitsAlike` says that the difference does not show in any pattern that meets parentheses around
  a tuple or list, and `boundTypes_eq_iff` that nothing else matters.
* `parentheses_transparent_iff` is the same for what an assignment declares and relies on.
-/

namespace InterfaceStub

open Syntax Extraction

namespace Extraction

open Node

variable {source : Source}

/-! ## Types -/

/-- The types of the names of a target that meets a value, left to right. -/
def boundTypes (source : Source) (target : Node) (value : Option Node) : List LiteralType :=
  (namePlaces target).map fun place => typeAtPath source target value place.path

theorem boundTypes_eq_iff_forall {target : Node} {value other : Option Node} :
    boundTypes source target other = boundTypes source target value ↔
      ∀ place ∈ namePlaces target,
        typeAtPath source target other place.path = typeAtPath source target value place.path :=
  List.map_inj_left

theorem boundTypes_of_isName {target : Node} (h : target.isName) (value : Option Node) :
    boundTypes source target value = [typeAt source value] := by
  rw [boundTypes, namePlaces_of_isName h]
  cases value <;> rfl

theorem boundTypes_of_stray {target : Node} (hname : ¬target.isName) (h : ¬target.isPattern)
    (value : Option Node) : boundTypes source target value = [] := by
  rw [boundTypes, namePlaces_of_stray hname h, List.map_nil]

theorem boundTypes_of_isPattern {pattern : Node} (h : pattern.isPattern) (value : Option Node) :
    boundTypes source pattern value = pattern.parts.zipIdx.flatMap fun part =>
      boundTypes source part.1 (value.bind fun value => valueAt? pattern value [part.2]) := by
  rw [boundTypes, namePlaces_of_isPattern h, List.map_flatMap]
  refine List.flatMap_congr fun part hpart => ?_
  rw [List.map_map, boundTypes]
  refine List.map_congr_left fun place _ => ?_
  exact typeAtPath_cons (List.mem_zipIdx_iff_getElem?.1 hpart) value place.path

/-- Some elements of a pattern and some of a value meet one to one. -/
def Paired (elements values : List Node) : Prop :=
  values.length = elements.length ∧ ∀ element ∈ elements ++ values, element.isStarred = false

instance (elements values : List Node) : Decidable (Paired elements values) :=
  inferInstanceAs (Decidable (_ ∧ _))

/-- Of the elements, only the number and the starred places count. -/
theorem paired_iff {elements values : List Node} :
    Paired elements values ↔
      (values.map isStarred).length = (elements.map isStarred).length ∧
        ∀ starred ∈ elements.map isStarred ++ values.map isStarred, starred = false := by
  rw [Paired, ← List.map_append, List.forall_mem_map, List.length_map, List.length_map]

/-- The types of the names in the elements of a pattern that meets a tuple or list with the elements
`values`. -/
def elementTypes (source : Source) (elements values : List Node) : List LiteralType :=
  if Paired elements values then
    (elements.zip values).flatMap fun pair => boundTypes source pair.1 (some pair.2)
  else elements.flatMap fun element => boundTypes source element none

theorem matches_iff {pattern value : Node} :
    Matches pattern value ↔ value.isDisplay ∧ Paired pattern.parts value.parts :=
  ⟨fun h => ⟨h.display, h.length, h.unstarred⟩, fun h => ⟨h.1, h.2.1, h.2.2⟩⟩

/-- A pattern that meets no tuple or list gives no type to its names. -/
theorem boundTypes_of_not_isDisplay {pattern value : Node} (h : pattern.isPattern)
    (hvalue : ¬value.isDisplay) :
    boundTypes source pattern (some value) = boundTypes source pattern none := by
  have hnone : ¬Matches pattern value := fun hmatches => hvalue hmatches.display
  simp [boundTypes_of_isPattern h, valueAt?, hnone]

/-- A pattern that meets a tuple or list shares its elements out. -/
theorem boundTypes_of_isDisplay {pattern value : Node} (h : pattern.isPattern)
    (hvalue : value.isDisplay) :
    boundTypes source pattern (some value) = elementTypes source pattern.parts value.parts := by
  have hzip : boundTypes source pattern (some value) =
      (pattern.parts.zip (elementValues source pattern.parts (some value))).flatMap fun pair =>
        boundTypes source pair.1 pair.2 := by
    rw [boundTypes_of_isPattern h, elementValues_eq]
    nth_rewrite 2 [← List.zipIdx_map_fst 0 pattern.parts]
    rw [List.zip_map', List.flatMap_map]
  rw [hzip, elementValues, Option.bind_some, matchedElements?_eq, elementTypes]
  by_cases hpaired : Paired pattern.parts value.parts
  · rw [if_pos (matches_iff.2 ⟨hvalue, hpaired⟩), if_pos hpaired, List.zip_map_right,
      List.flatMap_map]
    rfl
  · rw [if_neg fun hmatches => hpaired (matches_iff.1 hmatches).2, if_neg hpaired]
    have hnone : pattern.parts.zip (pattern.parts.map fun _ => (none : Option Node)) =
        pattern.parts.map fun element => (element, none) := by
      nth_rewrite 1 [← List.map_id pattern.parts]
      rw [List.zip_map']
      rfl
    simp only [hnone, List.flatMap_map]

/-! ## Parentheses -/

theorem isStarred_around {first second : Node} (h : Around first second) :
    second.isStarred = first.isStarred := by
  rcases h with h | h
  · rw [isStarred, h.kind_eq, isStarred]
  · rw [h.unstarred, isStarred, h.kind]
    rfl

theorem isDisplay_alike {first second : Node} (h : Like first.unwrapped second.unwrapped) :
    second.isDisplay = first.isDisplay := by
  rw [isDisplay, h.kind_eq, isDisplay]

theorem parts_detached (node : Node) : node.detached.parts = node.parts := by
  cases node
  rfl

theorem isStarred_detached (node : Node) : node.detached.isStarred = node.isStarred := by
  cases node
  rfl

theorem matches_detached {pattern value : Node} :
    Matches pattern value.detached ↔ Matches pattern value := by
  rw [matches_iff, matches_iff, isDisplay_alike (like_unwrapped_detached value), parts_detached]

/-- It does not matter which part a value plays in its parent. -/
theorem boundTypes_detached (target value : Node) :
    boundTypes source target (some value.detached) = boundTypes source target (some value) := by
  refine boundTypes_eq_iff_forall.2 fun place _ => ?_
  rw [typeAtPath, typeAtPath]
  cases place.path with
  | nil =>
    simp only [Option.bind_some, valueAt?, typeAt, Option.map_some,
      inferType_alike (like_unwrapped_detached value)]
  | cons position path =>
    simp only [Option.bind_some, valueAt?, matches_detached, parts_detached]

theorem paired_detached {elements : List Node} {value : Node} :
    Paired elements [value.detached] ↔ Paired elements [value] := by
  simp only [Paired, List.mem_append, List.mem_singleton, or_imp, forall_and, forall_eq,
    isStarred_detached, List.length_singleton]

theorem elementTypes_detached (elements : List Node) (value : Node) :
    elementTypes source elements [value.detached] = elementTypes source elements [value] := by
  rw [elementTypes, elementTypes]
  simp only [paired_detached]
  split
  · cases elements with
    | nil => rfl
    | cons element elements => simp [boundTypes_detached]
  · rfl

/-- Parentheses around a tuple or list are split as a tuple with the one element that they
enclose. -/
theorem boundTypes_of_parenthesizes {pattern inner outer : Node} (h : pattern.isPattern)
    (houter : outer.Parenthesizes inner) (hinner : inner.isDisplay) :
    boundTypes source pattern (some outer) = elementTypes source pattern.parts [inner] := by
  have hlike := Around.like_unwrapped (.inr houter)
  rw [boundTypes_of_isDisplay h ((isDisplay_alike hlike).trans hinner), houter.parts,
    elementTypes_detached]

/-- Wherever a pattern meets a tuple or list that has parentheses around it in the second value, its
names get the same types from the elements as from the tuple or list as the one element. -/
def SplitsAlike (source : Source) (target value other : Node) : Prop :=
  ∀ path pattern inner outer, target.targetAt? path = some pattern → pattern.isPattern →
    valueAt? target value path = some inner → valueAt? target other path = some outer →
    outer.Parenthesizes inner → inner.isDisplay →
    elementTypes source pattern.parts inner.parts = elementTypes source pattern.parts [inner]

theorem SplitsAlike.part {target part value other element enclosed : Node} {position : Nat}
    (h : SplitsAlike source target value other) (htarget : target.isPattern)
    (hpart : target.parts[position]? = some part)
    (helement : valueAt? target value [position] = some element)
    (henclosed : valueAt? target other [position] = some enclosed) :
    SplitsAlike source part element enclosed := by
  intro path pattern inner outer hat hpattern hinner houter
  refine h (position :: path) pattern inner outer ?_ hpattern ?_ ?_
  · rw [targetAt?, if_pos htarget, hpart]
    exact hat
  · rw [valueAt?_cons hpart, helement]
    exact hinner
  · rw [valueAt?_cons hpart, henclosed]
    exact houter

theorem rel_getElem? {R : Node → Node → Prop} {nodes others : List Node}
    (h : List.Forall₂ R nodes others) (position : Nat) :
    Option.Rel R nodes[position]? others[position]? := by
  rw [← List.head?_drop, ← List.head?_drop]
  exact rel_head? (List.forall₂_drop position h)

theorem paired_of_forall₂ {elements values others : List Node}
    (h : List.Forall₂ Around values others) : Paired elements others ↔ Paired elements values := by
  have hstarred : others.map isStarred = values.map isStarred :=
    map_eq_of_forall₂ h fun _ _ _ => isStarred_around
  rw [paired_iff, paired_iff, hstarred]

/-- With parentheses inside a value, what is at a position is still the same, up to parentheses. -/
theorem rel_valueAt? {pattern value other : Node} (h : EnclosesElement value other)
    (position : Nat) :
    Option.Rel Around (valueAt? pattern value [position]) (valueAt? pattern other [position]) := by
  have hparts := (like_of_encloses h).parts
  have hmatches : Matches pattern other ↔ Matches pattern value := by
    rw [matches_iff, matches_iff, isDisplay_alike (Within.like_unwrapped (.inr h)),
      paired_of_forall₂ hparts]
  simp only [valueAt?, hmatches]
  split
  · cases pattern.parts[position]? with
    | none => exact .none
    | some part =>
      rcases rel_cases (rel_getElem? hparts position) with
        ⟨hnone, hnone'⟩ | ⟨inner, outer, hinner, houter, hrel⟩
      · rw [hnone, hnone']
        exact .none
      · rw [hinner, houter]
        exact .some hrel
  · exact .none

/-- The names get the same types if every pattern splits alike. -/
theorem boundTypes_of_splitsAlike {target value other : Node} (h : Around value other)
    (hsplits : SplitsAlike source target value other) :
    boundTypes source target (some other) = boundTypes source target (some value) := by
  induction hsize : target.size using Nat.strongRecOn generalizing target value other with
  | ind size ih =>
    by_cases hname : target.isName
    · simp only [boundTypes_of_isName hname, typeAt, Option.map_some,
        inferType_alike h.like_unwrapped]
    · by_cases hpattern : target.isPattern
      · rcases h with (rfl | h) | h
        · rfl
        · -- the parentheses are further down: the elements differ in them at most
          rw [boundTypes_of_isPattern hpattern, boundTypes_of_isPattern hpattern]
          refine List.flatMap_congr fun part hpart => ?_
          have hat := List.mem_zipIdx_iff_getElem?.1 hpart
          have hlt := size_lt_of_mem_parts (List.mem_of_getElem? hat)
          rw [Option.bind_some, Option.bind_some]
          rcases rel_cases (rel_valueAt? h part.2) with
            ⟨hnone, hnone'⟩ | ⟨inner, outer, hinner, houter, hrel⟩
          · rw [hnone, hnone']
          · rw [hinner, houter]
            exact ih _ (hsize ▸ hlt) hrel (hsplits.part hpattern hat hinner houter) rfl
        · by_cases hvalue : value.isDisplay
          · rw [boundTypes_of_parenthesizes hpattern h hvalue,
              boundTypes_of_isDisplay hpattern hvalue]
            exact (hsplits [] target value other rfl hpattern rfl rfl h hvalue).symm
          · have hother : ¬other.isDisplay := by
              rw [isDisplay_alike (Around.like_unwrapped (.inr h))]
              exact hvalue
            rw [boundTypes_of_not_isDisplay hpattern hvalue,
              boundTypes_of_not_isDisplay hpattern hother]
      · rw [boundTypes_of_stray hname hpattern, boundTypes_of_stray hname hpattern]

/-- If the names of a target get the same types from two values, so do those of each pattern in it
from what it meets. -/
theorem boundTypes_at {target pattern value other inner outer : Node} {path : List Nat}
    (heq : boundTypes source target (some other) = boundTypes source target (some value))
    (hat : target.targetAt? path = some pattern) (hinner : valueAt? target value path = some inner)
    (houter : valueAt? target other path = some outer) :
    boundTypes source pattern (some outer) = boundTypes source pattern (some inner) := by
  induction path generalizing target value other with
  | nil =>
    cases hat
    cases hinner
    cases houter
    exact heq
  | cons position path ih =>
    rw [targetAt?] at hat
    split at hat
    · rename_i hpattern
      obtain ⟨part, hpart, hat⟩ := Option.bind_eq_some_iff.1 hat
      rw [valueAt?_cons hpart] at hinner houter
      obtain ⟨element, helement, hinner⟩ := Option.bind_eq_some_iff.1 hinner
      obtain ⟨enclosed, henclosed, houter⟩ := Option.bind_eq_some_iff.1 houter
      refine ih (boundTypes_eq_iff_forall.2 fun place hplace => ?_) hat hinner houter
      have hmem : place.under position ∈ namePlaces target := by
        rw [namePlaces_of_isPattern hpattern]
        exact List.mem_flatMap.2 ⟨(part, position), List.mem_zipIdx_iff_getElem?.2 hpart,
          List.mem_map.2 ⟨place, hplace, rfl⟩⟩
      have htype := boundTypes_eq_iff_forall.1 heq _ hmem
      rw [NamePlace.under, typeAtPath_cons hpart, typeAtPath_cons hpart, Option.bind_some,
        Option.bind_some, helement, henclosed] at htype
      exact htype
    · cases hat

/-- Parentheses leave the types of all names as they are if and only if every pattern splits
alike. -/
theorem boundTypes_eq_iff {target value other : Node} (h : Around value other) :
    boundTypes source target (some other) = boundTypes source target (some value) ↔
      SplitsAlike source target value other := by
  refine ⟨?_, boundTypes_of_splitsAlike h⟩
  intro heq path pattern inner outer hat hpattern hinner houter hparenthesizes hdisplay
  have hbound := boundTypes_at heq hat hinner houter
  rw [boundTypes_of_parenthesizes hpattern hparenthesizes hdisplay,
    boundTypes_of_isDisplay hpattern hdisplay] at hbound
  exact hbound.symm

/-! ## Assignments -/

theorem LiteralType.spelling_injective : Function.Injective LiteralType.spelling := by
  intro first second h
  cases first <;> cases second <;> first | rfl | exact absurd h (by decide)

theorem flatMap_map_inj {items : List α} {parts : α → List β} {f g : α → β → γ} :
    (items.flatMap fun item => (parts item).map (f item)) =
        (items.flatMap fun item => (parts item).map (g item)) ↔
      ∀ item ∈ items, (parts item).map (f item) = (parts item).map (g item) := by
  refine ⟨fun h => ?_, fun h => List.flatMap_congr h⟩
  induction items with
  | nil => simp
  | cons item items ih =>
    rw [List.flatMap_cons, List.flatMap_cons] at h
    obtain ⟨hitem, hitems⟩ := List.append_inj h (by simp)
    exact List.forall_mem_cons.2 ⟨hitem, ih hitems⟩

/-- The declarations of an assignment of a value of known type are known by the types of the
names. -/
theorem value_literalTargets_eq_iff {value other : Node} {type : LiteralType}
    (htype : inferType source value = .known type) (hother : inferType source other = .known type)
    (assignment another : Node) (targets : List Node) :
    (literalTargets source another other type targets).value =
        (literalTargets source assignment value type targets).value ↔
      ∀ target ∈ targets,
        boundTypes source target (some other) = boundTypes source target (some value) := by
  rw [literalTargets_eq htype, literalTargets_eq hother, Report.value_gatherAll_map,
    Report.value_gatherAll_map]
  simp only [bindElement_eq]
  rw [flatMap_map_inj]
  refine forall₂_congr fun target _ => ?_
  rw [boundTypes_eq_iff_forall, List.map_inj_left]
  refine forall₂_congr fun place _ => ?_
  rw [Attribute.mk.injEq, LiteralType.spelling_injective.eq_iff]
  exact and_iff_right rfl

theorem Report.Accounts.mem_required_iff {annotation? : α → Option String}
    {report : Report (List α)} (h : report.Accounts annotation?) {name : TypingName} :
    name ∈ report.required ↔ ∃ item ∈ report.value, ∃ type : LiteralType,
      annotation? item = some type.spelling ∧ name ∈ type.required := by
  refine ⟨h.written name, ?_⟩
  rintro ⟨item, hitem, type, htype, hname⟩
  obtain ⟨other, hspelling, hnoted⟩ := h.noted item hitem _ htype
  rw [LiteralType.spelling_injective hspelling] at hname
  exact hnoted hname

section

variable {settings : ExtractSettings} {leaf other : PlacedStatement} {assignment another : Node}

theorem IsPlainAssignment.stub_eq (h : IsPlainAssignment leaf.node assignment) :
    (extractStatement settings source leaf).stub =
      ⟨[], [], (extractStatement settings source leaf).stub.content⟩ := by
  rw [extractStatement, Extraction.ofReport, h.moduleStatement_eq, Report.value_map]
  simp [ModuleStub.ofItems, List.filterMap_map, Function.comp_def, ModuleItem.import?,
    ModuleItem.importFrom?]

/-- What an assignment without annotation relies on is known by what it declares. -/
theorem IsPlainAssignment.required_eq (h : IsPlainAssignment leaf.node assignment)
    (hother : IsPlainAssignment other.node another)
    (hcontent : (extractStatement settings source other).stub.content =
      (extractStatement settings source leaf).stub.content) :
    (extractStatement settings source other).required =
      (extractStatement settings source leaf).required := by
  rw [h.content_extractStatement, hother.content_extractStatement] at hcontent
  have hmem (name : TypingName) :
      name ∈ (moduleStatement settings source other.node other.following).required ↔
        name ∈ (moduleStatement settings source leaf.node leaf.following).required := by
    rw [h.moduleStatement_eq, hother.moduleStatement_eq, Report.required_map, Report.required_map,
      (accounts_moduleAssignment h.plain _ _).mem_required_iff,
      (accounts_moduleAssignment hother.plain _ _).mem_required_iff, hcontent]
  refine RequiredImports.eq_of_mem_iff fun name => ?_
  simp only [extractStatement, Extraction.ofReport, RequiredImports.mem_names_ofList, List.mem_map,
    hmem]

/-- An assignment without annotation yields declarations, and what they rely on. -/
theorem IsPlainAssignment.yields_eq_iff (h : IsPlainAssignment leaf.node assignment)
    (hother : IsPlainAssignment other.node another) :
    (extractStatement settings source other).stub = (extractStatement settings source leaf).stub ∧
        (extractStatement settings source other).required =
          (extractStatement settings source leaf).required ↔
      (extractStatement settings source other).stub.content =
        (extractStatement settings source leaf).stub.content := by
  refine ⟨fun heq => congrArg ModuleStub.content heq.1, fun hcontent => ⟨?_, ?_⟩⟩
  · rw [h.stub_eq, hother.stub_eq, hcontent]
  · exact h.required_eq hother hcontent

end

/-- What is no tuple or list is not split. -/
theorem splitsAlike_of_not_isDisplay {target value other : Node} (h : ¬value.isDisplay) :
    SplitsAlike source target value other := by
  intro path pattern inner outer _ _ hinner _ _ hdisplay
  cases path with
  | nil =>
    cases hinner
    exact absurd hdisplay h
  | cons position path =>
    have hnone : ¬Matches target value := fun hmatches => h hmatches.display
    rw [valueAt?, if_neg hnone] at hinner
    cases hinner

theorem splitsAlike_of_not_isPattern {target value other : Node} (h : ¬target.isPattern) :
    SplitsAlike source target value other := by
  intro path pattern inner outer hat hpattern
  cases path with
  | nil =>
    cases hat
    exact absurd hpattern h
  | cons position path =>
    rw [targetAt?, if_neg h] at hat
    cases hat

/-- The type of a tuple or list is known. -/
theorem inferType_of_isDisplay (source : Source) {value : Node} (h : value.isDisplay) :
    ∃ type ≠ LiteralType.any, inferType source value = .known type := by
  rcases isDisplay_iff.1 h with hshape | hshape
  · exact ⟨.tuple, by decide, by rw [inferType, hshape]⟩
  · exact ⟨.list, by decide, by rw [inferType, hshape]⟩

/-- What a target declares in an assignment of a type expression with this text. -/
def aliasDeclarations (source : Source) (text : Option String) (target : Node) :
    List Declaration :=
  if target.isName then (text.map fun text => .typeAlias ⟨source.text target, text⟩).toList
  else (namePlaces target).map fun place => .attribute ⟨source.text place.name, "Any"⟩

theorem value_aliasTargets (assignment : Node) (text : Option String) (targets : List Node) :
    (aliasTargets source assignment text targets).value =
      targets.flatMap (aliasDeclarations source text) := by
  rw [aliasTargets_eq, Report.value_gatherAll_map]
  refine List.flatMap_congr fun target _ => ?_
  rw [aliasDeclarations]
  split
  · rfl
  · rw [Report.value_map, bindElement_eq, List.map_map]
    rfl

theorem value_aliasText_around {value other : Node} (h : Around value other)
    (targets : List Node) :
    (aliasText source other targets).value = (aliasText source value targets).value := by
  unfold aliasText
  split
  · exact value_typeText_around h
  · rfl

theorem value_inferredDeclarations_eq_iff {value other : Node} (h : Around value other)
    (assignment another : Node) (targets : List Node) :
    (inferredDeclarations source another other targets).value =
        (inferredDeclarations source assignment value targets).value ↔
      ∀ target ∈ targets, SplitsAlike source target value other := by
  have hother : inferType source other = inferType source value := inferType_alike h.like_unwrapped
  have hsplits (hunknown : ∀ type, inferType source value ≠ .known type) (target : Node) :
      SplitsAlike source target value other := by
    refine splitsAlike_of_not_isDisplay fun hdisplay => ?_
    obtain ⟨type, -, htype⟩ := inferType_of_isDisplay source hdisplay
    exact hunknown type htype
  rw [inferredDeclarations, inferredDeclarations, hother]
  cases htype : inferType source value with
  | known type =>
    rw [Report.value_map, Report.value_map, List.map_inj_right fun _ _ => Declaration.attribute.inj,
      value_literalTargets_eq_iff htype (hother.trans htype)]
    exact forall₂_congr fun target _ => boundTypes_eq_iff h
  | untyped constant =>
    exact iff_of_true rfl fun target _ => hsplits (by simp [htype]) target
  | notLiteral =>
    refine iff_of_true ?_ fun target _ => hsplits (by simp [htype]) target
    rw [Report.value_bind, Report.value_bind, value_aliasTargets, value_aliasTargets,
      value_aliasText_around h]

/-- Parentheses never change which names are declared. -/
theorem map_name_inferredDeclarations_around {value other : Node} (h : Around value other)
    (assignment another : Node) (targets : List Node) :
    (inferredDeclarations source another other targets).value.map Declaration.name =
      (inferredDeclarations source assignment value targets).value.map Declaration.name := by
  have hother : inferType source other = inferType source value := inferType_alike h.like_unwrapped
  rw [inferredDeclarations, inferredDeclarations, hother]
  cases htype : inferType source value with
  | known type =>
    simp only [Report.value_map, List.map_map]
    exact (map_name_literalTargets (hother.trans htype) another targets).trans
      (map_name_literalTargets htype assignment targets).symm
  | untyped constant => rfl
  | notLiteral =>
    rw [Report.value_bind, Report.value_bind, value_aliasTargets, value_aliasTargets,
      value_aliasText_around h]

end Extraction

/-- Parentheses around the value of an assignment, or around an element of a tuple or list inside
it, never change which names are declared.  They leave all that is declared and relied on as it is
if and only if every pattern splits alike: where a pattern meets parentheses around a tuple or list,
they are split as a tuple with that tuple or list as its one element, and this has to give the same
types.  So they do not matter where there is no pattern, or no tuple or list. -/
theorem parentheses_transparent_iff {leaf other : PlacedStatement}
    {assignment another value enclosed : Node} {targets : List Node}
    (hplain : IsPlainAssignment leaf.node assignment)
    (hpair : assignment.targetsAndValue = (targets, some value))
    (hother : IsPlainAssignment other.node another)
    (hpair' : another.targetsAndValue = (targets, some enclosed)) (h : value.Around enclosed)
    (settings : ExtractSettings) (source : Source) :
    let bare := extractStatement settings source leaf
    let inside := extractStatement settings source other
    inside.stub.content.map Declaration.name = bare.stub.content.map Declaration.name ∧
    (inside.stub = bare.stub ∧ inside.required = bare.required ↔
      ∀ target ∈ targets, SplitsAlike source target value enclosed) ∧
    (value.isDisplay = false ∨ (∀ target ∈ targets, target.isPattern = false) →
      inside.stub = bare.stub ∧ inside.required = bare.required) := by
  intro bare inside
  have hbare : bare.stub.content = _ := hplain.content_eq hpair
  have hinside : inside.stub.content = _ := hother.content_eq hpair'
  have hiff : inside.stub = bare.stub ∧ inside.required = bare.required ↔
      ∀ target ∈ targets, SplitsAlike source target value enclosed := by
    rw [hplain.yields_eq_iff hother, hbare, hinside]
    exact value_inferredDeclarations_eq_iff h assignment another targets
  refine ⟨?_, hiff, fun hplain => hiff.2 fun target htarget => ?_⟩
  · rw [hbare, hinside, map_name_inferredDeclarations_around h]
  · rcases hplain with hvalue | htargets
    · exact splitsAlike_of_not_isDisplay (by rw [hvalue]; decide)
    · exact splitsAlike_of_not_isPattern (by rw [htargets target htarget]; decide)

/-- The target `a, b`. -/
def splitTarget : Node :=
  .inner .patternList (some .left) 0 4 [
    .inner .identifier none 0 1 [],
    .token "," 1 2,
    .inner .identifier none 3 4 []]

/-- The value `(1, 2)`. -/
def splitValue (field : Option Field) : Node :=
  .inner .tuple field 8 14 [
    .token "(" 8 9,
    .inner .integer none 9 10 [],
    .token "," 10 11,
    .inner .integer none 12 13 [],
    .token ")" 13 14]

/-- The value `((1, 2))`. -/
def enclosedValue : Node :=
  .inner .parenthesizedExpression (some .right) 7 15 [
    .token "(" 7 8,
    splitValue none,
    .token ")" 14 15]

def splitAssignment (value : Node) : Node :=
  .inner .assignment none 0 15 [splitTarget, .token "=" 5 6, value]

/-- The assignment as the only statement of a block. -/
def splitStatement (value : Node) : PlacedStatement :=
  ⟨⟨[0], .inner .expressionStatement none 0 15 [splitAssignment value]⟩, []⟩

def splitSource : Source :=
  .ofText "split.py" "a, b = ((1, 2))\n"

/-- The names `a` and `b` are integers, but not with parentheses around the pair. -/
theorem enclosedValue_not_transparent :
    let bare := extractStatement {} splitSource (splitStatement (splitValue (some .right)))
    let inside := extractStatement {} splitSource (splitStatement enclosedValue)
    enclosedValue.Parenthesizes (splitValue (some .right)) ∧
    bare.stub.content = [.attribute ⟨"a", "int"⟩, .attribute ⟨"b", "int"⟩] ∧
    inside.stub.content = [.attribute ⟨"a", "Any"⟩, .attribute ⟨"b", "Any"⟩] ∧
    ¬SplitsAlike splitSource splitTarget (splitValue (some .right)) enclosedValue := by
  intro bare inside
  have henclosed : enclosedValue.Parenthesizes (splitValue (some .right)) :=
    ⟨rfl, rfl, rfl, rfl, rfl, by decide⟩
  have hbare : bare.stub.content = [.attribute ⟨"a", "int"⟩, .attribute ⟨"b", "int"⟩] := by
    decide +kernel
  have hinside : inside.stub.content = [.attribute ⟨"a", "Any"⟩, .attribute ⟨"b", "Any"⟩] := by
    decide +kernel
  have hplain : IsPlainAssignment (splitStatement (splitValue (some .right))).node _ :=
    ⟨⟨rfl, rfl, rfl⟩, rfl⟩
  have hother : IsPlainAssignment (splitStatement enclosedValue).node _ := ⟨⟨rfl, rfl, rfl⟩, rfl⟩
  obtain ⟨-, hiff, -⟩ := parentheses_transparent_iff hplain (Node.targetsAndValue_eq _) hother
    (Node.targetsAndValue_eq _) (.inr henclosed) {} splitSource
  refine ⟨henclosed, hbare, hinside, fun hsplits => ?_⟩
  have hstub := (hiff.2 fun target htarget => List.mem_singleton.1 htarget ▸ hsplits).1
  have hcontent := hinside.symm.trans ((congrArg ModuleStub.content hstub).trans hbare)
  exact absurd hcontent (by decide)

end InterfaceStub
