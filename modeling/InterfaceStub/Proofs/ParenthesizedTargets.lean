import InterfaceStub.Proofs.ParenthesizedValues

/-!
# Parentheses around names

A name in parentheses, as in `(a) = 1`, is read as a pattern with one element, and a pattern takes
its value apart.  So the name does not get what it would get without the parentheses, unless the
value tells as much of its one element as of itself.

* Trees.  `ParenthesizedName` is a name in parentheses, and `BaresName` takes the parentheses away
  at some path of a target.
* `TypedAlike` is the condition on the value that the name meets; `value_bindElement_eq_iff` says
  that nothing else matters when a target is bound.
* `parenthesized_name_iff` is the same for what an assignment declares and relies on.
-/

namespace InterfaceStub

open Syntax Extraction

namespace Syntax.Node

/-! ## Trees -/

/-- The target `outer` is a name in parentheses, and it stands in the place of the name: a tuple
pattern with one element and no comma. -/
structure ParenthesizedName (outer name : Node) : Prop where
  kind : outer.kind = .tuplePattern
  parts : outer.parts = [name.detached]
  commaless : ∀ child ∈ outer.children, child.kind ≠ .other ","
  isName : name.isName
  isPart : outer.isPart
  field : outer.field = name.field

/-- The second target is the first without the parentheses around the name at a path. -/
inductive BaresName : (path : List Nat) → Node → Node → Prop where
  | here {outer name : Node} (h : outer.ParenthesizedName name) : BaresName [] outer name
  | inside {label : Label} {before after : List Node} {inner bare : Node} {path : List Nat}
      (hpattern : (mk label (before ++ inner :: after)).isPattern) (hpart : inner.isPart)
      (h : BaresName path inner bare) :
      BaresName ((before.filter isPart).length :: path) (mk label (before ++ inner :: after))
        (mk label (before ++ bare :: after))

variable {path : List Nat} {target bare : Node}

theorem isName_detached {name : Node} (h : name.isName) : name.detached.isName := by
  cases name
  exact h

theorem ParenthesizedName.isPattern {outer name : Node} (h : outer.ParenthesizedName name) :
    outer.isPattern := by
  simp [Node.isPattern, h.kind]

theorem ParenthesizedName.isPart_name {outer name : Node} (h : outer.ParenthesizedName name) :
    name.isPart :=
  isPart_of_detached_mem_parts (by rw [h.parts]; exact List.mem_singleton.2 rfl)

namespace BaresName

theorem isPattern (h : BaresName path target bare) : target.isPattern := by
  cases h with
  | here h => exact h.isPattern
  | inside hpattern _ _ => exact hpattern

theorem isPart_eq (h : BaresName path target bare) : bare.isPart = target.isPart := by
  cases h with
  | here h => rw [h.isPart, h.isPart_name]
  | inside _ _ _ => rfl

theorem isStarred_eq (h : BaresName path target bare) : bare.isStarred = target.isStarred := by
  cases h with
  | here h =>
    have hname := h.isName
    simp only [Node.isName, Bool.or_eq_true, beq_iff_eq] at hname
    rcases hname with hname | hname <;> rw [isStarred, hname, isStarred, h.kind] <;> rfl
  | inside _ _ _ => rfl

end BaresName

theorem parts_mk_append (label : Label) (before after : List Node) {inner : Node}
    (h : inner.isPart) :
    (mk label (before ++ inner :: after)).parts =
      before.filter isPart ++ inner :: after.filter isPart := by
  rw [parts, children, List.filter_append, List.filter_cons_of_pos h]

end Syntax.Node

namespace Extraction

open Node

variable {source : Source}

/-! ## Values -/

/-- A name that meets this value gets the same type in parentheses: the value is no tuple or list
and may be anything, or it has one element, which has the same type. -/
def TypedAlike (source : Source) (value : Node) : Prop :=
  if value.isDisplay then
    ∃ element, value.parts = [element] ∧ element.isStarred = false ∧
      inferType source element = inferType source value
  else typeAt source (some value) = .any

theorem typeAt_eq_iff {value : Node} {type : LiteralType} (h : type ≠ .any) :
    typeAt source (some value) = type ↔ inferType source value = .known type := by
  rw [typeAt, Option.map_some]
  cases inferType source value with
  | known other => simp
  | untyped | notLiteral => exact iff_of_false h.symm (by simp)

theorem matches_parenthesizedName {outer name value : Node} (h : outer.ParenthesizedName name) :
    Matches outer value ↔
      value.isDisplay ∧ ∃ element, value.parts = [element] ∧ element.isStarred = false := by
  have hname : name.detached.isStarred = false := by
    rw [isStarred_detached, (BaresName.here h).isStarred_eq, isStarred, h.kind]
    rfl
  rw [matches_iff, Paired, h.parts, List.length_singleton, List.length_eq_one_iff]
  refine and_congr_right fun _ => ⟨?_, ?_⟩
  · rintro ⟨⟨element, helement⟩, hstarred⟩
    exact ⟨element, helement, hstarred element (by simp [helement])⟩
  · rintro ⟨element, helement, hstarred⟩
    refine ⟨⟨element, helement⟩, ?_⟩
    simp [helement, hname, hstarred]

/-- A name in parentheses gets the type of the one element of the value, if it has just one. -/
theorem typeAt_parenthesizedName {outer name value : Node} (h : outer.ParenthesizedName name) :
    typeAt source (valueAt? outer value [0]) = typeAt source (some value) ↔
      TypedAlike source value := by
  have hvalue : valueAt? outer value [0] =
      if Matches outer value then value.parts[0]? else none := by
    simp [valueAt?, h.parts]
  rw [hvalue, TypedAlike]
  by_cases hdisplay : value.isDisplay
  · obtain ⟨type, hany, htype⟩ := inferType_of_isDisplay source hdisplay
    rw [if_pos hdisplay, (typeAt_eq_iff hany).2 htype, htype]
    by_cases hmatches : Matches outer value
    · obtain ⟨-, element, hparts, hstarred⟩ := (matches_parenthesizedName h).1 hmatches
      rw [if_pos hmatches, hparts, List.getElem?_cons_zero, typeAt_eq_iff hany]
      simp [hstarred]
    · rw [if_neg hmatches]
      refine iff_of_false hany.symm ?_
      rintro ⟨element, hparts, hstarred, -⟩
      exact hmatches ((matches_parenthesizedName h).2 ⟨hdisplay, element, hparts, hstarred⟩)
  · rw [if_neg hdisplay, if_neg fun hmatches => hdisplay (Matches.display hmatches)]
    exact eq_comm

/-! ## Targets -/

theorem value_bindElement_of_isPattern {pattern : Node} (h : pattern.isPattern) (assignment : Node)
    (value : Option Node) :
    (bindElement source assignment pattern value).value =
      pattern.parts.zipIdx.flatMap fun part => (bindElement source assignment part.1
        (value.bind fun value => valueAt? pattern value [part.2])).value := by
  rw [bindElement, if_neg (not_isName_of_isPattern h), if_pos h, bindPattern_eq_zipIdx,
    Report.value_gatherAll_map]

theorem value_bindElement_of_isName {name : Node} (h : name.isName) (assignment : Node)
    (value : Option Node) :
    (bindElement source assignment name value).value =
      [⟨source.text name, (typeAt source value).spelling⟩] := by
  rw [bindElement, if_pos h]
  rfl

/-- With as many elements, starred in the same places, a pattern meets the same values. -/
theorem valueAt?_congr {pattern other : Node}
    (hstarred : other.parts.map isStarred = pattern.parts.map isStarred) (value : Node)
    (position : Nat) :
    valueAt? other value [position] = valueAt? pattern value [position] := by
  have hmatches : Matches other value ↔ Matches pattern value := by
    rw [matches_iff, matches_iff, paired_iff, paired_iff, hstarred]
  have hsome : (other.parts.map isStarred)[position]? =
      (pattern.parts.map isStarred)[position]? := by
    rw [hstarred]
  rw [List.getElem?_map, List.getElem?_map] at hsome
  simp only [valueAt?, hmatches]
  cases hother : other.parts[position]? with
  | none =>
    cases hpart : pattern.parts[position]? with
    | none => rfl
    | some part => simp [hother, hpart] at hsome
  | some element =>
    cases hpart : pattern.parts[position]? with
    | none => simp [hother, hpart] at hsome
    | some part => rfl

/-- Patterns that differ in one element bind the same if and only if the elements do. -/
theorem value_bindElement_replaced {pattern other inner bare : Node} {before after : List Node}
    (hpattern : pattern.isPattern) (hother : other.isPattern)
    (hparts : pattern.parts = before ++ inner :: after)
    (hparts' : other.parts = before ++ bare :: after) (hstarred : bare.isStarred = inner.isStarred)
    (assignment : Node) (value : Option Node) :
    (bindElement source assignment pattern value).value =
        (bindElement source assignment other value).value ↔
      let met := value.bind fun value => valueAt? pattern value [before.length]
      (bindElement source assignment inner met).value =
        (bindElement source assignment bare met).value := by
  have hvalues (value : Node) (position : Nat) :
      valueAt? other value [position] = valueAt? pattern value [position] :=
    valueAt?_congr (by simp [hparts, hparts', hstarred]) value position
  rw [value_bindElement_of_isPattern hpattern, value_bindElement_of_isPattern hother]
  simp only [hvalues, hparts, hparts', List.zipIdx_append, List.zipIdx_cons, List.flatMap_append,
    List.flatMap_cons, List.append_cancel_left_eq, List.append_cancel_right_eq, Nat.zero_add]

/-- What a target binds does not depend on the parentheses if and only if the value that the name
meets is typed alike. -/
theorem value_bindElement_eq_iff {path : List Nat} {target bare : Node}
    (h : BaresName path target bare) (assignment : Node) (value : Option Node) :
    (bindElement source assignment target value).value =
        (bindElement source assignment bare value).value ↔
      ∀ met ∈ value.bind fun value => valueAt? target value path, TypedAlike source met := by
  induction h generalizing value with
  | @here outer name h =>
    have hname := isName_detached h.isName
    have htext : source.text name.detached = source.text name := by
      cases name
      rfl
    rw [value_bindElement_of_isPattern h.isPattern, value_bindElement_of_isName h.isName, h.parts,
      List.zipIdx_singleton, List.flatMap_singleton, value_bindElement_of_isName hname, htext,
      List.singleton_inj, Attribute.mk.injEq, LiteralType.spelling_injective.eq_iff,
      and_iff_right rfl]
    cases value with
    | none => simp
    | some value =>
      rw [Option.bind_some, typeAt_parenthesizedName h]
      simp [valueAt?]
  | @inside label before after inner bare path hpattern hpart h ih =>
    -- the other elements bind the same, so the question moves to the element on the path
    have hpattern' : (Node.mk label (before ++ bare :: after)).isPattern := hpattern
    have hparts := parts_mk_append label before after hpart
    rw [value_bindElement_replaced hpattern hpattern' hparts
      (parts_mk_append label before after (h.isPart_eq.trans hpart)) h.isStarred_eq, ih]
    have hat : (Node.mk label (before ++ inner :: after)).parts[(before.filter isPart).length]? =
        some inner := by
      rw [hparts, List.getElem?_append_right (Nat.le_refl _), Nat.sub_self, List.getElem?_cons_zero]
    cases value with
    | none => rfl
    | some value => rw [Option.bind_some, Option.bind_some, valueAt?_cons hat value path]

theorem value_literalTargets_baresName {path : List Nat} {target bare : Node}
    (h : BaresName path target bare) {value : Node} {type : LiteralType}
    (htype : inferType source value = .known type) (assignment another : Node)
    (before after : List Node) :
    (literalTargets source assignment value type (before ++ target :: after)).value =
        (literalTargets source another value type (before ++ bare :: after)).value ↔
      ∀ met ∈ valueAt? target value path, TypedAlike source met := by
  have hanother (element : Node) : (bindElement source another element (some value)).value =
      (bindElement source assignment element (some value)).value := by
    rw [bindElement_eq, bindElement_eq]
  rw [literalTargets_eq htype, literalTargets_eq htype, Report.value_gatherAll_map,
    Report.value_gatherAll_map]
  simp only [hanother, List.flatMap_append, List.flatMap_cons, List.append_cancel_left_eq,
    List.append_cancel_right_eq]
  exact value_bindElement_eq_iff h assignment (some value)

/-- What the other targets declare does not depend on the parentheses. -/
theorem aliasDeclarations_aliasText {value target : Node} {targets others : List Node}
    (htarget : target ∈ targets) (hother : target ∈ others) :
    aliasDeclarations source (aliasText source value targets).value target =
      aliasDeclarations source (aliasText source value others).value target := by
  by_cases hname : target.isName
  · have htext {nodes : List Node} (hmem : target ∈ nodes) :
        aliasText source value nodes = typeText source value := by
      rw [aliasText, if_pos (List.any_eq_true.2 ⟨target, hmem, hname⟩)]
    rw [htext htarget, htext hother]
  · rw [aliasDeclarations, if_neg hname, aliasDeclarations, if_neg hname]

/-- In an assignment of a type expression, a target that is a name in parentheses is given any type,
and without the parentheses it is an alias or nothing.  Further down it makes no difference. -/
theorem aliasDeclarations_eq_iff {path : List Nat} {target bare : Node}
    (h : BaresName path target bare) (text other : Option String) :
    aliasDeclarations source text target = aliasDeclarations source other bare ↔ path ≠ [] := by
  have hbound : (bindElement source target target none).value =
      (bindElement source target bare none).value :=
    (value_bindElement_eq_iff h target none).2 (by simp)
  rw [bindElement_eq, bindElement_eq] at hbound
  rw [aliasDeclarations, if_neg (not_isName_of_isPattern h.isPattern), aliasDeclarations]
  cases h with
  | here h =>
    rw [if_pos h.isName, namePlaces_of_isPattern h.isPattern, h.parts, List.zipIdx_singleton,
      List.flatMap_singleton, namePlaces_of_isName (isName_detached h.isName)]
    cases other <;> simp
  | @inside label before after inner bare path hpattern hpart h =>
    have hbare : ¬(Node.mk label (before ++ bare :: after)).isName :=
      not_isName_of_isPattern hpattern
    rw [if_neg hbare]
    have hdeclared := congrArg (List.map Declaration.attribute) hbound
    simp only [List.map_map] at hdeclared
    exact iff_of_true hdeclared (List.cons_ne_nil _ _)

theorem value_inferredDeclarations_baresName {path : List Nat} {target bare : Node}
    (h : BaresName path target bare) (assignment another value : Node)
    (before after : List Node) :
    (inferredDeclarations source assignment value (before ++ target :: after)).value =
        (inferredDeclarations source another value (before ++ bare :: after)).value ↔
      match inferType source value with
      | .known _ => ∀ met ∈ valueAt? target value path, TypedAlike source met
      | .untyped _ => True
      | .notLiteral => path ≠ [] := by
  rw [inferredDeclarations, inferredDeclarations]
  cases htype : inferType source value with
  | known type =>
    simp only [Report.value_map]
    rw [List.map_inj_right fun _ _ => Declaration.attribute.inj]
    exact value_literalTargets_baresName h htype assignment another before after
  | untyped constant => exact iff_of_true rfl trivial
  | notLiteral =>
    -- whether there is a text depends on the names among the targets, but only names look at it
    have hrest (targets : List Node) (hbefore : targets ⊆ before ++ after) :
        targets.flatMap (aliasDeclarations source
            (aliasText source value (before ++ target :: after)).value) =
          targets.flatMap (aliasDeclarations source
            (aliasText source value (before ++ bare :: after)).value) := by
      refine List.flatMap_congr fun element helement => ?_
      have hmem := List.mem_append.1 (hbefore helement)
      exact aliasDeclarations_aliasText (by grind) (by grind)
    simp only [Report.value_bind, value_aliasTargets, List.flatMap_append, List.flatMap_cons]
    rw [hrest before (by simp), hrest after (by simp), List.append_cancel_left_eq,
      List.append_cancel_right_eq]
    exact aliasDeclarations_eq_iff h _ _

end Extraction

/-- A target with a name in parentheses, by itself or in a larger pattern and alone or in a chain,
declares what it would without the parentheses if and only if this holds.  If the type of the value
is known, what the name meets is typed alike: it is no tuple or list and may be anything, or it has
one element, which has the same type.  If the value is no literal, the name is in a larger pattern;
by itself it would be an alias.  If the value is a constant without a type, nothing is declared
anyway. -/
theorem parenthesized_name_iff {leaf other : PlacedStatement}
    {assignment another value target bare : Node} {before after : List Node} {path : List Nat}
    (hplain : IsPlainAssignment leaf.node assignment)
    (hpair : assignment.targetsAndValue = (before ++ target :: after, some value))
    (hother : IsPlainAssignment other.node another)
    (hpair' : another.targetsAndValue = (before ++ bare :: after, some value))
    (h : Node.BaresName path target bare) (settings : ExtractSettings) (source : Source) :
    let enclosed := extractStatement settings source leaf
    let alone := extractStatement settings source other
    enclosed.stub = alone.stub ∧ enclosed.required = alone.required ↔
      match inferType source value with
      | .known _ => ∀ met ∈ valueAt? target value path, TypedAlike source met
      | .untyped _ => True
      | .notLiteral => path ≠ [] := by
  intro enclosed alone
  rw [hother.yields_eq_iff hplain, hplain.content_eq hpair, hother.content_eq hpair']
  exact value_inferredDeclarations_baresName h assignment another value before after

/-- The target `(a)`. -/
def enclosedName : Node :=
  .inner .tuplePattern (some .left) 0 3 [
    .token "(" 0 1,
    .inner .identifier none 1 2 [],
    .token ")" 2 3]

/-- The target `a`. -/
def bareName : Node :=
  .inner .identifier (some .left) 1 2 []

/-- The value `[1]`. -/
def singleList : Node :=
  .inner .list (some .right) 6 9 [
    .token "[" 6 7,
    .inner .integer none 7 8 [],
    .token "]" 8 9]

def singleAssignment (target : Node) : Node :=
  .inner .assignment none 0 9 [target, .token "=" 4 5, singleList]

/-- The assignment as the only statement of a block. -/
def singleStatement (target : Node) : PlacedStatement :=
  ⟨⟨[0], .inner .expressionStatement none 0 9 [singleAssignment target]⟩, []⟩

def singleSource : Source :=
  .ofText "single.py" "(a) = [1]\n"

/-- The name `a` is a list, but in parentheses it is the integer in the list. -/
theorem enclosedName_not_alike :
    let enclosed := extractStatement {} singleSource (singleStatement enclosedName)
    let alone := extractStatement {} singleSource (singleStatement bareName)
    enclosedName.ParenthesizedName bareName ∧
    enclosed.stub.content = [.attribute ⟨"a", "int"⟩] ∧
    alone.stub.content = [.attribute ⟨"a", "List[Any]"⟩] ∧
    inferType singleSource singleList = .known .list ∧
    ¬TypedAlike singleSource singleList := by
  intro enclosed alone
  have hname : enclosedName.ParenthesizedName bareName :=
    ⟨rfl, rfl, by decide, rfl, rfl, rfl⟩
  have henclosed : enclosed.stub.content = [.attribute ⟨"a", "int"⟩] := by decide +kernel
  have halone : alone.stub.content = [.attribute ⟨"a", "List[Any]"⟩] := by decide +kernel
  have htype : inferType singleSource singleList = .known .list := by decide +kernel
  have hplain : IsPlainAssignment (singleStatement enclosedName).node _ := ⟨⟨rfl, rfl, rfl⟩, rfl⟩
  have hother : IsPlainAssignment (singleStatement bareName).node _ := ⟨⟨rfl, rfl, rfl⟩, rfl⟩
  have hpair : (singleAssignment enclosedName).targetsAndValue =
      ([] ++ enclosedName :: [], some singleList) := Node.targetsAndValue_eq _
  have hpair' : (singleAssignment bareName).targetsAndValue =
      ([] ++ bareName :: [], some singleList) := Node.targetsAndValue_eq _
  have hiff := parenthesized_name_iff hplain hpair hother hpair' (.here hname) {} singleSource
  rw [htype] at hiff
  refine ⟨hname, henclosed, halone, htype, fun halike => ?_⟩
  have hstub := (hiff.2 fun met hmet => Option.some.inj hmet ▸ halike).1
  have hcontent := henclosed.symm.trans ((congrArg ModuleStub.content hstub).trans halone)
  exact absurd hcontent (by decide)

end InterfaceStub
