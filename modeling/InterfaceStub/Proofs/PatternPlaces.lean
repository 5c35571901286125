import InterfaceStub.Proofs.ErasedDeclarations
import InterfaceStub.Proofs.RequiredNames

/-!
# The places of the names of a pattern

A pattern is matched with a value element by element, at every depth.  What a name is bound to
depends on its place alone: on the positions of the elements that lead to it, in the pattern and in
the value.

* Places.  `namePlaces` lists the names of a target, each with the path that leads to it, and
  `strayTargets` what a target has in it that is neither a name nor a pattern.
* Values.  `Matches` says when the elements of a pattern and of a value meet one to one, and
  `valueAt?` follows a path down both of them for as long as they do.
* `bindElement_eq` is the whole report of a target that meets a value: what it binds, what it finds
  and what it relies on.  It is one induction over the target, and all else here follows from it.
-/

namespace InterfaceStub

open Syntax Extraction

/-- Whether a node of this kind is a tuple or a list. -/
def Syntax.Kind.isDisplay : Kind → Bool
  | .tuple | .expressionList | .patternList | .list => true
  | _ => false

namespace Syntax.Node

theorem not_isName_of_isPattern {target : Node} (h : target.isPattern) : ¬target.isName := by
  intro hname
  simp only [isName, isPattern, Bool.or_eq_true, beq_iff_eq] at h hname
  rcases hname with hname | hname <;> simp [hname] at h

/-- What a path of element positions leads to in a target; every step goes into a pattern. -/
def targetAt? : Node → List Nat → Option Node
  | target, [] => some target
  | target, position :: path =>
    if target.isPattern then target.parts[position]?.bind fun part => part.targetAt? path else none

/-- Whether an expression is a tuple or a list. -/
def isDisplay (value : Node) : Bool :=
  value.unwrapped.kind.isDisplay

end Syntax.Node

namespace Extraction

variable {source : Source}

/-! ## Places -/

/-- A name in a target, with the positions of the elements that lead to it. -/
structure NamePlace where
  path : List Nat
  name : Node

/-- The same name, seen from the pattern that has the target at this position. -/
def NamePlace.under (position : Nat) (place : NamePlace) : NamePlace :=
  ⟨position :: place.path, place.name⟩

/-- The names of a target in their places, left to right. -/
def namePlaces (target : Node) : List NamePlace :=
  if target.isName then [⟨[], target⟩]
  else if target.isPattern then
    target.parts.attach.zipIdx.flatMap fun part =>
      (namePlaces part.1.1).map (NamePlace.under part.2)
  else []
termination_by target.size
decreasing_by exact Node.size_lt_of_mem_parts part.1.2

/-- What a target has in it that is neither a name nor a pattern, left to right. -/
def strayTargets (target : Node) : List Node :=
  if target.isName then []
  else if target.isPattern then target.parts.attach.flatMap fun part => strayTargets part.1
  else [target]
termination_by target.size
decreasing_by exact Node.size_lt_of_mem_parts part.2

theorem namePlaces_of_isName {target : Node} (h : target.isName) :
    namePlaces target = [⟨[], target⟩] := by
  rw [namePlaces, if_pos h]

theorem namePlaces_of_isPattern {target : Node} (h : target.isPattern) :
    namePlaces target = target.parts.zipIdx.flatMap fun part =>
      (namePlaces part.1).map (NamePlace.under part.2) := by
  have hparts : target.parts.attach.zipIdx.map (Prod.map Subtype.val id) = target.parts.zipIdx := by
    rw [← List.zipIdx_map, List.attach_map_subtype_val]
  rw [namePlaces, if_neg (Node.not_isName_of_isPattern h), if_pos h, ← hparts, List.flatMap_map]
  rfl

theorem namePlaces_of_stray {target : Node} (hname : ¬target.isName) (h : ¬target.isPattern) :
    namePlaces target = [] := by
  rw [namePlaces, if_neg hname, if_neg h]

theorem strayTargets_of_isPattern {target : Node} (h : target.isPattern) :
    strayTargets target = target.parts.flatMap strayTargets := by
  rw [strayTargets, if_neg (Node.not_isName_of_isPattern h), if_pos h, flatMap_attach_val]

theorem flatMap_zipIdx_fst (items : List α) (f : α → List β) :
    (items.zipIdx.flatMap fun item => f item.1) = items.flatMap f := by
  rw [← List.flatMap_map, List.zipIdx_map_fst]

/-- Without the paths, the places are the names of the target. -/
theorem map_name_namePlaces (target : Node) :
    (namePlaces target).map NamePlace.name = targetNames target := by
  induction hsize : target.size using Nat.strongRecOn generalizing target with
  | ind size ih =>
    by_cases hname : target.isName
    · rw [namePlaces_of_isName hname, targetNames_of_isName hname]
      rfl
    · by_cases hpattern : target.isPattern
      · rw [namePlaces_of_isPattern hpattern, targetNames_of_isPattern hname hpattern,
          List.map_flatMap, ← flatMap_zipIdx_fst target.parts]
        refine List.flatMap_congr fun part hpart => ?_
        have hlt := Node.size_lt_of_mem_parts (List.fst_mem_of_mem_zipIdx hpart)
        rw [List.map_map]
        exact ih _ (hsize ▸ hlt) part.1 rfl
      · rw [namePlaces_of_stray hname hpattern, targetNames, if_neg hname, if_neg hpattern]
        rfl

/-- The places are the paths that lead to a name. -/
theorem mem_namePlaces_iff {target : Node} {place : NamePlace} :
    place ∈ namePlaces target ↔
      target.targetAt? place.path = some place.name ∧ place.name.isName := by
  induction hsize : target.size using Nat.strongRecOn generalizing target place with
  | ind size ih =>
    obtain ⟨path, name⟩ := place
    by_cases hpattern : target.isPattern
    · have hname := Node.not_isName_of_isPattern hpattern
      rw [namePlaces_of_isPattern hpattern, List.mem_flatMap]
      constructor
      · rintro ⟨part, hpart, hplace⟩
        obtain ⟨inner, hinner, heq⟩ := List.mem_map.1 hplace
        cases heq
        have hlt := Node.size_lt_of_mem_parts (List.fst_mem_of_mem_zipIdx hpart)
        rw [Node.targetAt?, if_pos hpattern, List.mem_zipIdx_iff_getElem?.1 hpart]
        exact (ih _ (hsize ▸ hlt) rfl).1 hinner
      · rintro ⟨hat, hisName⟩
        cases path with
        | nil =>
          cases hat
          exact absurd hisName hname
        | cons position path =>
          rw [Node.targetAt?, if_pos hpattern] at hat
          obtain ⟨part, hpart, hat⟩ := Option.bind_eq_some_iff.1 hat
          have hlt := Node.size_lt_of_mem_parts (List.mem_of_getElem? hpart)
          have hplace : ⟨path, name⟩ ∈ namePlaces part := (ih _ (hsize ▸ hlt) rfl).2 ⟨hat, hisName⟩
          exact ⟨(part, position), List.mem_zipIdx_iff_getElem?.2 hpart,
            List.mem_map.2 ⟨_, hplace, rfl⟩⟩
    · have hat : target.targetAt? path = some name ↔ path = [] ∧ target = name := by
        cases path with
        | nil => simp [Node.targetAt?]
        | cons position path => simp [Node.targetAt?, hpattern]
      rw [hat]
      by_cases hname : target.isName
      · rw [namePlaces_of_isName hname, List.mem_singleton]
        constructor
        · intro heq
          cases heq
          exact ⟨⟨rfl, rfl⟩, hname⟩
        · rintro ⟨⟨rfl, rfl⟩, -⟩
          rfl
      · rw [namePlaces_of_stray hname hpattern]
        refine iff_of_false List.not_mem_nil ?_
        rintro ⟨⟨-, rfl⟩, hisName⟩
        exact hname hisName

/-! ## Values -/

theorem isDisplay_iff {value : Node} :
    value.isDisplay ↔ source.shapeOf value = .tuple ∨ source.shapeOf value = .list := by
  rw [Source.shapeOf_eq_iff (by decide), Source.shapeOf_eq_iff (by decide), Node.isDisplay]
  cases value.unwrapped.kind <;> simp [Kind.isDisplay, Shape.kinds]

/-- The elements of a pattern and those of a value meet one to one. -/
structure Matches (pattern value : Node) : Prop where
  display : value.isDisplay
  length : value.parts.length = pattern.parts.length
  unstarred : ∀ element ∈ pattern.parts ++ value.parts, element.isStarred = false

instance (pattern value : Node) : Decidable (Matches pattern value) :=
  decidable_of_iff
    (value.isDisplay ∧ value.parts.length = pattern.parts.length ∧
      ∀ element ∈ pattern.parts ++ value.parts, element.isStarred = false)
    ⟨fun ⟨display, length, unstarred⟩ => ⟨display, length, unstarred⟩,
      fun h => ⟨h.display, h.length, h.unstarred⟩⟩

/-- What a path of element positions leads to in a value that meets a target.  At every step the
elements have to meet one to one. -/
def valueAt? : (target value : Node) → (path : List Nat) → Option Node
  | _, value, [] => some value
  | target, value, position :: path =>
    if Matches target value then
      target.parts[position]?.bind fun part =>
        value.parts[position]?.bind fun element => valueAt? part element path
    else none

theorem matchedElements?_eq (pattern value : Node) :
    matchedElements? source pattern.parts value =
      if Matches pattern value then some value.parts else none := by
  by_cases hdisplay : value.isDisplay
  · have hmatches : Matches pattern value ↔ (value.parts.length = pattern.parts.length &&
        !(pattern.parts ++ value.parts).any Node.isStarred) = true := by
      simp only [Bool.and_eq_true, decide_eq_true_eq, Bool.not_eq_true', List.any_eq_false,
        Bool.not_eq_true]
      exact ⟨fun h => ⟨h.length, h.unstarred⟩, fun h => ⟨hdisplay, h.1, h.2⟩⟩
    rw [matchedElements?]
    rcases isDisplay_iff.1 hdisplay with hshape | hshape <;> rw [hshape] <;>
      simp only [hmatches]
  · have hnone : ¬Matches pattern value := fun h => hdisplay h.display
    rw [if_neg hnone, matchedElements?]
    split
    case h_1 hshape => exact absurd (isDisplay_iff.2 (.inl hshape)) hdisplay
    case h_2 hshape => exact absurd (isDisplay_iff.2 (.inr hshape)) hdisplay
    case h_3 => rfl

theorem valueAt?_cons {target part : Node} {position : Nat}
    (hpart : target.parts[position]? = some part) (value : Node) (path : List Nat) :
    valueAt? target value (position :: path) =
      (valueAt? target value [position]).bind fun element => valueAt? part element path := by
  simp only [valueAt?, hpart, Option.bind_some]
  split
  · cases value.parts[position]? <;> rfl
  · rfl

/-- There is a value for every element of a pattern, as far as its path leads to one. -/
theorem elementValues_eq (pattern : Node) (value : Option Node) :
    elementValues source pattern.parts value =
      pattern.parts.zipIdx.map fun part =>
        value.bind fun value => valueAt? pattern value [part.2] := by
  have hnone : pattern.parts.map (fun _ => (none : Option Node)) =
      pattern.parts.zipIdx.map fun _ => none := by
    simp
  rw [elementValues]
  cases value with
  | none => exact hnone
  | some value =>
    simp only [Option.bind_some, matchedElements?_eq]
    by_cases hmatches : Matches pattern value
    · apply List.ext_getElem?
      intro position
      simp only [hmatches, if_true, List.getElem?_map, List.getElem?_zipIdx, Option.map_map,
        valueAt?]
      cases hpart : pattern.parts[position]? with
      | none =>
        have hle := hmatches.length ▸ List.getElem?_eq_none_iff.1 hpart
        simp [List.getElem?_eq_none_iff.2 hle]
      | some part =>
        have hlt := hmatches.length ▸ (List.getElem?_eq_some_iff.1 hpart).1
        simp [hpart, List.getElem?_eq_getElem hlt]
    · simp only [hmatches, if_false, valueAt?]
      exact hnone

/-! ## Reports -/

/-- The type of the name at this path of a target that meets a value. -/
def typeAtPath (source : Source) (target : Node) (value : Option Node) (path : List Nat) :
    LiteralType :=
  typeAt source (value.bind fun value => valueAt? target value path)

theorem Report.gatherAll_map (items : List α) (value : α → List β) (findings : α → List Finding)
    (required : α → List TypingName) :
    Report.gatherAll (items.map fun item => ⟨value item, findings item, required item⟩) =
      ⟨items.flatMap value, items.flatMap findings, items.flatMap required⟩ := by
  simp [Report.gatherAll, Report.gather, Functor.map, Report.bind, List.flatMap_def,
    Function.comp_def]

/-- One report for each element of a pattern and the value that it meets. -/
theorem bindPattern_eq_zipIdx (assignment pattern : Node) (value : Option Node) :
    bindPattern source assignment pattern value =
      Report.gatherAll (pattern.parts.zipIdx.map fun part =>
        bindElement source assignment part.1
          (value.bind fun value => valueAt? pattern value [part.2])) := by
  rw [bindPattern_eq, elementValues_eq]
  nth_rewrite 1 [← List.zipIdx_map_fst 0 pattern.parts]
  rw [List.zip_map', List.map_map]
  rfl

theorem typeAtPath_cons {target part : Node} {position : Nat}
    (hpart : target.parts[position]? = some part) (value : Option Node) (path : List Nat) :
    typeAtPath source target value (position :: path) =
      typeAtPath source part (value.bind fun value => valueAt? target value [position]) path := by
  cases value with
  | none => rfl
  | some value =>
    rw [typeAtPath, Option.bind_some, valueAt?_cons hpart, typeAtPath, Option.bind_some]

/-- What a target that meets a value binds, finds and relies on. -/
theorem bindElement_eq (assignment target : Node) (value : Option Node) :
    bindElement source assignment target value =
      ⟨(namePlaces target).map fun place =>
          ⟨source.text place.name, (typeAtPath source target value place.path).spelling⟩,
        (strayTargets target).map fun stray =>
          ⟨source.line stray, .inside assignment.kind stray.kind⟩,
        (namePlaces target).flatMap fun place =>
          (typeAtPath source target value place.path).required⟩ := by
  induction hsize : target.size using Nat.strongRecOn generalizing target value with
  | ind size ih =>
    rw [bindElement]
    by_cases hname : target.isName
    · cases value <;>
        simp [hname, namePlaces_of_isName, strayTargets, bindName, relyOn, typeAtPath, valueAt?,
          Bind.bind, Report.bind, Pure.pure]
    · by_cases hpattern : target.isPattern
      · rw [if_neg hname, if_pos hpattern, bindPattern_eq_zipIdx, namePlaces_of_isPattern hpattern,
          strayTargets_of_isPattern hpattern, ← flatMap_zipIdx_fst target.parts]
        have hparts : ∀ part ∈ target.parts.zipIdx, _ := fun part hpart =>
          ih _ (hsize ▸ Node.size_lt_of_mem_parts (List.fst_mem_of_mem_zipIdx hpart)) part.1
            (value.bind fun value => valueAt? target value [part.2]) rfl
        have htype : ∀ part ∈ target.parts.zipIdx, ∀ place,
            typeAtPath source target value (NamePlace.under part.2 place).path = _ :=
          fun part hpart place =>
            typeAtPath_cons (List.mem_zipIdx_iff_getElem?.1 hpart) value place.path
        rw [List.map_congr_left hparts, Report.gatherAll_map]
        congr 1
        · rw [List.map_flatMap]
          refine List.flatMap_congr fun part hpart => ?_
          simp only [List.map_map, Function.comp_def, htype part hpart]
          rfl
        · rw [List.map_flatMap]
        · rw [List.flatMap_assoc]
          refine List.flatMap_congr fun part hpart => ?_
          simp only [List.flatMap_map, htype part hpart]
      · simp [hname, hpattern, namePlaces_of_stray, strayTargets, flag, Bind.bind, Report.bind,
          Pure.pure]

end Extraction

/-- A pattern is matched with a value by position.  Every name of the pattern, at whatever path, is
bound to the type of what the same path leads to in the value, if it leads to anything and the type
is known, and to `Any` otherwise.  Which names are bound, and in which order, does not depend on the
value. -/
theorem bindPattern_positional {pattern : Node} (hpattern : pattern.isPattern) (source : Source)
    (assignment value : Node) :
    (bindPattern source assignment pattern (some value)).value =
      ((namePlaces pattern).map fun place =>
        ⟨source.text place.name,
          match (valueAt? pattern value place.path).map (inferType source) with
          | some (.known type) => type.spelling
          | _ => "Any"⟩) ∧
    (∀ path name, ⟨path, name⟩ ∈ namePlaces pattern ↔
      pattern.targetAt? path = some name ∧ name.isName) ∧
    ∀ other, (bindPattern source assignment pattern other).value.map Attribute.name =
      (targetNames pattern).map source.text := by
  have hbound (other : Option Node) : bindPattern source assignment pattern other =
      bindElement source assignment pattern other := by
    rw [bindElement, if_neg (Node.not_isName_of_isPattern hpattern), if_pos hpattern]
  refine ⟨?_, fun path name => mem_namePlaces_iff, fun other => ?_⟩
  · rw [hbound, bindElement_eq]
    refine List.map_congr_left fun place _ => ?_
    rw [typeAtPath, Option.bind_some, typeAt]
    cases (valueAt? pattern value place.path).map (inferType source) with
    | none => rfl
    | some inferred => cases inferred <;> rfl
  · rw [hbound, bindElement_eq, ← map_name_namePlaces, List.map_map, List.map_map]
    rfl

/-- The pattern `a, (b, [c, d]), (e, f)`. -/
def nestedPattern : Node :=
  .inner .patternList (some .left) 0 22 [
    .inner .identifier none 0 1 [],
    .token "," 1 2,
    .inner .tuplePattern none 3 14 [
      .token "(" 3 4,
      .inner .identifier none 4 5 [],
      .token "," 5 6,
      .inner .listPattern none 7 13 [
        .token "[" 7 8,
        .inner .identifier none 8 9 [],
        .token "," 9 10,
        .inner .identifier none 11 12 [],
        .token "]" 12 13],
      .token ")" 13 14],
    .token "," 14 15,
    .inner .tuplePattern none 16 22 [
      .token "(" 16 17,
      .inner .identifier none 17 18 [],
      .token "," 18 19,
      .inner .identifier none 20 21 [],
      .token ")" 21 22]]

/-- The value `1, ('', [x, 2.5]), [3]`. -/
def nestedValue : Node :=
  .inner .expressionList (some .right) 25 47 [
    .inner .integer none 25 26 [],
    .token "," 26 27,
    .inner .tuple none 28 42 [
      .token "(" 28 29,
      .inner .string none 29 31 [
        .inner .stringStart none 29 30 [],
        .inner .stringEnd none 30 31 []],
      .token "," 31 32,
      .inner .list none 33 41 [
        .token "[" 33 34,
        .inner .identifier none 34 35 [],
        .token "," 35 36,
        .inner .float none 37 40 [],
        .token "]" 40 41],
      .token ")" 41 42],
    .token "," 42 43,
    .inner .list none 44 47 [
      .token "[" 44 45,
      .inner .integer none 45 46 [],
      .token "]" 46 47]]

def nestedAssignment : Node :=
  .inner .assignment none 0 47 [nestedPattern, .token "=" 23 24, nestedValue]

def nestedSource : Source :=
  .ofText "nested.py" "a, (b, [c, d]), (e, f) = 1, ('', [x, 2.5]), [3]\n"

/-- The type of `x` is not known, and `(e, f)` has more elements than `[3]`. -/
theorem nestedPattern_positional :
    nestedPattern.isPattern ∧
    (bindPattern nestedSource nestedAssignment nestedPattern (some nestedValue)).value =
      [⟨"a", "int"⟩, ⟨"b", "str"⟩, ⟨"c", "Any"⟩, ⟨"d", "float"⟩, ⟨"e", "Any"⟩, ⟨"f", "Any"⟩] := by
  have hpattern : nestedPattern.isPattern := rfl
  have hbound := bindPattern_positional hpattern nestedSource nestedAssignment nestedValue
  refine ⟨hpattern, hbound.1.trans ?_⟩
  decide +kernel

end InterfaceStub
