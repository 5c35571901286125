import InterfaceStub.Extraction.Target
import InterfaceStub.Extraction.TypeExpression
import InterfaceStub.Proofs.TreeNodes

/-!
# What the text of an expression is made of

Two functions give the text of an expression: `namePath` that of a dotted path, and `typeText` that
of a type expression.  This module says once what each of them can give, so that later proofs split
on it and do not unfold either.

* `PathOf` relates an expression to the names along its path, and `pathOf_of_namePathIn` says that
  the text is that of the names with dots between them.
* `TypeReading` has one case for each way in which a type expression gets its text;
  `typeReading_of_typeText` is the inversion.
-/

namespace InterfaceStub

open Syntax Extraction

namespace Extraction

variable {source : Source}

/-! ## Dotted paths -/

/-- The nodes of the names along a dotted path, first to last. -/
inductive PathOf : Node → List Node → Prop where
  | name {node : Node} (hname : node.unwrapped.isName) : PathOf node [node.unwrapped]
  | attribute {node object member : Node} {names : List Node}
      (hkind : node.unwrapped.kind = .attribute)
      (hobject : node.unwrapped.child? .object = some object)
      (hmember : node.unwrapped.child? .attribute = some member) (hpath : PathOf object names) :
      PathOf node (names ++ [member])
  | memberType {node object member : Node} {names : List Node}
      (hkind : node.unwrapped.kind = .memberType)
      (hobject : node.unwrapped.parts.dropLast.head? = some object)
      (hmember : node.unwrapped.parts.getLast? = some member) (hpath : PathOf object names) :
      PathOf node (names ++ [member])

/-- The text of a dotted path with these names. -/
def dottedText (source : Source) (names : List Node) : String :=
  ".".intercalate (names.map source.text)

theorem PathOf.ne_nil {node : Node} {names : List Node} (h : PathOf node names) : names ≠ [] := by
  cases h <;> simp

theorem dottedText_concat {names : List Node} (h : names ≠ []) (member : Node) :
    dottedText source (names ++ [member]) =
      DottedName.child (dottedText source names) (source.text member) := by
  rw [dottedText, List.map_append,
    String.intercalate_append_of_ne_nil (by simpa using h) (by simp), List.map_singleton,
    String.intercalate_singleton]
  rfl

/-- The path of an expression is the text of the names along it. -/
theorem pathOf_of_namePathIn {outer node : Node} {text : String}
    (h : (namePathIn source outer node).value = some text) :
    ∃ names, PathOf node names ∧ text = dottedText source names := by
  fun_induction namePathIn source outer node generalizing text with
  | case1 node hshape =>
    cases h
    exact ⟨_, .name (Source.shapeOf_eq_name_iff.1 hshape), by simp [dottedText]⟩
  | case2 node hshape object member hobject hmember ih =>
    obtain ⟨base, hbase, rfl⟩ := Option.map_eq_some_iff.1 h
    obtain ⟨names, hpath, rfl⟩ := ih hbase
    have hkind := Source.kind_of_shapeOf hshape rfl
    exact ⟨_, .attribute hkind hobject hmember hpath, (dottedText_concat hpath.ne_nil member).symm⟩
  | case4 node hshape object member hobject hmember ih =>
    obtain ⟨base, hbase, rfl⟩ := Option.map_eq_some_iff.1 h
    obtain ⟨names, hpath, rfl⟩ := ih hbase
    have hkind := Source.kind_of_shapeOf hshape rfl
    exact ⟨_, .memberType hkind hobject hmember hpath, (dottedText_concat hpath.ne_nil member).symm⟩
  | case3 | case5 | case6 => cases h

theorem subscriptBase_eq_some {subscript : Node} {base : String}
    (h : (subscriptBase source subscript).value = some base) :
    ∃ value names, subscript.child? .value = some value ∧ PathOf value names ∧
      base = dottedText source names := by
  rw [subscriptBase] at h
  split at h
  · cases h
  · rename_i value hvalue
    split at h
    case h_1 | h_2 =>
      obtain ⟨names, hpath, rfl⟩ := pathOf_of_namePathIn h
      exact ⟨value, names, hvalue, hpath, rfl⟩
    case h_3 => cases h

/-! ## Arguments in brackets -/

/-- The text of a path with arguments in brackets, when `base` reports the path. -/
def appliedTo (source : Source) (base : Report (Option String)) (arguments : List Node) :
    Report (Option String) := do
  match ← base with
  | none => return none
  | some path =>
    let texts ← Report.gather (arguments.map (typeText source))
    return (allTexts? texts).map (applied path)

theorem typeText_subscript {node : Node} (hshape : source.shapeOf node = .subscript) :
    typeText source node =
      appliedTo source (subscriptBase source node.unwrapped)
        (subscriptArguments source node.unwrapped) := by
  rw [typeText, hshape]
  simp only [List.attach_map_val]
  rfl

theorem typeText_generic {node base : Node} {arguments : List Node}
    (hshape : source.shapeOf node = .genericType) (hbase : node.unwrapped.firstPart? = some base)
    (harguments : genericArguments? node.unwrapped = some arguments) :
    typeText source node = appliedTo source (namePath source base) arguments := by
  rw [typeText, hshape]
  simp only
  split
  · rename_i base' arguments' hbase' harguments'
    obtain rfl := Option.some.inj (hbase.symm.trans hbase')
    obtain rfl := Option.some.inj (harguments.symm.trans harguments')
    simp only [List.attach_map_val]
    rfl
  · rename_i hnone
    exact absurd harguments (hnone _ _ hbase)

theorem typeText_list {node : Node} (hshape : source.shapeOf node = .list) :
    typeText source node = do
      let items ← Report.gather (node.unwrapped.parts.map (typeText source))
      return some (listed (items.filterMap id)) := by
  rw [typeText, hshape]
  simp only [List.attach_map_val]

theorem mem_nodes_of_mem_subscriptArguments {subscript argument : Node}
    (h : argument ∈ subscriptArguments source subscript) : argument ∈ subscript.nodes := by
  rw [subscriptArguments] at h
  split at h
  · rename_i single hsingle
    have hmem : single ∈ subscript.nodes :=
      Node.mem_nodes_of_mem_childrenAt (by rw [hsingle]; exact List.mem_singleton.2 rfl)
    split at h
    · have hinner := Node.mem_nodes_trans (Node.mem_nodes_of_mem_parts h) single.unwrapped_mem_nodes
      exact Node.mem_nodes_trans hinner hmem
    · rw [List.mem_singleton.1 h]
      exact hmem
  · exact Node.mem_nodes_of_mem_childrenAt h

theorem mem_nodes_of_genericArguments? {generic argument : Node} {arguments : List Node}
    (h : genericArguments? generic = some arguments) (hargument : argument ∈ arguments) :
    argument ∈ generic.nodes := by
  obtain ⟨bracket, hbracket, rfl⟩ := Option.map_eq_some_iff.1 h
  have hpart := List.mem_of_mem_tail (List.mem_of_find?_eq_some hbracket)
  exact Node.mem_nodes_trans (Node.mem_nodes_of_mem_parts hargument)
    (Node.mem_nodes_of_mem_parts hpart)

/-- The texts of some type expressions, each of which has one. -/
def HaveTexts (source : Source) (nodes : List Node) (texts : List String) : Prop :=
  nodes.map (fun node => (typeText source node).value) = texts.map some

theorem eq_map_some_of_allTexts? {texts : List (Option String)} {found : List String}
    (h : allTexts? texts = some found) : texts = found.map some := by
  fun_induction allTexts? texts generalizing found with
  | case1 =>
    cases h
    rfl
  | case2 => cases h
  | case3 text texts ih =>
    obtain ⟨rest, hrest, rfl⟩ := Option.map_eq_some_iff.1 h
    rw [ih hrest, List.map_cons]

theorem appliedTo_eq_some {base : Report (Option String)} {arguments : List Node} {text : String}
    (h : (appliedTo source base arguments).value = some text) :
    ∃ path texts, base.value = some path ∧ HaveTexts source arguments texts ∧
      text = applied path texts := by
  rw [appliedTo, Report.value_bind] at h
  cases hbase : base.value with
  | none =>
    rw [hbase] at h
    cases h
  | some path =>
    rw [hbase] at h
    obtain ⟨texts, htexts, rfl⟩ := Option.map_eq_some_iff.1 h
    refine ⟨path, texts, rfl, ?_, rfl⟩
    rw [HaveTexts, ← eq_map_some_of_allTexts? htexts, Report.gather, List.map_map]
    rfl

/-! ## Type expressions -/

/-- How a type expression gets its text. -/
inductive TypeReading (source : Source) (node : Node) : String → Prop where
  | noneType (hkind : node.unwrapped.kind = .noneLiteral) : TypeReading source node "None"
  | ellipsis (hkind : node.unwrapped.kind = .ellipsis) : TypeReading source node "..."
  | string (hshape : source.shapeOf node = .string) :
      TypeReading source node (source.stringText node.unwrapped)
  | path {names : List Node} (hpath : PathOf node names) :
      TypeReading source node (dottedText source names)
  | subscript {value : Node} {names : List Node} {texts : List String}
      (hkind : node.unwrapped.kind = .subscript)
      (hvalue : node.unwrapped.child? .value = some value) (hpath : PathOf value names)
      (htexts : HaveTexts source (subscriptArguments source node.unwrapped) texts) :
      TypeReading source node (applied (dottedText source names) texts)
  | generic {base : Node} {arguments names : List Node} {texts : List String}
      (hkind : node.unwrapped.kind = .genericType)
      (hbase : node.unwrapped.firstPart? = some base)
      (harguments : genericArguments? node.unwrapped = some arguments) (hpath : PathOf base names)
      (htexts : HaveTexts source arguments texts) :
      TypeReading source node (applied (dottedText source names) texts)
  | list (hkind : node.unwrapped.kind = .list) :
      TypeReading source node
        (listed (node.unwrapped.parts.filterMap fun item => (typeText source item).value))

/-- The ways in which a type expression gets its text. -/
theorem typeReading_of_typeText {node : Node} {text : String}
    (h : (typeText source node).value = some text) : TypeReading source node text := by
  have hread := h
  rw [typeText] at h
  split at h
  case h_1 hshape =>
    cases h
    exact .noneType (Source.kind_of_shapeOf hshape rfl)
  case h_2 hshape =>
    cases h
    exact .ellipsis (Source.kind_of_shapeOf hshape rfl)
  case h_3 hshape =>
    split at h
    · cases h
    · cases h
      exact .string hshape
  case h_7 | h_8 | h_9 =>
    obtain ⟨names, hpath, rfl⟩ := pathOf_of_namePathIn h
    exact .path hpath
  case h_10 hshape =>
    rw [typeText_subscript hshape] at hread
    obtain ⟨path, texts, hbase, htexts, rfl⟩ := appliedTo_eq_some hread
    obtain ⟨value, names, hvalue, hpath, rfl⟩ := subscriptBase_eq_some hbase
    exact .subscript (Source.kind_of_shapeOf hshape rfl) hvalue hpath htexts
  case h_11 hshape =>
    split at h
    · rename_i base arguments hbase harguments
      rw [typeText_generic hshape hbase harguments] at hread
      obtain ⟨path, texts, hvalue, htexts, rfl⟩ := appliedTo_eq_some hread
      obtain ⟨names, hpath, rfl⟩ := pathOf_of_namePathIn hvalue
      exact .generic (Source.kind_of_shapeOf hshape rfl) hbase harguments hpath htexts
    · cases h
  case h_12 hshape =>
    rw [typeText_list hshape] at hread
    cases hread
    rw [Report.gather, List.map_map, List.filterMap_map]
    exact .list (Source.kind_of_shapeOf hshape rfl)
  all_goals cases h

end Extraction

end InterfaceStub
