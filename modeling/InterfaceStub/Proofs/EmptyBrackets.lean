import InterfaceStub.Proofs.LineReading
import InterfaceStub.Proofs.TreeExistence
import InterfaceStub.Proofs.TypeTexts

/-!
# Brackets with nothing in them

The text of a type expression is made of names, brackets and commas, so it should be a type
expression again.  It is one of the grammar `IsType`, which lets brackets be empty.  In the source
language a list may be empty, as in `Callable[[], int]`, but the brackets after a path may not:
`IsProperType` is the grammar with that demand.

* `isProperType_applied_iff` and `isProperType_listed_iff` take a text in brackets apart.  They rest
  on the fact that such a text can be read in one way only.
* `HasEmptyBrackets` says where a text gets empty brackets from.  In a subscript that is the empty
  tuple, since a tuple in brackets stands for its items.
* `isProperType_typeText_iff` is the result: the text of an expression without strings is a type
  expression, and a proper one unless the expression has such a place.
-/

namespace InterfaceStub

open Syntax Extraction

/-! ## The grammar without empty brackets -/

/-- The text of a type expression with at least one argument in the brackets after a path. -/
inductive IsProperType : String → Prop where
  | noneType : IsProperType "None"
  | ellipsis : IsProperType "..."
  | path {text : String} (htext : IsDotted text) : IsProperType text
  | applied {base : String} {arguments : List String} (hbase : IsDotted base)
      (hsome : arguments ≠ []) (harguments : ∀ argument ∈ arguments, IsProperType argument) :
      IsProperType (applied base arguments)
  | list {items : List String} (hitems : ∀ item ∈ items, IsProperType item) :
      IsProperType (listed items)

theorem IsProperType.isType {text : String} (h : IsProperType text) : IsType text := by
  induction h with
  | noneType => exact .noneType
  | ellipsis => exact .ellipsis
  | path htext => exact .path htext
  | applied hbase _ _ ih => exact .applied hbase ih
  | list _ ih => exact .list ih

/-- Type expressions with commas between them can be read up to the closing bracket. -/
theorem intercalate_close_inj {first second : List String} (hfirst : ∀ text ∈ first, IsType text)
    (hsecond : ∀ text ∈ second, IsType text)
    (h : (", ".intercalate first).toList ++ [']'] = (", ".intercalate second).toList ++ [']']) :
    first = second := by
  have hstops {rest : List Char} (hrest : Continues (· = [']']) rest) : Stops rest := by
    rcases hrest with ⟨more, rfl⟩ | rfl
    · exact stops_of_head (c := ',') rfl (by decide)
    · exact stops_of_head (c := ']') rfl (by decide)
  refine (@intercalate_append_inj String id IsType (· = [']']) ?_ ?_ ?_ first second _ _ hfirst
    hsecond rfl rfl (by simpa using h)).1
  · intro x y r s hx hy hr hs heq
    exact hx.isWord.append_inj hy.isWord (hstops hr) (hstops hs) heq
  · rintro x r s hx rfl heq
    obtain ⟨c, cs, hchars, hc⟩ := head_of_isType hx
    rw [id, hchars] at heq
    obtain ⟨rfl, _⟩ := List.cons.inj heq
    exact hc (by decide)
  · rintro r heq
    cases heq

theorem applied_inj {base base' : String} {texts texts' : List String} (hbase : IsDotted base)
    (hbase' : IsDotted base') (htexts : ∀ text ∈ texts, IsType text)
    (htexts' : ∀ text ∈ texts', IsType text) (h : applied base texts = applied base' texts') :
    texts = texts' := by
  have hopen : ¬isWordChar '[' := by
    rw [isWordChar_of_mem_marks (by decide)]
    decide
  have hchars : base.toList ++ '[' :: ((", ".intercalate texts).toList ++ [']']) =
      base'.toList ++ '[' :: ((", ".intercalate texts').toList ++ [']']) := by
    simpa [applied] using congrArg String.toList h
  -- No bracket stands in a path, so both paths end at the first one.
  obtain ⟨-, hrest⟩ := append_inj_of_sort hbase.isWordChar_of_mem hbase'.isWordChar_of_mem
    (by simpa using hopen) (by simpa using hopen) hchars
  exact intercalate_close_inj htexts htexts' (List.cons.inj hrest).2

theorem listed_inj {items items' : List String} (hitems : ∀ item ∈ items, IsType item)
    (hitems' : ∀ item ∈ items', IsType item) (h : listed items = listed items') :
    items = items' := by
  have hchars : '[' :: ((", ".intercalate items).toList ++ [']']) =
      '[' :: ((", ".intercalate items').toList ++ [']']) := by
    simpa [listed] using congrArg String.toList h
  exact intercalate_close_inj hitems hitems' (List.cons.inj hchars).2

/-- A path with arguments is no list. -/
theorem applied_ne_listed {base : String} (hbase : IsDotted base) (texts items : List String) :
    applied base texts ≠ listed items := by
  intro h
  obtain ⟨c, cs, hchars, hc⟩ := head_of_isDotted hbase
  have heq : c :: (cs ++ '[' :: ((", ".intercalate texts).toList ++ [']'])) =
      '[' :: ((", ".intercalate items).toList ++ [']']) := by
    simpa [applied, listed, hchars] using congrArg String.toList h
  obtain ⟨rfl, _⟩ := List.cons.inj heq
  exact hc (by decide)

theorem not_mem_of_isDotted {text : String} (h : IsDotted text) : '[' ∉ text.toList := by
  intro hmem
  have hword := h.isWordChar_of_mem '[' hmem
  rw [isWordChar_of_mem_marks (by decide)] at hword
  cases hword

theorem isProperType_applied_iff {base : String} {texts : List String} (hbase : IsDotted base)
    (htexts : ∀ text ∈ texts, IsType text) :
    IsProperType (applied base texts) ↔ texts ≠ [] ∧ ∀ text ∈ texts, IsProperType text := by
  constructor
  · intro h
    have hopen : '[' ∈ (applied base texts).toList := by simp [applied]
    generalize heq : applied base texts = text at h hopen
    cases h with
    | noneType => exact absurd hopen (by decide)
    | ellipsis => exact absurd hopen (by decide)
    | path htext => exact absurd hopen (not_mem_of_isDotted htext)
    | applied hbase' hsome harguments =>
      have htypes := fun argument hargument => (harguments argument hargument).isType
      rw [applied_inj hbase hbase' htexts htypes heq]
      exact ⟨hsome, harguments⟩
    | list => exact absurd heq (applied_ne_listed hbase _ _)
  · rintro ⟨hsome, hproper⟩
    exact .applied hbase hsome hproper

theorem isProperType_listed_iff {items : List String} (hitems : ∀ item ∈ items, IsType item) :
    IsProperType (listed items) ↔ ∀ item ∈ items, IsProperType item := by
  constructor
  · intro h
    have hopen : '[' ∈ (listed items).toList := by simp [listed]
    generalize heq : listed items = text at h hopen
    cases h with
    | noneType => exact absurd hopen (by decide)
    | ellipsis => exact absurd hopen (by decide)
    | path htext => exact absurd hopen (not_mem_of_isDotted htext)
    | applied hbase => exact absurd heq.symm (applied_ne_listed hbase _ _)
    | list hproper =>
      rw [listed_inj hitems (fun item hitem => (hproper item hitem).isType) heq]
      exact hproper
  · exact .list

/-! ## Expressions that are spelled out -/

/-- Whether a node is no string and has the text of a name where a name has to be. -/
def Syntax.Source.spells (source : Source) (node : Node) : Bool :=
  match node.kind with
  | .string | .concatenatedString => false
  | .identifier | .keywordIdentifier => Text.isIdentifier (source.text node)
  | .attribute => (node.child? .attribute).all Node.isName
  | .memberType => node.parts.getLast?.all Node.isName
  | _ => true

/-- An expression without strings, whose names have the text of names. -/
def Syntax.Node.SpelledIn (source : Source) (root : Node) : Prop :=
  ∀ node ∈ root.nodes, source.spells node

instance (source : Source) (root : Node) : Decidable (root.SpelledIn source) :=
  inferInstanceAs (Decidable (∀ node ∈ root.nodes, source.spells node = true))

theorem Syntax.Node.SpelledIn.of_mem {source : Source} {root node : Node}
    (h : root.SpelledIn source) (hnode : node ∈ root.nodes) : node.SpelledIn source :=
  fun inner hinner => h inner (mem_nodes_trans hinner hnode)

namespace Extraction

variable {source : Source}

theorem isIdentifier_of_spelledIn {node : Node} (h : node.SpelledIn source) (hname : node.isName) :
    Text.isIdentifier (source.text node) := by
  have hspells := h node node.mem_nodes_self
  simp only [Node.isName, Bool.or_eq_true, beq_iff_eq] at hname
  rcases hname with hkind | hkind <;> simpa [Source.spells, hkind] using hspells

/-- The text of a path is a dotted name. -/
theorem PathOf.isDotted {node : Node} {names : List Node} (h : PathOf node names)
    (hspelled : node.SpelledIn source) : IsDotted (dottedText source names) := by
  induction h with
  | @name node hname =>
    have hself := hspelled.of_mem node.unwrapped_mem_nodes
    simpa [dottedText] using IsDotted.name (isIdentifier_of_spelledIn hself hname)
  | @«attribute» node object member names hkind hobject hmember hpath ih =>
    have hself := hspelled.of_mem node.unwrapped_mem_nodes
    have hname : member.isName := by
      simpa [Source.spells, hkind, hmember] using hself _ node.unwrapped.mem_nodes_self
    rw [dottedText_concat hpath.ne_nil]
    exact .child (ih (hself.of_mem (Node.mem_nodes_of_child? hobject)))
      (isIdentifier_of_spelledIn (hself.of_mem (Node.mem_nodes_of_child? hmember)) hname)
  | @memberType node object member names hkind hobject hmember hpath ih =>
    have hself := hspelled.of_mem node.unwrapped_mem_nodes
    have hname : member.isName := by
      simpa [Source.spells, hkind, hmember] using hself _ node.unwrapped.mem_nodes_self
    have hfirst := (List.dropLast_sublist _).subset (List.mem_of_mem_head? hobject)
    have hlast := List.mem_of_getLast? hmember
    rw [dottedText_concat hpath.ne_nil]
    exact .child (ih (hself.of_mem (Node.mem_nodes_of_mem_parts hfirst)))
      (isIdentifier_of_spelledIn (hself.of_mem (Node.mem_nodes_of_mem_parts hlast)) hname)

/-! ## Where empty brackets come from -/

/-- The arguments in the brackets after a path. -/
def bracketArguments? (source : Source) (node : Node) : Option (List Node) :=
  match node.kind with
  | .subscript => some (subscriptArguments source node)
  | .genericType => genericArguments? node
  | _ => none

/-- The brackets after a path have no arguments.  Those of a subscript have none when they enclose
nothing or an empty tuple. -/
inductive LacksArguments (node : Node) : Prop where
  | subscript (hkind : node.kind = .subscript) (hnone : node.childrenAt .subscript = [])
  | emptyTuple {single : Node} (hkind : node.kind = .subscript)
      (hsingle : node.childrenAt .subscript = [single])
      (htuple : single.unwrapped.kind ∈ [.tuple, .expressionList, .patternList])
      (hparts : single.unwrapped.parts = [])
  | generic {bracket : Node} (hkind : node.kind = .genericType)
      (hbracket : node.parts.tail.find? (·.kind == .typeParameter) = some bracket)
      (hparts : bracket.parts = [])

theorem lacksArguments_iff {node : Node} :
    LacksArguments node ↔ bracketArguments? source node = some [] := by
  constructor
  · intro h
    cases h with
    | subscript hkind hnone => simp [bracketArguments?, hkind, subscriptArguments, hnone]
    | @emptyTuple single hkind hsingle htuple hparts =>
      have hshape : source.shapeOf single = .tuple := (Source.shapeOf_eq_iff (by decide)).2 htuple
      simp [bracketArguments?, hkind, subscriptArguments, hsingle, hshape, hparts]
    | generic hkind hbracket hparts =>
      simp [bracketArguments?, hkind, genericArguments?, hbracket, hparts]
  · intro h
    rw [bracketArguments?] at h
    split at h
    · rename_i hkind
      have hempty := Option.some.inj h
      rw [subscriptArguments] at hempty
      split at hempty
      · rename_i single hsingle
        split at hempty
        · rename_i htuple
          exact .emptyTuple hkind hsingle ((Source.shapeOf_eq_iff (by decide)).1 htuple) hempty
        · cases hempty
      · exact .subscript hkind hempty
    · rename_i hkind
      obtain ⟨bracket, hbracket, hparts⟩ := Option.map_eq_some_iff.1 h
      exact .generic hkind hbracket hparts
    · cases h

/-- The text of the expression has brackets without arguments in it.  An item of a list counts when
it has a text, as the others are left out. -/
inductive HasEmptyBrackets (source : Source) : Node → Prop where
  | here {node : Node} (hlacks : LacksArguments node.unwrapped) : HasEmptyBrackets source node
  | argument {node argument : Node} {arguments : List Node}
      (harguments : bracketArguments? source node.unwrapped = some arguments)
      (hargument : argument ∈ arguments) (hinner : HasEmptyBrackets source argument) :
      HasEmptyBrackets source node
  | item {node item : Node} (hkind : node.unwrapped.kind = .list)
      (hitem : item ∈ node.unwrapped.parts) (htext : (typeText source item).value.isSome)
      (hinner : HasEmptyBrackets source item) : HasEmptyBrackets source node

section Inversion

variable {node : Node}

theorem hasEmptyBrackets_iff_of_arguments {arguments : List Node}
    (h : bracketArguments? source node.unwrapped = some arguments) :
    HasEmptyBrackets source node ↔
      arguments = [] ∨ ∃ argument ∈ arguments, HasEmptyBrackets source argument := by
  constructor
  · intro hempty
    cases hempty with
    | here hlacks =>
      rw [lacksArguments_iff.1 hlacks] at h
      exact .inl (Option.some.inj h).symm
    | argument harguments hargument hinner =>
      obtain rfl := Option.some.inj (h.symm.trans harguments)
      exact .inr ⟨_, hargument, hinner⟩
    | item hkind =>
      rw [bracketArguments?, hkind] at h
      cases h
  · rintro (rfl | ⟨argument, hargument, hinner⟩)
    · exact .here (lacksArguments_iff.2 h)
    · exact .argument h hargument hinner

theorem hasEmptyBrackets_iff_of_list (hkind : node.unwrapped.kind = .list) :
    HasEmptyBrackets source node ↔
      ∃ item ∈ node.unwrapped.parts, (typeText source item).value.isSome ∧
        HasEmptyBrackets source item := by
  have hnone : bracketArguments? source node.unwrapped = none := by
    rw [bracketArguments?, hkind]
  constructor
  · intro hempty
    cases hempty with
    | here hlacks => cases hnone.symm.trans (lacksArguments_iff.1 hlacks)
    | argument harguments => cases hnone.symm.trans harguments
    | item _ hitem htext hinner => exact ⟨_, hitem, htext, hinner⟩
  · rintro ⟨item, hitem, htext, hinner⟩
    exact .item hkind hitem htext hinner

theorem not_hasEmptyBrackets_of_kind
    (hkind : node.unwrapped.kind ∉ [Kind.subscript, .genericType, .list]) :
    ¬HasEmptyBrackets source node := by
  have hnone : bracketArguments? source node.unwrapped = none := by
    rw [bracketArguments?]
    split <;> simp_all
  intro hempty
  cases hempty with
  | here hlacks => cases hnone.symm.trans (lacksArguments_iff.1 hlacks)
  | argument harguments => cases hnone.symm.trans harguments
  | item hlist => exact hkind (by simp [hlist])

end Inversion

/-! ## The text of an expression -/

/-- A text of the expression is a type expression, and a proper one when no brackets lack
arguments. -/
def ReadsAsType (source : Source) (node : Node) (text : String) : Prop :=
  IsType text ∧ (IsProperType text ↔ ¬HasEmptyBrackets source node)

theorem HaveTexts.exists_node {nodes : List Node} {texts : List String} {text : String}
    (h : HaveTexts source nodes texts) (htext : text ∈ texts) :
    ∃ node ∈ nodes, (typeText source node).value = some text := by
  have hmem : some text ∈ texts.map some := List.mem_map_of_mem htext
  rw [← h] at hmem
  exact List.mem_map.1 hmem

theorem HaveTexts.exists_text {node : Node} {nodes : List Node} {texts : List String}
    (h : HaveTexts source nodes texts) (hnode : node ∈ nodes) :
    ∃ text ∈ texts, (typeText source node).value = some text := by
  have hmem := List.mem_map_of_mem (f := fun node => (typeText source node).value) hnode
  rw [h] at hmem
  obtain ⟨text, htext, hvalue⟩ := List.mem_map.1 hmem
  exact ⟨text, htext, hvalue.symm⟩

theorem HaveTexts.eq_nil_iff {nodes : List Node} {texts : List String}
    (h : HaveTexts source nodes texts) : texts = [] ↔ nodes = [] := by
  have hlength := congrArg List.length h
  simp only [List.length_map] at hlength
  rw [← List.length_eq_zero_iff, ← List.length_eq_zero_iff, hlength]

theorem readsAsType_applied {node : Node} {arguments : List Node} {base : String}
    {texts : List String} (hbase : IsDotted base)
    (harguments : bracketArguments? source node.unwrapped = some arguments)
    (htexts : HaveTexts source arguments texts)
    (ih : ∀ argument ∈ arguments, ∀ text, (typeText source argument).value = some text →
      ReadsAsType source argument text) :
    ReadsAsType source node (applied base texts) := by
  have htypes : ∀ text ∈ texts, IsType text := by
    intro text htext
    obtain ⟨argument, hargument, hvalue⟩ := htexts.exists_node htext
    exact (ih argument hargument text hvalue).1
  refine ⟨.applied hbase htypes, ?_⟩
  rw [isProperType_applied_iff hbase htypes, hasEmptyBrackets_iff_of_arguments harguments, not_or,
    ← htexts.eq_nil_iff]
  refine and_congr_right fun _ => ?_
  constructor
  · rintro hproper ⟨argument, hargument, hempty⟩
    obtain ⟨text, htext, hvalue⟩ := htexts.exists_text hargument
    exact (ih argument hargument text hvalue).2.1 (hproper text htext) hempty
  · intro hfull text htext
    obtain ⟨argument, hargument, hvalue⟩ := htexts.exists_node htext
    exact (ih argument hargument text hvalue).2.2 fun hempty => hfull ⟨argument, hargument, hempty⟩

theorem readsAsType_listed {node : Node} (hkind : node.unwrapped.kind = .list)
    (ih : ∀ item ∈ node.unwrapped.parts, ∀ text, (typeText source item).value = some text →
      ReadsAsType source item text) :
    ReadsAsType source node
      (listed (node.unwrapped.parts.filterMap fun item => (typeText source item).value)) := by
  have htypes : ∀ text ∈ node.unwrapped.parts.filterMap fun item => (typeText source item).value,
      IsType text := by
    intro text htext
    obtain ⟨item, hitem, hvalue⟩ := List.mem_filterMap.1 htext
    exact (ih item hitem text hvalue).1
  refine ⟨.list htypes, ?_⟩
  rw [isProperType_listed_iff htypes, hasEmptyBrackets_iff_of_list hkind]
  constructor
  · rintro hproper ⟨item, hitem, hsome, hempty⟩
    obtain ⟨text, hvalue⟩ := Option.isSome_iff_exists.1 hsome
    have htext := hproper text (List.mem_filterMap.2 ⟨item, hitem, hvalue⟩)
    exact (ih item hitem text hvalue).2.1 htext hempty
  · intro hfull text htext
    obtain ⟨item, hitem, hvalue⟩ := List.mem_filterMap.1 htext
    refine (ih item hitem text hvalue).2.2 fun hempty => hfull ⟨item, hitem, ?_, hempty⟩
    exact Option.isSome_iff_exists.2 ⟨text, hvalue⟩

theorem PathOf.kind_ne {node : Node} {names : List Node} (h : PathOf node names) :
    node.unwrapped.kind ∉ [Kind.subscript, .genericType, .list] := by
  cases h with
  | name hname =>
    simp only [Node.isName, Bool.or_eq_true, beq_iff_eq] at hname
    rcases hname with hkind | hkind <;> simp [hkind]
  | «attribute» hkind => simp [hkind]
  | memberType hkind => simp [hkind]

end Extraction

/-- The text of an expression without strings is a type expression.  It is one with arguments in all
brackets after a path exactly when no such brackets of the expression lack arguments. -/
theorem isProperType_typeText_iff {source : Source} {node : Node} {text : String}
    (hspelled : node.SpelledIn source) (h : (typeText source node).value = some text) :
    IsType text ∧ (IsProperType text ↔ ¬HasEmptyBrackets source node) := by
  induction hsize : node.size using Nat.strongRecOn generalizing node text with
  | ind size ih =>
    have hself := hspelled.of_mem node.unwrapped_mem_nodes
    have hinner {inner : Node} (hmem : inner ∈ node.unwrapped.nodes)
        (hlt : inner.size < node.unwrapped.size) (text : String)
        (htext : (typeText source inner).value = some text) : ReadsAsType source inner text := by
      have hle := node.size_unwrapped_le
      exact ih inner.size (by omega) (hself.of_mem hmem) htext rfl
    cases typeReading_of_typeText h with
    | noneType hkind =>
      exact ⟨.noneType, iff_of_true .noneType (not_hasEmptyBrackets_of_kind (by simp [hkind]))⟩
    | ellipsis hkind =>
      exact ⟨.ellipsis, iff_of_true .ellipsis (not_hasEmptyBrackets_of_kind (by simp [hkind]))⟩
    | string hshape =>
      have hspells := hself _ node.unwrapped.mem_nodes_self
      rcases List.mem_pair.1 (Source.mem_kinds_of_shapeOf hshape (by decide)) with hkind | hkind
      all_goals simp [Source.spells, hkind] at hspells
    | path hpath =>
      have hdotted := hpath.isDotted hspelled
      refine ⟨.path hdotted, iff_of_true (.path hdotted) ?_⟩
      exact not_hasEmptyBrackets_of_kind hpath.kind_ne
    | subscript hkind hvalue hpath htexts =>
      have hbase := hpath.isDotted (hself.of_mem (Node.mem_nodes_of_child? hvalue))
      refine readsAsType_applied hbase (by rw [bracketArguments?, hkind]) htexts ?_
      intro argument hargument
      exact hinner (mem_nodes_of_mem_subscriptArguments hargument)
        (size_lt_of_mem_subscriptArguments hargument)
    | @generic base arguments names texts hkind hbase harguments hpath htexts =>
      have hdotted := hpath.isDotted (hself.of_mem (Node.mem_nodes_of_firstPart? hbase))
      have hbrackets : bracketArguments? source node.unwrapped = some arguments := by
        rw [bracketArguments?, hkind]
        exact harguments
      refine readsAsType_applied hdotted hbrackets htexts ?_
      intro argument hargument
      exact hinner (mem_nodes_of_genericArguments? harguments hargument)
        (size_lt_of_genericArguments? harguments hargument)
    | list hkind =>
      refine readsAsType_listed hkind fun item hitem => ?_
      exact hinner (Node.mem_nodes_of_mem_parts hitem) (Node.size_lt_of_mem_parts hitem)

/-- The expression `Tuple[()]`. -/
def emptyTupleType : Node :=
  .inner .subscript (some .right) 4 13 [
    .inner .identifier (some .value) 4 9 [],
    .token "[" 9 10,
    .inner .tuple (some .subscript) 10 12 [.token "(" 10 11, .token ")" 11 12],
    .token "]" 12 13]

/-- A module that makes an alias of it. -/
def emptyTupleModule : Node :=
  .inner (.other "module") none 0 14 [
    .inner .expressionStatement none 0 13 [
      .inner .assignment none 0 13 [
        .inner .identifier (some .left) 0 1 [],
        .token "=" 2 3,
        emptyTupleType]]]

def emptyTupleSource : Source :=
  .ofText "alias.py" "X = Tuple[()]\n"

/-- The empty tuple in the brackets stands for no items, so the alias gets a text that is no proper
type expression. -/
theorem emptyTupleModule_alias_not_proper :
    emptyTupleType.SpelledIn emptyTupleSource ∧
    (extract {} emptyTupleSource emptyTupleModule).stub.content = [.typeAlias ⟨"X", "Tuple[]"⟩] ∧
    (typeText emptyTupleSource emptyTupleType).value = some "Tuple[]" ∧
    IsType "Tuple[]" ∧ ¬IsProperType "Tuple[]" := by
  have hspelled : emptyTupleType.SpelledIn emptyTupleSource := by decide +kernel
  have htext : (typeText emptyTupleSource emptyTupleType).value = some "Tuple[]" := by
    decide +kernel
  have hempty : HasEmptyBrackets emptyTupleSource emptyTupleType := by
    refine .here ?_
    rw [emptyTupleType, Node.unwrapped_inner rfl]
    refine .emptyTuple rfl rfl ?_ ?_
    all_goals rw [Node.unwrapped_inner rfl]
    · decide
    · rfl
  obtain ⟨htype, hproper⟩ := isProperType_typeText_iff hspelled htext
  refine ⟨hspelled, ?_, htext, htype, fun h => hproper.1 h hempty⟩
  decide +kernel

end InterfaceStub
