import InterfaceStub.Proofs.Erasure
import InterfaceStub.Proofs.PatternPlaces
import Mathlib.Data.List.Forall2

/-!
# Parentheses

Parentheses around an expression have no meaning of their own.  Here they are put around an
expression, or around one element of a tuple or list somewhere inside it, and what is read of the
expression stays the same.

* Trees.  `Parenthesizes` puts parentheses around a node, `EnclosesElement` around an element inside
  a node.  `Around` and `Within` add the case that nothing changes.  `Like` relates what two such
  trees are without the parentheses around them: one label, and children that are so related in
  turn.
* Readings.  There is one lemma for each function that reads an expression, up to `inferType_alike`
  and `value_typeText_around`.  What is found on the way is not compared: a finding in a dotted path
  names the kind of the expression around it.
-/

namespace InterfaceStub

open Syntax

namespace Syntax

/-- The kinds of the parts of a string. -/
def Kind.stringMarks : List Kind :=
  [.stringStart, .stringEnd, .interpolation]

theorem Kind.isDisplay_of_isWrapper {kind : Kind} (h : kind.isWrapper) :
    kind.isDisplay = false := by
  cases kind <;> first | rfl | cases h

namespace Node

/-! ## Trees -/

/-- The same tree, playing no part in a parent. -/
def detached : Node → Node
  | mk label children => mk { label with field := none } children

/-- The node `outer` is the expression `inner` in parentheses, and it stands in its place.  Starred
elements and parts of a string are no expressions. -/
structure Parenthesizes (outer inner : Node) : Prop where
  kind : outer.kind = .parenthesizedExpression
  parts : outer.parts = [inner.detached]
  isPart : outer.isPart
  field : outer.field = inner.field
  unstarred : inner.isStarred = false
  unmarked : inner.kind ∉ Kind.stringMarks

/-- In the second tree there are parentheses around one element of a tuple or list inside the
first. -/
inductive EnclosesElement : Node → Node → Prop where
  | element {label : Label} {before after : List Node} {inner outer : Node}
      (hdisplay : label.kind.isDisplay) (h : outer.Parenthesizes inner) :
      EnclosesElement (mk label (before ++ inner :: after)) (mk label (before ++ outer :: after))
  | inside {label : Label} {before after : List Node} {inner outer : Node}
      (h : EnclosesElement inner outer) :
      EnclosesElement (mk label (before ++ inner :: after)) (mk label (before ++ outer :: after))

/-- The trees differ at most in parentheses inside them. -/
def Within (first second : Node) : Prop :=
  first = second ∨ EnclosesElement first second

/-- The trees differ at most in parentheses inside the first or around it. -/
def Around (first second : Node) : Prop :=
  Within first second ∨ second.Parenthesizes first

/-- The nodes have one label, apart from the part they play, and children that differ at most in
parentheses.  Only elements of a tuple or list have parentheses around them. -/
structure Like (first second : Node) : Prop where
  label : second.label = { first.label with field := second.label.field }
  children : List.Forall₂ Around first.children second.children
  within : first.kind.isDisplay = false → List.Forall₂ Within first.children second.children

variable {first second : Node}

theorem label_of_encloses (h : EnclosesElement first second) : second.label = first.label := by
  cases h <;> rfl

theorem Within.label_eq (h : Within first second) : second.label = first.label := by
  rcases h with rfl | h
  · rfl
  · exact label_of_encloses h

theorem Within.kind_eq (h : Within first second) : second.kind = first.kind :=
  congrArg Label.kind h.label_eq

theorem Within.isPart_eq (h : Within first second) : second.isPart = first.isPart := by
  rw [isPart, h.label_eq, isPart]

theorem isPart_of_detached_mem_parts (h : first.detached ∈ second.parts) : first.isPart := by
  have hpart := (List.mem_filter.1 h).2
  cases first
  exact hpart

theorem Parenthesizes.isPart_inner (h : second.Parenthesizes first) : first.isPart :=
  isPart_of_detached_mem_parts (by rw [h.parts]; exact List.mem_singleton.2 rfl)

theorem Around.isPart_eq (h : Around first second) : second.isPart = first.isPart := by
  rcases h with h | h
  · exact h.isPart_eq
  · rw [h.isPart, h.isPart_inner]

/-- Parentheses around a node neither make a part of a string nor hide one. -/
theorem Around.mark (h : Around first second) :
    second.label = first.label ∨
      first.kind ∉ Kind.stringMarks ∧ second.kind ∉ Kind.stringMarks := by
  rcases h with h | h
  · exact .inl h.label_eq
  · refine .inr ⟨h.unmarked, ?_⟩
    rw [h.kind]
    decide

/-- Lists in which one node is replaced by a related one. -/
theorem forall₂_replaced {R : Node → Node → Prop} (hrefl : ∀ node, R node node) {inner outer : Node}
    (h : R inner outer) (before after : List Node) :
    List.Forall₂ R (before ++ inner :: after) (before ++ outer :: after) := by
  induction before with
  | nil => exact .cons h (List.forall₂_same.2 fun node _ => hrefl node)
  | cons node before ih => exact .cons (hrefl node) ih

theorem Within.refl (node : Node) : Within node node :=
  .inl rfl

theorem Around.refl (node : Node) : Around node node :=
  .inl (.refl node)

theorem Like.of_children (hlabel : second.label = { first.label with field := second.label.field })
    (hchildren : second.children = first.children) : Like first second := by
  refine ⟨hlabel, ?_, fun _ => ?_⟩ <;> rw [hchildren]
  · exact List.forall₂_same.2 fun child _ => .refl child
  · exact List.forall₂_same.2 fun child _ => .refl child

theorem Like.refl (node : Node) : Like node node :=
  .of_children rfl rfl

theorem like_detached (node : Node) : Like node node.detached := by
  cases node
  exact .of_children rfl rfl

theorem like_of_encloses (h : EnclosesElement first second) : Like first second := by
  cases h with
  | element hdisplay h =>
    refine ⟨rfl, forall₂_replaced .refl (.inr h) _ _, fun hnot => ?_⟩
    exact absurd (hdisplay.symm.trans hnot) (by decide)
  | inside h =>
    exact ⟨rfl, forall₂_replaced .refl (.inl (.inr h)) _ _,
      fun _ => forall₂_replaced .refl (.inr h) _ _⟩

theorem Within.like (h : Within first second) : Like first second := by
  rcases h with rfl | h
  · exact .refl first
  · exact like_of_encloses h

theorem Like.kind_eq (h : Like first second) : second.kind = first.kind := by
  rw [kind, h.label, kind]

/-! ### Children -/

theorem rel_cases {R : α → α → Prop} {first second : Option α} (h : Option.Rel R first second) :
    first = none ∧ second = none ∨
      ∃ inner outer, first = some inner ∧ second = some outer ∧ R inner outer := by
  cases h with
  | none => exact .inl ⟨rfl, rfl⟩
  | some hrel => exact .inr ⟨_, _, rfl, rfl, hrel⟩

section

variable {R : Node → Node → Prop} {p : Node → Bool} {nodes others : List Node}

theorem forall₂_filter (h : List.Forall₂ R nodes others)
    (hp : ∀ node other, R node other → p other = p node) :
    List.Forall₂ R (nodes.filter p) (others.filter p) :=
  List.rel_filter (fun node other hrel => (Bool.eq_iff_iff.1 (hp node other hrel)).symm) h

theorem rel_head? (h : List.Forall₂ R nodes others) :
    Option.Rel R nodes.head? others.head? := by
  cases h with
  | nil => exact .none
  | cons h _ => exact .some h

theorem rel_getLast? (h : List.Forall₂ R nodes others) :
    Option.Rel R nodes.getLast? others.getLast? := by
  rw [← List.head?_reverse, ← List.head?_reverse]
  exact rel_head? (List.rel_reverse h)

theorem forall₂_dropLast (h : List.Forall₂ R nodes others) :
    List.Forall₂ R nodes.dropLast others.dropLast := by
  rw [List.dropLast_eq_take, List.dropLast_eq_take, h.length_eq]
  exact List.forall₂_take _ h

theorem rel_find? (h : List.Forall₂ R nodes others)
    (hp : ∀ node other, R node other → p other = p node) :
    Option.Rel R (nodes.find? p) (others.find? p) := by
  rw [← List.head?_filter, ← List.head?_filter]
  exact rel_head? (forall₂_filter h hp)

theorem map_eq_of_forall₂ {f g : Node → α} (h : List.Forall₂ R nodes others)
    (heq : ∀ node ∈ nodes, ∀ other, R node other → g other = f node) :
    others.map g = nodes.map f := by
  induction h with
  | nil => rfl
  | cons hrel _ ih =>
    rw [List.map_cons, List.map_cons, heq _ List.mem_cons_self _ hrel,
      ih fun node hnode => heq node (List.mem_cons_of_mem _ hnode)]

theorem map_eq_of_rel {f g : Node → α} {node other : Option Node}
    (h : Option.Rel R node other) (heq : ∀ inner outer, R inner outer → g outer = f inner) :
    other.map g = node.map f := by
  cases h with
  | none => rfl
  | some hrel => exact congrArg some (heq _ _ hrel)

theorem any_eq_of_forall₂ (h : List.Forall₂ R nodes others)
    (hp : ∀ node other, R node other → p other = p node) :
    others.any p = nodes.any p := by
  have hmap := map_eq_of_forall₂ h fun node _ => hp node
  simpa [List.any_map] using congrArg (List.any · id) hmap

end

namespace Like

theorem parts (h : Like first second) : List.Forall₂ Around first.parts second.parts :=
  forall₂_filter h.children fun _ _ => Around.isPart_eq

variable (h : Like first second) (hkind : first.kind.isDisplay = false)

include h hkind

theorem withinParts : List.Forall₂ Within first.parts second.parts :=
  forall₂_filter (h.within hkind) fun _ _ => Within.isPart_eq

theorem childrenAt (field : Field) :
    List.Forall₂ Within (first.childrenAt field) (second.childrenAt field) :=
  forall₂_filter (h.within hkind) fun _ _ hwithin => by
    rw [Node.field, hwithin.label_eq, Node.field]

theorem child? (field : Field) :
    Option.Rel Within (first.child? field) (second.child? field) :=
  rel_head? (h.childrenAt hkind field)

end Like

/-! ### What parentheses enclose -/

theorem unwrapped_of_firstPart? {node inner : Node} (hwrapper : node.kind.isWrapper)
    (h : node.firstPart? = some inner) : node.unwrapped = inner.unwrapped := by
  rw [unwrapped, if_pos hwrapper]
  split
  · rename_i other hother
    rw [Option.some.inj (h.symm.trans hother)]
  · rename_i hnone
    cases h.symm.trans hnone

theorem unwrapped_of_empty {node : Node} (h : node.firstPart? = none) : node.unwrapped = node := by
  rw [unwrapped]
  split
  · split
    · rename_i inner hinner
      cases h.symm.trans hinner
    · rfl
  · rfl

theorem unwrapped_of_not_isWrapper {node : Node} (h : ¬node.kind.isWrapper) :
    node.unwrapped = node := by
  rw [unwrapped, if_neg h]

/-- The part that a node plays is not looked at. -/
theorem like_unwrapped_detached (node : Node) : Like node.unwrapped node.detached.unwrapped := by
  have hkind : node.detached.kind = node.kind := by cases node; rfl
  have hfirst : node.detached.firstPart? = node.firstPart? := by cases node; rfl
  by_cases hwrapper : node.kind.isWrapper
  · cases hinner : node.firstPart? with
    | none =>
      rw [unwrapped_of_empty hinner, unwrapped_of_empty (hfirst.trans hinner)]
      exact like_detached node
    | some inner =>
      rw [unwrapped_of_firstPart? hwrapper hinner,
        unwrapped_of_firstPart? (hkind ▸ hwrapper) (hfirst.trans hinner)]
      exact .refl _
  · rw [unwrapped_of_not_isWrapper hwrapper, unwrapped_of_not_isWrapper (hkind ▸ hwrapper)]
    exact like_detached node

theorem Parenthesizes.unwrapped_eq (h : second.Parenthesizes first) :
    second.unwrapped = first.detached.unwrapped := by
  refine unwrapped_of_firstPart? (by rw [h.kind]; rfl) ?_
  rw [firstPart?, h.parts]
  rfl

theorem Within.like_unwrapped (h : Within first second) :
    Like first.unwrapped second.unwrapped := by
  fun_induction Node.unwrapped first generalizing second with
  | case1 first hwrapper inner hinner ih =>
    -- a wrapper is no tuple or list, so what it encloses has no new parentheses around it
    have hfirst := rel_head? (h.like.withinParts (Kind.isDisplay_of_isWrapper hwrapper))
    rcases rel_cases hfirst with ⟨hnone, -⟩ | ⟨own, other, hown, hother, hrel⟩
    · cases hinner.symm.trans hnone
    · obtain rfl := Option.some.inj (hinner.symm.trans hown)
      rw [unwrapped_of_firstPart? (h.kind_eq ▸ hwrapper) hother]
      exact ih hrel
  | case2 first hwrapper hinner =>
    have hfirst := rel_head? (h.like.withinParts (Kind.isDisplay_of_isWrapper hwrapper))
    rcases rel_cases hfirst with ⟨-, hnone⟩ | ⟨own, other, hown, -, -⟩
    · rw [unwrapped_of_empty hnone]
      exact h.like
    · cases hinner.symm.trans hown
  | case3 first hwrapper =>
    rw [unwrapped_of_not_isWrapper (h.kind_eq ▸ hwrapper)]
    exact h.like

/-- Without the parentheses around them, the trees have one label. -/
theorem Around.like_unwrapped (h : Around first second) :
    Like first.unwrapped second.unwrapped := by
  rcases h with h | h
  · exact h.like_unwrapped
  · rw [h.unwrapped_eq]
    exact like_unwrapped_detached first

end Node

/-! ## Readings -/

namespace Source

open Node

variable {source : Source} {first second : Node}

theorem text_of_within (h : Within first second) : source.text second = source.text first := by
  rw [text, h.label_eq, text]

theorem text_like (h : Like first second) : source.text second = source.text first := by
  rw [text, h.label, text]

/-! ### Strings -/

theorem hasReplacements_like (h : Like first second) :
    source.hasReplacements second = source.hasReplacements first := by
  refine any_eq_of_forall₂ h.children fun child other hrel => ?_
  rcases hrel.mark with hlabel | ⟨hchild, hother⟩
  · simp only [kind, text, hlabel]
  · simp only [Kind.stringMarks, List.mem_cons, not_or] at hchild hother
    simp [hchild, hother]

/-- The text of a node that opens a string is the same, and no other node opens one. -/
theorem map_text_opening {opening other : Option Node} (h : Option.Rel Around opening other) :
    (other.filter (·.kind == .stringStart)).map source.text =
      (opening.filter (·.kind == .stringStart)).map source.text := by
  cases h with
  | none => rfl
  | @some node other hrel =>
    rcases hrel.mark with hlabel | ⟨hnode, hother⟩
    · have hkind : other.kind = node.kind := congrArg Label.kind hlabel
      by_cases hstart : node.kind = .stringStart <;>
        simp [Option.filter, hkind, hstart, text, hlabel]
    · simp only [Kind.stringMarks, List.mem_cons, not_or] at hnode hother
      simp [Option.filter, hnode, hother]

theorem isBytes_eq (string : Node) :
    source.isBytes string = ((string.stringOpening?.map source.text).any fun text =>
      text.toList.any fun c => c == 'b' || c == 'B') := by
  rw [isBytes]
  cases string.stringOpening? <;> rfl

theorem isBytes_like (h : Like first second) : source.isBytes second = source.isBytes first := by
  have hopening : second.stringOpening?.map source.text =
      first.stringOpening?.map source.text := by
    rw [stringOpening?, stringOpening?, h.kind_eq]
    refine map_text_opening ?_
    split
    · rename_i hkind
      have hfirst := rel_head? (h.withinParts (by rw [hkind]; rfl))
      rw [firstPart?, firstPart?]
      rcases rel_cases hfirst with ⟨hnone, hnone'⟩ | ⟨inner, outer, hinner, houter, hrel⟩
      · rw [hnone, hnone']
        exact .none
      · rw [hinner, houter]
        exact rel_head? hrel.like.parts
    · exact rel_head? h.parts
  rw [isBytes_eq, isBytes_eq, hopening]

theorem map_label_filter {nodes others : List Node} (h : List.Forall₂ Around nodes others)
    {mark : Kind} (hmark : mark ∈ Kind.stringMarks) :
    (others.filter (·.kind == mark)).map label = (nodes.filter (·.kind == mark)).map label := by
  induction h with
  | nil => rfl
  | @cons node other nodes others hrel _ ih =>
    rcases hrel.mark with hlabel | ⟨hnode, hother⟩
    · have hkind : other.kind = node.kind := congrArg Label.kind hlabel
      by_cases hnode : node.kind = mark <;> simp [hkind, hnode, hlabel, ih]
    · have hne : node.kind ≠ mark := fun heq => hnode (heq ▸ hmark)
      have hne' : other.kind ≠ mark := fun heq => hother (heq ▸ hmark)
      simp [hne, hne', ih]

theorem quotedText_eq (string : Node) :
    source.quotedText string =
      match ((string.children.filter (·.kind == .stringStart)).map label).getLast?,
        ((string.children.filter (·.kind == .stringEnd)).map label).getLast? with
      | some opening, some closing => source.between opening.stop closing.start
      | _, _ => "" := by
  rw [quotedText, List.getLast?_map, List.getLast?_map]
  cases (string.children.filter (·.kind == .stringStart)).getLast? <;>
    cases (string.children.filter (·.kind == .stringEnd)).getLast? <;> rfl

theorem quotedText_like (h : Like first second) :
    source.quotedText second = source.quotedText first := by
  rw [quotedText_eq, quotedText_eq, map_label_filter h.children (by decide),
    map_label_filter h.children (by decide)]

theorem stringText_like (h : Like first second) :
    source.stringText second = source.stringText first := by
  rw [stringText, stringText, h.kind_eq]
  split
  · rename_i hkind
    refine congrArg String.join (map_eq_of_forall₂ (h.withinParts (by rw [hkind]; rfl)) ?_)
    intro node _ other hrel
    exact quotedText_like hrel.like
  · exact quotedText_like h

/-! ### Shapes -/

theorem ownShape_like (h : Like first second) : source.ownShape second = source.ownShape first := by
  unfold ownShape
  rw [h.kind_eq]
  split
  case h_7 => rw [hasReplacements_like h]
  case h_8 hkind =>
    rw [any_eq_of_forall₂ (h.withinParts (by rw [hkind]; rfl)) fun node other hrel =>
      hasReplacements_like hrel.like]
  all_goals rfl

theorem shapeOf_alike (h : Like first.unwrapped second.unwrapped) :
    source.shapeOf second = source.shapeOf first :=
  ownShape_like h

end Source

end Syntax

namespace Extraction

open Node

variable {source : Source} {first second : Node}

/-! ### Types of literals -/

theorem numberType?_alike (h : Like first.unwrapped second.unwrapped) :
    numberType? source second = numberType? source first := by
  rw [numberType?, numberType?, Source.shapeOf_alike h, Source.text_like h]

theorem signedType_eq (unary : Node) :
    signedType source unary =
      match (unary.child? .operator).map source.text,
        (unary.child? .argument).map (numberType? source) with
      | some "-", some type | some "+", some type => type.getD .notLiteral
      | _, _ => .notLiteral := by
  rw [signedType]
  generalize (unary.child? .operator).map source.text = operator
  cases unary.child? .argument with
  | none => split <;> simp_all
  | some argument => split <;> simp_all

theorem signedType_like (h : Like first second) (hkind : first.kind = .unaryOperator) :
    signedType source second = signedType source first := by
  have hdisplay : first.kind.isDisplay = false := by rw [hkind]; rfl
  have hoperator : (second.child? .operator).map source.text =
      (first.child? .operator).map source.text :=
    map_eq_of_rel (h.child? hdisplay .operator) fun _ _ => Source.text_of_within
  have hargument : (second.child? .argument).map (numberType? source) =
      (first.child? .argument).map (numberType? source) :=
    map_eq_of_rel (h.child? hdisplay .argument) fun _ _ hrel =>
      numberType?_alike hrel.like_unwrapped
  rw [signedType_eq, signedType_eq, hoperator, hargument]

/-- What an expression tells of its type is the same with parentheses. -/
theorem inferType_alike (h : Like first.unwrapped second.unwrapped) :
    inferType source second = inferType source first := by
  rw [inferType, inferType, Source.shapeOf_alike h, numberType?_alike h, Source.isBytes_like h]
  split
  case h_12 hshape => exact signedType_like h (Source.kind_of_shapeOf hshape rfl)
  all_goals rfl

/-! ### Type expressions -/

theorem value_memberPath {outer other : Node} {object object' member member' : Option Node}
    (hobject : Option.Rel Within object object') (hmember : Option.Rel Within member member')
    (hpath : ∀ node ∈ object, ∀ node', Within node node' →
      (namePathIn source other node').value = (namePathIn source outer node).value) :
    (memberPath source other object' member').value =
      (memberPath source outer object member).value := by
  cases hobject with
  | none => rfl
  | some hobject =>
    cases hmember with
    | none => rfl
    | some hmember =>
      have hvalue := hpath _ rfl _ hobject
      simp only [memberPath, Report.value_bind, hvalue, Source.text_of_within hmember]

/-- The text of a dotted path is the same with parentheses. -/
theorem value_namePathIn_around (outer other : Node) (h : Around first second) :
    (namePathIn source other second).value = (namePathIn source outer first).value := by
  induction hsize : first.size using Nat.strongRecOn generalizing first second with
  | ind size ih =>
    have hlike := h.like_unwrapped
    have hle := first.size_unwrapped_le
    have hinner : ∀ node, node.size < first.unwrapped.size → ∀ node', Within node node' →
        (namePathIn source other node').value = (namePathIn source outer node).value :=
      fun node hlt node' hrel => ih node.size (by omega) (.inl hrel) rfl
    -- the object and the member have no new parentheses around them: an attribute is no display
    rw [namePathIn_eq, namePathIn_eq, Source.shapeOf_alike hlike]
    cases hshape : source.shapeOf first
    case name => simp only [Source.text_like hlike]
    case «attribute» =>
      have hkind : first.unwrapped.kind.isDisplay = false := by
        rw [Source.kind_of_shapeOf hshape rfl]; rfl
      refine value_memberPath (hlike.child? hkind _) (hlike.child? hkind _) fun node hnode => ?_
      exact hinner node (size_lt_of_child? hnode)
    case memberType =>
      have hkind : first.unwrapped.kind.isDisplay = false := by
        rw [Source.kind_of_shapeOf hshape rfl]; rfl
      have hparts := hlike.withinParts hkind
      refine value_memberPath (rel_head? (forall₂_dropLast hparts)) (rel_getLast? hparts) ?_
      intro node hnode
      exact hinner node (size_lt_of_mem_parts
        ((List.dropLast_sublist _).subset (List.mem_of_mem_head? hnode)))
    all_goals rfl

theorem value_subscriptBase_like (h : Like first second) (hkind : first.kind = .subscript) :
    (subscriptBase source second).value = (subscriptBase source first).value := by
  have hvalue := h.child? (by rw [hkind]; rfl) .value
  rw [subscriptBase, subscriptBase]
  rcases rel_cases hvalue with ⟨hnone, hnone'⟩ | ⟨inner, outer, hinner, houter, hrel⟩
  · rw [hnone, hnone']
  · rw [hinner, houter]
    simp only [Source.shapeOf_alike hrel.like_unwrapped]
    split
    case h_1 | h_2 => exact value_namePathIn_around _ _ (.inl hrel)
    case h_3 => rfl

theorem subscriptArguments_like (h : Like first second) (hkind : first.kind = .subscript) :
    List.Forall₂ Around (subscriptArguments source first) (subscriptArguments source second) := by
  have harguments : List.Forall₂ Around (first.childrenAt .subscript)
      (second.childrenAt .subscript) :=
    (h.childrenAt (by rw [hkind]; rfl) .subscript).imp fun _ _ => Or.inl
  rw [subscriptArguments, subscriptArguments]
  revert harguments
  generalize first.childrenAt .subscript = arguments, second.childrenAt .subscript = others
  intro harguments
  cases harguments with
  | nil => exact .nil
  | cons hrel hrest =>
    cases hrest with
    | cons hnext hrest => exact .cons hrel (.cons hnext hrest)
    | nil =>
      simp only [Source.shapeOf_alike hrel.like_unwrapped]
      split
      · exact hrel.like_unwrapped.parts
      · exact .cons hrel .nil

theorem genericArguments?_like (h : Like first second) (hkind : first.kind = .genericType) :
    Option.Rel (List.Forall₂ Around) (genericArguments? first) (genericArguments? second) := by
  have hparts := List.forall₂_drop 1 (h.withinParts (by rw [hkind]; rfl))
  rw [List.drop_one, List.drop_one] at hparts
  have hbracket := rel_find? (p := (·.kind == .typeParameter)) hparts fun _ _ hrel => by
    rw [hrel.kind_eq]
  rw [genericArguments?, genericArguments?]
  rcases rel_cases hbracket with ⟨hnone, hnone'⟩ | ⟨inner, outer, hinner, houter, hrel⟩
  · rw [hnone, hnone']
    exact .none
  · rw [hinner, houter]
    exact .some hrel.like.parts

theorem value_gather (nodes : List Node) :
    (Report.gather (nodes.map (typeText source))).value =
      nodes.map fun node => (typeText source node).value := by
  rw [Report.gather, List.map_map]
  rfl

theorem value_appliedTo {base other : Report (Option String)} {arguments others : List Node}
    (hbase : other.value = base.value)
    (harguments : others.map (fun node => (typeText source node).value) =
      arguments.map fun node => (typeText source node).value) :
    (appliedTo source other others).value = (appliedTo source base arguments).value := by
  rw [appliedTo, appliedTo, Report.value_bind, Report.value_bind, hbase]
  cases base.value with
  | none => rfl
  | some path =>
    simp only [Report.value_bind, value_gather, harguments]

/-- The text of a type expression is the same with parentheses. -/
theorem value_typeText_around (h : Around first second) :
    (typeText source second).value = (typeText source first).value := by
  induction hsize : first.size using Nat.strongRecOn generalizing first second with
  | ind size ih =>
    have hlike := h.like_unwrapped
    have hle := first.size_unwrapped_le
    have htexts {arguments others : List Node}
        (hlt : ∀ argument ∈ arguments, argument.size < first.unwrapped.size)
        (hrel : List.Forall₂ Around arguments others) :
        others.map (fun node => (typeText source node).value) =
          arguments.map fun node => (typeText source node).value := by
      refine map_eq_of_forall₂ hrel fun argument hargument other hrel => ?_
      have hsmall := hlt argument hargument
      exact ih argument.size (by omega) hrel rfl
    have hother : source.shapeOf second = source.shapeOf first := Source.shapeOf_alike hlike
    cases hshape : source.shapeOf first <;> rw [hshape] at hother
    case subscript =>
      have hkind := Source.kind_of_shapeOf hshape rfl
      rw [typeText_subscript hother, typeText_subscript hshape]
      exact value_appliedTo (value_subscriptBase_like hlike hkind)
        (htexts (fun _ => size_lt_of_mem_subscriptArguments) (subscriptArguments_like hlike hkind))
    case genericType =>
      have hkind := Source.kind_of_shapeOf hshape rfl
      have hbase := rel_head? (hlike.withinParts (by rw [hkind]; rfl))
      have harguments := genericArguments?_like hlike hkind
      rw [typeText_generic_eq source hother, typeText_generic_eq source hshape, firstPart?,
        firstPart?]
      rcases rel_cases hbase with ⟨hnone, hnone'⟩ | ⟨inner, outer, hinner, houter, hrel⟩
      · rw [hnone, hnone']
      · rcases rel_cases harguments with ⟨hnone, hnone'⟩ | ⟨nodes, others, hnodes, hothers, hrels⟩
        · rw [hinner, houter, hnone, hnone']
        · rw [hinner, houter, hnodes, hothers]
          exact value_appliedTo (value_namePathIn_around _ _ (.inl hrel))
            (htexts (fun _ => size_lt_of_genericArguments? hnodes) hrels)
    case list =>
      have hitems := htexts (fun _ => size_lt_of_mem_parts) hlike.parts
      rw [typeText_list hother, typeText_list hshape]
      simp only [Report.value_bind, value_gather, hitems]
    all_goals rw [typeText, hother, typeText, hshape]
    case name | «attribute» | memberType => exact value_namePathIn_around _ _ h
    case string =>
      simp only [Source.isBytes_like hlike, Source.stringText_like hlike]
      split <;> rfl
    all_goals rfl

end Extraction

end InterfaceStub
