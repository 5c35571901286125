import InterfaceStub.Proofs.Parentheses
import InterfaceStub.Proofs.TreeReading

/-!
# Type expressions in an expression and in an annotation

The grammar has two sets of nodes for one type expression.  Where an expression stands, `a.b` is an
attribute and `a[b]` a subscript.  In an annotation they may be a member type and a generic type,
and types have a wrapper around them; an annotation may go over to an expression on any level.

* `TypeExpression` is a type expression itself, and `TypeExpression.render` its text.
* `PathTree` and `TypeTree` relate it to its trees in a `Position`.  In an annotation the nodes of
  both sets may be mixed: `TypeTree.inType` says that the tree of an expression may stand there,
  and `TypeTree.wrapped` that it may have wrappers around it.
* `namePathIn_of_pathTree` and `typeText_of_typeTree` read any such tree, by induction over the
  relation.
* `exists_typeTree` builds a tree over the text of any type expression.
* `typeText_alike_in_positions` is the result: the trees of one type expression are read alike.
-/

namespace InterfaceStub

open Syntax Extraction

/-! ## Type expressions -/

/-- A name, or a member of a dotted path. -/
inductive DottedPath where
  | name (text : String)
  | member (path : DottedPath) (text : String)
  deriving DecidableEq, Repr

/-- The names of a path with dots between them. -/
def DottedPath.render : DottedPath → String
  | .name text => text
  | .member path text => path.render ++ "." ++ text

/-- A type expression.  Brackets after a path have at least one argument. -/
inductive TypeExpression where
  | noneType
  | ellipsis
  | path (dotted : DottedPath)
  | applied (base : DottedPath) (first : TypeExpression) (rest : List TypeExpression)
  | list (items : List TypeExpression)

namespace TypeExpression

mutual
/-- The text of a type expression. -/
def render : TypeExpression → String
  | .noneType => "None"
  | .ellipsis => "..."
  | .path dotted => dotted.render
  | .applied base first rest =>
    base.render ++ "[" ++ ", ".intercalate (render first :: renders rest) ++ "]"
  | .list items => "[" ++ ", ".intercalate (renders items) ++ "]"

/-- The texts of some type expressions. -/
def renders : List TypeExpression → List String
  | [] => []
  | expression :: expressions => render expression :: renders expressions
end

theorem renders_eq_map (expressions : List TypeExpression) :
    renders expressions = expressions.map render := by
  induction expressions with
  | nil => rfl
  | cons expression expressions ih => rw [renders, ih, List.map_cons]

theorem render_applied (base : DottedPath) (first : TypeExpression) (rest : List TypeExpression) :
    (TypeExpression.applied base first rest).render =
      Extraction.applied base.render ((first :: rest).map render) := by
  rw [render, renders_eq_map]
  rfl

theorem render_list (items : List TypeExpression) :
    (TypeExpression.list items).render = listed (items.map render) := by
  rw [render, renders_eq_map]
  rfl

/-- Induction with a hypothesis for every argument and every item. -/
@[elab_as_elim, induction_eliminator]
theorem forall_of_parts {motive : TypeExpression → Prop} (noneType : motive .noneType)
    (ellipsis : motive .ellipsis) (path : ∀ dotted, motive (.path dotted))
    (applied : ∀ base first rest, (∀ argument ∈ first :: rest, motive argument) →
      motive (.applied base first rest))
    (list : ∀ items, (∀ item ∈ items, motive item) → motive (.list items))
    (expression : TypeExpression) : motive expression :=
  match expression with
  | .noneType => noneType
  | .ellipsis => ellipsis
  | .path dotted => path dotted
  | .applied base first rest => applied base first rest fun argument _ =>
    forall_of_parts noneType ellipsis path applied list argument
  | .list items => list items fun item _ =>
    forall_of_parts noneType ellipsis path applied list item
termination_by sizeOf expression

end TypeExpression

/-! ## Trees -/

/-- Where a type expression stands. -/
inductive Position where
  | expression
  /-- In an annotation, or in one of its parts. -/
  | type
  deriving DecidableEq, Repr

/-- Whether a node of this kind only encloses another in this position. -/
def Position.wraps : Position → Kind → Bool
  | _, .parenthesizedExpression => true
  | .type, .type => true
  | _, _ => false

/-- What the wrappers of a node enclose; there may be none around it. -/
inductive Encloses (position : Position) : Node → Node → Prop where
  | self {node : Node} : Encloses position node node
  | wrapper {node inner core : Node} (hkind : position.wraps node.kind)
      (hinner : node.firstPart? = some inner) (hcore : Encloses position inner core) :
      Encloses position node core

/-- The tree of a dotted path.  A member type is a node of annotations only. -/
inductive PathTree (source : Source) : Position → DottedPath → Node → Prop where
  | name {position : Position} {text : String} {node core : Node}
      (hcore : Encloses position node core) (hname : core.isName)
      (htext : source.text core = text) : PathTree source position (.name text) node
  | attribute {position : Position} {path : DottedPath} {text : String}
      {node core object last : Node} (hcore : Encloses position node core)
      (hkind : core.kind = .attribute) (hobject : core.child? .object = some object)
      (hpath : PathTree source position path object)
      (hlast : core.child? .attribute = some last) (htext : source.text last = text) :
      PathTree source position (.member path text) node
  | memberType {path : DottedPath} {text : String} {node core object last : Node}
      (hcore : Encloses .type node core) (hkind : core.kind = .memberType)
      (hparts : core.parts = [object, last]) (hpath : PathTree source .type path object)
      (htext : source.text last = text) : PathTree source .type (.member path text) node

/-- The tree of a type expression.  A generic type is a node of annotations only; what a subscript
applies to is an expression in any position. -/
inductive TypeTree (source : Source) : Position → TypeExpression → Node → Prop where
  | noneType {position : Position} {node core : Node} (hcore : Encloses position node core)
      (hkind : core.kind = .noneLiteral) : TypeTree source position .noneType node
  | ellipsis {position : Position} {node core : Node} (hcore : Encloses position node core)
      (hkind : core.kind = .ellipsis) : TypeTree source position .ellipsis node
  | path {position : Position} {path : DottedPath} {node : Node}
      (hpath : PathTree source position path node) : TypeTree source position (.path path) node
  | subscript {position : Position} {base : DottedPath} {first : TypeExpression}
      {rest : List TypeExpression} {node core value : Node} (hcore : Encloses position node core)
      (hkind : core.kind = .subscript) (hvalue : core.child? .value = some value)
      (hbase : PathTree source .expression base value)
      (hlength : (core.childrenAt .subscript).length = (first :: rest).length)
      (harguments : ∀ entry ∈ (first :: rest).zip (core.childrenAt .subscript),
        TypeTree source position entry.1 entry.2) :
      TypeTree source position (.applied base first rest) node
  | generic {base : DottedPath} {first : TypeExpression} {rest : List TypeExpression}
      {node core name bracket : Node} (hcore : Encloses .type node core)
      (hkind : core.kind = .genericType) (hparts : core.parts = [name, bracket])
      (hbase : PathTree source .type base name) (hbracket : bracket.kind = .typeParameter)
      (hlength : bracket.parts.length = (first :: rest).length)
      (harguments : ∀ entry ∈ (first :: rest).zip bracket.parts,
        TypeTree source .type entry.1 entry.2) :
      TypeTree source .type (.applied base first rest) node
  | list {position : Position} {items : List TypeExpression} {node core : Node}
      (hcore : Encloses position node core) (hkind : core.kind = .list)
      (hlength : core.parts.length = items.length)
      (hitems : ∀ entry ∈ items.zip core.parts, TypeTree source position entry.1 entry.2) :
      TypeTree source position (.list items) node

/-! ## Reading a tree -/

variable {source : Source} {position : Position}

theorem Position.isWrapper_of_wraps {kind : Kind} (h : position.wraps kind) : kind.isWrapper := by
  unfold Position.wraps at h
  split at h
  · rfl
  · rfl
  · cases h

theorem Encloses.unwrapped_eq {node core : Node} (h : Encloses position node core)
    (hcore : core.kind.isWrapper = false) : node.unwrapped = core := by
  induction h with
  | self => exact Node.unwrapped_of_not_isWrapper (by simp [hcore])
  | wrapper hkind hinner _ ih =>
    rw [Node.unwrapped_of_firstPart? (Position.isWrapper_of_wraps hkind) hinner, ih hcore]

theorem Encloses.unwrapped_of_kind {node core : Node} {kind : Kind}
    (h : Encloses position node core) (hkind : core.kind = kind)
    (hwrapper : kind.isWrapper = false) : node.unwrapped = core :=
  h.unwrapped_eq (hkind ▸ hwrapper)

theorem Encloses.shapeOf_eq {node core : Node} {kind : Kind} (h : Encloses position node core)
    (shape : Shape) (hkind : core.kind = kind) (hkinds : shape.kinds = [kind])
    (hwrapper : kind.isWrapper = false) : source.shapeOf node = shape := by
  refine Source.shapeOf_of_kind ?_ hkinds
  rw [h.unwrapped_of_kind hkind hwrapper, hkind]

theorem Encloses.unwrapped_of_isName {node core : Node} (h : Encloses position node core)
    (hname : core.isName) : node.unwrapped = core := by
  refine h.unwrapped_eq ?_
  simp only [Node.isName, Bool.or_eq_true, beq_iff_eq] at hname
  rcases hname with hkind | hkind <;> rw [hkind] <;> rfl

/-! ### Paths -/

/-- A path in an expression is a name or an attribute. -/
theorem shapeOf_of_pathTree {path : DottedPath} {node : Node}
    (h : PathTree source position path node) :
    source.shapeOf node = .name ∨ source.shapeOf node = .attribute ∨
      position = .type ∧ source.shapeOf node = .memberType := by
  cases h with
  | name hcore hname =>
    rw [← hcore.unwrapped_of_isName hname] at hname
    exact .inl (shapeOf_of_isName hname)
  | «attribute» hcore hkind => exact .inr (.inl (hcore.shapeOf_eq .attribute hkind rfl rfl))
  | memberType hcore hkind => exact .inr (.inr ⟨rfl, hcore.shapeOf_eq .memberType hkind rfl rfl⟩)

/-- The tree of a path has its text, in any position. -/
theorem namePathIn_of_pathTree {path : DottedPath} {node : Node}
    (h : PathTree source position path node) (outer : Node) :
    namePathIn source outer node = pure (some path.render) := by
  induction h with
  | name hcore hname htext =>
    have hself := hcore.unwrapped_of_isName hname
    rw [namePathIn_eq, shapeOf_of_isName (by rw [hself]; exact hname), hself, htext]
    rfl
  | @«attribute» position path text node core object last hcore hkind hobject _ hlast htext ih =>
    have hself := hcore.unwrapped_of_kind hkind rfl
    rw [namePathIn_eq, hcore.shapeOf_eq .attribute hkind rfl rfl, hself, hobject, hlast]
    simp only [memberPath, ih, Report.pure_bind, Option.map_some, htext]
    rfl
  | @memberType path text node core object last hcore hkind hparts _ htext ih =>
    have hself := hcore.unwrapped_of_kind hkind rfl
    rw [namePathIn_eq, hcore.shapeOf_eq .memberType hkind rfl rfl, hself, hparts]
    simp only [memberPath, List.dropLast_cons_cons, List.dropLast_singleton, List.head?_cons,
      List.getLast?_cons_cons, List.getLast?_singleton, ih, Report.pure_bind, Option.map_some,
      htext]
    rfl

/-- What a subscript applies to is read as a path. -/
theorem subscriptBase_of_pathTree {subscript value : Node} {base : DottedPath}
    (hvalue : subscript.child? .value = some value)
    (hbase : PathTree source .expression base value) :
    subscriptBase source subscript = pure (some base.render) := by
  rw [subscriptBase, hvalue]
  rcases shapeOf_of_pathTree hbase with hshape | hshape | ⟨hposition, -⟩
  · simp only [hshape, namePath, namePathIn_of_pathTree hbase]
  · simp only [hshape, namePath, namePathIn_of_pathTree hbase]
  · cases hposition

/-! ### Types -/

theorem shapeOf_ne_tuple_of_typeTree {expression : TypeExpression} {node : Node}
    (h : TypeTree source position expression node) : source.shapeOf node ≠ .tuple := by
  cases h with
  | noneType hcore hkind => rw [hcore.shapeOf_eq .noneValue hkind rfl rfl]; decide
  | ellipsis hcore hkind => rw [hcore.shapeOf_eq .ellipsis hkind rfl rfl]; decide
  | path hpath =>
    rcases shapeOf_of_pathTree hpath with hshape | hshape | ⟨-, hshape⟩ <;> rw [hshape] <;> decide
  | subscript hcore hkind => rw [hcore.shapeOf_eq .subscript hkind rfl rfl]; decide
  | generic hcore hkind => rw [hcore.shapeOf_eq .genericType hkind rfl rfl]; decide
  | list hcore hkind => rw [hcore.shapeOf_eq .list hkind rfl rfl]; decide

/-- The trees of some type expressions are read one after the other. -/
theorem gather_of_zip {expressions : List TypeExpression} {nodes : List Node}
    (hlength : nodes.length = expressions.length)
    (h : ∀ entry ∈ expressions.zip nodes,
      typeText source entry.2 = pure (some entry.1.render)) :
    Report.gather (nodes.map (typeText source)) =
      pure ((expressions.map TypeExpression.render).map some) := by
  have hreads : nodes.map (typeText source) =
      ((expressions.map TypeExpression.render).map some).map pure := by
    rw [List.map_map, List.map_map]
    exact map_of_forall₂ (List.forall₂_iff_zip.2 ⟨hlength.symm, fun hmem => h _ hmem⟩)
      fun _ _ _ hread => hread
  rw [hreads, Report.gather_pure]

/-- A path with arguments, all of which are read. -/
theorem appliedTo_of_zip {base : DottedPath} {first : TypeExpression} {rest : List TypeExpression}
    {nodes : List Node} (hlength : nodes.length = (first :: rest).length)
    (h : ∀ entry ∈ (first :: rest).zip nodes,
      typeText source entry.2 = pure (some entry.1.render)) :
    appliedTo source (pure (some base.render)) nodes =
      pure (some (TypeExpression.applied base first rest).render) := by
  rw [TypeExpression.render_applied, appliedTo, Report.pure_bind]
  simp only [gather_of_zip hlength h, Report.pure_bind, allTexts?_map_some, Option.map_some]

/-- The tree of a type expression has its text, in any position. -/
theorem typeText_of_typeTree {expression : TypeExpression} {node : Node}
    (h : TypeTree source position expression node) :
    typeText source node = pure (some expression.render) := by
  induction h with
  | noneType hcore hkind =>
    rw [typeText, hcore.shapeOf_eq .noneValue hkind rfl rfl]
    rfl
  | ellipsis hcore hkind =>
    rw [typeText, hcore.shapeOf_eq .ellipsis hkind rfl rfl]
    rfl
  | path hpath =>
    rw [typeText]
    rcases shapeOf_of_pathTree hpath with hshape | hshape | ⟨-, hshape⟩ <;>
      simp only [hshape, namePath, namePathIn_of_pathTree hpath] <;> rfl
  | @subscript position base first rest node core value hcore hkind hvalue hbase hlength harguments
      ih =>
    have hself := hcore.unwrapped_of_kind hkind rfl
    -- No argument is a tuple, so none is taken apart.
    have hnodes : subscriptArguments source core = core.childrenAt .subscript := by
      refine subscriptArguments_eq fun argument hargument => ?_
      have hsnd : ((first :: rest).zip (core.childrenAt .subscript)).map Prod.snd =
          core.childrenAt .subscript := List.map_snd_zip (Nat.le_of_eq hlength)
      rw [← hsnd] at hargument
      obtain ⟨entry, hentry, rfl⟩ := List.mem_map.1 hargument
      exact shapeOf_ne_tuple_of_typeTree (harguments entry hentry)
    rw [typeText_subscript (hcore.shapeOf_eq .subscript hkind rfl rfl), hself,
      subscriptBase_of_pathTree hvalue hbase, hnodes, appliedTo_of_zip hlength ih]
  | @generic base first rest node core name bracket hcore hkind hparts hbase hbracket hlength _
      ih =>
    have hself := hcore.unwrapped_of_kind hkind rfl
    have hfirst : node.unwrapped.firstPart? = some name := by simp [hself, Node.firstPart?, hparts]
    have hnodes : genericArguments? node.unwrapped = some bracket.parts := by
      simp [hself, genericArguments?, hparts, hbracket]
    rw [typeText_generic (hcore.shapeOf_eq .genericType hkind rfl rfl) hfirst hnodes, namePath,
      namePathIn_of_pathTree hbase, appliedTo_of_zip hlength ih]
  | @list position items node core hcore hkind hlength _ ih =>
    have hself := hcore.unwrapped_of_kind hkind rfl
    rw [typeText_list (hcore.shapeOf_eq .list hkind rfl rfl), hself, gather_of_zip hlength ih,
      Report.pure_bind, TypeExpression.render_list, List.filterMap_map]
    simp

/-! ## Trees in an annotation -/

theorem Encloses.inType {node core : Node} (h : Encloses position node core) :
    Encloses .type node core := by
  induction h with
  | self => exact .self
  | @wrapper node inner core hkind hinner _ ih =>
    refine .wrapper ?_ hinner ih
    unfold Position.wraps at hkind ⊢
    split at hkind <;> simp_all

theorem PathTree.inType {path : DottedPath} {node : Node}
    (h : PathTree source position path node) : PathTree source .type path node := by
  induction h with
  | name hcore hname htext => exact .name hcore.inType hname htext
  | «attribute» hcore hkind hobject _ hlast htext ih =>
    exact .attribute hcore.inType hkind hobject ih hlast htext
  | memberType hcore hkind hparts _ htext ih => exact .memberType hcore hkind hparts ih htext

/-- The tree of an expression may stand in an annotation. -/
theorem TypeTree.inType {expression : TypeExpression} {node : Node}
    (h : TypeTree source position expression node) :
    TypeTree source .type expression node := by
  induction h with
  | noneType hcore hkind => exact .noneType hcore.inType hkind
  | ellipsis hcore hkind => exact .ellipsis hcore.inType hkind
  | path hpath => exact .path hpath.inType
  | subscript hcore hkind hvalue hbase hlength _ ih =>
    exact .subscript hcore.inType hkind hvalue hbase hlength ih
  | generic hcore hkind hparts hbase hbracket hlength _ ih =>
    exact .generic hcore hkind hparts hbase hbracket hlength ih
  | list hcore hkind hlength _ ih => exact .list hcore.inType hkind hlength ih

theorem PathTree.wrapped {path : DottedPath} {node inner : Node}
    (h : PathTree source position path inner) (hkind : position.wraps node.kind)
    (hinner : node.firstPart? = some inner) : PathTree source position path node := by
  cases h with
  | name hcore hname htext => exact .name (.wrapper hkind hinner hcore) hname htext
  | «attribute» hcore hattribute hobject hpath hlast htext =>
    exact .attribute (.wrapper hkind hinner hcore) hattribute hobject hpath hlast htext
  | memberType hcore hmember hparts hpath htext =>
    exact .memberType (.wrapper hkind hinner hcore) hmember hparts hpath htext

/-- A wrapper around a tree is a tree of the same expression. -/
theorem TypeTree.wrapped {expression : TypeExpression} {node inner : Node}
    (h : TypeTree source position expression inner) (hkind : position.wraps node.kind)
    (hinner : node.firstPart? = some inner) : TypeTree source position expression node := by
  cases h with
  | noneType hcore hnone => exact .noneType (.wrapper hkind hinner hcore) hnone
  | ellipsis hcore hdots => exact .ellipsis (.wrapper hkind hinner hcore) hdots
  | path hpath => exact .path (hpath.wrapped hkind hinner)
  | subscript hcore hsubscript hvalue hbase hlength harguments =>
    exact .subscript (.wrapper hkind hinner hcore) hsubscript hvalue hbase hlength harguments
  | generic hcore hgeneric hparts hbase hbracket hlength harguments =>
    exact .generic (.wrapper hkind hinner hcore) hgeneric hparts hbase hbracket hlength harguments
  | list hcore hlist hlength hitems =>
    exact .list (.wrapper hkind hinner hcore) hlist hlength hitems

/-! ## Every type expression has a tree -/

theorem exists_pathTree (path : DottedPath) (before : String) (field : Option Field) :
    ∃ node : Node, node.Stands field ∧
      ∀ source : Source, source.Holds before path.render →
        PathTree source .expression path node := by
  induction path generalizing field with
  | name text =>
    refine ⟨.leaf .identifier field before text, Node.stands_inner (by decide) _ _ _ _, ?_⟩
    intro source hsource
    exact .name .self rfl ((Node.covers_leaf _ _ _ _).text_eq hsource)
  | member path text ih =>
    obtain ⟨object, ⟨-, hobject, -⟩, hpath⟩ := ih (some .object)
    let last := Node.leaf .identifier (some .attribute) (before ++ path.render ++ ".") text
    let node := Node.inner .attribute field 0 0 [object, last]
    have hlast : last.field = some .attribute := rfl
    have hchildren : node.children = [object, last] := rfl
    have hfirst : node.child? .object = some object := by
      simp [Node.child?, Node.childrenAt, hchildren, hobject]
    have hsecond : node.child? .attribute = some last := by
      simp [Node.child?, Node.childrenAt, hchildren, hobject, hlast]
    refine ⟨node, Node.stands_inner (by decide) _ _ _ _, fun source hsource => ?_⟩
    rw [DottedPath.render] at hsource
    exact .attribute .self rfl hfirst (hpath source hsource.left.left) hsecond
      ((Node.covers_leaf _ _ _ _).text_eq (by simpa [String.append_assoc] using hsource.right))

/-- Items that have a tree wherever they stand, in a row after some text. -/
theorem exists_typeTrees {items : List TypeExpression} {field : Option Field}
    (h : ∀ item ∈ items, ∀ before, ∃ node : Node, node.Stands field ∧
      ∀ source : Source, source.Holds before item.render → TypeTree source .expression item node)
    (before : String) :
    ∃ nodes : List Node, (∀ node ∈ nodes, node.Stands field) ∧ nodes.length = items.length ∧
      ∀ source : Source, source.Holds before (", ".intercalate (items.map TypeExpression.render)) →
        ∀ entry ∈ items.zip nodes, TypeTree source .expression entry.1 entry.2 := by
  obtain ⟨nodes, hnodes, hrow⟩ := exists_row h TypeExpression.render ", " before
  refine ⟨nodes, hnodes, hrow.1, fun source hsource entry hentry => ?_⟩
  have hread := hrow.forall₂ hsource fun _ hholds htree => htree source hholds
  exact (List.forall₂_iff_zip.1 hread).2 hentry

/-- The text of a type expression has a tree, as an expression. -/
theorem exists_typeTree (expression : TypeExpression) (before : String) (field : Option Field) :
    ∃ node : Node, node.Stands field ∧
      ∀ source : Source, source.Holds before expression.render →
        TypeTree source .expression expression node := by
  induction expression generalizing before field with
  | noneType =>
    exact ⟨.leaf .noneLiteral field before "None", Node.stands_inner (by decide) _ _ _ _,
      fun _ _ => .noneType .self rfl⟩
  | ellipsis =>
    exact ⟨.leaf .ellipsis field before "...", Node.stands_inner (by decide) _ _ _ _,
      fun _ _ => .ellipsis .self rfl⟩
  | path dotted =>
    obtain ⟨node, hnode, hpath⟩ := exists_pathTree dotted before field
    exact ⟨node, hnode, fun source hsource => .path (hpath source hsource)⟩
  | applied base first rest ih =>
    obtain ⟨value, ⟨-, hvalue, -⟩, hbase⟩ := exists_pathTree base before (some .value)
    obtain ⟨nodes, hnodes, hlength, htrees⟩ := exists_typeTrees
      (fun argument hargument before => ih argument hargument before (some .subscript))
      (before ++ base.render ++ "[")
    let node := Node.inner .subscript field 0 0 (value :: nodes)
    have hchildren : node.children = value :: nodes := rfl
    have hchild : node.child? .value = some value := by
      simp [Node.child?, Node.childrenAt, hchildren, hvalue]
    have harguments : node.childrenAt .subscript = nodes := by
      simp [Node.childrenAt, hchildren, hvalue, Node.filter_field hnodes]
    refine ⟨node, Node.stands_inner (by decide) _ _ _ _, fun source hsource => ?_⟩
    rw [TypeExpression.render_applied, Extraction.applied] at hsource
    refine .subscript .self rfl hchild (hbase source hsource.left.left.left) ?_ ?_
    · rw [harguments, hlength]
    · rw [harguments]
      exact htrees source (by simpa [String.append_assoc] using hsource.left.right)
  | list items ih =>
    obtain ⟨nodes, hnodes, hlength, htrees⟩ := exists_typeTrees
      (fun item hitem before => ih item hitem before none) (before ++ "[")
    have hparts := Node.parts_inner (fun node hnode => ⟨_, hnodes node hnode⟩) .list field 0 0
    refine ⟨.inner .list field 0 0 nodes, Node.stands_inner (by decide) _ _ _ _,
      fun source hsource => ?_⟩
    rw [TypeExpression.render_list, listed] at hsource
    refine .list .self rfl ?_ ?_
    · rw [hparts, hlength]
    · rw [hparts]
      exact htrees source (by simpa using hsource.left.right)

/-- The text of a type expression has a tree in either position, and every tree of the expression is
read as that text, in an expression and in an annotation alike. -/
theorem typeText_alike_in_positions (expression : TypeExpression) :
    (∀ id position, ∃ node, TypeTree (.ofText id expression.render) position expression node) ∧
    ∀ (source source' : Source) (node node' : Node),
      TypeTree source .expression expression node →
      TypeTree source' .type expression node' →
      typeText source node = pure (some expression.render) ∧
      typeText source' node' = pure (some expression.render) := by
  refine ⟨fun id position => ?_, fun source source' node node' hnode hnode' => ?_⟩
  · obtain ⟨node, -, hnode⟩ := exists_typeTree expression "" none
    have htree := hnode _ (holds_whole id expression.render)
    cases position with
    | expression => exact ⟨node, htree⟩
    | type => exact ⟨node, htree.inType⟩
  · exact ⟨typeText_of_typeTree hnode, typeText_of_typeTree hnode'⟩

/-- The expression `Dict[a.K, m.Box[None, [...]]]`. -/
def boxExpression : TypeExpression :=
  .applied (.name "Dict") (.path (.member (.name "a") "K"))
    [.applied (.member (.name "m") "Box") .noneType [.list [.ellipsis]]]

/-- The tree of `m.Box[None, [...]]` as an expression. -/
def boxArgument (field : Option Field) (start : Nat) : Node :=
  .inner .subscript field start (start + 18) [
    .inner .attribute (some .value) start (start + 5) [
      .inner .identifier (some .object) start (start + 1) [],
      .token "." (start + 1) (start + 2),
      .inner .identifier (some .attribute) (start + 2) (start + 5) []],
    .token "[" (start + 5) (start + 6),
    .inner .noneLiteral (some .subscript) (start + 6) (start + 10) [],
    .token "," (start + 10) (start + 11),
    .inner .list (some .subscript) (start + 12) (start + 17) [
      .token "[" (start + 12) (start + 13),
      .inner .ellipsis none (start + 13) (start + 16) [],
      .token "]" (start + 16) (start + 17)],
    .token "]" (start + 17) (start + 18)]

/-- The value in `X = Dict[a.K, m.Box[None, [...]]]`. -/
def boxValue : Node :=
  .inner .subscript (some .right) 4 33 [
    .inner .identifier (some .value) 4 8 [],
    .token "[" 8 9,
    .inner .attribute (some .subscript) 9 12 [
      .inner .identifier (some .object) 9 10 [],
      .token "." 10 11,
      .inner .identifier (some .attribute) 11 12 []],
    .token "," 12 13,
    boxArgument (some .subscript) 14,
    .token "]" 32 33]

/-- The annotation in `x: Dict[a.K, m.Box[None, [...]]]`, of which the second argument is an
expression. -/
def boxType : Node :=
  .inner .type (some .type) 3 32 [
    .inner .genericType none 3 32 [
      .inner .identifier none 3 7 [],
      .inner .typeParameter none 7 32 [
        .token "[" 7 8,
        .inner .type none 8 11 [
          .inner .memberType none 8 11 [
            .inner .type none 8 9 [.inner .identifier none 8 9 []],
            .token "." 9 10,
            .inner .identifier none 10 11 []]],
        .token "," 11 12,
        .inner .type none 13 31 [boxArgument none 13],
        .token "]" 31 32]]]

def boxValueSource : Source :=
  .ofText "value.py" "X = Dict[a.K, m.Box[None, [...]]]\n"

def boxTypeSource : Source :=
  .ofText "annotation.py" "x: Dict[a.K, m.Box[None, [...]]]\n"

/-- The tree of the argument, wherever its text stands. -/
theorem boxArgument_typeTree {source : Source} {start : Nat} {field : Option Field}
    (hobject : source.between start (start + 1) = "m")
    (hmember : source.between (start + 2) (start + 5) = "Box") :
    TypeTree source .expression (.applied (.member (.name "m") "Box") .noneType
      [.list [.ellipsis]]) (boxArgument field start) := by
  refine .subscript .self rfl rfl
    (.attribute .self rfl rfl (.name .self rfl hobject) rfl hmember) rfl ?_
  refine List.forall_mem_cons.2 ⟨.noneType .self rfl, List.forall_mem_singleton.2 ?_⟩
  exact .list .self rfl rfl (List.forall_mem_singleton.2 (.ellipsis .self rfl))

theorem boxValue_typeTree : TypeTree boxValueSource .expression boxExpression boxValue := by
  refine .subscript .self rfl rfl (.name .self rfl (by decide +kernel)) rfl ?_
  refine List.forall_mem_cons.2 ⟨.path (.attribute .self rfl rfl (.name .self rfl ?_) rfl ?_),
    List.forall_mem_singleton.2 (boxArgument_typeTree ?_ ?_)⟩
  all_goals decide +kernel

theorem boxType_typeTree :
    TypeTree boxTypeSource .type boxExpression boxType := by
  refine .generic (.wrapper rfl rfl .self) rfl rfl (.name .self rfl (by decide +kernel)) rfl rfl ?_
  refine List.forall_mem_cons.2 ⟨.path (.memberType (.wrapper rfl rfl .self) rfl rfl
    (.name (.wrapper rfl rfl .self) rfl ?_) ?_), List.forall_mem_singleton.2 ?_⟩
  · decide +kernel
  · decide +kernel
  · refine (boxArgument_typeTree ?_ ?_).inType.wrapped rfl rfl <;> decide +kernel

/-- The brackets and the dot in front are different nodes in the two trees. -/
theorem boxExpression_reads_alike :
    TypeTree boxValueSource .expression boxExpression boxValue ∧
    TypeTree boxTypeSource .type boxExpression boxType ∧
    typeText boxValueSource boxValue = pure (some "Dict[a.K, m.Box[None, [...]]]") ∧
    typeText boxTypeSource boxType = pure (some "Dict[a.K, m.Box[None, [...]]]") := by
  have htext : boxExpression.render = "Dict[a.K, m.Box[None, [...]]]" := by decide +kernel
  obtain ⟨-, hread⟩ := typeText_alike_in_positions boxExpression
  rw [htext] at hread
  exact ⟨boxValue_typeTree, boxType_typeTree,
    hread _ _ _ _ boxValue_typeTree boxType_typeTree⟩

end InterfaceStub
