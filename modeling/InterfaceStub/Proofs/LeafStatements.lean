import InterfaceStub.Extraction.ModuleBody
import InterfaceStub.Proofs.Reports
import Mathlib.Data.List.Nodup

/-!
# Leaf statements

The leaf statements of a block are the statements that are extracted when the block is gone through:
its own ones, and for an `if` or `try` statement the leaf statements of the blocks inside it.  Each
comes with its place, so that two statements with the same text are told apart.

There are four groups.

* Places.  A place is a path of child positions, and `Node.at?` follows it.
* The blocks that are gone through.  `innerPlaces?` finds the blocks of `innerBlocks?` together with
  their places (`map_node_innerPlaces?`).
* Where the leaf statements stand.  `leafStatements_induction` goes down the tree once, and
  `standsIn_of_mem_leafStatements` is the case that matters.
* No leaf statement stands twice.  A child of a `try` statement can be its body and its `else`
  clause at once, so the blocks of a statement need not be in different children.  They are `Apart`
  all the same, and `not_mem_pathsOf_of_mem_leafPaths` keeps their leaf statements apart.
-/

namespace InterfaceStub

open Syntax Extraction

/-! ## Places -/

namespace Syntax

/-- A node below another one, with the path of child positions that leads to it. -/
structure Place where
  path : List Nat
  node : Node

/-- The same node, seen from further up the tree. -/
def Place.under (front : List Nat) (place : Place) : Place :=
  ⟨front ++ place.path, place.node⟩

/-- A statement in its place: what is read of a tree for it is the statement and the nodes after
it. -/
structure PlacedStatement extends Place where
  following : List Node

/-- The same statement, seen from further up the tree. -/
def PlacedStatement.under (front : List Nat) (statement : PlacedStatement) : PlacedStatement :=
  ⟨statement.toPlace.under front, statement.following⟩

theorem pairwise_lt_zipIdx (items : List α) :
    items.zipIdx.Pairwise fun first second => first.2 < second.2 := by
  have hpositions : (items.zipIdx.map Prod.snd).Pairwise (· < ·) := by
    rw [List.zipIdx_map_snd]
    exact List.pairwise_lt_range'
  exact List.pairwise_map.1 hpositions

theorem pairwise_zipIdx (items : List α) :
    items.zipIdx.Pairwise fun first second => first.2 ≠ second.2 :=
  (pairwise_lt_zipIdx items).imp Nat.ne_of_lt

namespace Node

/-- The node that a path of child positions leads to. -/
def at? : Node → List Nat → Option Node
  | node, [] => some node
  | node, position :: path => node.children[position]?.bind fun child => child.at? path

/-- The first of the children that are wanted. -/
def place? (node : Node) (wanted : Node → Bool) : Option Place :=
  (node.children.zipIdx.find? fun child => wanted child.1).map fun child => ⟨[child.2], child.1⟩

/-- The first child that plays one part. -/
def placeOf? (node : Node) (field : Field) : Option Place :=
  node.place? (·.field == some field)

/-- The children that are wanted, each with its position. -/
def numbered (node : Node) (wanted : Node → Bool) : List (Node × Nat) :=
  node.children.zipIdx.filter fun child => wanted child.1

/-- The statements of a block. -/
def ownStatements (block : Node) : List PlacedStatement :=
  ((withFollowing block.children).zipIdx.filter (·.1.1.isPart)).map fun statement =>
    ⟨⟨[statement.2], statement.1.1⟩, statement.1.2⟩

theorem at?_append (node : Node) (first second : List Nat) :
    node.at? (first ++ second) = (node.at? first).bind fun inner => inner.at? second := by
  induction first generalizing node with
  | nil => rfl
  | cons position first ih =>
    rw [List.cons_append, at?, at?, Option.bind_assoc]
    simp only [ih]

theorem map_fst_numbered (node : Node) (wanted : Node → Bool) :
    (node.numbered wanted).map Prod.fst = node.children.filter wanted := by
  have hmap := List.filter_map (f := Prod.fst) (p := wanted) (l := node.children.zipIdx)
  rw [List.zipIdx_map_fst] at hmap
  exact hmap.symm

theorem getElem?_of_mem_numbered {node : Node} {wanted : Node → Bool} {child : Node × Nat}
    (h : child ∈ node.numbered wanted) :
    node.children[child.2]? = some child.1 ∧ wanted child.1 :=
  ⟨List.mem_zipIdx_iff_getElem?.1 (List.mem_filter.1 h).1, (List.mem_filter.1 h).2⟩

theorem pairwise_numbered (node : Node) (wanted : Node → Bool) :
    (node.numbered wanted).Pairwise fun first second => first.2 ≠ second.2 :=
  (pairwise_zipIdx node.children).filter _

theorem map_node_place? (node : Node) (wanted : Node → Bool) :
    (node.place? wanted).map Place.node = node.children.find? wanted := by
  have hmap := List.find?_map (f := Prod.fst) (p := wanted) (l := node.children.zipIdx)
  rw [List.zipIdx_map_fst] at hmap
  rw [place?, Option.map_map, hmap]
  rfl

theorem map_node_placeOf? (node : Node) (field : Field) :
    (node.placeOf? field).map Place.node = node.child? field := by
  rw [placeOf?, map_node_place?, child?, childrenAt, List.head?_filter]

theorem exists_of_place? {node : Node} {wanted : Node → Bool} {place : Place}
    (h : node.place? wanted = some place) :
    ∃ position child, place = ⟨[position], child⟩ ∧ node.children[position]? = some child ∧
      wanted child := by
  obtain ⟨⟨child, position⟩, hfind, rfl⟩ := Option.map_eq_some_iff.1 h
  have hwanted := List.find?_some hfind
  exact ⟨position, child, rfl, List.mem_zipIdx_iff_getElem?.1 (List.mem_of_find?_eq_some hfind),
    hwanted⟩

end Node

end Syntax

/-! ## The blocks that are gone through -/

namespace Extraction

/-- The places of `clauseBlocks`, when `block` and `others` are the places of the blocks. -/
def clausePlaces (settings : ExtractSettings) (source : Source) (clause : Node)
    (block : Option Place) (others : List Place) : List Place :=
  (((clause.child? .condition).map (guardOf settings source)).getD .unknown).choose block others

/-- The places of `alternativeBlocks`. -/
def alternativePlaces (settings : ExtractSettings) (source : Source) :
    List (Node × Nat) → List Place
  | [] => []
  | (clause, position) :: rest =>
    match clause.kind with
    | .elifClause =>
      clausePlaces settings source clause ((clause.placeOf? .consequence).map (.under [position]))
        (alternativePlaces settings source rest)
    | .elseClause => ((clause.placeOf? .body).map (.under [position])).toList
    | _ => []

/-- The places of `branchBlocks`. -/
def branchPlaces (settings : ExtractSettings) (source : Source) (statement : Node) : List Place :=
  clausePlaces settings source statement (statement.placeOf? .consequence)
    (alternativePlaces settings source (statement.numbered (·.field == some .alternative)))

/-- The last part of one kind, with its position. -/
def lastClause? (statement : Node) (kind : Kind) : Option (Node × Nat) :=
  (statement.numbered fun child => child.isPart && child.kind == kind).getLast?

/-- The places of `Node.attemptBlocks`. -/
def attemptPlaces (statement : Node) : List Place :=
  (statement.placeOf? .body).toList ++
    ((lastClause? statement .elseClause).bind fun clause =>
      (clause.1.placeOf? .body).map (.under [clause.2])).toList ++
    ((lastClause? statement .finallyClause).bind fun clause =>
      (clause.1.place? fun child => child.isPart && child.kind == .block).map
        (.under [clause.2])).toList

/-- The places of `innerBlocks?`. -/
def innerPlaces? (settings : ExtractSettings) (source : Source) (statement : Node) :
    Option (List Place) :=
  match statement.statement with
  | .conditional => some (branchPlaces settings source statement)
  | .attempt => some (attemptPlaces statement)
  | _ => none

theorem Guard.map_choose (f : α → β) (guard : Guard) (block : Option α) (others : List α) :
    (guard.choose block others).map f = guard.choose (block.map f) (others.map f) := by
  cases guard <;> cases block <;> simp [Guard.choose]

theorem map_node_map_under (front : List Nat) (place : Option Place) :
    (place.map (Place.under front)).map Place.node = place.map Place.node := by
  rw [Option.map_map]
  rfl

theorem map_node_clausePlaces (settings : ExtractSettings) (source : Source) (clause : Node)
    (block : Option Place) (others : List Place)
    (hblock : block.map Place.node = clause.child? .consequence) :
    (clausePlaces settings source clause block others).map Place.node =
      clauseBlocks settings source clause (others.map Place.node) := by
  rw [clausePlaces, Guard.map_choose, hblock, clauseBlocks]

theorem map_node_alternativePlaces (settings : ExtractSettings) (source : Source)
    (clauses : List (Node × Nat)) :
    (alternativePlaces settings source clauses).map Place.node =
      alternativeBlocks settings source (clauses.map Prod.fst) := by
  induction clauses with
  | nil => rfl
  | cons clause rest ih =>
    rw [alternativePlaces, List.map_cons, alternativeBlocks]
    have hown (field : Field) :
        ((clause.1.placeOf? field).map (Place.under [clause.2])).map Place.node =
          clause.1.child? field := by
      rw [map_node_map_under, Node.map_node_placeOf?]
    cases clause.1.kind with
    | elifClause =>
      show (clausePlaces settings source clause.1 _ _).map Place.node = _
      rw [map_node_clausePlaces _ _ _ _ _ (hown .consequence), ih]
    | elseClause =>
      show (Option.toList _).map Place.node = _
      rw [← Option.toList_map, hown .body]
    | _ => rfl

theorem map_node_branchPlaces (settings : ExtractSettings) (source : Source) (statement : Node) :
    (branchPlaces settings source statement).map Place.node =
      branchBlocks settings source statement := by
  rw [branchPlaces, map_node_clausePlaces _ _ _ _ _ (Node.map_node_placeOf? _ _),
    map_node_alternativePlaces, Node.map_fst_numbered, branchBlocks, Node.childrenAt]

theorem map_fst_lastClause? (statement : Node) (kind : Kind) :
    (lastClause? statement kind).map Prod.fst =
      (statement.parts.filter (·.kind == kind)).getLast? := by
  rw [lastClause?, ← List.getLast?_map, Node.map_fst_numbered, Node.parts, List.filter_filter]
  simp only [Bool.and_comm]

theorem map_node_attemptPlaces (statement : Node) :
    (attemptPlaces statement).map Place.node = statement.attemptBlocks := by
  have hinner (kind : Kind) (inner : Node → Option Place) :
      ((lastClause? statement kind).bind fun clause =>
          (inner clause.1).map (Place.under [clause.2])).map Place.node =
        ((statement.parts.filter (·.kind == kind)).getLast?).bind fun clause =>
          (inner clause).map Place.node := by
    rw [← map_fst_lastClause?]
    cases lastClause? statement kind with
    | none => rfl
    | some clause => exact map_node_map_under _ _
  rw [attemptPlaces, List.map_append, List.map_append, ← Option.toList_map, ← Option.toList_map,
    ← Option.toList_map, Node.map_node_placeOf?,
    hinner .elseClause fun clause => clause.placeOf? .body,
    hinner .finallyClause fun clause =>
      clause.place? fun child => child.isPart && child.kind == .block]
  simp only [Node.map_node_placeOf?, Node.map_node_place?, Node.attemptBlocks, Node.parts,
    List.find?_filter, Bool.decide_and, Bool.decide_eq_true]

theorem map_node_innerPlaces? (settings : ExtractSettings) (source : Source) (statement : Node) :
    (innerPlaces? settings source statement).map (List.map Place.node) =
      innerBlocks? settings source statement := by
  rw [innerPlaces?, innerBlocks?]
  cases statement.statement with
  | conditional => exact congrArg some (map_node_branchPlaces settings source statement)
  | attempt => exact congrArg some (map_node_attemptPlaces statement)
  | _ => rfl

theorem size_lt_of_innerPlaces? {settings : ExtractSettings} {source : Source} {statement : Node}
    {places : List Place} {place : Place} (h : innerPlaces? settings source statement = some places)
    (hplace : place ∈ places) : place.node.size < statement.size := by
  have hblocks := map_node_innerPlaces? settings source statement
  rw [h, Option.map_some] at hblocks
  exact size_lt_of_innerBlocks? hblocks.symm (List.mem_map_of_mem hplace)

/-! ## The leaf statements -/

theorem getElem?_withFollowing (items : List α) (position : Nat) :
    (withFollowing items)[position]? =
      items[position]?.map fun item => (item, items.drop (position + 1)) := by
  induction items generalizing position with
  | nil => rfl
  | cons item items ih =>
    cases position with
    | zero => rfl
    | succ position =>
      rw [withFollowing, List.getElem?_cons_succ, List.getElem?_cons_succ, ih]
      rfl

theorem exists_position_of_mem_ownStatements {block : Node} {statement : PlacedStatement}
    (h : statement ∈ block.ownStatements) :
    ∃ position, statement.path = [position] ∧
      block.children[position]? = some statement.node ∧
      statement.following = block.children.drop (position + 1) := by
  obtain ⟨⟨⟨node, following⟩, position⟩, hmem, rfl⟩ := List.mem_map.1 h
  have hplace := List.mem_zipIdx_iff_getElem?.1 (List.mem_filter.1 hmem).1
  rw [getElem?_withFollowing] at hplace
  obtain ⟨child, hchild, hpair⟩ := Option.map_eq_some_iff.1 hplace
  obtain ⟨rfl, hfollowing⟩ := Prod.mk.inj hpair
  exact ⟨position, rfl, hchild, hfollowing.symm⟩

theorem size_lt_of_mem_ownStatements {block : Node} {statement : PlacedStatement}
    (h : statement ∈ block.ownStatements) : statement.node.size < block.size := by
  obtain ⟨_, _, hnode, _⟩ := exists_position_of_mem_ownStatements h
  exact Node.size_lt_of_mem_children (List.mem_of_getElem? hnode)

/-- The statements that are extracted of a block, in order: its own, but for an `if` or `try`
statement those of the blocks that are gone through in its place. -/
def leafStatements (settings : ExtractSettings) (source : Source) (block : Node) :
    List PlacedStatement :=
  block.ownStatements.attach.flatMap fun statement =>
    match _h : innerPlaces? settings source statement.1.node with
    | some places => places.attach.flatMap fun place =>
        (leafStatements settings source place.1.node).map
          (.under (statement.1.path ++ place.1.path))
    | none => [statement.1]
termination_by block.size
decreasing_by
  exact Nat.lt_trans (size_lt_of_innerPlaces? _h place.2)
    (size_lt_of_mem_ownStatements statement.2)

/-- The leaf statements in the place of one statement. -/
def leavesOf (settings : ExtractSettings) (source : Source) (statement : PlacedStatement) :
    List PlacedStatement :=
  match innerPlaces? settings source statement.node with
  | some places => places.flatMap fun place =>
      (leafStatements settings source place.node).map (.under (statement.path ++ place.path))
  | none => [statement]

theorem flatMap_attach_val (items : List α) (f : α → List β) :
    (items.attach.flatMap fun item => f item.1) = items.flatMap f := by
  rw [List.flatMap_def, List.attach_map_val, List.flatMap_def]

theorem leafStatements_eq (settings : ExtractSettings) (source : Source) (block : Node) :
    leafStatements settings source block =
      block.ownStatements.flatMap (leavesOf settings source) := by
  rw [leafStatements, ← flatMap_attach_val block.ownStatements]
  refine List.flatMap_congr fun statement _ => ?_
  rw [leavesOf]
  split
  · rename_i places hplaces
    rw [hplaces]
    exact flatMap_attach_val places fun place : Place =>
      (leafStatements settings source place.node).map
        (PlacedStatement.under (statement.1.path ++ place.path))
  · rename_i hplaces
    rw [hplaces]

/-! ## Where the leaf statements stand -/

theorem pairwise_ownStatements (block : Node) :
    block.ownStatements.Pairwise fun first second => first.path ≠ second.path := by
  refine List.pairwise_map.2 (((pairwise_zipIdx (withFollowing block.children)).filter _).imp ?_)
  intro first second hne hpath
  exact hne (List.singleton_inj.1 hpath)

/-- Where a block that is gone through stands in its statement: it is a child, or a child of a
clause. -/
inductive Inside (statement : Node) : Place → Prop
  | child {position : Nat} {block : Node} (h : statement.children[position]? = some block) :
    Inside statement ⟨[position], block⟩
  | clause {position inner : Nat} {clause block : Node}
    (hclause : statement.children[position]? = some clause) (hother : clause.statement = .other)
    (hblock : clause.children[inner]? = some block) : Inside statement ⟨[position, inner], block⟩

theorem Inside.at? {statement : Node} {place : Place} (h : Inside statement place) :
    statement.at? place.path = some place.node := by
  cases h with
  | child h => simp [Node.at?, h]
  | clause hclause _ hblock => simp [Node.at?, hclause, hblock]

theorem Inside.of_place? {statement : Node} {wanted : Node → Bool} {place : Place}
    (h : statement.place? wanted = some place) : Inside statement place := by
  obtain ⟨position, child, rfl, hchild, _⟩ := Node.exists_of_place? h
  exact .child hchild

/-- A block inside one of the numbered clauses of a statement. -/
def InClause (clauses : List (Node × Nat)) (place : Place) : Prop :=
  ∃ clause ∈ clauses, clause.1.statement = .other ∧
    ∃ inner, place.path = [clause.2, inner] ∧ clause.1.children[inner]? = some place.node

theorem InClause.of_place? {clause : Node × Nat} {wanted : Node → Bool} {place : Place}
    (hother : clause.1.statement = .other)
    (h : (clause.1.place? wanted).map (.under [clause.2]) = some place) :
    InClause [clause] place := by
  obtain ⟨own, hown, rfl⟩ := Option.map_eq_some_iff.1 h
  obtain ⟨inner, child, rfl, hchild, _⟩ := Node.exists_of_place? hown
  exact ⟨clause, List.mem_singleton_self _, hother, inner, rfl, hchild⟩

theorem InClause.mono {clauses more : List (Node × Nat)} {place : Place}
    (h : InClause clauses place) (hsub : clauses ⊆ more) : InClause more place := by
  obtain ⟨clause, hclause, hrest⟩ := h
  exact ⟨clause, hsub hclause, hrest⟩

theorem InClause.inside {statement : Node} {wanted : Node → Bool} {place : Place}
    (h : InClause (statement.numbered wanted) place) : Inside statement place := by
  obtain ⟨clause, hclause, hother, inner, hpath, hinner⟩ := h
  obtain ⟨hposition, _⟩ := Node.getElem?_of_mem_numbered hclause
  obtain ⟨path, node⟩ := place
  cases hpath
  exact .clause hposition hother hinner

theorem statement_of_clause {node : Node}
    (h : node.kind = .elifClause ∨ node.kind = .elseClause ∨ node.kind = .finallyClause) :
    node.statement = .other := by
  rw [Node.statement]
  rcases h with h | h | h <;> rw [h]

theorem inClause_of_mem_alternativePlaces {settings : ExtractSettings} {source : Source}
    {clauses : List (Node × Nat)} {place : Place}
    (h : place ∈ alternativePlaces settings source clauses) : InClause clauses place := by
  induction clauses with
  | nil => cases h
  | cons clause rest ih =>
    have hhead : [clause] ⊆ clause :: rest := by simp
    rw [alternativePlaces] at h
    split at h
    · rename_i hkind
      rcases Guard.mem_choose h with h | h
      · exact (InClause.of_place? (statement_of_clause (.inl hkind)) h).mono hhead
      · exact (ih h).mono (List.subset_cons_self _ _)
    · rename_i hkind
      exact (InClause.of_place? (statement_of_clause (.inr (.inl hkind)))
        (Option.mem_toList.1 h)).mono hhead
    · cases h

theorem inClause_of_lastClause? {statement : Node} {kind : Kind} {wanted : Node → Bool}
    {place : Place} (hkind : kind = .elseClause ∨ kind = .finallyClause)
    (h : ((lastClause? statement kind).bind fun clause =>
      (clause.1.place? wanted).map (.under [clause.2])) = some place) :
    InClause (statement.numbered (·.kind == kind)) place := by
  obtain ⟨clause, hclause, h⟩ := Option.bind_eq_some_iff.1 h
  have hmem := List.mem_of_getLast? hclause
  obtain ⟨_, hwanted⟩ := Node.getElem?_of_mem_numbered hmem
  have hown : clause.1.kind = kind := by simpa using (Bool.and_eq_true_iff.1 hwanted).2
  refine (InClause.of_place? (statement_of_clause (.inr (hown ▸ hkind))) h).mono ?_
  have hnumbered : clause ∈ statement.numbered (·.kind == kind) :=
    List.mem_filter.2 ⟨(List.mem_filter.1 hmem).1, by simp [hown]⟩
  simpa using hnumbered

theorem inside_of_mem_innerPlaces? {settings : ExtractSettings} {source : Source}
    {statement : Node} {places : List Place} {place : Place}
    (h : innerPlaces? settings source statement = some places) (hplace : place ∈ places) :
    Inside statement place := by
  rw [innerPlaces?] at h
  split at h
  · rw [← Option.some.inj h] at hplace
    rcases Guard.mem_choose hplace with hplace | hplace
    · exact .of_place? hplace
    · exact (inClause_of_mem_alternativePlaces hplace).inside
  · rw [← Option.some.inj h, attemptPlaces, List.mem_append, List.mem_append, Option.mem_toList,
      Option.mem_toList, Option.mem_toList] at hplace
    rcases hplace with (hplace | hplace) | hplace
    · exact .of_place? hplace
    · exact (inClause_of_lastClause? (.inl rfl) hplace).inside
    · exact (inClause_of_lastClause? (.inr rfl) hplace).inside
  · cases h

/-- To show something of every leaf statement of every block, show it of a block's own statements
and carry it from the blocks inside a statement to the block around it. -/
theorem leafStatements_induction {settings : ExtractSettings} {source : Source}
    {motive : Node → PlacedStatement → Prop}
    (own : ∀ block, ∀ statement ∈ block.ownStatements,
      innerPlaces? settings source statement.node = none → motive block statement)
    (inner : ∀ block, ∀ statement ∈ block.ownStatements, ∀ place, Inside statement.node place →
      ∀ leaf, motive place.node leaf → motive block (leaf.under (statement.path ++ place.path)))
    {block : Node} {leaf : PlacedStatement} (h : leaf ∈ leafStatements settings source block) :
    motive block leaf := by
  induction hsize : block.size using Nat.strongRecOn generalizing block leaf with
  | ind size ih =>
    rw [leafStatements_eq] at h
    obtain ⟨statement, hstatement, h⟩ := List.mem_flatMap.1 h
    rw [leavesOf] at h
    split at h
    · rename_i places hplaces
      obtain ⟨place, hplace, h⟩ := List.mem_flatMap.1 h
      obtain ⟨below, hbelow, rfl⟩ := List.mem_map.1 h
      have hlt : place.node.size < size := hsize ▸ Nat.lt_trans
        (size_lt_of_innerPlaces? hplaces hplace) (size_lt_of_mem_ownStatements hstatement)
      exact inner block statement hstatement place (inside_of_mem_innerPlaces? hplaces hplace)
        below (ih _ hlt hbelow rfl)
    · rename_i hplaces
      rw [List.mem_singleton.1 h]
      exact own block statement hstatement hplaces

/-- The path leads to the statement, and the nodes after it are those after it in the tree. -/
def StandsIn (block : Node) (statement : PlacedStatement) : Prop :=
  ∃ path position parent, statement.path = path ++ [position] ∧ block.at? path = some parent ∧
    parent.children[position]? = some statement.node ∧
    statement.following = parent.children.drop (position + 1)

theorem standsIn_of_mem_leafStatements {settings : ExtractSettings} {source : Source}
    {block : Node} {leaf : PlacedStatement} (h : leaf ∈ leafStatements settings source block) :
    StandsIn block leaf := by
  refine leafStatements_induction (motive := StandsIn) ?_ ?_ h
  · intro block statement hstatement _
    obtain ⟨position, hpath, hnode, hfollowing⟩ := exists_position_of_mem_ownStatements hstatement
    exact ⟨[], position, block, hpath, rfl, hnode, hfollowing⟩
  · rintro block statement hstatement place hplace leaf
      ⟨path, position, parent, hpath, hparent, hnode, hfollowing⟩
    obtain ⟨outer, houter, hchild, _⟩ := exists_position_of_mem_ownStatements hstatement
    refine ⟨outer :: (place.path ++ path), position, parent, ?_, ?_, hnode, hfollowing⟩
    · simp [PlacedStatement.under, Place.under, houter, hpath]
    · rw [Node.at?, hchild, Option.bind_some, Node.at?_append, hplace.at?, Option.bind_some,
        hparent]

theorem innerBlocks?_of_mem_leafStatements {settings : ExtractSettings} {source : Source}
    {block : Node} {leaf : PlacedStatement} (h : leaf ∈ leafStatements settings source block) :
    innerBlocks? settings source leaf.node = none := by
  refine leafStatements_induction
    (motive := fun _ leaf => innerBlocks? settings source leaf.node = none) ?_ ?_ h
  · intro block statement _ hnone
    rw [← map_node_innerPlaces?, hnone, Option.map_none]
  · intro block statement _ place _ leaf hleaf
    exact hleaf

/-! ## No leaf statement stands twice -/

/-- The paths to the leaf statements of a block. -/
def leafPaths (settings : ExtractSettings) (source : Source) (block : Node) : List (List Nat) :=
  (leafStatements settings source block).map (·.path)

/-- The paths from a statement to the leaf statements in its place. -/
def pathsOf (settings : ExtractSettings) (source : Source) (statement : Node) : List (List Nat) :=
  match innerPlaces? settings source statement with
  | some places => places.flatMap fun place =>
      (leafPaths settings source place.node).map (place.path ++ ·)
  | none => [[]]

theorem leafPaths_eq (settings : ExtractSettings) (source : Source) (block : Node) :
    leafPaths settings source block = block.ownStatements.flatMap fun statement =>
      (pathsOf settings source statement.node).map (statement.path ++ ·) := by
  rw [leafPaths, leafStatements_eq, List.map_flatMap]
  refine List.flatMap_congr fun statement _ => ?_
  rw [leavesOf, pathsOf]
  cases innerPlaces? settings source statement.node with
  | none => simp
  | some places =>
    simp [List.map_flatMap, leafPaths, PlacedStatement.under, Place.under, Function.comp_def]

theorem exists_of_mem_leafPaths {settings : ExtractSettings} {source : Source} {block : Node}
    {path : List Nat} (h : path ∈ leafPaths settings source block) :
    ∃ position child rest, path = position :: rest ∧ block.children[position]? = some child ∧
      rest ∈ pathsOf settings source child := by
  rw [leafPaths_eq] at h
  obtain ⟨statement, hstatement, h⟩ := List.mem_flatMap.1 h
  obtain ⟨rest, hrest, rfl⟩ := List.mem_map.1 h
  obtain ⟨position, hpath, hchild, _⟩ := exists_position_of_mem_ownStatements hstatement
  exact ⟨position, statement.node, rest, by rw [hpath]; rfl, hchild, hrest⟩

/-- No path leads to a leaf statement both of a node as a statement and of the same node as a
block. -/
theorem not_mem_pathsOf_of_mem_leafPaths {settings : ExtractSettings} {source : Source}
    {node : Node} {path : List Nat} (hblock : path ∈ leafPaths settings source node) :
    path ∉ pathsOf settings source node := by
  induction hsize : node.size using Nat.strongRecOn generalizing node path with
  | ind size ih =>
    intro hstatement
    obtain ⟨position, child, rest, rfl, hchild, hrest⟩ := exists_of_mem_leafPaths hblock
    rw [pathsOf] at hstatement
    split at hstatement
    · rename_i places hplaces
      obtain ⟨place, hplace, hstatement⟩ := List.mem_flatMap.1 hstatement
      obtain ⟨below, hbelow, hpath⟩ := List.mem_map.1 hstatement
      cases inside_of_mem_innerPlaces? hplaces hplace with
      | child hsame =>
        cases hpath
        cases Option.some.inj (hsame.symm.trans hchild)
        exact ih _ (hsize ▸ Node.size_lt_of_mem_children (List.mem_of_getElem? hchild)) hbelow rfl
          hrest
      | clause hclause hother _ =>
        -- A clause is no statement with blocks, so no path goes on below it.
        cases hpath
        cases Option.some.inj (hclause.symm.trans hchild)
        rw [pathsOf, innerPlaces?, hother] at hrest
        simp at hrest
    · simp at hstatement

/-- Two places in a statement that no two blocks share: they are in different children, or the
second is a child of the first. -/
def Apart (first second : Place) : Prop :=
  first.path.head? ≠ second.path.head? ∨
    ∃ position inner, first.path = [position] ∧ second.path = [position, inner] ∧
      first.node.children[inner]? = some second.node

theorem Guard.choose_sublist (guard : Guard) (block : Option α) (others : List α) :
    (guard.choose block others).Sublist (block.toList ++ others) := by
  cases guard with
  | typeChecking => exact List.sublist_append_left _ _
  | notTypeChecking => exact List.sublist_append_right _ _
  | unknown => exact List.Sublist.refl _

theorem pairwise_toList (related : α → α → Prop) (item : Option α) :
    item.toList.Pairwise related := by
  cases item <;> simp

theorem InClause.head? {clauses : List (Node × Nat)} {place : Place} (h : InClause clauses place) :
    ∃ clause ∈ clauses, place.path.head? = some clause.2 := by
  obtain ⟨clause, hclause, _, inner, hpath, _⟩ := h
  exact ⟨clause, hclause, by rw [hpath]; rfl⟩

theorem pairwise_alternativePlaces (settings : ExtractSettings) (source : Source)
    {clauses : List (Node × Nat)}
    (h : clauses.Pairwise fun first second => first.2 ≠ second.2) :
    (alternativePlaces settings source clauses).Pairwise Apart := by
  induction clauses with
  | nil => exact List.Pairwise.nil
  | cons clause rest ih =>
    obtain ⟨hclause, hrest⟩ := List.pairwise_cons.1 h
    rw [alternativePlaces]
    split
    · rename_i hkind
      refine List.Pairwise.sublist (Guard.choose_sublist _ _ _) (List.pairwise_append.2
        ⟨pairwise_toList _ _, ih hrest, fun first hfirst second hsecond => .inl ?_⟩)
      obtain ⟨own, hown, hfirst⟩ := (InClause.of_place? (statement_of_clause (.inl hkind))
        (Option.mem_toList.1 hfirst)).head?
      obtain ⟨later, hlater, hsecond⟩ := (inClause_of_mem_alternativePlaces hsecond).head?
      rw [hfirst, hsecond, List.mem_singleton.1 hown]
      exact fun hsame => hclause later hlater (Option.some.inj hsame)
    · exact pairwise_toList _ _
    · exact List.Pairwise.nil

/-- A child and a block inside a clause: the clause may be the child itself. -/
theorem apart_of_inClause {statement : Node} {wanted : Node → Bool} {first second : Place}
    (hfirst : (statement.place? wanted) = some first) {other : Node → Bool}
    (hsecond : InClause (statement.numbered other) second) : Apart first second := by
  obtain ⟨position, child, rfl, hchild, _⟩ := Node.exists_of_place? hfirst
  obtain ⟨clause, hclause, _, inner, hpath, hinner⟩ := hsecond
  obtain ⟨hposition, _⟩ := Node.getElem?_of_mem_numbered hclause
  by_cases hsame : position = clause.2
  · subst hsame
    cases Option.some.inj (hchild.symm.trans hposition)
    exact .inr ⟨clause.2, inner, rfl, hpath, hinner⟩
  · exact .inl (by simpa [hpath] using hsame)

theorem pairwise_branchPlaces (settings : ExtractSettings) (source : Source) (statement : Node) :
    (branchPlaces settings source statement).Pairwise Apart := by
  refine List.Pairwise.sublist (Guard.choose_sublist _ _ _) (List.pairwise_append.2
    ⟨pairwise_toList _ _, pairwise_alternativePlaces _ _ (statement.pairwise_numbered _),
      fun first hfirst second hsecond => ?_⟩)
  exact apart_of_inClause (Option.mem_toList.1 hfirst)
    (inClause_of_mem_alternativePlaces hsecond)

theorem apart_of_kind_ne {statement : Node} {kind other : Kind} {first second : Place}
    (hfirst : InClause (statement.numbered (·.kind == kind)) first)
    (hsecond : InClause (statement.numbered (·.kind == other)) second) (hne : kind ≠ other) :
    Apart first second := by
  obtain ⟨clause, hclause, hfirst⟩ := hfirst.head?
  obtain ⟨later, hlater, hsecond⟩ := hsecond.head?
  obtain ⟨hposition, hkind⟩ := Node.getElem?_of_mem_numbered hclause
  obtain ⟨hlast, hother⟩ := Node.getElem?_of_mem_numbered hlater
  refine .inl fun hsame => hne ?_
  rw [hfirst, hsecond] at hsame
  rw [Option.some.inj hsame, hlast] at hposition
  rw [← eq_of_beq hkind, ← eq_of_beq hother, Option.some.inj hposition]

theorem pairwise_attemptPlaces (statement : Node) :
    (attemptPlaces statement).Pairwise Apart := by
  simp only [attemptPlaces, List.pairwise_append, List.mem_append, Option.mem_toList]
  refine ⟨⟨pairwise_toList _ _, pairwise_toList _ _, ?_⟩, pairwise_toList _ _, ?_⟩
  · intro first hfirst second hsecond
    exact apart_of_inClause hfirst (inClause_of_lastClause? (.inl rfl) hsecond)
  · rintro first (hfirst | hfirst) second hsecond
    · exact apart_of_inClause hfirst (inClause_of_lastClause? (.inr rfl) hsecond)
    · exact apart_of_kind_ne (inClause_of_lastClause? (.inl rfl) hfirst)
        (inClause_of_lastClause? (.inr rfl) hsecond) (by decide)

theorem pairwise_innerPlaces? {settings : ExtractSettings} {source : Source} {statement : Node}
    {places : List Place} (h : innerPlaces? settings source statement = some places) :
    places.Pairwise Apart := by
  rw [innerPlaces?] at h
  split at h
  · exact Option.some.inj h ▸ pairwise_branchPlaces settings source statement
  · exact Option.some.inj h ▸ pairwise_attemptPlaces statement
  · cases h

/-- The leaf statements of two blocks apart are not the same. -/
theorem Apart.disjoint {settings : ExtractSettings} {source : Source} {statement : Node}
    {first second : Place} (h : Apart first second) (hfirst : Inside statement first)
    (hsecond : Inside statement second) :
    List.Disjoint ((leafPaths settings source first.node).map (first.path ++ ·))
      ((leafPaths settings source second.node).map (second.path ++ ·)) := by
  intro path hpath hother
  obtain ⟨below, hbelow, rfl⟩ := List.mem_map.1 hpath
  obtain ⟨under, hunder, hsame⟩ := List.mem_map.1 hother
  rcases h with hhead | ⟨position, inner, hfront, hback, hchild⟩
  · refine hhead ?_
    have hheads := congrArg List.head? hsame
    cases hfirst <;> cases hsecond <;> simpa using hheads.symm
  · rw [hfront, hback] at hsame
    obtain rfl : inner :: under = below := by simpa using hsame
    obtain ⟨outer, child, rest, hcons, hplace, hrest⟩ := exists_of_mem_leafPaths hbelow
    cases hcons
    cases Option.some.inj (hchild.symm.trans hplace)
    exact not_mem_pathsOf_of_mem_leafPaths hunder hrest

theorem nodup_map_append {paths : List (List Nat)} (front : List Nat) (h : paths.Nodup) :
    (paths.map (front ++ ·)).Nodup :=
  h.map fun _ _ => List.append_cancel_left

theorem nodup_pathsOf {settings : ExtractSettings} {source : Source} {statement : Node}
    (h : ∀ block : Node, block.size < statement.size → (leafPaths settings source block).Nodup) :
    (pathsOf settings source statement).Nodup := by
  rw [pathsOf]
  split
  · rename_i places hplaces
    refine List.nodup_flatMap.2 ⟨fun place hplace => ?_, ?_⟩
    · exact nodup_map_append _ (h _ (size_lt_of_innerPlaces? hplaces hplace))
    · refine (pairwise_innerPlaces? hplaces).imp_of_mem fun hfirst hsecond hapart => ?_
      exact hapart.disjoint (inside_of_mem_innerPlaces? hplaces hfirst)
        (inside_of_mem_innerPlaces? hplaces hsecond)
  · exact List.nodup_singleton _

/-- No two leaf statements of a block stand in the same place. -/
theorem nodup_leafPaths (settings : ExtractSettings) (source : Source) (block : Node) :
    (leafPaths settings source block).Nodup := by
  induction hsize : block.size using Nat.strongRecOn generalizing block with
  | ind size ih =>
    rw [leafPaths_eq]
    refine List.nodup_flatMap.2 ⟨fun statement hstatement => ?_, ?_⟩
    · refine nodup_map_append _ (nodup_pathsOf fun inner hinner => ih _ (hsize ▸ ?_) inner rfl)
      exact Nat.lt_trans hinner (size_lt_of_mem_ownStatements hstatement)
    · refine (pairwise_ownStatements block).imp_of_mem fun hfirst hsecond hne => ?_
      intro path hpath hother
      obtain ⟨rest, _, rfl⟩ := List.mem_map.1 hpath
      obtain ⟨later, _, hsame⟩ := List.mem_map.1 hother
      obtain ⟨position, hposition, _⟩ := exists_position_of_mem_ownStatements hfirst
      obtain ⟨second, hsecond, _⟩ := exists_position_of_mem_ownStatements hsecond
      rw [hposition, hsecond] at hsame hne
      exact hne (by simpa using (List.cons.inj hsame).1.symm)

end Extraction

end InterfaceStub
