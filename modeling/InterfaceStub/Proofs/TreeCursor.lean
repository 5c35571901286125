import InterfaceStub.Proofs.TreeNodes

/-!
# Cursors

A cursor stands at a node of a tree and can go to its first child, to its next sibling and to its
parent.  With these moves a tree is searched in document order without recursion: from a node go to
its first child, and if there is none, or the node is not entered, up to the nearest node with a
next sibling and on to that.

* Places.  `Node.places` lists the places of a tree in document order, without those below a node
  that is not entered.  `mem_places_iff` says which these are, `pairwise_places` in which order.
* Cursors.  `pendingPlaces` are the places that a cursor has before it.  `pendingPlaces_eq` says
  that a step takes the first of them away, so a search ends.
* Searches.  `result_search` and `places_search` say what a search finds and which places it visits;
  `sweeps_search` is the same in terms of the tree alone.
-/

namespace InterfaceStub.Syntax

/-! ## Places in document order -/

theorem Place.under_under (front inner : List Nat) (place : Place) :
    (place.under inner).under front = place.under (front ++ inner) := by
  simp [Place.under]

namespace Node

mutual
/-- The places of a tree in document order.  Below a node that is not entered there are none. -/
def places (enter : Node → Bool) : Node → List Place
  | mk label children =>
    ⟨[], mk label children⟩ ::
      if enter (mk label children) then placesAmong enter 0 children else []

/-- The places of some trees, the first of which is the child at this position. -/
def placesAmong (enter : Node → Bool) (position : Nat) : List Node → List Place
  | [] => []
  | node :: nodes =>
    (places enter node).map (.under [position]) ++ placesAmong enter (position + 1) nodes
end

variable {enter : Node → Bool}

theorem places_eq (enter : Node → Bool) (node : Node) :
    node.places enter =
      ⟨[], node⟩ :: if enter node then placesAmong enter 0 node.children else [] := by
  cases node with
  | mk label children => rw [places, Node.children]

theorem mem_placesAmong {position : Nat} {nodes : List Node} {place : Place} :
    place ∈ placesAmong enter position nodes ↔
      ∃ (index : Nat) (node : Node), nodes[index]? = some node ∧
        ∃ below ∈ node.places enter, place = below.under [position + index] := by
  induction nodes generalizing position with
  | nil => simp [placesAmong]
  | cons node nodes ih =>
    rw [placesAmong, List.mem_append, List.mem_map, ih]
    constructor
    · rintro (⟨below, hbelow, rfl⟩ | ⟨index, child, hchild, below, hbelow, rfl⟩)
      · exact ⟨0, node, rfl, below, hbelow, rfl⟩
      · exact ⟨index + 1, child, hchild, below, hbelow, by rw [Nat.add_assoc, Nat.add_comm 1]⟩
    · rintro ⟨index, child, hchild, below, hbelow, rfl⟩
      cases index with
      | zero =>
        cases hchild
        exact .inl ⟨below, hbelow, rfl⟩
      | succ index =>
        exact .inr ⟨index, child, hchild, below, hbelow, by rw [Nat.add_assoc, Nat.add_comm 1]⟩

/-- Every node on the way to a place is entered. -/
def EntersTo (enter : Node → Bool) (node : Node) (path : List Nat) : Prop :=
  ∀ front above, front <+: path → front ≠ path → node.at? front = some above → enter above

theorem entersTo_nil (enter : Node → Bool) (node : Node) : EntersTo enter node [] := by
  intro front above hfront hne _
  exact absurd (List.prefix_nil.1 hfront) hne

theorem entersTo_cons {node child : Node} {position : Nat} {path : List Nat}
    (hchild : node.children[position]? = some child) :
    EntersTo enter node (position :: path) ↔ enter node ∧ EntersTo enter child path := by
  constructor
  · intro h
    refine ⟨h [] node List.nil_prefix (by simp) rfl, fun front above hfront hne habove => ?_⟩
    refine h (position :: front) above ?_ ?_ ?_
    · exact List.cons_prefix_cons.2 ⟨rfl, hfront⟩
    · simpa using hne
    · rw [at?, hchild, Option.bind_some, habove]
  · rintro ⟨hself, hbelow⟩ front above hfront hne habove
    cases front with
    | nil =>
      cases habove
      exact hself
    | cons other front =>
      obtain ⟨rfl, hrest⟩ := List.cons_prefix_cons.1 hfront
      rw [at?, hchild, Option.bind_some] at habove
      exact hbelow front above hrest (by simpa using hne) habove

/-- The places of a tree are those that a path leads to, through nodes that are entered. -/
theorem mem_places_iff {node : Node} {place : Place} :
    place ∈ node.places enter ↔
      node.at? place.path = some place.node ∧ EntersTo enter node place.path := by
  obtain ⟨path, inner⟩ := place
  induction path generalizing node with
  | nil =>
    rw [places_eq]
    constructor
    · intro h
      rcases List.mem_cons.1 h with h | h
      · cases h
        exact ⟨rfl, entersTo_nil _ _⟩
      · split at h
        · obtain ⟨_, _, _, _, _, hplace⟩ := mem_placesAmong.1 h
          cases hplace
        · cases h
    · rintro ⟨hself, -⟩
      cases hself
      exact List.mem_cons_self
  | cons position path ih =>
    rw [places_eq]
    constructor
    · intro h
      rcases List.mem_cons.1 h with h | h
      · cases h
      · split at h
        · rename_i henter
          obtain ⟨index, child, hchild, below, hbelow, hplace⟩ := mem_placesAmong.1 h
          obtain ⟨rest, node⟩ := below
          rw [Nat.zero_add] at hplace
          cases hplace
          obtain ⟨hat, hpath⟩ := ih.1 hbelow
          refine ⟨?_, (entersTo_cons hchild).2 ⟨henter, hpath⟩⟩
          rw [at?, hchild, Option.bind_some, hat]
        · cases h
    · rintro ⟨hat, hpath⟩
      obtain ⟨child, hchild, hbelow⟩ := Option.bind_eq_some_iff.1 hat
      obtain ⟨henter, hrest⟩ := (entersTo_cons hchild).1 hpath
      rw [if_pos henter]
      refine List.mem_cons_of_mem _ (mem_placesAmong.2 ⟨position, child, hchild, ⟨path, inner⟩, ?_⟩)
      exact ⟨ih.2 ⟨hbelow, hrest⟩, by simp [Place.under]⟩

mutual
/-- The places of a tree are in document order, and none is there twice. -/
theorem pairwise_places (enter : Node → Bool) :
    (node : Node) → (node.places enter).Pairwise fun first second => first.path < second.path
  | mk label children => by
    rw [places]
    split
    · refine List.pairwise_cons.2 ⟨fun place hplace => ?_, pairwise_placesAmong enter 0 children⟩
      obtain ⟨_, _, _, below, _, rfl⟩ := mem_placesAmong.1 hplace
      exact List.Lex.nil
    · exact List.pairwise_singleton _ _

theorem pairwise_placesAmong (enter : Node → Bool) (position : Nat) :
    (nodes : List Node) → (placesAmong enter position nodes).Pairwise fun first second =>
      first.path < second.path
  | [] => List.Pairwise.nil
  | node :: nodes => by
    rw [placesAmong]
    refine List.pairwise_append.2 ⟨List.pairwise_map.2 ?_, pairwise_placesAmong enter _ nodes, ?_⟩
    · exact (pairwise_places enter node).imp fun hlt => List.Lex.cons hlt
    · intro first hfirst second hsecond
      obtain ⟨below, _, rfl⟩ := List.mem_map.1 hfirst
      obtain ⟨index, _, _, after, _, rfl⟩ := mem_placesAmong.1 hsecond
      exact List.Lex.rel (by omega)
end

mutual
theorem map_node_places : (node : Node) →
    (node.places fun _ => true).map Place.node = node.nodes
  | mk label children => by
    rw [places, nodes, List.map_cons, if_pos rfl, map_node_placesAmong 0 children]

theorem map_node_placesAmong (position : Nat) : (trees : List Node) →
    (placesAmong (fun _ => true) position trees).map Place.node = nodesAmong trees
  | [] => rfl
  | tree :: trees => by
    rw [placesAmong, nodesAmong, List.map_append, List.map_map, ← map_node_places tree,
      ← map_node_placesAmong (position + 1) trees]
    rfl
end

end Node

/-! ## Cursors -/

/-- A level above a cursor: the node there, and the position of the child that leads down. -/
structure Crumb where
  parent : Node
  position : Nat

/-- A node of a tree, with the levels above it up to the root. -/
structure Cursor where
  node : Node
  crumbs : List Crumb := []

/-- The path that some levels lead along. -/
def Crumb.path (crumbs : List Crumb) : List Nat :=
  (crumbs.map (·.position)).reverse

namespace Cursor

/-- A cursor at the root of a tree. -/
def start (root : Node) : Cursor :=
  { node := root }

/-- Where a cursor stands. -/
def place (cursor : Cursor) : Place :=
  ⟨Crumb.path cursor.crumbs, cursor.node⟩

def firstChild? (cursor : Cursor) : Option Cursor :=
  cursor.node.children[0]?.map fun child => ⟨child, ⟨cursor.node, 0⟩ :: cursor.crumbs⟩

def nextSibling? (cursor : Cursor) : Option Cursor :=
  match cursor.crumbs with
  | [] => none
  | ⟨parent, position⟩ :: above =>
    parent.children[position + 1]?.map fun sibling => ⟨sibling, ⟨parent, position + 1⟩ :: above⟩

def parent? (cursor : Cursor) : Option Cursor :=
  match cursor.crumbs with
  | [] => none
  | ⟨parent, _⟩ :: above => some ⟨parent, above⟩

theorem length_crumbs_of_parent? {cursor above : Cursor} (h : cursor.parent? = some above) :
    above.crumbs.length < cursor.crumbs.length := by
  unfold parent? at h
  split at h
  · cases h
  · rename_i hcrumbs
    cases h
    simp [hcrumbs]

/-- The next node that is not below the cursor: its next sibling, or that of the nearest node above
which has one. -/
def advance? (cursor : Cursor) : Option Cursor :=
  match cursor.nextSibling? with
  | some sibling => some sibling
  | none =>
    match _h : cursor.parent? with
    | some above => above.advance?
    | none => none
termination_by cursor.crumbs.length
decreasing_by exact length_crumbs_of_parent? _h

/-- The next node, where those below a node are left out if it is not entered. -/
def step? (enter : Node → Bool) (cursor : Cursor) : Option Cursor :=
  (if enter cursor.node then cursor.firstChild? else none).or cursor.advance?

/-! ### The places before a cursor -/

/-- The places after those at and below a cursor with these levels above it. -/
def laterPlaces (enter : Node → Bool) : List Crumb → List Place
  | [] => []
  | ⟨parent, position⟩ :: above =>
    (Node.placesAmong enter (position + 1) (parent.children.drop (position + 1))).map
      (.under (Crumb.path above)) ++ laterPlaces enter above

/-- The places at and below a cursor, and those after them. -/
def pendingPlaces (enter : Node → Bool) (cursor : Cursor) : List Place :=
  (cursor.node.places enter).map (.under (Crumb.path cursor.crumbs)) ++
    laterPlaces enter cursor.crumbs

theorem pendingPlaces_cons (enter : Node → Bool) (node parent : Node) (position : Nat)
    (above : List Crumb) :
    pendingPlaces enter ⟨node, ⟨parent, position⟩ :: above⟩ =
      (Node.placesAmong enter position (node :: parent.children.drop (position + 1))).map
        (.under (Crumb.path above)) ++ laterPlaces enter above := by
  have hpath : Crumb.path (⟨parent, position⟩ :: above) = Crumb.path above ++ [position] := by
    simp [Crumb.path]
  simp [pendingPlaces, laterPlaces, Node.placesAmong, hpath, Place.under_under]

theorem laterPlaces_eq (enter : Node → Bool) (cursor : Cursor) :
    laterPlaces enter cursor.crumbs = (cursor.advance?.map (pendingPlaces enter)).getD [] := by
  obtain ⟨node, crumbs⟩ := cursor
  induction crumbs generalizing node with
  | nil => simp [advance?, nextSibling?, parent?, laterPlaces]
  | cons crumb above ih =>
    obtain ⟨parent, position⟩ := crumb
    rw [advance?, laterPlaces]
    cases hsibling : parent.children[position + 1]? with
    | some sibling =>
      obtain ⟨hlt, hget⟩ := List.getElem?_eq_some_iff.1 hsibling
      rw [List.drop_eq_getElem_cons hlt, hget, ← pendingPlaces_cons]
      simp [nextSibling?, hsibling]
    | none =>
      have hdrop := List.drop_eq_nil_of_le (List.getElem?_eq_none_iff.1 hsibling)
      simp [nextSibling?, parent?, hsibling, hdrop, Node.placesAmong, ← ih parent]

/-- A step takes the place of the cursor away from those before it, and no other. -/
theorem pendingPlaces_eq (enter : Node → Bool) (cursor : Cursor) :
    cursor.pendingPlaces enter =
      cursor.place :: ((cursor.step? enter).map (pendingPlaces enter)).getD [] := by
  rw [pendingPlaces, Node.places_eq, List.map_cons, List.cons_append, step?]
  congr 1
  · simp [Place.under, place]
  · split
    · cases hchildren : cursor.node.children with
      | nil => simp [firstChild?, hchildren, Node.placesAmong, laterPlaces_eq]
      | cons child rest => simp [firstChild?, hchildren, pendingPlaces_cons]
    · simp [laterPlaces_eq]

theorem pendingPlaces_start (enter : Node → Bool) (root : Node) :
    (start root).pendingPlaces enter = root.places enter := by
  have hunder : Place.under (Crumb.path []) = id := by
    funext place
    rfl
  simp [pendingPlaces, start, laterPlaces, hunder]

/-! ## Searches -/

theorem length_pendingPlaces_of_step? {enter : Node → Bool} {cursor next : Cursor}
    (h : cursor.step? enter = some next) :
    (next.pendingPlaces enter).length < (cursor.pendingPlaces enter).length := by
  rw [pendingPlaces_eq enter cursor, h]
  exact Nat.lt_succ_self _

/-- Looks for something from a cursor on.  The result is what was found first, after the cursors at
which it was looked for. -/
def search (enter : Node → Bool) (found : Node → Option α) (cursor : Cursor) :
    List Cursor × Option α :=
  match found cursor.node with
  | some result => ([cursor], some result)
  | none =>
    match _h : cursor.step? enter with
    | some next =>
      let after := next.search enter found
      (cursor :: after.1, after.2)
    | none => ([cursor], none)
termination_by (cursor.pendingPlaces enter).length
decreasing_by exact length_pendingPlaces_of_step? _h

variable {enter : Node → Bool} {found : Node → Option α}

theorem result_search (cursor : Cursor) :
    (cursor.search enter found).2 =
      (cursor.pendingPlaces enter).findSome? fun place => found place.node := by
  fun_induction search enter found cursor with
  | case1 cursor result hfound => simp [pendingPlaces_eq, place, hfound]
  | case2 cursor hfound next hnext after ih =>
    simp [pendingPlaces_eq enter cursor, place, hfound, hnext, after, ih]
  | case3 cursor hfound hnext => simp [pendingPlaces_eq, place, hfound, hnext]

/-- A search visits the places before it one after the other. -/
theorem places_search (enter : Node → Bool) (found : Node → Option α) (cursor : Cursor) :
    (cursor.search enter found).1.map place <+: cursor.pendingPlaces enter := by
  fun_induction search enter found cursor with
  | case1 cursor result hfound =>
    rw [pendingPlaces_eq]
    exact List.prefix_append [cursor.place] _
  | case2 cursor hfound next hnext after ih =>
    rw [pendingPlaces_eq, hnext]
    exact List.cons_prefix_cons.2 ⟨rfl, ih⟩
  | case3 cursor hfound hnext =>
    rw [pendingPlaces_eq]
    exact List.prefix_append [cursor.place] _

/-- Some cursors go over a tree in document order and pass over no place, but for those below a node
that is not entered. -/
structure Sweeps (enter : Node → Bool) (root : Node) (visited : List Cursor) : Prop where
  stands : ∀ cursor ∈ visited, root.at? cursor.place.path = some cursor.node
  increasing : (visited.map (·.place.path)).Pairwise (· < ·)
  complete : ∀ cursor ∈ visited, ∀ place : Place, root.at? place.path = some place.node →
    root.EntersTo enter place.path → place.path < cursor.place.path →
      ∃ earlier ∈ visited, earlier.place = place

theorem sweeps_search (root : Node) :
    Sweeps enter root ((start root).search enter found).1 := by
  have hfront := places_search enter found (start root)
  rw [pendingPlaces_start] at hfront
  constructor
  case stands =>
    intro cursor hcursor
    exact (Node.mem_places_iff.1 (hfront.subset (List.mem_map_of_mem hcursor))).1
  case increasing =>
    have hpairwise := (Node.pairwise_places enter root).sublist hfront.sublist
    rw [List.pairwise_map] at hpairwise ⊢
    exact hpairwise
  case complete =>
    intro cursor hcursor place hplace hpath hlt
    obtain ⟨rest, hrest⟩ := hfront
    have hpairwise := hrest ▸ Node.pairwise_places enter root
    have hmem := hrest ▸ Node.mem_places_iff.2 ⟨hplace, hpath⟩
    rcases List.mem_append.1 hmem with hvisited | hlater
    · obtain ⟨earlier, hearlier, hsame⟩ := List.mem_map.1 hvisited
      exact ⟨earlier, hearlier, hsame⟩
    · have hafter := (List.pairwise_append.1 hpairwise).2.2 _ (List.mem_map_of_mem hcursor) _ hlater
      exact absurd hafter (List.lt_asymm hlt)

end Cursor

end InterfaceStub.Syntax
