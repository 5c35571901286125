import InterfaceStub.Proofs.FindingPlaces
import InterfaceStub.Proofs.RequiredNames
import Mathlib.Data.List.Pairwise

/-!
# The order of diagnostics

Diagnostics have the lines of the nodes that they are about, so where they stand and in which order
they come depends on how the nodes are laid out.  `LaidOut` says what a parser takes care of: the
children of a node lie in its range, one after the other, and the clauses of a statement are in the
order of the grammar.

* Paths.  `TurnsBefore` is the order of two places neither of which is inside the other, and
  `stop_le_start_of_turnsBefore` turns it into one of offsets.
* Leaf statements.  `pairwise_leafPaths` is the induction over the tree: one block after another is
  gone through in the order of the source.
* Diagnostics.  `ReportsInOrder` is the property, `reportsInOrder_of_foundIn` has it for the leaf
  statements of any block, and `diagnostics_inSourceOrder` for a module and the classes in it.
-/

namespace InterfaceStub

open Syntax Extraction

/-! ## Lines -/

theorem Text.rowAt_mono (cs : List Char) {first second : Nat} (h : first ≤ second) :
    rowAt cs first ≤ rowAt cs second := by
  induction cs generalizing first second with
  | nil => exact Nat.le_refl _
  | cons c cs ih =>
    cases first with
    | zero => exact Nat.zero_le _
    | succ first =>
      cases second with
      | zero => omega
      | succ second => exact Nat.add_le_add_left (ih (by omega)) _

namespace Syntax

/-- The line where a node ends. -/
def Source.lastLine (source : Source) (node : Node) : Nat :=
  source.lastRow node + 1

/-! ## Layout -/

namespace Node

/-- The children of one sort come before those of another. -/
def Precede (node : Node) (first second : Node → Bool) : Prop :=
  ∀ earlier ∈ node.numbered first, ∀ later ∈ node.numbered second, earlier.2 < later.2

instance (node : Node) (first second : Node → Bool) : Decidable (node.Precede first second) :=
  inferInstanceAs (Decidable (∀ earlier ∈ _, ∀ later ∈ _, _))

/-- The children of a node lie in its range, one after the other, and those of an `if` or `try`
statement are in the order of the grammar. -/
@[mk_iff] structure LaidOut (node : Node) : Prop where
  extent : node.label.start ≤ node.label.stop
  nested : ∀ child ∈ node.children,
    node.label.start ≤ child.label.start ∧ child.label.stop ≤ node.label.stop
  ordered : node.children.Pairwise fun first second => first.label.stop ≤ second.label.start
  branches : node.kind = .ifStatement →
    node.Precede (·.field == some .consequence) (·.field == some .alternative)
  attempts : node.kind = .tryStatement →
    node.Precede (·.field == some .body) (·.kind == .elseClause) ∧
    node.Precede (·.field == some .body) (·.kind == .finallyClause) ∧
    node.Precede (·.kind == .elseClause) (·.kind == .finallyClause)

instance (node : Node) : Decidable node.LaidOut :=
  decidable_of_iff _ (laidOut_iff node).symm

theorem range_of_mem_nodes {node inner : Node} (h : ∀ below ∈ node.nodes, below.LaidOut)
    (hinner : inner ∈ node.nodes) :
    node.label.start ≤ inner.label.start ∧ inner.label.stop ≤ node.label.stop := by
  induction hsize : node.size using Nat.strongRecOn generalizing node with
  | ind size ih =>
    rcases mem_nodes.1 hinner with rfl | ⟨child, hchild, hbelow⟩
    · exact ⟨Nat.le_refl _, Nat.le_refl _⟩
    · obtain ⟨hstart, hstop⟩ := (h node node.mem_nodes_self).nested child hchild
      have hlt : child.size < size := hsize ▸ size_lt_of_mem_children hchild
      have hchildren (below : Node) (hmem : below ∈ child.nodes) : below.LaidOut :=
        h below (mem_nodes_trans hmem (mem_nodes_of_mem_children hchild))
      obtain ⟨hfirst, hlast⟩ := ih _ hlt hchildren hbelow rfl
      omega

/-- A node inside another one starts on one of its lines. -/
theorem line_of_mem_nodes (source : Source) {node inner : Node}
    (h : ∀ below ∈ node.nodes, below.LaidOut) (hinner : inner ∈ node.nodes) :
    source.line node ≤ source.line inner ∧ source.line inner ≤ source.lastLine node := by
  obtain ⟨hstart, hstop⟩ := range_of_mem_nodes h hinner
  have hextent := (h inner hinner).extent
  exact ⟨Nat.succ_le_succ (Text.rowAt_mono _ hstart),
    Nat.succ_le_succ (Text.rowAt_mono _ (by omega))⟩

end Node

/-! ## Paths -/

/-- Two paths part, and the first goes on to an earlier child. -/
inductive TurnsBefore : List Nat → List Nat → Prop where
  | here {first second : Nat} (h : first < second) (path other : List Nat) :
      TurnsBefore (first :: path) (second :: other)
  | under (position : Nat) {path other : List Nat} (h : TurnsBefore path other) :
      TurnsBefore (position :: path) (position :: other)

namespace TurnsBefore

variable {path other : List Nat}

theorem append (h : TurnsBefore path other) (rest rest' : List Nat) :
    TurnsBefore (path ++ rest) (other ++ rest') := by
  induction h with
  | here h path other => exact .here h _ _
  | under position _ ih => exact .under position ih

theorem append_left (front : List Nat) (h : TurnsBefore path other) :
    TurnsBefore (front ++ path) (front ++ other) := by
  induction front with
  | nil => exact h
  | cons position front ih => exact .under position ih

theorem lt (h : TurnsBefore path other) : path < other := by
  induction h with
  | here h path other => exact List.Lex.rel h
  | under position _ ih => exact List.Lex.cons ih

end TurnsBefore

/-- Of two nodes at paths that part the first ends before the second starts. -/
theorem Node.stop_le_start_of_turnsBefore {node first second : Node} {path other : List Nat}
    (h : ∀ below ∈ node.nodes, below.LaidOut) (hpaths : TurnsBefore path other)
    (hfirst : node.at? path = some first) (hsecond : node.at? other = some second) :
    first.label.stop ≤ second.label.start := by
  induction hpaths generalizing node with
  | @here i j hlt path other =>
    obtain ⟨child, hchild, hfirst⟩ := Option.bind_eq_some_iff.1 hfirst
    obtain ⟨later, hlater, hsecond⟩ := Option.bind_eq_some_iff.1 hsecond
    obtain ⟨hi, rfl⟩ := List.getElem?_eq_some_iff.1 hchild
    obtain ⟨hj, rfl⟩ := List.getElem?_eq_some_iff.1 hlater
    have hchildren (position : Nat) (hposition : position < node.children.length) (below : Node)
        (hbelow : below ∈ node.children[position].nodes) : below.LaidOut :=
      h below (mem_nodes_trans hbelow (mem_nodes_of_mem_children (List.getElem_mem hposition)))
    have hordered := List.pairwise_iff_getElem.1 (h node node.mem_nodes_self).ordered i j hi hj hlt
    have hend := range_of_mem_nodes (hchildren i hi) (mem_nodes_of_at? hfirst)
    have hbegin := range_of_mem_nodes (hchildren j hj) (mem_nodes_of_at? hsecond)
    omega
  | under position _ ih =>
    obtain ⟨child, hchild, hfirst⟩ := Option.bind_eq_some_iff.1 hfirst
    rw [at?, hchild, Option.bind_some] at hsecond
    refine ih (fun below hbelow => ?_) hfirst hsecond
    exact h below (mem_nodes_trans hbelow
      (mem_nodes_of_mem_children (List.mem_of_getElem? hchild)))

end Syntax

/-! ## Leaf statements in the order of the source -/

namespace Extraction

variable {settings : ExtractSettings} {source : Source}

/-- One place comes before another and neither is inside the other. -/
def StandsBefore (first second : Place) : Prop :=
  TurnsBefore first.path second.path

theorem InClause.standsBefore {clauses others : List (Node × Nat)} {first second : Place}
    (hfirst : InClause clauses first) (hsecond : InClause others second)
    (h : ∀ earlier ∈ clauses, ∀ later ∈ others, earlier.2 < later.2) :
    StandsBefore first second := by
  obtain ⟨clause, hclause, _, inner, hpath, _⟩ := hfirst
  obtain ⟨later, hlater, _, inner', hpath', _⟩ := hsecond
  rw [StandsBefore, hpath, hpath']
  exact .here (h clause hclause later hlater) _ _

theorem standsBefore_of_place? {statement : Node} {wanted other : Node → Bool}
    {first second : Place} (hfirst : statement.place? wanted = some first)
    (hsecond : InClause (statement.numbered other) second) (h : statement.Precede wanted other) :
    StandsBefore first second := by
  obtain ⟨position, child, rfl, hchild, hwanted⟩ := Node.exists_of_place? hfirst
  obtain ⟨later, hlater, _, inner, hpath, _⟩ := hsecond
  have hmem : (child, position) ∈ statement.numbered wanted :=
    List.mem_filter.2 ⟨List.mem_zipIdx_iff_getElem?.2 hchild, hwanted⟩
  rw [StandsBefore, hpath]
  exact .here (h _ hmem later hlater) _ _

theorem standsBefore_alternativePlaces (settings : ExtractSettings) (source : Source)
    {clauses : List (Node × Nat)}
    (h : clauses.Pairwise fun first second => first.2 < second.2) :
    (alternativePlaces settings source clauses).Pairwise StandsBefore := by
  induction clauses with
  | nil => exact List.Pairwise.nil
  | cons clause rest ih =>
    obtain ⟨hclause, hrest⟩ := List.pairwise_cons.1 h
    rw [alternativePlaces]
    split
    · rename_i hkind
      refine List.Pairwise.sublist (Guard.choose_sublist _ _ _) (List.pairwise_append.2
        ⟨pairwise_toList _ _, ih hrest, fun first hfirst second hsecond => ?_⟩)
      have hown := InClause.of_place? (statement_of_clause (.inl hkind))
        (Option.mem_toList.1 hfirst)
      refine hown.standsBefore (inClause_of_mem_alternativePlaces hsecond) ?_
      intro earlier hearlier later hlater
      rw [List.mem_singleton.1 hearlier]
      exact hclause later hlater
    · exact pairwise_toList _ _
    · exact List.Pairwise.nil

theorem standsBefore_branchPlaces (settings : ExtractSettings) (source : Source) {statement : Node}
    (h : statement.Precede (·.field == some .consequence) (·.field == some .alternative)) :
    (branchPlaces settings source statement).Pairwise StandsBefore := by
  have hclauses := standsBefore_alternativePlaces settings source
    ((pairwise_lt_zipIdx statement.children).filter (·.1.field == some .alternative))
  refine List.Pairwise.sublist (Guard.choose_sublist _ _ _) (List.pairwise_append.2
    ⟨pairwise_toList _ _, hclauses, fun first hfirst second hsecond => ?_⟩)
  exact standsBefore_of_place? (Option.mem_toList.1 hfirst)
    (inClause_of_mem_alternativePlaces hsecond) h

theorem standsBefore_attemptPlaces {statement : Node} (h : statement.LaidOut)
    (hkind : statement.kind = .tryStatement) :
    (attemptPlaces statement).Pairwise StandsBefore := by
  obtain ⟨helse, hfinally, hclauses⟩ := h.attempts hkind
  simp only [attemptPlaces, List.pairwise_append, List.mem_append, Option.mem_toList]
  refine ⟨⟨pairwise_toList _ _, pairwise_toList _ _, ?_⟩, pairwise_toList _ _, ?_⟩
  · intro first hfirst second hsecond
    exact standsBefore_of_place? hfirst (inClause_of_lastClause? (.inl rfl) hsecond) helse
  · rintro first (hfirst | hfirst) second hsecond
    · exact standsBefore_of_place? hfirst (inClause_of_lastClause? (.inr rfl) hsecond) hfinally
    · exact (inClause_of_lastClause? (.inl rfl) hfirst).standsBefore
        (inClause_of_lastClause? (.inr rfl) hsecond) hclauses

/-- The blocks of a statement are gone through in the order of the source. -/
theorem standsBefore_innerPlaces? {statement : Node} {places : List Place}
    (h : statement.LaidOut) (hplaces : innerPlaces? settings source statement = some places) :
    places.Pairwise StandsBefore := by
  rw [innerPlaces?] at hplaces
  split at hplaces
  · rename_i hsort
    rw [← Option.some.inj hplaces]
    exact standsBefore_branchPlaces settings source (h.branches (Node.kind_of_statement hsort rfl))
  · rename_i hsort
    rw [← Option.some.inj hplaces]
    exact standsBefore_attemptPlaces h (Node.kind_of_statement hsort rfl)
  · cases hplaces

theorem standsBefore_ownStatements (block : Node) :
    block.ownStatements.Pairwise fun first second => TurnsBefore first.path second.path := by
  refine List.pairwise_map.2 (((pairwise_lt_zipIdx (withFollowing block.children)).filter _).imp ?_)
  intro first second hlt
  exact .here hlt [] []

theorem pairwise_pathsOf {statement : Node}
    (h : statement.LaidOut)
    (hblocks : ∀ places, innerPlaces? settings source statement = some places →
      ∀ place ∈ places, (leafPaths settings source place.node).Pairwise TurnsBefore) :
    (pathsOf settings source statement).Pairwise TurnsBefore := by
  rw [pathsOf]
  split
  · rename_i places hplaces
    refine List.pairwise_flatMap.2 ⟨fun place hplace => ?_, ?_⟩
    · exact List.pairwise_map.2 ((hblocks places hplaces place hplace).imp (.append_left _))
    · refine (standsBefore_innerPlaces? h hplaces).imp fun hbefore path hpath other hother => ?_
      obtain ⟨rest, _, rfl⟩ := List.mem_map.1 hpath
      obtain ⟨rest', _, rfl⟩ := List.mem_map.1 hother
      exact hbefore.append rest rest'
  · exact List.pairwise_singleton _ _

/-- The leaf statements of a block are in the order of the source. -/
theorem pairwise_leafPaths (settings : ExtractSettings) (source : Source) {block : Node}
    (h : ∀ node ∈ block.nodes, node.LaidOut) :
    (leafPaths settings source block).Pairwise TurnsBefore := by
  induction hsize : block.size using Nat.strongRecOn generalizing block with
  | ind size ih =>
    rw [leafPaths_eq]
    refine List.pairwise_flatMap.2 ⟨fun statement hstatement => ?_, ?_⟩
    · obtain ⟨position, _, hchild, _⟩ := exists_position_of_mem_ownStatements hstatement
      have hmem := Node.mem_nodes_of_mem_children (List.mem_of_getElem? hchild)
      refine List.pairwise_map.2 (List.Pairwise.imp (.append_left _)
        (pairwise_pathsOf (h _ hmem) fun places hplaces place hplace => ?_))
      have hinner := Node.mem_nodes_of_at? (inside_of_mem_innerPlaces? hplaces hplace).at?
      have hlt : place.node.size < size := hsize ▸ Nat.lt_trans
        (size_lt_of_innerPlaces? hplaces hplace) (size_lt_of_mem_ownStatements hstatement)
      refine ih _ hlt (fun node hnode => h node ?_) rfl
      exact Node.mem_nodes_trans hnode (Node.mem_nodes_trans hinner hmem)
    · refine (standsBefore_ownStatements block).imp fun hbefore path hpath other hother => ?_
      obtain ⟨rest, _, rfl⟩ := List.mem_map.1 hpath
      obtain ⟨rest', _, rfl⟩ := List.mem_map.1 hother
      exact hbefore.append rest rest'

/-- Of two leaf statements one stands before the other. -/
theorem turnsBefore_or_of_ne {block : Node} {first second : PlacedStatement}
    (h : ∀ node ∈ block.nodes, node.LaidOut)
    (hfirst : first ∈ leafStatements settings source block)
    (hsecond : second ∈ leafStatements settings source block) (hne : first ≠ second) :
    TurnsBefore first.path second.path ∨ TurnsBefore second.path first.path := by
  let related (first second : PlacedStatement) : Prop :=
    TurnsBefore first.path second.path ∨ TurnsBefore second.path first.path
  have hpaths := List.pairwise_map.1 (pairwise_leafPaths settings source h)
  have hrelated : (leafStatements settings source block).Pairwise related := hpaths.imp Or.inl
  have : Std.Symm related := ⟨fun _ _ => Or.symm⟩
  exact hrelated.forall hfirst hsecond hne

theorem turnsBefore_of_path_lt {block : Node} {first second : PlacedStatement}
    (h : ∀ node ∈ block.nodes, node.LaidOut)
    (hfirst : first ∈ leafStatements settings source block)
    (hsecond : second ∈ leafStatements settings source block) (hlt : first.path < second.path) :
    TurnsBefore first.path second.path := by
  have hne : first ≠ second := fun hsame => List.lt_irrefl _ (hsame ▸ hlt)
  rcases turnsBefore_or_of_ne h hfirst hsecond hne with hbefore | hafter
  · exact hbefore
  · exact absurd hafter.lt (List.lt_asymm hlt)

theorem at?_of_mem_leafStatements {block : Node} {leaf : PlacedStatement}
    (h : leaf ∈ leafStatements settings source block) : block.at? leaf.path = some leaf.node := by
  obtain ⟨path, position, parent, hpath, hparent, hchild, _⟩ := standsIn_of_mem_leafStatements h
  rw [hpath, Node.at?_append, hparent, Option.bind_some, Node.at?, hchild]
  rfl

theorem stop_le_start_of_leafStatements {block : Node} {first second : PlacedStatement}
    (h : ∀ node ∈ block.nodes, node.LaidOut)
    (hfirst : first ∈ leafStatements settings source block)
    (hsecond : second ∈ leafStatements settings source block)
    (hpaths : TurnsBefore first.path second.path) :
    first.node.label.stop ≤ second.node.label.start :=
  Node.stop_le_start_of_turnsBefore h hpaths (at?_of_mem_leafStatements hfirst)
    (at?_of_mem_leafStatements hsecond)

theorem path_lt_of_start_lt {block : Node} {first second : PlacedStatement}
    (h : ∀ node ∈ block.nodes, node.LaidOut)
    (hfirst : first ∈ leafStatements settings source block)
    (hsecond : second ∈ leafStatements settings source block)
    (hlt : first.node.label.start < second.node.label.start) : first.path < second.path := by
  have hne : first ≠ second := fun hsame => Nat.lt_irrefl _ (hsame ▸ hlt)
  rcases turnsBefore_or_of_ne h hfirst hsecond hne with hbefore | hafter
  · exact hbefore.lt
  · have hextent := (h _ (mem_nodes_of_mem_leafStatements hsecond)).extent
    have hstop := stop_le_start_of_leafStatements h hsecond hfirst hafter
    omega

end Extraction

/-! ## Diagnostics in the order of the source -/

/-- Some statements report to a sink in the order of the source: each on its own lines, and what is
before another one in the source is before it in the sink. -/
structure ReportsInOrder (source : Source) (leaves : List PlacedStatement)
    (group : PlacedStatement → List Diagnostic) (sink : List Diagnostic) : Prop where
  /-- Nothing else is in the sink. -/
  grouped : sink = leaves.flatMap group
  /-- A diagnostic stays inside its statement. -/
  inside : ∀ leaf ∈ leaves, ∀ diagnostic ∈ group leaf, diagnostic.sourceId = source.id ∧
    source.line leaf.node ≤ diagnostic.line ∧ diagnostic.line ≤ source.lastLine leaf.node
  /-- The order of paths is that of the source. -/
  positions : ∀ first ∈ leaves, ∀ second ∈ leaves,
    (first.node.label.start < second.node.label.start → first.path < second.path) ∧
    (first.path < second.path → first.node.label.stop ≤ second.node.label.start)
  /-- The diagnostics of an earlier statement come first. -/
  ordered : ∀ first ∈ leaves, ∀ second ∈ leaves, first.path < second.path →
    ∃ before between after, sink = before ++ group first ++ between ++ group second ++ after
  /-- No line of an earlier statement is after one of a later statement. -/
  lines : ∀ first ∈ leaves, ∀ second ∈ leaves, first.path < second.path →
    ∀ diagnostic ∈ group first, ∀ later ∈ group second, diagnostic.line ≤ later.line

namespace Extraction

variable {settings : ExtractSettings} {source : Source}

/-- Where the items of a list are in order, what an earlier one gives comes first. -/
theorem exists_flatMap_eq {related : α → α → Prop} {items : List α} (f : α → List β)
    (h : items.Pairwise related) {first second : α} (hfirst : first ∈ items)
    (hsecond : second ∈ items) (hne : first ≠ second) (hnot : ¬related second first) :
    ∃ before between after,
      items.flatMap f = before ++ f first ++ between ++ f second ++ after := by
  obtain ⟨front, back, rfl⟩ := List.append_of_mem hfirst
  have hback : second ∈ back := by
    have hcases : second ∈ front ∨ second = first ∨ second ∈ back := by simpa using hsecond
    rcases hcases with hfront | hsame | hback
    · exact absurd ((List.pairwise_append.1 h).2.2 second hfront first List.mem_cons_self) hnot
    · exact absurd hsame.symm hne
    · exact hback
  obtain ⟨between, after, rfl⟩ := List.append_of_mem hback
  exact ⟨front.flatMap f, between.flatMap f, after.flatMap f, by simp⟩

/-- The leaf statements of a block report in order, if each reports at its own nodes. -/
theorem reportsInOrder_of_foundIn (settings : ExtractSettings) {block : Node}
    (h : ∀ node ∈ block.nodes, node.LaidOut) {report : PlacedStatement → Report α}
    (hreport : ∀ leaf, (report leaf).FoundIn source leaf.node) :
    ReportsInOrder source (leafStatements settings source block)
      (fun leaf => (report leaf).findings.map (·.diagnostic source))
      ((leafStatements settings source block).flatMap fun leaf =>
        (report leaf).findings.map (·.diagnostic source)) := by
  have hinside : ∀ leaf ∈ leafStatements settings source block,
      ∀ diagnostic ∈ (report leaf).findings.map (·.diagnostic source),
        diagnostic.sourceId = source.id ∧ source.line leaf.node ≤ diagnostic.line ∧
          diagnostic.line ≤ source.lastLine leaf.node := by
    intro leaf hleaf diagnostic hdiagnostic
    obtain ⟨finding, hfinding, rfl⟩ := List.mem_map.1 hdiagnostic
    obtain ⟨node, hnode, hline⟩ := hreport leaf finding hfinding
    have hbelow : ∀ below ∈ leaf.node.nodes, below.LaidOut := fun below hbelow =>
      h below (Node.mem_nodes_trans hbelow (mem_nodes_of_mem_leafStatements hleaf))
    refine ⟨rfl, ?_⟩
    rw [Finding.diagnostic, hline]
    exact Node.line_of_mem_nodes source hbelow hnode
  constructor
  case grouped => rfl
  case inside => exact hinside
  case positions =>
    intro first hfirst second hsecond
    refine ⟨path_lt_of_start_lt h hfirst hsecond, fun hlt => ?_⟩
    exact stop_le_start_of_leafStatements h hfirst hsecond
      (turnsBefore_of_path_lt h hfirst hsecond hlt)
  case ordered =>
    intro first hfirst second hsecond hlt
    have hpaths := List.pairwise_map.1 (pairwise_leafPaths settings source h)
    refine exists_flatMap_eq _ hpaths hfirst hsecond ?_ ?_
    · exact fun hsame => List.lt_irrefl _ (hsame ▸ hlt)
    · exact fun hafter => List.lt_asymm hlt hafter.lt
  case lines =>
    intro first hfirst second hsecond hlt diagnostic hdiagnostic later hlater
    have hstop := stop_le_start_of_leafStatements h hfirst hsecond
      (turnsBefore_of_path_lt h hfirst hsecond hlt)
    calc diagnostic.line
      _ ≤ source.lastLine first.node := (hinside first hfirst _ hdiagnostic).2.2
      _ ≤ source.line second.node := Nat.succ_le_succ (Text.rowAt_mono _ hstop)
      _ ≤ later.line := (hinside second hsecond _ hlater).2.1

/-- What a member of a class reports. -/
def memberDiagnostics (source : Source) (leaf : PlacedStatement) : List Diagnostic :=
  (classStatement source leaf.node leaf.following).findings.map (·.diagnostic source)

theorem reportsInOrder_bodyLeaves (settings : ExtractSettings) (source : Source)
    {definition : Node} (h : ∀ node ∈ definition.nodes, node.LaidOut) :
    ReportsInOrder source (bodyLeaves settings source definition) (memberDiagnostics source)
      ((bodyLeaves settings source definition).flatMap (memberDiagnostics source)) := by
  rw [bodyLeaves]
  cases hbody : definition.child? .body with
  | none => constructor <;> simp
  | some block =>
    have hblock : ∀ node ∈ block.nodes, node.LaidOut := fun node hnode =>
      h node (Node.mem_nodes_trans hnode (Node.mem_nodes_of_child? hbody))
    exact reportsInOrder_of_foundIn settings hblock fun leaf =>
      foundIn_classStatement leaf.node leaf.following

theorem mem_nodes_of_classDefinition? {statement definition : Node}
    (h : classDefinition? statement = some definition) : definition ∈ statement.nodes := by
  unfold classDefinition? at h
  split at h
  · cases h
    exact statement.mem_nodes_self
  · exact Node.mem_nodes_of_child? (Option.eq_some_of_filter_eq_some h)
  · cases h

/-- What a class reports is about its header, or comes from the members. -/
theorem exists_header_of_classDefinition? {leaf : PlacedStatement} {definition : Node}
    (h : classDefinition? leaf.node = some definition) :
    ∃ header, (extractStatement settings source leaf).diagnostics =
      header ++ (bodyLeaves settings source definition).flatMap (memberDiagnostics source) := by
  cases moduleStatement_cases settings source leaf.node leaf.following with
  | plain _ hclass => cases hclass.symm.trans h
  | other _ hclass => cases hclass.symm.trans h
  | classStub decorators _ hclass heq =>
    cases hclass.symm.trans h
    refine ⟨(classHeader source definition decorators).findings.map (·.diagnostic source), ?_⟩
    rw [extractStatement, heq]
    simp [ofReport, classStub_eq, List.map_flatMap, List.flatMap_map]
    rfl

end Extraction

/-- Every diagnostic stays inside the statement that caused it, and the diagnostics of a statement
come before those of later ones, so that lines never go back from one statement to another.  The
same holds of the members of a class among what the class reports. -/
theorem diagnostics_inSourceOrder (settings : ExtractSettings) (source : Source) {root : Node}
    (h : ∀ node ∈ root.nodes, node.LaidOut) :
    ReportsInOrder source (leafStatements settings source root)
      (fun leaf => (extractStatement settings source leaf).diagnostics)
      (extract settings source root).diagnostics ∧
    ∀ leaf ∈ leafStatements settings source root, ∀ definition,
      classDefinition? leaf.node = some definition →
        ∃ header members, (extractStatement settings source leaf).diagnostics = header ++ members ∧
          ReportsInOrder source (bodyLeaves settings source definition) (memberDiagnostics source)
            members := by
  constructor
  · rw [(extract_joins settings source root).diagnostics, List.flatMap_map]
    exact reportsInOrder_of_foundIn settings h fun leaf =>
      foundIn_moduleStatement settings leaf.node leaf.following
  · intro leaf hleaf definition hclass
    obtain ⟨header, hdiagnostics⟩ := exists_header_of_classDefinition? hclass
    refine ⟨header, _, hdiagnostics, reportsInOrder_bodyLeaves settings source ?_⟩
    intro node hnode
    have hstatement := Node.mem_nodes_trans hnode (mem_nodes_of_classDefinition? hclass)
    exact h node (Node.mem_nodes_trans hstatement (mem_nodes_of_mem_leafStatements hleaf))

/-! A call in each branch of an `if` statement and in each block of a `try` statement in a class. -/

def callStatement (start : Nat) : Node :=
  .inner .expressionStatement none start (start + 3) [
    .inner .call none start (start + 3) [
      .inner .identifier none start (start + 1) [],
      .token "(" (start + 1) (start + 2),
      .token ")" (start + 2) (start + 3)]]

def callBranches : Node :=
  .inner .ifStatement none 0 27 [
    .token "if" 0 2,
    .inner .identifier (some .condition) 3 4 [],
    .token ":" 4 5,
    .inner .block (some .consequence) 10 13 [callStatement 10],
    .inner .elseClause (some .alternative) 14 27 [
      .token "else" 14 18,
      .token ":" 18 19,
      .inner .block (some .body) 24 27 [callStatement 24]]]

def callClass : Node :=
  .inner .classDefinition none 28 82 [
    .token "class" 28 33,
    .inner .identifier (some .name) 34 35 [],
    .token ":" 35 36,
    .inner .block (some .body) 41 82 [
      .inner .tryStatement none 41 82 [
        .token "try" 41 44,
        .token ":" 44 45,
        .inner .block (some .body) 54 57 [callStatement 54],
        .inner .finallyClause none 62 82 [
          .token "finally" 62 69,
          .token ":" 69 70,
          .inner .block none 79 82 [callStatement 79]]]]]

def callModule : Node :=
  .inner (.other "module") none 0 83 [callBranches, callClass]

def callSource : Source :=
  .ofText "calls.py" ("if a:\n    f()\nelse:\n    g()\n" ++
    "class A:\n    try:\n        h()\n    finally:\n        i()\n")

/-- The four calls are reported from the first to the last. -/
theorem callModule_diagnostics :
    (∀ node ∈ callModule.nodes, node.LaidOut) ∧
    (extract {} callSource callModule).diagnostics.map (·.line) = [2, 4, 7, 9] ∧
    ReportsInOrder callSource (leafStatements {} callSource callModule)
      (fun leaf => (extractStatement {} callSource leaf).diagnostics)
      (extract {} callSource callModule).diagnostics := by
  have hlaid : ∀ node ∈ callModule.nodes, node.LaidOut := by decide
  exact ⟨hlaid, by decide +kernel, (diagnostics_inSourceOrder {} callSource hlaid).1⟩

end InterfaceStub
