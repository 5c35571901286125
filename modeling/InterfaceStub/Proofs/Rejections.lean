import InterfaceStub.Proofs.OwnDefaults
import InterfaceStub.Proofs.TreeCursor

/-!
# Which trees are rejected, and where

A tree is accepted if it has no error and no missing token, no empty block and no parameter without
default after one with a default.  Otherwise it is rejected at the first node in document order that
is to blame, where errors and missing tokens go before the rest.

* Flaws and offences.  `IsFlaw`, `IsEmptyBlock` and `MisplacesRequired` say what is wrong with a
  node, and `ownFault?_eq_some_iff` that the last two are what is looked for.
* First places.  `IsFirst` is the first place of a sort in document order, and
  `findSome?_places_eq_some_iff` finds it in the list of all places.  It is enough to look at the
  places that are entered, if every node of the sort is among them.
* Searches.  The two searches of a tree are the searches of a cursor (`finds_firstFlaw?` and
  `finds_firstFault?`).  With exact marks nothing is lost by passing over a node without a mark.
-/

namespace InterfaceStub

open Syntax

namespace Syntax.Node

/-! ## Flaws and offences -/

/-- An error, or a token that is missing. -/
def IsFlaw (node : Node) : Prop :=
  node.label.error = true ∨ node.label.missing = true

instance : DecidablePred IsFlaw :=
  fun node => inferInstanceAs (Decidable (node.label.error = true ∨ node.label.missing = true))

/-- A node is marked exactly if it or a node below it is an error or missing. -/
def FlagsExact (root : Node) : Prop :=
  ∀ node ∈ root.nodes, node.label.hasError = true ↔ ∃ inner ∈ node.nodes, inner.IsFlaw

instance (root : Node) : Decidable root.FlagsExact :=
  inferInstanceAs (Decidable (∀ node ∈ root.nodes, _ ↔ ∃ inner ∈ node.nodes, _))

/-- A block without statements. -/
def IsEmptyBlock (node : Node) : Prop :=
  node.kind = .block ∧ ∀ child ∈ node.children, ¬child.isPart

/-- A parameter without default that takes one argument. -/
def IsRequiredParameter (node : Node) : Prop :=
  node.kind = .identifier ∨ node.kind = .tuplePattern ∨
    node.kind = .typedParameter ∧ ¬node.isSplat

/-- A `*`, or a parameter that takes any number of arguments. -/
def IsStar (node : Node) : Prop :=
  node.kind = .keywordSeparator ∨ node.isSplat

/-- A parameter without default comes after one with a default, and no star is before it. -/
def RequiredAfterDefault (parameters : List Node) : Prop :=
  ∃ before parameter after, parameters = before ++ parameter :: after ∧
    parameter.IsRequiredParameter ∧ (∃ earlier ∈ before, earlier.isDefaultParameter) ∧
    ∀ earlier ∈ before, ¬earlier.IsStar

/-- Parameters of a function or lambda among which one lacks its default. -/
def MisplacesRequired (node : Node) : Prop :=
  (node.kind = .parameters ∨ node.kind = .lambdaParameters) ∧ RequiredAfterDefault node.parts

/-- A node breaks one of the rules that the grammar leaves open. -/
def Offends (node : Node) : Prop :=
  node.IsEmptyBlock ∨ node.MisplacesRequired

/-- What the scan for a parameter without default does with one parameter. -/
theorem requiredAfterDefault_cons_iff {seen : Bool} {parameter : Node} {rest : List Node} :
    requiredAfterDefault seen (parameter :: rest) = true ↔ ¬parameter.IsStar ∧
      (seen = true ∧ parameter.IsRequiredParameter ∨
        requiredAfterDefault (seen || parameter.isDefaultParameter) rest = true) := by
  have hkinds (kind : Kind) (hkind : parameter.kind = kind)
      (hother : kind ≠ .defaultParameter ∧ kind ≠ .typedDefaultParameter) :
      parameter.isDefaultParameter = false := by
    simp [isDefaultParameter, hkind, hother]
  rw [requiredAfterDefault]
  split
  case h_1 hkind | h_2 hkind =>
    have hdefault : parameter.isDefaultParameter = true := by simp [isDefaultParameter, hkind]
    simp [IsStar, IsRequiredParameter, isSplat, isVariadic, hkind, hdefault]
  case h_3 hkind =>
    have hdefault := hkinds _ hkind (by decide)
    split
    · rename_i hvariadic
      simp [IsStar, isSplat, hkind, hvariadic]
    · rename_i hvariadic
      simp [IsStar, IsRequiredParameter, isSplat, isVariadic, hkind, hdefault, hvariadic]
  case h_4 hkind | h_5 hkind =>
    have hdefault := hkinds _ hkind (by decide)
    simp [IsStar, IsRequiredParameter, isSplat, isVariadic, hkind, hdefault]
  case h_6 hkind | h_7 hkind | h_8 hkind => simp [IsStar, isSplat, isVariadic, hkind]
  case h_9 hdefault htypedDefault htyped hidentifier htuple hseparator hlist hdictionary =>
    have hdefault := hkinds _ rfl ⟨hdefault, htypedDefault⟩
    have hrequired : ¬parameter.IsRequiredParameter := by
      rintro (hkind | hkind | ⟨hkind, -⟩)
      · exact hidentifier hkind
      · exact htuple hkind
      · exact htyped hkind
    have hstar : ¬parameter.IsStar := by
      simpa [IsStar, isSplat, isVariadic] using
        ⟨hseparator, ⟨hlist, hdictionary⟩, fun h => absurd h htyped⟩
    simp [hdefault, hrequired, hstar]

theorem IsRequiredParameter.not_isStar {parameter : Node} (h : parameter.IsRequiredParameter) :
    ¬parameter.IsStar := by
  rcases h with hkind | hkind | ⟨hkind, hsplat⟩
  · simp [IsStar, isSplat, isVariadic, hkind]
  · simp [IsStar, isSplat, isVariadic, hkind]
  · simp [IsStar, hkind, hsplat]

/-- The scan, when `seen` says that a default came before. -/
theorem requiredAfterDefault_iff {seen : Bool} {parameters : List Node} :
    requiredAfterDefault seen parameters = true ↔
      ∃ before parameter after, parameters = before ++ parameter :: after ∧
        parameter.IsRequiredParameter ∧
        (seen = true ∨ ∃ earlier ∈ before, earlier.isDefaultParameter) ∧
        ∀ earlier ∈ before, ¬earlier.IsStar := by
  induction parameters generalizing seen with
  | nil => simp [requiredAfterDefault]
  | cons first rest ih =>
    rw [requiredAfterDefault_cons_iff, ih]
    constructor
    · rintro ⟨hstar, ⟨hseen, hrequired⟩ |
        ⟨before, parameter, after, rfl, hrequired, hdefault, hstars⟩⟩
      · exact ⟨[], first, rest, rfl, hrequired, .inl hseen, by simp⟩
      · refine ⟨first :: before, parameter, after, rfl, hrequired, ?_, ?_⟩
        · simpa [or_assoc] using hdefault
        · simpa using ⟨hstar, hstars⟩
    · rintro ⟨before, parameter, after, hparameters, hrequired, hdefault, hstars⟩
      cases before with
      | nil =>
        obtain ⟨rfl, rfl⟩ := List.cons.inj hparameters
        exact ⟨hrequired.not_isStar, .inl ⟨by simpa using hdefault, hrequired⟩⟩
      | cons head before =>
        obtain ⟨rfl, rfl⟩ := List.cons.inj hparameters
        obtain ⟨hstar, hstars⟩ := List.forall_mem_cons.1 hstars
        refine ⟨hstar, .inr ⟨before, parameter, after, rfl, hrequired, ?_, hstars⟩⟩
        simpa [or_assoc] using hdefault

/-- What is found at a node that breaks a rule. -/
def offence (node : Node) : Fault :=
  if node.kind = .block then .emptyBlock else .requiredAfterDefault

theorem ownFault?_eq_some_iff {node : Node} {fault : Fault} :
    node.ownFault? = some fault ↔ node.Offends ∧ fault = node.offence := by
  have hrequired :
      requiredAfterDefault false node.parts = true ↔ RequiredAfterDefault node.parts := by
    simp [requiredAfterDefault_iff, RequiredAfterDefault]
  have hblock : node.parts.isEmpty = true ↔ ∀ child ∈ node.children, ¬child.isPart := by
    simp [parts, List.filter_eq_nil_iff]
  rw [ownFault?, Offends, IsEmptyBlock, MisplacesRequired, ← hrequired, ← hblock, offence]
  split
  case h_1 hkind | h_2 hkind | h_3 hkind => simp [hkind, @eq_comm _ fault]
  case h_4 hkind hparameters hlambda =>
    constructor
    · intro hnone
      cases hnone
    · rintro ⟨⟨hsame, -⟩ | ⟨hsame | hsame, -⟩, -⟩
      · exact absurd hsame hkind
      · exact absurd hsame hparameters
      · exact absurd hsame hlambda

/-! ## First places -/

/-- The first place in document order whose node is of some sort. -/
structure IsFirst (root : Node) (wanted : Node → Prop) (place : Place) : Prop where
  stands : root.at? place.path = some place.node
  holds : wanted place.node
  first : ∀ earlier : Place, root.at? earlier.path = some earlier.node →
    earlier.path < place.path → ¬wanted earlier.node

theorem mem_nodes_iff_exists_at? {root inner : Node} :
    inner ∈ root.nodes ↔ ∃ path, root.at? path = some inner := by
  constructor
  · intro h
    rw [← map_node_places] at h
    obtain ⟨place, hplace, rfl⟩ := List.mem_map.1 h
    exact ⟨place.path, (mem_places_iff.1 hplace).1⟩
  · rintro ⟨path, hpath⟩
    exact mem_nodes_of_at? hpath

section

variable {enter : Node → Bool} {found : Node → Option α} {root : Node}

theorem findSome?_places_eq_some_iff
    (h : ∀ path node, root.at? path = some node → (found node).isSome → root.EntersTo enter path)
    {result : α} :
    ((root.places enter).findSome? fun place => found place.node) = some result ↔
      ∃ place, root.IsFirst (fun node => (found node).isSome) place ∧
        found place.node = some result := by
  have hpairwise := pairwise_places enter root
  constructor
  · intro hfind
    obtain ⟨before, place, after, hplaces, hresult, hbefore⟩ := List.findSome?_eq_some_iff.1 hfind
    rw [hplaces] at hpairwise
    obtain ⟨_, hafter, -⟩ := List.pairwise_append.1 hpairwise
    have hmem : place ∈ root.places enter := by simp [hplaces]
    refine ⟨place, ⟨(mem_places_iff.1 hmem).1, by simp [hresult], ?_⟩, hresult⟩
    intro earlier hearlier hlt hsome
    have hvisited := mem_places_iff.2 ⟨hearlier, h _ _ hearlier hsome⟩
    rw [hplaces, List.mem_append, List.mem_cons] at hvisited
    rcases hvisited with hvisited | rfl | hvisited
    · simp [hbefore earlier hvisited] at hsome
    · exact List.lt_irrefl _ hlt
    · exact List.lt_asymm hlt ((List.pairwise_cons.1 hafter).1 earlier hvisited)
  · rintro ⟨place, hfirst, hresult⟩
    have hmem := mem_places_iff.2 ⟨hfirst.stands, h _ _ hfirst.stands hfirst.holds⟩
    obtain ⟨before, after, hplaces⟩ := List.append_of_mem hmem
    refine List.findSome?_eq_some_iff.2 ⟨before, place, after, hplaces, hresult, ?_⟩
    intro earlier hearlier
    have hvisited : earlier ∈ root.places enter := by simp [hplaces, hearlier]
    rw [hplaces] at hpairwise
    have hlt := (List.pairwise_append.1 hpairwise).2.2 earlier hearlier place List.mem_cons_self
    exact Option.not_isSome_iff_eq_none.1 (hfirst.first earlier (mem_places_iff.1 hvisited).1 hlt)

theorem findSome?_places_eq_none_iff
    (h : ∀ path node, root.at? path = some node → (found node).isSome → root.EntersTo enter path) :
    ((root.places enter).findSome? fun place => found place.node) = none ↔
      ∀ node ∈ root.nodes, found node = none := by
  rw [List.findSome?_eq_none_iff]
  constructor
  · intro hnone node hnode
    obtain ⟨path, hpath⟩ := mem_nodes_iff_exists_at?.1 hnode
    by_contra hsome
    have hpass := h path node hpath (Option.isSome_iff_ne_none.2 hsome)
    exact hsome (hnone ⟨path, node⟩ (mem_places_iff.2 ⟨hpath, hpass⟩))
  · intro hnone place hplace
    exact hnone place.node (mem_nodes_of_at? (mem_places_iff.1 hplace).1)

/-- Where every node is entered, every place is passed. -/
theorem entersTo_of_forall (path : List Nat) : root.EntersTo (fun _ => true) path :=
  fun _ _ _ _ _ => rfl

/-- A search that goes down a tree looks at its places in document order. -/
theorem eq_findSome?_places {search : Node → Option α} (among : List Node → Option α)
    (hnode : ∀ node, search node =
      (found node).or (if enter node then among node.children else none))
    (hnil : among [] = none)
    (hcons : ∀ node nodes, among (node :: nodes) = (search node).or (among nodes)) (node : Node) :
    search node = (node.places enter).findSome? fun place => found place.node := by
  induction hsize : node.size using Nat.strongRecOn generalizing node with
  | ind size ih =>
    have hamong (nodes : List Node) (hnodes : ∀ inner ∈ nodes, inner.size < size)
        (position : Nat) :
        among nodes =
          (placesAmong enter position nodes).findSome? fun place => found place.node := by
      induction nodes generalizing position with
      | nil => simp [hnil, placesAmong]
      | cons inner nodes ihrest =>
        obtain ⟨hinner, hrest⟩ := List.forall_mem_cons.1 hnodes
        rw [hcons, placesAmong, List.findSome?_append, List.findSome?_map, ih _ hinner inner rfl,
          ihrest hrest (position + 1)]
        rfl
    rw [hnode, places_eq, List.findSome?_cons]
    have hchildren := hamong node.children
      (fun inner hinner => hsize ▸ size_lt_of_mem_children hinner) 0
    cases found node with
    | some result => rfl
    | none =>
      split
      · exact hchildren
      · rfl

end

/-! ## The two searches -/

/-- The node itself, if it is an error or missing. -/
def flaw? (node : Node) : Option Node :=
  if node.label.error || node.label.missing then some node else none

/-- The rejection of a tree at a node that breaks a rule. -/
def offence? (node : Node) : Option Rejection :=
  node.ownFault?.map fun fault => ⟨node, fault⟩

theorem isSome_flaw? : (fun node : Node => node.flaw?.isSome = true) = IsFlaw := by
  funext node
  simp [flaw?, IsFlaw]

theorem isSome_offence? : (fun node : Node => node.offence?.isSome = true) = Offends := by
  funext node
  simp [offence?, Option.isSome_iff_exists, ownFault?_eq_some_iff]

theorem flaw?_eq_some_iff {node result : Node} :
    node.flaw? = some result ↔ node.IsFlaw ∧ result = node := by
  simp [flaw?, IsFlaw, @eq_comm _ node result]

theorem offence?_eq_some_iff {node : Node} {rejection : Rejection} :
    node.offence? = some rejection ↔ node.Offends ∧ rejection = ⟨node, node.offence⟩ := by
  simp [offence?, ownFault?_eq_some_iff, and_assoc, @eq_comm _ _ rejection]

theorem firstFlaw?_eq_findSome? (root : Node) :
    root.firstFlaw? =
      (root.places (·.label.hasError)).findSome? fun place => place.node.flaw? := by
  refine eq_findSome?_places firstFlawAmong? ?_ rfl (fun _ _ => rfl) root
  intro node
  cases node with
  | mk label children =>
    rw [firstFlaw?, flaw?, Node.label]
    cases label.error || label.missing <;> rfl

theorem firstFault?_eq_findSome? (root : Node) :
    root.firstFault? = (root.places fun _ => true).findSome? fun place => place.node.offence? := by
  refine eq_findSome?_places firstFaultAmong? ?_ rfl (fun _ _ => rfl) root
  intro node
  cases node with
  | mk label children =>
    rw [firstFault?, offence?]
    cases ownFault? (mk label children) <;> rfl

/-- With exact marks every error and missing token is below marked nodes only. -/
theorem FlagsExact.entersTo {root : Node} (h : root.FlagsExact) (path : List Nat) (node : Node)
    (hnode : root.at? path = some node) (hflaw : node.flaw?.isSome) :
    root.EntersTo (·.label.hasError) path := by
  intro front above hfront _ habove
  obtain ⟨rest, rfl⟩ := hfront
  rw [at?_append, habove, Option.bind_some] at hnode
  have hinner : node.IsFlaw := isSome_flaw? ▸ hflaw
  exact (h above (mem_nodes_of_at? habove)).2 ⟨node, mem_nodes_of_at? hnode, hinner⟩

/-- With exact marks nothing is lost where a node without a mark is passed over. -/
theorem FlagsExact.firstFlaw?_eq {root : Node} (h : root.FlagsExact) :
    root.firstFlaw? = (root.places fun _ => true).findSome? fun place => place.node.flaw? := by
  ext node
  rw [firstFlaw?_eq_findSome?, findSome?_places_eq_some_iff h.entersTo,
    findSome?_places_eq_some_iff fun path _ _ _ => entersTo_of_forall path]

/-- With exact marks the first error or missing token in document order is found, if any. -/
theorem firstFlaw?_eq_some_iff {root node : Node} (h : root.FlagsExact) :
    root.firstFlaw? = some node ↔ ∃ place, root.IsFirst IsFlaw place ∧ place.node = node := by
  rw [firstFlaw?_eq_findSome?, findSome?_places_eq_some_iff h.entersTo, isSome_flaw?]
  constructor
  · rintro ⟨place, hfirst, hflaw⟩
    exact ⟨place, hfirst, (flaw?_eq_some_iff.1 hflaw).2.symm⟩
  · rintro ⟨place, hfirst, rfl⟩
    exact ⟨place, hfirst, flaw?_eq_some_iff.2 ⟨hfirst.holds, rfl⟩⟩

theorem firstFlaw?_eq_none_iff {root : Node} (h : root.FlagsExact) :
    root.firstFlaw? = none ↔ ∀ node ∈ root.nodes, ¬node.IsFlaw := by
  rw [firstFlaw?_eq_findSome?, findSome?_places_eq_none_iff h.entersTo]
  simp [flaw?, IsFlaw]

theorem firstFault?_eq_some_iff {root : Node} {rejection : Rejection} :
    root.firstFault? = some rejection ↔
      ∃ place, root.IsFirst Offends place ∧ rejection = ⟨place.node, place.node.offence⟩ := by
  rw [firstFault?_eq_findSome?,
    findSome?_places_eq_some_iff fun path _ _ _ => entersTo_of_forall path, isSome_offence?]
  constructor
  · rintro ⟨place, hfirst, hoffence⟩
    exact ⟨place, hfirst, (offence?_eq_some_iff.1 hoffence).2⟩
  · rintro ⟨place, hfirst, rfl⟩
    exact ⟨place, hfirst, offence?_eq_some_iff.2 ⟨hfirst.holds, rfl⟩⟩

theorem firstFault?_eq_none_iff {root : Node} :
    root.firstFault? = none ↔ ∀ node ∈ root.nodes, ¬node.Offends := by
  rw [firstFault?_eq_findSome?,
    findSome?_places_eq_none_iff fun path _ _ _ => entersTo_of_forall path]
  have hnone (node : Node) : node.offence? = none ↔ ¬node.Offends := by
    simp [Option.eq_none_iff_forall_ne_some, offence?_eq_some_iff]
  simp only [hnone]

/-- With exact marks the root is marked exactly if something is found below it. -/
theorem FlagsExact.hasError_iff {root : Node} (h : root.FlagsExact) :
    root.label.hasError = true ↔ ∃ node, root.firstFlaw? = some node := by
  rw [h root root.mem_nodes_self, ← Option.ne_none_iff_exists', ne_eq, firstFlaw?_eq_none_iff h]
  simp

/-- What is wrong with an error or a missing token. -/
def flawFault (node : Node) : Fault :=
  if node.label.missing then .missing node.kind else .invalid

theorem rejection?_eq_some_iff {root : Node} {rejection : Rejection} (h : root.FlagsExact) :
    root.rejection? = some rejection ↔
      (∃ place, root.IsFirst IsFlaw place ∧ rejection = ⟨place.node, place.node.flawFault⟩) ∨
      (∀ node ∈ root.nodes, ¬node.IsFlaw) ∧
        ∃ place, root.IsFirst Offends place ∧ rejection = ⟨place.node, place.node.offence⟩ := by
  rw [rejection?, ← firstFlaw?_eq_none_iff h, ← firstFault?_eq_some_iff]
  cases hflaw : root.firstFlaw? with
  | some node =>
    rw [if_pos (h.hasError_iff.2 ⟨node, hflaw⟩)]
    constructor
    · intro hrejection
      obtain ⟨place, hfirst, rfl⟩ := (firstFlaw?_eq_some_iff h).1 hflaw
      exact .inl ⟨place, hfirst, (Option.some.inj hrejection).symm⟩
    · rintro (⟨place, hfirst, rfl⟩ | ⟨hnone, -⟩)
      · have hsame := (firstFlaw?_eq_some_iff h).2 ⟨place, hfirst, rfl⟩
        obtain rfl : node = place.node := Option.some.inj (hflaw.symm.trans hsame)
        rfl
      · cases hnone
  | none =>
    have hunmarked : ¬root.label.hasError = true := by simp [h.hasError_iff, hflaw]
    have hnot (place : Place) : ¬root.IsFirst IsFlaw place := fun hfirst =>
      (firstFlaw?_eq_none_iff h).1 hflaw _ (mem_nodes_of_at? hfirst.stands) hfirst.holds
    simp [hunmarked, hnot]

theorem rejection?_eq_none_iff {root : Node} (h : root.FlagsExact) :
    root.rejection? = none ↔
      ∀ node ∈ root.nodes, ¬node.IsFlaw ∧ ¬node.IsEmptyBlock ∧ ¬node.MisplacesRequired := by
  have hoffends (node : Node) :
      (¬node.IsEmptyBlock ∧ ¬node.MisplacesRequired) ↔ ¬node.Offends := not_or.symm
  simp only [hoffends, forall_and, ← firstFlaw?_eq_none_iff h, ← firstFault?_eq_none_iff]
  rw [rejection?]
  cases hflaw : root.firstFlaw? with
  | some node => simp [h.hasError_iff, hflaw]
  | none =>
    have hunmarked : ¬root.label.hasError = true := by simp [h.hasError_iff, hflaw]
    simp [hunmarked]

end Syntax.Node

/-! ## Acceptance -/

theorem Syntax.Source.check_eq_ok_iff {source : Source} {root : Node} :
    source.check root = .ok () ↔ root.rejection? = none := by
  rw [Source.check]
  cases root.rejection? <;> simp

theorem Syntax.Source.check_eq_error_iff {source : Source} {root : Node} {error : ParseError} :
    source.check root = .error error ↔
      ∃ rejection, root.rejection? = some rejection ∧ source.parseError rejection = error := by
  rw [Source.check]
  cases root.rejection? <;> simp

theorem Syntax.Source.parseError_flaw (source : Source) (node : Node) :
    source.parseError ⟨node, node.flawFault⟩ =
      .rejected source.id (source.line node) (source.column node)
        (if node.label.missing then "missing '" ++ node.kind.spelling ++ "'"
        else "invalid syntax") := by
  rw [Source.parseError, Node.flawFault]
  split <;> rfl

theorem Syntax.Source.parseError_offence (source : Source) (node : Node) :
    source.parseError ⟨node, node.offence⟩ =
      .rejected source.id (source.line node) (source.column node)
        (if node.kind = .block then "expected an indented block"
        else "non-default argument follows default argument") := by
  rw [Source.parseError, Node.offence]
  split <;> rfl

namespace Syntax.Cursor

/-- The search of a cursor from the root has this result, and goes over the tree in document order
without coming to a place twice. -/
structure Finds (enter : Node → Bool) (found : Node → Option α) (root : Node)
    (result : Option α) : Prop where
  result : ((start root).search enter found).2 = result
  sweeps : Sweeps enter root ((start root).search enter found).1

theorem finds_of_eq {enter : Node → Bool} {found : Node → Option α} {root : Node}
    {result : Option α}
    (h : result = (root.places enter).findSome? fun place => found place.node) :
    Finds enter found root result where
  result := by rw [result_search, pendingPlaces_start, h]
  sweeps := sweeps_search root

end Syntax.Cursor

/-- If marks are exact, a tree is accepted exactly if no node is an error, missing, an empty block
or a list of parameters with a default in the wrong place.  Otherwise it is rejected at the first
error or missing token, or if there is none at the first node that breaks a rule.  The search for
the first error finds the same with marks and without, and finds something if the root is marked;
both searches are those of a cursor that goes over the tree in document order. -/
theorem check_of_flagsExact (source : Source) {root : Node} (h : root.FlagsExact) :
    (source.check root = .ok () ↔
      ∀ node ∈ root.nodes, ¬node.IsFlaw ∧ ¬node.IsEmptyBlock ∧ ¬node.MisplacesRequired) ∧
    (∀ error, source.check root = .error error ↔
      (∃ place, root.IsFirst Node.IsFlaw place ∧
        error = .rejected source.id (source.line place.node) (source.column place.node)
          (if place.node.label.missing then "missing '" ++ place.node.kind.spelling ++ "'"
          else "invalid syntax")) ∨
      (∀ node ∈ root.nodes, ¬node.IsFlaw) ∧
        ∃ place, root.IsFirst Node.Offends place ∧
          error = .rejected source.id (source.line place.node) (source.column place.node)
            (if place.node.kind = .block then "expected an indented block"
            else "non-default argument follows default argument")) ∧
    (root.label.hasError = true → root.firstFlaw?.isSome) ∧
    Cursor.Finds (·.label.hasError) Node.flaw? root root.firstFlaw? ∧
    Cursor.Finds (fun _ => true) Node.flaw? root root.firstFlaw? ∧
    Cursor.Finds (fun _ => true) Node.offence? root root.firstFault? := by
  refine ⟨?_, fun error => ?_, ?_, ?_, ?_, ?_⟩
  · rw [Source.check_eq_ok_iff, Node.rejection?_eq_none_iff h]
  · rw [Source.check_eq_error_iff]
    simp only [Node.rejection?_eq_some_iff h, ← Source.parseError_flaw, ← Source.parseError_offence]
    constructor
    · rintro ⟨rejection, ⟨place, hfirst, rfl⟩ | ⟨hflaws, place, hfirst, rfl⟩, rfl⟩
      · exact .inl ⟨place, hfirst, rfl⟩
      · exact .inr ⟨hflaws, place, hfirst, rfl⟩
    · rintro (⟨place, hfirst, rfl⟩ | ⟨hflaws, place, hfirst, rfl⟩)
      · exact ⟨_, .inl ⟨place, hfirst, rfl⟩, rfl⟩
      · exact ⟨_, .inr ⟨hflaws, place, hfirst, rfl⟩, rfl⟩
  · intro hmarked
    exact Option.isSome_iff_exists.2 (h.hasError_iff.1 hmarked)
  · exact Cursor.finds_of_eq (Node.firstFlaw?_eq_findSome? root)
  · exact Cursor.finds_of_eq h.firstFlaw?_eq
  · exact Cursor.finds_of_eq (Node.firstFault?_eq_findSome? root)

/-! The text `x = (1`, where a parenthesis is missing. -/

/-- A node with something missing below it. -/
def markedNode (kind : Kind) (field : Option Field) (start stop : Nat) (children : List Node) :
    Node :=
  .mk { kind, named := true, hasError := true, field, start, stop } children

def missingParenthesis : Node :=
  .mk { kind := .other ")", missing := true, hasError := true, start := 6, stop := 6 } []

def unclosedModule : Node :=
  markedNode (.other "module") none 0 7 [
    markedNode .expressionStatement none 0 6 [
      markedNode .assignment none 0 6 [
        .inner .identifier (some .left) 0 1 [],
        .token "=" 2 3,
        markedNode .parenthesizedExpression (some .right) 4 6 [
          .token "(" 4 5,
          .inner .integer none 5 6 [],
          missingParenthesis]]]]

def unclosedSource : Source :=
  .ofText "unclosed.py" "x = (1\n"

/-- The tree is rejected where the parenthesis should be. -/
theorem unclosedModule_rejected :
    unclosedModule.FlagsExact ∧
    unclosedSource.check unclosedModule = .error (.rejected "unclosed.py" 1 7 "missing ')'") ∧
    ∃ place, unclosedModule.IsFirst Node.IsFlaw place ∧
      unclosedSource.line place.node = 1 ∧ unclosedSource.column place.node = 7 := by
  have hexact : unclosedModule.FlagsExact := by decide
  have hrejected : unclosedSource.check unclosedModule =
      .error (.rejected "unclosed.py" 1 7 "missing ')'") := by decide +kernel
  refine ⟨hexact, hrejected, ?_⟩
  rcases ((check_of_flagsExact unclosedSource hexact).2.1 _).1 hrejected with
    ⟨place, hfirst, herror⟩ | ⟨hflaws, -⟩
  · injection herror with _ hline hcolumn
    exact ⟨place, hfirst, hline.symm, hcolumn.symm⟩
  · exact absurd hflaws (by decide)

end InterfaceStub
