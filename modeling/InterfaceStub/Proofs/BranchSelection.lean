import InterfaceStub.Extraction.Guard
import InterfaceStub.Proofs.TreeExistence
import InterfaceStub.Proofs.TreeNodes
import Mathlib.Data.List.Forall2

/-!
# The branches that a type checker may reach

An `if` statement with its `elif` and `else` clauses is a chain of conditions with blocks.  A type
checker takes a configured name for true and its negation for false, and knows nothing of any other
condition.  The blocks that are kept are those it may come to.

* Conditions.  `IsGuard` and `IsNegatedGuard` are the two sorts of condition with a known value, and
  `guardOf` tells them apart from the rest.
* Values.  `Allows` says which values a condition may have, and `executed` which block runs when the
  conditions have given values.  `Reachable` puts these together, and `reachable_iff` decides it.
* Chains.  `ChainAt` reads the chain of a statement off its tree.  One clause more is one step of
  `keptBlocks_cons`, and `branchBlocks_eq_reachable` is the result for the whole chain.
-/

namespace InterfaceStub

open Syntax Extraction

namespace Extraction

variable {settings : ExtractSettings} {source : Source}

/-! ## Conditions -/

/-- The condition is a configured name, in parentheses or not. -/
def IsGuard (settings : ExtractSettings) (source : Source) (condition : Node) : Prop :=
  condition.unwrapped.isName ∧ source.text condition.unwrapped ∈ settings.typeCheckingNames

/-- The condition is `not` and a configured name. -/
def IsNegatedGuard (settings : ExtractSettings) (source : Source) (condition : Node) : Prop :=
  condition.unwrapped.kind = .notOperator ∧
    ∃ argument ∈ condition.unwrapped.child? .argument, IsGuard settings source argument

instance (condition : Node) : Decidable (IsGuard settings source condition) :=
  inferInstanceAs (Decidable (_ ∧ _))

instance (condition : Node) : Decidable (IsNegatedGuard settings source condition) :=
  inferInstanceAs (Decidable (_ ∧ _))

theorem isCheckerName_iff {node : Node} :
    isCheckerName settings source node ↔ IsGuard settings source node := by
  simp [isCheckerName, IsGuard, Source.shapeOf_eq_name_iff, ExtractSettings.isGuardName]

theorem not_isNegatedGuard_of_isGuard {condition : Node} (h : IsGuard settings source condition) :
    ¬IsNegatedGuard settings source condition := by
  rintro ⟨hkind, _⟩
  simp [IsGuard, Node.isName, hkind] at h

theorem guardOf_eq_typeChecking_iff {condition : Node} :
    guardOf settings source condition = .typeChecking ↔ IsGuard settings source condition := by
  rw [guardOf, ← isCheckerName_iff]
  split
  · split <;> simp_all
  · rename_i hshape
    have hname : isCheckerName settings source condition = false := by
      simp [isCheckerName, hshape]
    split <;> simp [hname]
  · rename_i hother _
    have hshape : source.shapeOf condition ≠ .name := hother
    simp [isCheckerName, hshape]

theorem guardOf_eq_notTypeChecking_iff {condition : Node} :
    guardOf settings source condition = .notTypeChecking ↔
      IsNegatedGuard settings source condition := by
  have hshape : source.shapeOf condition = .negation ↔
      condition.unwrapped.kind = .notOperator := by
    rw [Source.shapeOf_eq_iff (by decide)]
    simp [Shape.kinds]
  have hargument : (condition.unwrapped.child? .argument).any (isCheckerName settings source) ↔
      ∃ argument ∈ condition.unwrapped.child? .argument, IsGuard settings source argument := by
    simp [Option.any_eq_true, isCheckerName_iff]
  rw [guardOf, IsNegatedGuard, ← hshape, ← hargument]
  split
  · rename_i hname
    split <;> simp [hname]
  · rename_i hnegation
    split <;> simp_all
  · rename_i hother
    have hpositive : source.shapeOf condition ≠ .negation := hother
    simp [hpositive]

/-! ## Values of conditions -/

/-- The values that a condition may have: a configured name is true and its negation is false. -/
def Allows (settings : ExtractSettings) (source : Source) (condition : Node) (value : Bool) :
    Prop :=
  (IsGuard settings source condition → value = true) ∧
    (IsNegatedGuard settings source condition → value = false)

/-- The position of the block that runs when the conditions of a chain have these values: that of
the first condition that is true.  When none is, it is the block after the last condition. -/
def executed (values : List Bool) : Nat :=
  values.findIdx id

/-- A block that runs for some values which the conditions may have, each of its own. -/
def Reachable (settings : ExtractSettings) (source : Source) (conditions : List Node)
    (position : Nat) : Prop :=
  ∃ values, List.Forall₂ (Allows settings source) conditions values ∧ executed values = position

theorem exists_allows (settings : ExtractSettings) (source : Source) (conditions : List Node) :
    ∃ values, List.Forall₂ (Allows settings source) conditions values := by
  refine ⟨conditions.map fun condition => decide (IsGuard settings source condition), ?_⟩
  rw [List.forall₂_map_right_iff, List.forall₂_same]
  intro condition _
  constructor
  · exact decide_eq_true
  · intro hnegated
    exact decide_eq_false fun hguard => not_isNegatedGuard_of_isGuard hguard hnegated

theorem reachable_nil {position : Nat} : Reachable settings source [] position ↔ position = 0 := by
  constructor
  · rintro ⟨values, hvalues, rfl⟩
    cases hvalues
    rfl
  · rintro rfl
    exact ⟨[], .nil, rfl⟩

/-- The first block runs when its condition is true. -/
theorem reachable_cons_zero {condition : Node} {conditions : List Node} :
    Reachable settings source (condition :: conditions) 0 ↔
      ¬IsNegatedGuard settings source condition := by
  constructor
  · rintro ⟨values, hvalues, hzero⟩ hnegated
    obtain ⟨value, rest, hvalue, _, rfl⟩ := List.forall₂_cons_left_iff.1 hvalues
    simp [executed, List.findIdx_cons, hvalue.2 hnegated] at hzero
  · intro hpositive
    obtain ⟨rest, hrest⟩ := exists_allows settings source conditions
    exact ⟨true :: rest, .cons ⟨fun _ => rfl, fun hnegated => absurd hnegated hpositive⟩ hrest, rfl⟩

/-- A later block runs when the first condition is false. -/
theorem reachable_cons_succ {condition : Node} {conditions : List Node} {position : Nat} :
    Reachable settings source (condition :: conditions) (position + 1) ↔
      ¬IsGuard settings source condition ∧ Reachable settings source conditions position := by
  constructor
  · rintro ⟨values, hvalues, hposition⟩
    obtain ⟨value, rest, hvalue, hrest, rfl⟩ := List.forall₂_cons_left_iff.1 hvalues
    cases value with
    | true => simp [executed, List.findIdx_cons] at hposition
    | false =>
      have hlater : executed rest + 1 = position + 1 := by
        simpa [executed, List.findIdx_cons] using hposition
      exact ⟨fun hguard => by simpa using hvalue.1 hguard, rest, hrest, by omega⟩
  · rintro ⟨hunguarded, rest, hrest, rfl⟩
    refine ⟨false :: rest, .cons ⟨fun hguard => absurd hguard hunguarded, fun _ => rfl⟩ hrest, ?_⟩
    simp [executed, List.findIdx_cons]

/-- A block may run when no condition before it is a configured name, and its own is not the
negation of one. -/
theorem reachable_iff {conditions : List Node} {position : Nat} :
    Reachable settings source conditions position ↔
      position ≤ conditions.length ∧
        (∀ earlier ∈ conditions.take position, ¬IsGuard settings source earlier) ∧
        ∀ own ∈ conditions[position]?, ¬IsNegatedGuard settings source own := by
  induction conditions generalizing position with
  | nil =>
    rw [reachable_nil]
    simp
  | cons condition conditions ih =>
    cases position with
    | zero =>
      rw [reachable_cons_zero]
      simp
    | succ position =>
      rw [reachable_cons_succ, ih]
      simp only [List.length_cons, Nat.add_le_add_iff_right, List.take_succ_cons,
        List.forall_mem_cons, List.getElem?_cons_succ]
      tauto

instance (conditions : List Node) : DecidablePred (Reachable settings source conditions) :=
  fun _ => decidable_of_iff _ reachable_iff.symm

/-- The blocks of a chain that may run. -/
def keptBlocks (settings : ExtractSettings) (source : Source) (conditions blocks : List Node) :
    List Node :=
  (blocks.zipIdx.filter fun block => Reachable settings source conditions block.2).map Prod.fst

theorem keptBlocks_cons (condition block : Node) (conditions blocks : List Node) :
    keptBlocks settings source (condition :: conditions) (block :: blocks) =
      (guardOf settings source condition).choose (some block)
        (keptBlocks settings source conditions blocks) := by
  have hlater : ((blocks.zipIdx 1).filter fun block =>
        Reachable settings source (condition :: conditions) block.2).map Prod.fst =
      if IsGuard settings source condition then []
      else keptBlocks settings source conditions blocks := by
    rw [List.zipIdx_succ, List.filter_map, List.map_map]
    simp only [Function.comp_def, reachable_cons_succ]
    split
    · rename_i hguard
      simp [hguard]
    · rename_i hguard
      simp [hguard, keptBlocks]
  rw [keptBlocks, List.zipIdx_cons, List.filter_cons]
  simp only [reachable_cons_zero, Nat.zero_add, decide_not]
  cases hguard : guardOf settings source condition with
  | typeChecking =>
    have hknown := guardOf_eq_typeChecking_iff.1 hguard
    simp [hlater, hknown, not_isNegatedGuard_of_isGuard hknown, Guard.choose]
  | notTypeChecking =>
    have hknown := guardOf_eq_notTypeChecking_iff.1 hguard
    have hunguarded : ¬IsGuard settings source condition :=
      fun hother => not_isNegatedGuard_of_isGuard hother hknown
    simp [hlater, hknown, hunguarded, Guard.choose]
  | unknown =>
    have hunguarded : ¬IsGuard settings source condition := by
      simp [← guardOf_eq_typeChecking_iff, hguard]
    have hpositive : ¬IsNegatedGuard settings source condition := by
      simp [← guardOf_eq_notTypeChecking_iff, hguard]
    simp [hlater, hunguarded, hpositive, Guard.choose]

/-! ## Chains -/

/-- A condition and the block under it. -/
structure Arm where
  condition : Node
  block : Node

/-- The arm of an `if` statement or `elif` clause. -/
structure ArmAt (clause : Node) (arm : Arm) : Prop where
  condition : clause.child? .condition = some arm.condition
  block : clause.child? .consequence = some arm.block

/-- The clauses after the first arm: some `elif` clauses, and perhaps an `else` clause. -/
inductive AlternativesAt : (clauses : List Node) → List Arm → Option Node → Prop where
  | nil : AlternativesAt [] [] none
  | otherwise {clause block : Node} (hkind : clause.kind = .elseClause)
      (hblock : clause.child? .body = some block) : AlternativesAt [clause] [] (some block)
  | elif {clause : Node} {clauses : List Node} {arm : Arm} {arms : List Arm} {orElse : Option Node}
      (hkind : clause.kind = .elifClause) (harm : ArmAt clause arm)
      (hrest : AlternativesAt clauses arms orElse) :
      AlternativesAt (clause :: clauses) (arm :: arms) orElse

/-- The arms of an `if` statement in order, and the block for when no condition is true. -/
structure Chain where
  arms : List Arm
  orElse : Option Node

namespace Chain

def conditions (chain : Chain) : List Node :=
  chain.arms.map Arm.condition

/-- The blocks in order, the one under `else` last. -/
def blocks (chain : Chain) : List Node :=
  chain.arms.map Arm.block ++ chain.orElse.toList

end Chain

/-- The chain of an `if` statement. -/
inductive ChainAt (statement : Node) : Chain → Prop where
  | mk {arm : Arm} {arms : List Arm} {orElse : Option Node} (hkind : statement.kind = .ifStatement)
      (harm : ArmAt statement arm)
      (hrest : AlternativesAt (statement.childrenAt .alternative) arms orElse) :
      ChainAt statement ⟨arm :: arms, orElse⟩

theorem clauseBlocks_of_armAt {clause : Node} {arm : Arm} (h : ArmAt clause arm)
    (others : List Node) :
    clauseBlocks settings source clause others =
      (guardOf settings source arm.condition).choose (some arm.block) others := by
  rw [clauseBlocks, h.condition, h.block]
  rfl

theorem alternativeBlocks_eq_keptBlocks {clauses : List Node} {arms : List Arm}
    {orElse : Option Node} (h : AlternativesAt clauses arms orElse) :
    alternativeBlocks settings source clauses =
      keptBlocks settings source (Chain.conditions ⟨arms, orElse⟩)
        (Chain.blocks ⟨arms, orElse⟩) := by
  induction h with
  | nil => rfl
  | @otherwise clause block hkind hblock =>
    have hreached : Reachable settings source [] 0 := reachable_nil.2 rfl
    simp [alternativeBlocks, hkind, hblock, Chain.conditions, Chain.blocks, keptBlocks, hreached]
  | @elif clause clauses arm arms orElse hkind harm _ ih =>
    rw [alternativeBlocks, hkind]
    simp only [clauseBlocks_of_armAt harm, ih]
    exact (keptBlocks_cons _ _ _ _).symm

end Extraction

/-- The blocks that are kept of an `if` statement are, in order and each once, those that run for
some values which the conditions may have.  They are the blocks with no configured name among the
conditions before them, and no negated one for their own. -/
theorem branchBlocks_eq_reachable (settings : ExtractSettings) (source : Source) {statement : Node}
    {chain : Chain} (h : ChainAt statement chain) :
    branchBlocks settings source statement =
        (chain.blocks.zipIdx.filter fun block =>
          Reachable settings source chain.conditions block.2).map Prod.fst ∧
      ∀ position < chain.blocks.length,
        (Reachable settings source chain.conditions position ↔
          (∀ earlier ∈ chain.conditions.take position, ¬IsGuard settings source earlier) ∧
            ∀ own ∈ chain.conditions[position]?, ¬IsNegatedGuard settings source own) := by
  constructor
  · obtain @⟨arm, arms, orElse, _, harm, hrest⟩ := h
    rw [branchBlocks, clauseBlocks_of_armAt harm, alternativeBlocks_eq_keptBlocks hrest]
    exact (keptBlocks_cons _ _ _ _).symm
  · intro position hposition
    have hlength : chain.blocks.length ≤ chain.conditions.length + 1 := by
      cases horElse : chain.orElse <;> simp [Chain.blocks, Chain.conditions, horElse]
    rw [reachable_iff]
    exact and_iff_right (by omega)

/-- A block with nothing but `pass`. -/
def passBlock (field : Field) (start : Nat) : Node :=
  .inner .block (some field) start (start + 4) [
    .inner .passStatement none start (start + 4) [.token "pass" start (start + 4)]]

/-- The condition `not TYPE_CHECKING`. -/
def negatedCondition : Node :=
  .inner .notOperator (some .condition) 3 20 [
    .token "not" 3 6,
    .inner .identifier (some .argument) 7 20 []]

/-- The condition `a`. -/
def openCondition : Node :=
  .inner .identifier (some .condition) 36 37 []

/-- The condition `(TYPE_CHECKING)`. -/
def enclosedCondition : Node :=
  .inner .parenthesizedExpression (some .condition) 53 68 [
    .token "(" 53 54,
    .inner .identifier none 54 67 [],
    .token ")" 67 68]

/-- An `if` statement with the three conditions and an `else` clause. -/
def guardedStatement : Node :=
  .inner .ifStatement none 0 93 [
    .token "if" 0 2,
    negatedCondition,
    .token ":" 20 21,
    passBlock .consequence 26,
    .inner .elifClause (some .alternative) 31 47 [
      .token "elif" 31 35,
      openCondition,
      .token ":" 37 38,
      passBlock .consequence 43],
    .inner .elifClause (some .alternative) 48 78 [
      .token "elif" 48 52,
      enclosedCondition,
      .token ":" 68 69,
      passBlock .consequence 74],
    .inner .elseClause (some .alternative) 79 93 [
      .token "else" 79 83,
      .token ":" 83 84,
      passBlock .body 89]]

/-- The text of the statement. -/
def guardedSource : Source :=
  .ofText "guarded.py" ("if not TYPE_CHECKING:\n    pass\nelif a:\n    pass\n" ++
    "elif (TYPE_CHECKING):\n    pass\nelse:\n    pass\n")

def guardedChain : Chain where
  arms := [
    ⟨negatedCondition, passBlock .consequence 26⟩,
    ⟨openCondition, passBlock .consequence 43⟩,
    ⟨enclosedCondition, passBlock .consequence 74⟩]
  orElse := some (passBlock .body 89)

theorem guardedStatement_chainAt : ChainAt guardedStatement guardedChain :=
  .mk rfl ⟨rfl, rfl⟩ (.elif rfl ⟨rfl, rfl⟩ (.elif rfl ⟨rfl, rfl⟩ (.otherwise rfl rfl)))

/-- The negated guard drops its own block only, and the guard those after it. -/
theorem guardedStatement_keeps_middle :
    ChainAt guardedStatement guardedChain ∧
      branchBlocks {} guardedSource guardedStatement =
        [passBlock .consequence 43, passBlock .consequence 74] := by
  refine ⟨guardedStatement_chainAt, ?_⟩
  have hfirst : IsNegatedGuard {} guardedSource negatedCondition := by
    rw [IsNegatedGuard, negatedCondition, Node.unwrapped_inner rfl]
    refine ⟨rfl, .inner .identifier (some .argument) 7 20 [], rfl, ?_⟩
    rw [IsGuard, Node.unwrapped_inner rfl]
    exact ⟨rfl, by decide +kernel⟩
  have hthird : IsGuard {} guardedSource enclosedCondition := by
    have hinner : enclosedCondition.unwrapped = .inner .identifier none 54 67 [] := by
      rw [Node.unwrapped]
      exact Node.unwrapped_inner rfl _ _ _ _
    rw [IsGuard, hinner]
    exact ⟨rfl, by decide +kernel⟩
  have hsecond : ¬IsGuard {} guardedSource openCondition ∧
      ¬IsNegatedGuard {} guardedSource openCondition := by
    rw [IsGuard, IsNegatedGuard, openCondition, Node.unwrapped_inner rfl]
    exact ⟨by decide +kernel, by decide⟩
  have hpositive := not_isNegatedGuard_of_isGuard hthird
  have hunguarded : ¬IsGuard {} guardedSource negatedCondition :=
    fun hguard => not_isNegatedGuard_of_isGuard hguard hfirst
  rw [(branchBlocks_eq_reachable {} guardedSource guardedStatement_chainAt).1]
  simp [guardedChain, Chain.blocks, Chain.conditions, reachable_iff, hfirst, hsecond, hthird,
    hpositive, hunguarded]

end InterfaceStub
