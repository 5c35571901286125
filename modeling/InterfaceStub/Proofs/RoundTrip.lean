import InterfaceStub.Proofs.TreeExistence
import InterfaceStub.Proofs.TreeReading

/-!
# Round trip

A canonical stub comes back from its own text: extraction from any tree of the text gives the stub,
relies on nothing and reports nothing.

* `ReadsStatement` says that one statement declares some items, and `blockItems_of_row` that a block
  then declares all of them.
* The sections on functions, variables, classes and imports give it for each kind of statement.
* `moduleItems_of_moduleAt` puts the statements together, and `extract_render_of_canonical` is the
  result.  `counterTree` is a tree with most kinds of statement in it.
-/

namespace InterfaceStub

open Syntax Extraction

/-! ## Blocks -/

theorem map_fst_withFollowing (items : List α) : (withFollowing items).map Prod.fst = items := by
  induction items with
  | nil => rfl
  | cons item items ih => simp [withFollowing, ih]

theorem following_subset_of_mem_withFollowing {item : α} {following items : List α}
    (h : (item, following) ∈ withFollowing items) : following ⊆ items := by
  induction items with
  | nil => cases h
  | cons head tail ih =>
    rw [withFollowing, List.mem_cons] at h
    rcases h with h | h
    · obtain ⟨rfl, rfl⟩ := Prod.mk.inj h
      exact List.subset_cons_self _ _
    · exact fun other hother => .tail _ (ih h hother)

theorem Syntax.Node.map_fst_placedStatements (block : Node) :
    block.placedStatements.map Prod.fst = block.parts := by
  have hfilter := List.filter_map (f := Prod.fst) (p := isPart) (l := withFollowing block.children)
  rw [map_fst_withFollowing] at hfilter
  exact hfilter.symm

/-- A statement that is read as some items, whatever comes after it but comments. -/
def ReadsStatement (settings : ExtractSettings) (source : Source)
    (leaf : Node → List Node → Report (List α)) (items : List α) (node : Node) : Prop :=
  innerBlocks? settings source node = none ∧ ∀ following : List Node,
    (∀ other ∈ following, other.label.extra = false) → leaf node following = pure items

theorem blockItems_of_reads {settings : ExtractSettings} {source : Source}
    {leaf : Node → List Node → Report (List α)} {block : Node} {items : List (List α)}
    (huncommented : block.Uncommented)
    (h : List.Forall₂ (ReadsStatement settings source leaf) items block.parts) :
    blockItems settings source leaf block = pure items.flatten := by
  have hplaced : List.Forall₂ (fun item statement =>
      ReadsStatement settings source leaf item statement.1) items block.placedStatements := by
    rw [← Node.map_fst_placedStatements] at h
    exact List.forall₂_map_right_iff.1 h
  rw [blockItems_eq, ← Report.gatherAll_pure]
  refine congrArg Report.gatherAll (map_of_forall₂ hplaced fun item statement hmem hread => ?_)
  have hfollowing := following_subset_of_mem_withFollowing (List.mem_filter.1 hmem).1
  rw [hread.1]
  exact hread.2 _ fun other hother => (huncommented other (hfollowing hother)).1

/-! ## Functions in their place -/

theorem intercalate_empty (texts : List String) : "".intercalate texts = String.join texts := by
  induction texts with
  | nil => rfl
  | cons text texts ih =>
    cases texts with
    | nil => simp
    | cons next texts => simp [ih]

theorem joinLines_map (text : α → String) (items : List α) :
    joinLines (items.map text) = "".intercalate (items.map fun item => text item ++ "\n") := by
  rw [intercalate_empty, joinLines, List.map_map]
  rfl

/-- Where a function stands, its definition and its decorators can be read. -/
theorem functionStub_of_functionAt {source : Source} {margin before : String}
    {function : FunctionStub} {node : Node}
    (hdefaults : function.args.Pairwise fun first second => first.hasDefault → second.hasDefault)
    (hsource : source.Holds before (joinLines (function.lines.map (margin ++ ·))))
    (h : FunctionAt margin before function node) :
    (node.statement = .function ∧ functionStub source node [] = pure function) ∨
      node.statement = .decorated ∧ ∃ definition, node.child? .definition = some definition ∧
        definition.statement = .function ∧
        functionStub source definition node.decorators = pure function := by
  have htext : source.Holds before
      (joinLines (function.decorators.map fun path => margin ++ decoratorLine path) ++
        (margin ++ function.signature ++ "\n")) := by
    simpa [FunctionStub.lines, Function.comp_def] using hsource
  have hstatement {definition : Node} {before : String}
      (hat : SignatureAt before function definition) :
      definition.statement = .function := by
    simp [Node.statement, hat.kind, hat.synchronous]
  have hsignature := htext.right.left.right
  cases h with
  | plain hnone hat =>
    refine .inl ⟨hstatement hat,
      functionStub_of_signatureAt hdefaults hat ?_ (by simp [hnone]; rfl)⟩
    simpa [hnone] using hsignature
  | @decorated definition hkind hdecorators hchild hat =>
    refine .inr ⟨by simp [Node.statement, hkind], definition, hchild, hstatement hat,
      functionStub_of_signatureAt hdefaults hat hsignature ?_⟩
    have hholds := htext.left
    rw [joinLines_map] at hholds
    exact gather_of_places _ hholds hdecorators.1 fun entry hentry hline =>
      decoratorPath_of_decoratorAt hline (hdecorators.2 entry hentry)

/-! ## Variables -/

theorem annotatedName_of_variableAt {source : Source} {before name type : String}
    {assignment target annotation : Node} (hleft : assignment.child? .left = some target)
    (htarget : target.isName) (hname : target.Covers before name)
    (hannotated : TypeAt (before ++ name ++ ": ") type annotation)
    (hsource : source.Holds before (name ++ ": " ++ type)) :
    annotatedName source assignment annotation = pure (some (name, type)) := by
  have htype := typeText_of_typeAt hannotated
    (by simpa [String.append_assoc] using hsource.right)
  rw [annotatedName, hleft]
  simp only [htarget, if_true, htype, Report.pure_bind, hname.text_eq hsource.left.left,
    Option.map_some]

/-- A typed variable of a module. -/
theorem moduleExpression_of_variableAt {source : Source} {before name type : String} {node : Node}
    (hsource : source.Holds before (name ++ ": " ++ type)) (h : VariableAt before name type node)
    (following : List Node) :
    moduleExpression source node following =
      pure [.declaration (.attribute ⟨name, type⟩)] := by
  obtain ⟨-, assignment, target, annotation, hparts, hkind, hleft, htarget, hname, htype,
    hannotated⟩ := h
  rw [moduleExpression, hparts]
  simp only [hkind, moduleAssignment, htype,
    annotatedName_of_variableAt hleft htarget hname hannotated hsource]
  rfl

/-- A typed variable of a class. -/
theorem classExpression_of_variableAt {source : Source} {before name type : String} {node : Node}
    (hsource : source.Holds before (name ++ ": " ++ type)) (h : VariableAt before name type node)
    (following : List Node) :
    classExpression source node following = pure [.field (annotatedField name type)] := by
  obtain ⟨-, assignment, target, annotation, hparts, hkind, hleft, htarget, hname, htype,
    hannotated⟩ := h
  rw [classExpression, Node.firstPart?, hparts]
  simp only [List.head?_cons, hkind, beq_self_eq_true, if_true, classAssignment, htype,
    annotatedName_of_variableAt hleft htarget hname hannotated hsource]
  rfl

/-- A value that is a path, or one with arguments, is no literal. -/
theorem inferType_of_kind {source : Source} {value : Node}
    (h : value.unwrapped.kind ∈ [.identifier, .keywordIdentifier, .attribute, .subscript]) :
    inferType source value = .notLiteral := by
  simp only [List.mem_cons, List.not_mem_nil, or_false] at h
  rcases h with h | h | h | h <;>
    simp [inferType, Source.shapeOf, Source.ownShape, h]

/-- Such a value is no assignment either. -/
theorem kind_ne_assignment {value : Node}
    (h : value.unwrapped.kind ∈ [.identifier, .keywordIdentifier, .attribute, .subscript]) :
    value.kind ≠ .assignment := by
  intro hkind
  rw [Node.unwrapped, hkind] at h
  simp [Kind.isWrapper, hkind] at h

theorem moduleExpression_of_aliasAt {source : Source} {before name target : String} {node : Node}
    (hsource : source.Holds before (name ++ " = " ++ target)) (h : AliasAt before name target node)
    {following : List Node} (hfollowing : ∀ other ∈ following, other.label.extra = false) :
    moduleExpression source node following =
      pure [.declaration (.typeAlias ⟨name, target⟩)] := by
  obtain ⟨-, huncommented, assignment, left, value, hparts, hkind, hleft, hname, hcovers, htype,
    hright, hvalue, htarget⟩ := h
  have htargets : assignment.targetsAndValue = ([left], some value) := by
    rw [Node.targetsAndValue]
    split
    · rename_i right hright'
      obtain rfl := Option.some.inj (hright.symm.trans hright')
      simp [hleft, kind_ne_assignment hvalue]
    · rename_i hnone
      rw [hright] at hnone
      contradiction
  have hcomment : source.statementDeclaresType node following = false := by
    have hnone : following.takeWhile (fun other => other.label.extra &&
        source.firstRow other == source.lastRow node) = [] := by
      cases following with
      | nil => rfl
      | cons other following => simp [hfollowing other List.mem_cons_self]
    rw [Source.statementDeclaresType]
    simp only [hnone, List.append_nil]
    exact huncommented.any_eq_false source fun _ hmem => hmem
  have htext := typeText_of_typeAt htarget (by simpa [String.append_assoc] using hsource.right)
  have halias : aliasTargets source assignment (some target) [left] =
      pure [.typeAlias ⟨name, target⟩] := by
    rw [aliasTargets, List.map_singleton, if_pos hname, hcovers.text_eq hsource.left.left]
    rfl
  rw [moduleExpression, hparts]
  simp only [hkind, moduleAssignment, htype, htargets, reportTypeComment, hcomment,
    inferredDeclarations, inferType_of_kind hvalue, aliasText, List.any_cons, hname, Bool.true_or,
    if_true, htext, Report.pure_bind, halias, Bool.false_eq_true, if_false]
  rfl

/-! ## Classes -/

theorem textAfter?_append (start rest : List Char) :
    textAfter? start (start ++ rest) = some rest := by
  induction start with
  | nil => rfl
  | cons c start ih => rw [List.cons_append, textAfter?, if_pos rfl, ih]

theorem classVarType?_append (inner : String) :
    classVarType? ("ClassVar[" ++ inner ++ "]") = some inner := by
  have hchars : ("ClassVar[" ++ inner ++ "]").toList =
      "ClassVar[".toList ++ (inner.toList ++ [']']) := by simp
  have hqualified : textAfter? "typing.ClassVar[".toList
      ("ClassVar[".toList ++ (inner.toList ++ [']'])) = none := rfl
  rw [classVarType?, hchars, hqualified, textAfter?_append]
  simp

/-- The written type of a variable tells whether it belongs to the class. -/
theorem annotatedField_writtenType {field : ClassField}
    (h : field.classVar = false → classVarType? field.annotation = none) :
    annotatedField field.name field.writtenType = field := by
  rcases field with ⟨name, type, _ | _⟩
  · rw [ClassField.writtenType, if_neg (by simp), annotatedField, h rfl]
  · rw [ClassField.writtenType, if_pos rfl, annotatedField, classVarType?_append]

theorem readsStatement_of_memberAt {settings : ExtractSettings} {source : Source}
    {before : String} {member : ClassMember} {node : Node} (hmember : member.Canonical)
    (hsource : source.Holds before member.text) (h : MemberAt "    " before member node) :
    ReadsStatement settings source (classStatement source) [member] node := by
  cases member with
  | field declared =>
    have hstatement : node.statement = .expression := by simp [Node.statement, h.1]
    have hline : source.Holds before
        ("    " ++ (declared.name ++ ": " ++ declared.writtenType) ++ "\n") := by
      simpa [ClassMember.text, ClassMember.lines, indented, ClassField.line] using hsource
    refine ⟨by simp [innerBlocks?, hstatement], fun following _ => ?_⟩
    rw [classStatement, hstatement]
    simp only [classExpression_of_variableAt hline.left.right h,
      annotatedField_writtenType hmember.unwrapped]
  | method declared =>
    rcases functionStub_of_functionAt hmember.args hsource h with
      ⟨hstatement, hstub⟩ | ⟨hstatement, definition, hchild, hdefinition, hstub⟩
    · refine ⟨by simp [innerBlocks?, hstatement], fun following _ => ?_⟩
      rw [classStatement, hstatement]
      simp only [hstub, Report.pure_bind]
    · refine ⟨by simp [innerBlocks?, hstatement], fun following _ => ?_⟩
      rw [classStatement, hstatement]
      simp only [decoratedMember, hchild, hdefinition, hstub, Report.pure_bind]

/-- Statements that stand in a row and are each read as one item. -/
theorem blockItems_of_row {settings : ExtractSettings} {source : Source}
    {leaf : Node → List Node → Report (List α)} {block : Node} {items : List α}
    (huncommented : block.Uncommented)
    (h : List.Forall₂ (fun item node => ReadsStatement settings source leaf [item] node) items
      block.parts) :
    blockItems settings source leaf block = pure items := by
  have hreads : List.Forall₂ (ReadsStatement settings source leaf) (items.map fun item => [item])
      block.parts := List.forall₂_map_left_iff.2 h
  rw [blockItems_of_reads huncommented hreads, ← List.flatMap_def, List.flatMap_singleton']

theorem isClassKeyword_of_baseAt {before text : String} {node : Node}
    (h : BaseAt before text node) : isClassKeyword node = false := by
  have hkind {kind : Kind} (hwrapper : kind.isWrapper = false) (hnode : node.kind = kind) :
      node.unwrapped.kind = kind := by
    rw [Node.unwrapped, hnode, hwrapper]
    exact hnode
  have hpath {path : String} (hat : PathAt before path node) :
      node.unwrapped.kind ≠ .keywordArgument ∧ node.unwrapped.kind ≠ .dictionarySplat := by
    cases hat with
    | name hname _ =>
      simp only [Node.isName, Bool.or_eq_true, beq_iff_eq] at hname
      rcases hname with hname | hname <;> simp [hname]
    | member hmember _ _ _ _ => simp [hmember]
  have hneither : node.unwrapped.kind ≠ .keywordArgument ∧
      node.unwrapped.kind ≠ .dictionarySplat := by
    cases h with
    | path hat => exact hpath hat
    | applied happlied => simp [happlied]
  simp only [isClassKeyword, Bool.or_eq_false_iff, beq_eq_false_iff_ne]
  exact ⟨fun hnode => hneither.1 (hkind rfl hnode), fun hnode => hneither.2 (hkind rfl hnode)⟩

theorem classBases_of_row {source : Source} {before : String} {bases : List String}
    {arguments : List Node} (hsource : source.Holds before (", ".intercalate bases))
    (h : RowAt BaseAt id ", " before bases arguments) :
    classBases source arguments = pure bases ∧ arguments.any isClassKeyword = false := by
  have hkeyword : ∀ argument ∈ arguments, isClassKeyword argument = false := by
    intro argument hargument
    obtain ⟨place, hplace⟩ := exists_place_of_mem h.1 hargument
    exact isClassKeyword_of_baseAt (h.2 _ hplace)
  have hall : arguments.filter (fun argument => !isClassKeyword argument) = arguments :=
    List.filter_eq_self.2 fun argument hmem => by simp [hkeyword argument hmem]
  have hgather : Report.gather (arguments.map (baseClass source)) = pure (bases.map some) :=
    gather_of_places id (by simpa using hsource) h.1 fun entry hentry hholds =>
      baseClass_of_baseAt (h.2 entry hentry) hholds
  refine ⟨?_, by simpa using hkeyword⟩
  rw [classBases, hall, hgather, Report.map_pure]
  simp [List.filterMap_map]

theorem readsStatement_of_ellipsis {settings : ExtractSettings} {source : Source} {node : Node}
    (h : EllipsisStatement node) :
    ReadsStatement settings source (classStatement source) [] node := by
  obtain ⟨hkind, value, hparts, hvalue⟩ := h
  have hstatement : node.statement = .expression := by simp [Node.statement, hkind]
  have hassignment : value.kind ≠ .assignment := by
    intro hvalueKind
    rw [Node.unwrapped, hvalueKind] at hvalue
    simp [Kind.isWrapper, hvalueKind] at hvalue
  refine ⟨by simp [innerBlocks?, hstatement], fun following _ => ?_⟩
  rw [classStatement, hstatement]
  simp [classExpression, Node.firstPart?, hparts, hassignment, isLoneConstant, Source.shapeOf,
    Source.ownShape, hvalue, Shape.isConstant]

theorem joinLines_flatMap (lines : α → List String) (items : List α) :
    joinLines (items.flatMap lines) =
      "".intercalate (items.map fun item => joinLines (lines item)) := by
  rw [intercalate_empty]
  induction items with
  | nil => simp
  | cons item items ih => simp [ih]

theorem ClassStub.joinLines_lines {cls : ClassStub} (hdecorators : cls.decorators = []) :
    joinLines cls.lines = cls.header ++ "\n" ++ "".intercalate (cls.body.map ClassMember.text) := by
  have hbody : (cls.body.flatMap ClassMember.lines).map indented =
      cls.body.flatMap fun member => member.lines.map indented := List.map_flatMap
  rw [ClassStub.lines, hdecorators, hbody, List.map_nil, List.nil_append, List.singleton_append,
    joinLines_cons, joinLines_flatMap]
  rfl

theorem classStub_of_classAt {settings : ExtractSettings} {source : Source} {before : String}
    {cls : ClassStub} {node : Node} (hcls : cls.Canonical)
    (hsource : source.Holds before (joinLines cls.lines)) (h : ClassAt before cls node) :
    classStub settings source node [] = pure cls := by
  rw [cls.joinLines_lines hcls.decorators] at hsource
  have hheader : source.Holds before ("class " ++ cls.name ++ cls.headerText ++ ":" ++
      if cls.body.isEmpty then " ..." else "") := hsource.left.left
  have hname : nameOf source node = cls.name :=
    nameOf_of_covers h.name hheader.left.left.left.right
  have hbases : classBases source (((node.child? .superclasses).map Node.parts).getD []) =
        pure cls.bases ∧
      (((node.child? .superclasses).map Node.parts).getD []).any isClassKeyword = false := by
    rcases h.bases with ⟨hnone, hchild⟩ | ⟨hsome, arguments, hchild, hrow⟩
    · rw [hchild, hnone]
      exact ⟨rfl, rfl⟩
    · rw [hchild]
      refine classBases_of_row ?_ hrow
      have htext : cls.headerText = "(" ++ ", ".intercalate cls.bases ++ ")" := by
        simp [ClassStub.headerText, ClassStub.hasHeader, ClassStub.headerArguments, hsome,
          hcls.keywords]
      have hholds := hheader.left.left.right
      rw [htext] at hholds
      simpa [String.append_assoc] using hholds.left.right
  obtain ⟨block, hchild, huncommented, hblock⟩ := h.body
  have hbody : blockItems settings source (classStatement source) block = pure cls.body := by
    rcases hblock with ⟨hnone, statement, hparts, hellipsis⟩ | ⟨-, hrow⟩
    · rw [hnone]
      have hreads : List.Forall₂ (ReadsStatement settings source (classStatement source)) [[]]
          block.parts := by
        rw [hparts]
        exact .cons (readsStatement_of_ellipsis hellipsis) .nil
      exact blockItems_of_reads huncommented hreads
    · refine blockItems_of_row huncommented (hrow.forall₂ ?_ fun hmem hholds hat =>
        readsStatement_of_memberAt (hcls.body _ hmem) hholds hat)
      simpa [String.append_assoc] using hsource.right
  rw [classStub, classHeader, classBody]
  simp only [List.isEmpty_nil, Bool.not_true, Bool.false_eq_true, if_false, Report.pure_bind,
    hbases.1, hbases.2, hchild, hbody, hname]
  have hrest := And.intro hcls.keywords hcls.decorators
  cases cls
  simp_all

/-! ## Imports -/

theorem joinedName_of_dottedNameAt {source : Source} {before path : String} {node : Node}
    (hsource : source.Holds before path) (h : DottedNameAt before path node) :
    joinedName source node = path := by
  obtain ⟨hkind, segments, rfl, hrow⟩ := h
  have htexts : node.parts.map source.text = segments.map id :=
    map_of_forall₂ (hrow.forall₂ (by simpa using hsource) fun _ hholds hcovers =>
      Node.Covers.text_eq hcovers hholds) fun _ _ _ heq => heq
  rw [joinedName, hkind]
  simp [htexts]

theorem importItem_of_importedNameAt {source : Source} {before : String} {imported : ImportedName}
    {node : Node} (hsource : source.Holds before imported.text)
    (h : ImportedNameAt before imported node) : importItem source node = imported := by
  rcases imported with ⟨name, _ | localName⟩
  · have hname := joinedName_of_dottedNameAt hsource.left h
    rw [importItem, h.1]
    simp only
    rw [hname]
  · obtain ⟨hkind, ⟨nameNode, hchild, hname⟩, bound, hbound, hcovers⟩ := h
    have htext : source.Holds before (name ++ " as " ++ localName) := by
      simpa [ImportedName.text, localNameText, String.append_assoc] using hsource
    rw [importItem, hkind]
    simp only [hchild, hbound, Option.map_some, Option.getD_some,
      joinedName_of_dottedNameAt htext.left.left hname]
    rw [hcovers.text_eq (by simpa [String.append_assoc] using htext.right)]

theorem importNames_of_importAt {source : Source} {before : String} {statement : Import}
    {node : Node} (hsource : source.Holds before statement.line)
    (h : ImportAt before statement node) :
    importNames source node = [statement] := by
  obtain ⟨-, item, hchildren, hitem⟩ := h
  have hholds : source.Holds (before ++ "import ")
      (⟨statement.name, statement.localName⟩ : ImportedName).text := by
    rw [Import.line, String.append_assoc] at hsource
    exact hsource.right
  rw [importNames, hchildren, List.map_singleton, importItem_of_importedNameAt hholds hitem]

/-- The dots of a relative path are as many as its level. -/
theorem dotCount_dots (statement : ImportFrom) : dotCount statement.dots = statement.level := by
  have hcount : statement.dots.toList.count '.' = statement.level.toNat := by
    simp [ImportFrom.dots]
  have hle : statement.level.toNat ≤ UInt32.size - 1 := by
    have := statement.level.toNat_lt_size
    omega
  rw [dotCount, hcount, Nat.min_eq_left hle, UInt32.ofNat_toNat]

theorem relativePath_of_relativePathAt {source : Source} {before path : String}
    {statement : ImportFrom} {node : Node} (hsource : source.Holds before (statement.dots ++ path))
    (h : RelativePathAt before statement.dots path node) :
    relativePath source node = (path, statement.level) := by
  obtain ⟨-, leading, rest, hparts, hleading, hcovers, hrest⟩ := h
  have hlevel : dotCount (source.text leading) = statement.level := by
    rw [hcovers.text_eq hsource.left, dotCount_dots]
  rcases hrest with ⟨rfl, rfl⟩ | ⟨last, rfl, hlast⟩
  · simp [relativePath, hparts, List.partition_eq_filter_filter, hleading, hlevel]
  · have hpath := joinedName_of_dottedNameAt hsource.right hlast
    simp [relativePath, hparts, List.partition_eq_filter_filter, hleading, hlevel, hlast.1, hpath]

theorem importPath_of_importPathAt {source : Source} {before : String} {statement : ImportFrom}
    {node : Node} (hsource : source.Holds before (statement.dots ++ statement.path))
    (h : ImportPathAt before statement node) :
    importPath source node = (statement.path, statement.level) := by
  rcases h with ⟨-, hchild, hlevel, hpath⟩ | ⟨-, path, hchild, hpath⟩
  · rw [importPath, hchild, hlevel, hpath]
  · rw [importPath, hchild]
    rcases hpath with ⟨hlevel, hat⟩ | ⟨-, hat⟩
    · have hdots : statement.dots = "" := by simp [ImportFrom.dots, hlevel]
      rw [hdots] at hsource
      have hname := joinedName_of_dottedNameAt (by simpa using hsource.right) hat
      simp [hat.1, hname, hlevel]
    · simpa [hat.1] using relativePath_of_relativePathAt hsource hat

theorem importFrom_of_importFromAt {source : Source} {before : String} {statement : ImportFrom}
    {node : Node} (hsource : source.Holds before statement.line)
    (h : ImportFromAt before statement node) : importFrom source node = statement := by
  have hline : source.Holds before ("from " ++ (statement.dots ++ statement.path) ++ " import " ++
      ", ".intercalate (statement.names.map ImportedName.text)) := by
    simpa [ImportFrom.line, String.append_assoc] using hsource
  have hnames : (node.childrenAt .name).map (importItem source) ++
      (if node.parts.any (·.kind == .wildcardImport) then [⟨"*", none⟩] else []) =
      statement.names := by
    rcases h.names with ⟨hstar, hchildren, all, hmem, hkind⟩ | ⟨hnone, hrow⟩
    · have hany : node.parts.any (·.kind == .wildcardImport) :=
        List.any_eq_true.2 ⟨all, hmem, by simp [hkind]⟩
      rw [hchildren, if_pos hany, hstar]
      rfl
    · have hany : ¬ node.parts.any (·.kind == .wildcardImport) := by simpa using hnone
      have hitems : (node.childrenAt .name).map (importItem source) = statement.names.map id :=
        map_of_forall₂ (hrow.forall₂ (by simpa [String.append_assoc] using hline.right)
          fun _ => importItem_of_importedNameAt) fun _ _ _ heq => heq
      rw [if_neg hany, hitems, List.map_id, List.append_nil]
  rw [importFrom, importPath_of_importPathAt hline.left.left.right h.path]
  simp only [hnames]

/-! ## Modules -/

theorem readsStatement_of_importAt {settings : ExtractSettings} {source : Source} {before : String}
    {statement : Import} {node : Node} (hsource : source.Holds before (statement.line ++ "\n"))
    (h : ImportAt before statement node) :
    ReadsStatement settings source (moduleStatement settings source) [.import statement] node := by
  have hstatement : node.statement = .importNames := by simp [Node.statement, h.1]
  refine ⟨by simp [innerBlocks?, hstatement], fun following _ => ?_⟩
  rw [moduleStatement, hstatement]
  simp only [importNames_of_importAt hsource.left h, List.map_singleton]

theorem readsStatement_of_importFromAt {settings : ExtractSettings} {source : Source}
    {before : String} {statement : ImportFrom} {node : Node}
    (hsource : source.Holds before (statement.line ++ "\n"))
    (h : ImportFromAt before statement node) :
    ReadsStatement settings source (moduleStatement settings source) [.importFrom statement]
      node := by
  have hstatement : node.statement = .importFrom := by
    rcases h.path with ⟨hkind, -⟩ | ⟨hkind, -⟩ <;> simp [Node.statement, hkind]
  refine ⟨by simp [innerBlocks?, hstatement], fun following _ => ?_⟩
  rw [moduleStatement, hstatement]
  simp only [importFrom_of_importFromAt hsource.left h]

theorem readsStatement_of_declarationAt {settings : ExtractSettings} {source : Source}
    {before : String} {declared : Declaration} {node : Node} (hdeclared : declared.Canonical)
    (hsource : source.Holds before (joinLines declared.lines))
    (h : DeclarationAt before declared node) :
    ReadsStatement settings source (moduleStatement settings source) [.declaration declared]
      node := by
  match declared with
  | .attribute declared =>
    have hstatement : node.statement = .expression := by simp [Node.statement, h.1]
    have hline : source.Holds before (declared.name ++ ": " ++ declared.annotation ++ "\n") := by
      simpa [Declaration.lines] using hsource
    refine ⟨by simp [innerBlocks?, hstatement], fun following _ => ?_⟩
    rw [moduleStatement, hstatement]
    simp only [moduleExpression_of_variableAt hline.left h]
  | .typeAlias declared =>
    have hstatement : node.statement = .expression := by simp [Node.statement, h.1]
    have hline : source.Holds before (declared.name ++ " = " ++ declared.target ++ "\n") := by
      simpa [Declaration.lines] using hsource
    refine ⟨by simp [innerBlocks?, hstatement], fun following hfollowing => ?_⟩
    rw [moduleStatement, hstatement]
    simp only [moduleExpression_of_aliasAt hline.left h hfollowing]
  | .function declared =>
    have hlines : source.Holds before (joinLines (declared.lines.map ("" ++ ·))) := by
      simpa [Declaration.lines] using hsource
    rcases functionStub_of_functionAt hdeclared.args hlines h with
      ⟨hstatement, hstub⟩ | ⟨hstatement, definition, hchild, hdefinition, hstub⟩
    · refine ⟨by simp [innerBlocks?, hstatement], fun following _ => ?_⟩
      rw [moduleStatement, hstatement]
      simp only [moduleDefinition, hstatement, hstub, Report.pure_bind]
    · refine ⟨by simp [innerBlocks?, hstatement], fun following _ => ?_⟩
      rw [moduleStatement, hstatement]
      simp only [hchild, moduleDefinition, hdefinition, hstub, Report.pure_bind]
  | .classStub declared =>
    have hstatement : node.statement = .classDefinition := by simp [Node.statement, h.kind]
    refine ⟨by simp [innerBlocks?, hstatement], fun following _ => ?_⟩
    rw [moduleStatement, hstatement]
    simp only [moduleDefinition, hstatement, classStub_of_classAt hdeclared hsource h,
      Report.pure_bind]

/-- The items of a module in the order in which they are written. -/
def ModuleStub.items (stub : ModuleStub) : List ModuleItem :=
  stub.imports.map .import ++ stub.importFroms.map .importFrom ++ stub.content.map .declaration

theorem ModuleStub.ofItems_items (stub : ModuleStub) : ModuleStub.ofItems stub.items = stub := by
  cases stub
  simp [ModuleStub.ofItems, ModuleStub.items, List.filterMap_map, Function.comp_def,
    ModuleItem.import?, ModuleItem.importFrom?, ModuleItem.declaration?]

theorem ModuleStub.render_eq (stub : ModuleStub) :
    stub.render = stub.importText ++ joinLines (stub.content.flatMap Declaration.lines) := by
  rw [ModuleStub.render_empty, ModuleStub.lines, joinLines_append, ModuleStub.importText]
  simp

theorem moduleItems_of_moduleAt {settings : ExtractSettings} {source : Source} {stub : ModuleStub}
    {root : Node} (hstub : stub.Canonical) (hsource : source.Holds "" stub.render)
    (h : ModuleAt stub root) : moduleItems settings source root = pure stub.items := by
  obtain ⟨huncommented, imports, importFroms, content, hparts, himports, himportFroms,
    hcontent⟩ := h
  rw [ModuleStub.render_eq] at hsource
  have hlines : source.Holds "" (joinLines (stub.imports.map Import.line) ++
      joinLines (stub.importFroms.map ImportFrom.line)) := by
    have htext := hsource.left
    rw [ModuleStub.importText, joinLines_append] at htext
    simpa [ModuleStub.importLines] using htext.left
  refine blockItems_of_row huncommented ?_
  rw [hparts, ModuleStub.items]
  refine List.rel_append (List.rel_append ?_ ?_) ?_
  · refine List.forall₂_map_left_iff.2 (himports.forall₂ ?_ fun _ => readsStatement_of_importAt)
    rw [← joinLines_map]
    exact hlines.left
  · refine List.forall₂_map_left_iff.2
      (himportFroms.forall₂ ?_ fun _ => readsStatement_of_importFromAt)
    rw [← joinLines_map]
    simpa using hlines.right
  · refine List.forall₂_map_left_iff.2 (hcontent.forall₂ ?_ fun hmem =>
      readsStatement_of_declarationAt (hstub.content _ hmem))
    rw [← joinLines_flatMap]
    simpa using hsource.right

/-- Every canonical module has a tree for its text, and every tree for its text gives the module
back with nothing to report. -/
theorem ModuleStub.extract_render_of_canonical {stub : ModuleStub} (hstub : stub.Canonical) :
    (∃ root, ModuleAt stub root) ∧
      ∀ (settings : ExtractSettings) (id : String) (root : Node), ModuleAt stub root →
        extract settings (Source.ofText id stub.render) root = ⟨stub, .empty, []⟩ := by
  refine ⟨exists_moduleAt hstub, fun settings id root hroot => ?_⟩
  have hitems : moduleItems settings (Source.ofText id stub.render) root = pure stub.items :=
    moduleItems_of_moduleAt hstub (holds_whole id stub.render) hroot
  rw [extract, hitems]
  simp only [Report.value_pure, Report.required_pure, Report.findings_pure, List.map_nil,
    ModuleStub.ofItems_items]
  rfl

/-- A module with a relative import, and a class with a variable of its own and a method. -/
def counterStub : ModuleStub where
  importFroms := [⟨"", 1, [⟨"T", none⟩]⟩]
  content := [.classStub
    { name := "C"
      body := [
        .field ⟨"n", "T", true⟩,
        .method
          { name := "f"
            args := [⟨"self", none, false⟩]
            kwArgs := [⟨"k", some "T", true⟩]
            returns := some "None" }] }]

/-- The tree of the import. -/
def counterImport : Node :=
  .inner .importFromStatement none 0 15 [
    .token "from" 0 4,
    .inner .relativeImport (some .moduleName) 5 6 [
      .inner .importPrefix none 5 6 [.token "." 5 6]],
    .token "import" 7 13,
    .inner .dottedName (some .name) 14 15 [.inner .identifier none 14 15 []]]

/-- The tree of the variable. -/
def counterField : Node :=
  .inner .expressionStatement none 30 44 [
    .inner .assignment none 30 44 [
      .inner .identifier (some .left) 30 31 [],
      .token ":" 31 32,
      .inner .type (some .type) 33 44 [
        .inner .genericType none 33 44 [
          .inner .identifier none 33 41 [],
          .inner .typeParameter none 41 44 [
            .token "[" 41 42,
            .inner .type none 42 43 [.inner .identifier none 42 43 []],
            .token "]" 43 44]]]]]

/-- The tree of the method. -/
def counterMethod : Node :=
  .inner .functionDefinition none 49 88 [
    .token "def" 49 52,
    .inner .identifier (some .name) 53 54 [],
    .inner .parameters (some .parameters) 54 75 [
      .token "(" 54 55,
      .inner .identifier none 55 59 [],
      .token "," 59 60,
      .inner .keywordSeparator none 61 62 [.token "*" 61 62],
      .token "," 62 63,
      .inner .typedDefaultParameter none 64 74 [
        .inner .identifier (some .name) 64 65 [],
        .token ":" 65 66,
        .inner .type (some .type) 67 68 [.inner .identifier none 67 68 []],
        .token "=" 69 70,
        .inner .ellipsis (some .value) 71 74 []],
      .token ")" 74 75],
    .token "->" 76 78,
    .inner .type (some .returnType) 79 83 [.inner .noneLiteral none 79 83 []],
    .token ":" 83 84,
    .inner .block (some .body) 85 88 [
      .inner .expressionStatement none 85 88 [.inner .ellipsis none 85 88 []]]]

/-- The tree of the module. -/
def counterTree : Node :=
  .inner (.other "module") none 0 89 [
    counterImport,
    .inner .classDefinition none 17 88 [
      .token "class" 17 22,
      .inner .identifier (some .name) 23 24 [],
      .token ":" 24 25,
      .inner .block (some .body) 30 88 [counterField, counterMethod]]]

theorem Syntax.Node.unwrapped_type (field : Option Field) (start stop : Nat) {kind : Kind}
    (hkind : kind.isWrapper = false) (field' : Option Field) (start' stop' : Nat)
    (children : List Node) :
    (inner .type field start stop [inner kind field' start' stop' children]).unwrapped =
      inner kind field' start' stop' children := by
  rw [unwrapped]
  exact unwrapped_inner hkind field' start' stop' children

theorem pathAt_of_unwrapped {before name : String} {node inner : Node}
    (hself : node.unwrapped = inner) (hkind : inner.isName) (hname : inner.Covers before name) :
    PathAt before name node := by
  subst hself
  exact .name hkind hname

theorem counterTree_moduleAt : ModuleAt counterStub counterTree := by
  have himport : ImportFromAt "" ⟨"", 1, [⟨"T", none⟩]⟩ counterImport := by
    constructor
    · exact .inr ⟨rfl, _, rfl,
        .inr ⟨by decide, rfl, _, [], rfl, rfl, by decide +kernel, .inl ⟨rfl, rfl⟩⟩⟩
    · refine .inr ⟨by decide, rowAt_cons ⟨rfl, ["T"], by simp, ?_⟩ (rowAt_nil _ _ _ _)⟩
      exact rowAt_cons (by decide +kernel) (rowAt_nil _ _ _ _)
  have hfield : MemberAt "    " (counterStub.importText ++ "class C:" ++ "\n")
      (.field ⟨"n", "T", true⟩) counterField := by
    have hwritten : (⟨"n", "T", true⟩ : ClassField).writtenType = applied "ClassVar" ["T"] := by
      decide
    refine ⟨rfl, _, _, _, rfl, rfl, rfl, rfl, by decide +kernel, rfl, ?_⟩
    rw [hwritten]
    refine .generic (by rw [Node.unwrapped_type _ _ _ rfl]; rfl)
      (by rw [Node.unwrapped_type _ _ _ rfl]; rfl) ?_ rfl rfl ?_
    · exact pathAt_of_unwrapped (Node.unwrapped_inner rfl _ _ _ _) rfl (by decide +kernel)
    · exact (rowAt_cons (.path (pathAt_of_unwrapped (Node.unwrapped_type _ _ _ rfl _ _ _ _) rfl
        (by decide +kernel))) (rowAt_nil TypeAt _ _ _)).2
  have hmethod : MemberAt "    " (counterStub.importText ++ "class C:" ++ "\n" ++
        ClassMember.text (.field ⟨"n", "T", true⟩) ++ "")
      (.method ⟨"f", [⟨"self", none, false⟩], none, [⟨"k", some "T", true⟩], none, some "None", []⟩)
      counterMethod := by
    refine .plain rfl ⟨rfl, rfl, by decide, ⟨_, rfl, by decide +kernel⟩, ⟨_, rfl, by decide, ?_⟩,
      ⟨_, rfl, .noneType ?_⟩, ?_⟩
    · refine rowAt_cons (.bare (.plain rfl (by decide +kernel)))
        (rowAt_cons (.separator rfl) (rowAt_cons ?_ (rowAt_nil _ _ _ _)))
      exact .typedDefault rfl rfl rfl (by decide +kernel) rfl
        (.path (pathAt_of_unwrapped (Node.unwrapped_type _ _ _ rfl _ _ _ _) rfl
          (by decide +kernel))) rfl
    · rw [Node.unwrapped_type _ _ _ rfl]
      rfl
    · rintro _ ⟨⟩
      decide
  refine ⟨by decide, [], [counterImport], _, rfl, rowAt_nil _ _ _ _,
    rowAt_cons himport (rowAt_nil _ _ _ _), rowAt_cons ?_ (rowAt_nil _ _ _ _)⟩
  exact ⟨rfl, ⟨_, rfl, by decide +kernel⟩, .inl ⟨rfl, rfl⟩,
    ⟨_, rfl, by decide, .inr ⟨by simp, rowAt_cons hfield (rowAt_cons hmethod (rowAt_nil _ _ _ _))⟩⟩⟩

theorem counterStub_canonical : counterStub.Canonical := by
  have hnames : ∀ name ∈ ["T", "C", "n", "f", "self", "k"], Text.isIdentifier name := by
    decide +kernel
  simp only [List.forall_mem_cons, List.not_mem_nil, false_imp_iff, implies_true,
    and_true] at hnames
  obtain ⟨hT, hC, hn, hf, hself, hk⟩ := hnames
  have hmethod : (⟨"f", [⟨"self", none, false⟩], none, [⟨"k", some "T", true⟩], none, some "None",
      []⟩ : FunctionStub).Canonical :=
    { wellFormed :=
        { name := hf
          args := by simpa [Argument.WellFormed] using hself
          varArg := by simp
          kwArgs := by simpa [Argument.WellFormed, hk] using IsType.path (.name hT)
          kwArg := by simp
          returns := by simp [IsType.noneType]
          decorators := by simp }
      args := by simp
      varArg := by simp
      kwArg := by simp }
  refine ⟨by simp [counterStub], ?_, ?_⟩
  · simp only [counterStub, List.mem_singleton, forall_eq]
    exact ⟨.inr ⟨rfl, by decide⟩, .inr ⟨by simp, by simpa using hT⟩⟩
  · simp only [counterStub, List.mem_singleton, forall_eq]
    exact {
      name := hC
      bases := by simp
      keywords := rfl
      decorators := rfl
      body := by simpa [ClassMember.Canonical] using ⟨⟨hn, .path (.name hT), by simp⟩, hmethod⟩ }

theorem counterStub_extract_render :
    counterStub.Canonical ∧ ModuleAt counterStub counterTree ∧
      extract {} (Source.ofText "counter.pyi" counterStub.render) counterTree =
        ⟨counterStub, .empty, []⟩ :=
  ⟨counterStub_canonical, counterTree_moduleAt,
    (ModuleStub.extract_render_of_canonical counterStub_canonical).2 _ _ _ counterTree_moduleAt⟩

end InterfaceStub
