import InterfaceStub.Extraction.ModuleBody
import InterfaceStub.Proofs.OwnDefaults
import InterfaceStub.Proofs.Reports
import InterfaceStub.Proofs.SyntaxShape
import Mathlib.Data.List.Forall2

/-!
# What the tree of a stub tells

A tree for the text of a stub (`SyntaxShape`) gives back the pieces that the text was written for.
This module is about expressions and signatures; `RoundTrip` goes on to statements.

* `Source.Holds` says where a text stands in a source, and `Covers.text_eq` reads it off a node.
* `RowAt.forall₂` and `gather_of_places` take a row of items apart: what is read of every item by
  itself is read of the row.
* `namePath_of_pathAt`, `typeText_of_typeAt` and `baseClass_of_baseAt` read expressions.  Each is an
  induction over the relation between text and tree.
* `parameterList_of_row` reads a parameter list.  The entries are told apart first (`EntryFor`),
  then the roles are given out (`assignRoles_parameters`).
* `functionStub_of_signatureAt` puts these together.
-/

namespace InterfaceStub

open Syntax Extraction

/-! ## Texts in a source -/

/-- `text` stands in a source after `before`. -/
def Syntax.Source.Holds (source : Source) (before text : String) : Prop :=
  ∃ after, source.chars = (before ++ text ++ after).toList

theorem holds_whole (id text : String) : (Source.ofText id text).Holds "" text :=
  ⟨"", by simp [Source.ofText]⟩

theorem Syntax.Source.Holds.left {source : Source} {before first second : String}
    (h : source.Holds before (first ++ second)) : source.Holds before first := by
  obtain ⟨after, hchars⟩ := h
  exact ⟨second ++ after, by rw [hchars]; simp [String.append_assoc]⟩

theorem Syntax.Source.Holds.right {source : Source} {before first second : String}
    (h : source.Holds before (first ++ second)) : source.Holds (before ++ first) second := by
  obtain ⟨after, hchars⟩ := h
  exact ⟨after, by rw [hchars]; simp [String.append_assoc]⟩

/-- The text of a node is the text that it covers. -/
theorem Syntax.Node.Covers.text_eq {source : Source} {before text : String} {node : Node}
    (h : node.Covers before text) (hsource : source.Holds before text) :
    source.text node = text := by
  obtain ⟨after, hchars⟩ := hsource
  have hslice := Text.slice_append before.toList text.toList after.toList
  rw [Source.text, Source.between, h.1, h.2, hchars]
  simp only [String.toList_append]
  rw [hslice, Option.getD_some, String.ofList_toList]

/-! ## Rows -/

@[simp] theorem length_places (text : α → String) (between before : String) (items : List α) :
    (places text between before items).length = items.length := by
  induction items generalizing before with
  | nil => rfl
  | cons item items ih => simp [places, ih]

@[simp] theorem map_snd_places (text : α → String) (between before : String) (items : List α) :
    (places text between before items).map (·.2) = items := by
  induction items generalizing before with
  | nil => rfl
  | cons item items ih => simp [places, ih]

/-- Every item of a row that a source holds is held in its place. -/
theorem holds_of_mem_places {source : Source} {text : α → String} {between before : String}
    {items : List α} (h : source.Holds before (between.intercalate (items.map text))) :
    ∀ place ∈ places text between before items, source.Holds place.1 (text place.2) := by
  induction items generalizing before with
  | nil => simp [places]
  | cons item items ih =>
    intro place hplace
    rw [places, List.mem_cons] at hplace
    cases items with
    | nil =>
      rcases hplace with rfl | hplace
      · simpa using h
      · simp [places] at hplace
    | cons next items =>
      have hrow : source.Holds before
          (text item ++ between ++ between.intercalate ((next :: items).map text)) := by
        simpa using h
      rcases hplace with rfl | hplace
      · exact hrow.left.left
      · exact ih (by simpa [String.append_assoc] using hrow.right) place hplace

/-- Every node of a row has a place. -/
theorem exists_place_of_mem {text : α → String} {between before : String} {items : List α}
    {nodes : List Node} (hlength : nodes.length = items.length) {node : Node} (h : node ∈ nodes) :
    ∃ place, (place, node) ∈ (places text between before items).zip nodes := by
  have hsnd : ((places text between before items).zip nodes).map Prod.snd = nodes :=
    List.map_snd_zip (by simp [hlength])
  rw [← hsnd] at h
  obtain ⟨entry, hmem, rfl⟩ := List.mem_map.1 h
  exact ⟨entry.1, hmem⟩

/-- Nodes that are read in their places are read as the items of the row. -/
theorem forall₂_of_places {source : Source} (text : α → String) {between before : String}
    {items : List α} {nodes : List Node} {reads : α → Node → Prop}
    (hsource : source.Holds before (between.intercalate (items.map text)))
    (hlength : nodes.length = items.length)
    (hread : ∀ entry ∈ (places text between before items).zip nodes,
      source.Holds entry.1.1 (text entry.1.2) → reads entry.1.2 entry.2) :
    List.Forall₂ reads items nodes := by
  have hplaces : List.Forall₂ (fun place node => reads place.2 node)
      (places text between before items) nodes := by
    refine List.forall₂_iff_zip.2 ⟨by simp [hlength], fun {place node} hmem => ?_⟩
    exact hread _ hmem (holds_of_mem_places hsource place (List.of_mem_zip hmem).1)
  rw [← map_snd_places text between before items]
  exact List.forall₂_map_left_iff.2 hplaces

theorem RowAt.forall₂ {source : Source} {tree : String → α → Node → Prop} {text : α → String}
    {between before : String} {items : List α} {nodes : List Node} {reads : α → Node → Prop}
    (h : RowAt tree text between before items nodes)
    (hsource : source.Holds before (between.intercalate (items.map text)))
    (hread : ∀ {before : String} {item : α} {node : Node}, item ∈ items →
      source.Holds before (text item) → tree before item node → reads item node) :
    List.Forall₂ reads items nodes := by
  refine forall₂_of_places text hsource h.1 fun entry hentry hholds => ?_
  have hitem : entry.1.2 ∈ items := by
    have hplace := List.mem_map_of_mem (f := (·.2)) (List.of_mem_zip hentry).1
    rwa [map_snd_places] at hplace
  exact hread hitem hholds (h.2 entry hentry)

theorem map_of_forall₂ {reads : α → β → Prop} {read : β → γ} {result : α → γ} {items : List α}
    {found : List β} (h : List.Forall₂ reads items found)
    (hread : ∀ item, ∀ node ∈ found, reads item node → read node = result item) :
    found.map read = items.map result := by
  induction h with
  | nil => rfl
  | cons hfirst _ ih =>
    rw [List.map_cons, List.map_cons, hread _ _ List.mem_cons_self hfirst,
      ih fun item node hnode => hread item node (.tail _ hnode)]

/-- Nodes that are read one after the other. -/
theorem gather_of_places {source : Source} (text : α → String) {between before : String}
    {items : List α} {nodes : List Node} {read : Node → Report β} {result : α → β}
    (hsource : source.Holds before (between.intercalate (items.map text)))
    (hlength : nodes.length = items.length)
    (hread : ∀ entry ∈ (places text between before items).zip nodes,
      source.Holds entry.1.1 (text entry.1.2) → read entry.2 = pure (result entry.1.2)) :
    Report.gather (nodes.map read) = pure (items.map result) := by
  have hreads : nodes.map read = (items.map result).map pure := by
    rw [List.map_map]
    exact map_of_forall₂ (forall₂_of_places text hsource hlength hread) fun _ _ _ heq => heq
  rw [hreads, Report.gather_pure]

/-! ## Paths -/

theorem shapeOf_of_isName {source : Source} {node : Node} (h : node.unwrapped.isName) :
    source.shapeOf node = .name := by
  simp only [Node.isName, Bool.or_eq_true, beq_iff_eq] at h
  rcases h with h | h <;> simp [Source.shapeOf, Source.ownShape, h]

theorem namePathIn_of_pathAt {source : Source} {before path : String} {node : Node}
    (h : PathAt before path node) (hsource : source.Holds before path) (outer : Node) :
    namePathIn source outer node = pure (some path) := by
  induction h with
  | name hkind hname =>
    rw [namePathIn, shapeOf_of_isName hkind, hname.text_eq hsource]
  | @member path member node object last hkind hobject _ hlast hmember ih =>
    have hshape : source.shapeOf node = .attribute := by
      simp [Source.shapeOf, Source.ownShape, hkind]
    rw [DottedName.child] at hsource
    rw [namePathIn, hshape]
    simp only
    split
    · rename_i object' last' hobject' hlast'
      obtain rfl := Option.some.inj (hobject.symm.trans hobject')
      obtain rfl := Option.some.inj (hlast.symm.trans hlast')
      have hbase := ih hsource.left.left
      have htext := hmember.text_eq (by simpa [String.append_assoc] using hsource.right)
      rw [hbase, Report.pure_bind, htext]
      rfl
    · rename_i hnone
      exact absurd hlast (hnone _ _ hobject)

theorem shapeOf_of_pathAt (source : Source) {before path : String} {node : Node}
    (h : PathAt before path node) :
    source.shapeOf node = .name ∨ source.shapeOf node = .attribute := by
  cases h with
  | name hkind _ => exact .inl (shapeOf_of_isName hkind)
  | member hkind _ _ _ _ => exact .inr (by simp [Source.shapeOf, Source.ownShape, hkind])

theorem namePath_of_pathAt {source : Source} {before path : String} {node : Node}
    (h : PathAt before path node) (hsource : source.Holds before path) :
    namePath source node = pure (some path) :=
  namePathIn_of_pathAt h hsource node

theorem subscriptBase_of_pathAt {source : Source} {before base : String} {subscript value : Node}
    (hvalue : subscript.child? .value = some value) (hbase : PathAt before base value)
    (hsource : source.Holds before base) :
    subscriptBase source subscript = pure (some base) := by
  rw [subscriptBase, hvalue]
  rcases shapeOf_of_pathAt source hbase with hshape | hshape <;>
    simp only [hshape, namePath_of_pathAt hbase hsource]

/-! ## Types -/

theorem shapeOf_ne_tuple_of_typeAt {source : Source} {before text : String} {node : Node}
    (h : TypeAt before text node) : source.shapeOf node ≠ .tuple := by
  cases h with
  | path hpath => rcases shapeOf_of_pathAt source hpath with hshape | hshape <;> simp [hshape]
  | noneType hkind => simp [Source.shapeOf, Source.ownShape, hkind]
  | ellipsis hkind => simp [Source.shapeOf, Source.ownShape, hkind]
  | subscript hkind => simp [Source.shapeOf, Source.ownShape, hkind]
  | generic hkind => simp [Source.shapeOf, Source.ownShape, hkind]
  | list hkind => simp [Source.shapeOf, Source.ownShape, hkind]

theorem subscriptArguments_eq {source : Source} {subscript : Node}
    (h : ∀ argument ∈ subscript.childrenAt .subscript, source.shapeOf argument ≠ .tuple) :
    subscriptArguments source subscript = subscript.childrenAt .subscript := by
  rw [subscriptArguments]
  split
  · rename_i single heq
    rw [if_neg (h single (by simp [heq])), heq]
  · rfl

theorem allTexts?_map_some (texts : List String) : allTexts? (texts.map some) = some texts := by
  induction texts with
  | nil => rfl
  | cons text texts ih => simp [allTexts?, ih]

theorem typeText_of_typeAt {source : Source} {before text : String} {node : Node}
    (h : TypeAt before text node) (hsource : source.Holds before text) :
    typeText source node = pure (some text) := by
  induction h with
  | @noneType before node hkind =>
    have hshape : source.shapeOf node = .noneValue := by
      simp [Source.shapeOf, Source.ownShape, hkind]
    rw [typeText, hshape]
  | @ellipsis before node hkind =>
    have hshape : source.shapeOf node = .ellipsis := by
      simp [Source.shapeOf, Source.ownShape, hkind]
    rw [typeText, hshape]
  | path hpath =>
    rw [typeText]
    rcases shapeOf_of_pathAt source hpath with hshape | hshape <;>
      simp only [hshape, namePath_of_pathAt hpath hsource]
  | @subscript before base arguments node value hkind hvalue hbase hlength harguments ih =>
    have hshape : source.shapeOf node = .subscript := by
      simp [Source.shapeOf, Source.ownShape, hkind]
    have hnodes : subscriptArguments source node.unwrapped =
        node.unwrapped.childrenAt .subscript := by
      refine subscriptArguments_eq fun argument hargument => ?_
      obtain ⟨place, hplace⟩ := exists_place_of_mem hlength hargument
      exact shapeOf_ne_tuple_of_typeAt (harguments _ hplace)
    rw [applied] at hsource
    have hgather : Report.gather ((node.unwrapped.childrenAt .subscript).map (typeText source)) =
        pure (arguments.map some) :=
      gather_of_places id
        (by simpa [String.append_assoc] using hsource.left.right) hlength ih
    rw [typeText, hshape]
    simp only [subscriptBase_of_pathAt hvalue hbase hsource.left.left.left, Report.pure_bind,
      List.attach_map_val, hnodes, hgather, allTexts?_map_some, Option.map_some]
  | @generic before base arguments node name bracket hkind hparts hbase hbracket hlength _ ih =>
    have hshape : source.shapeOf node = .genericType := by
      simp [Source.shapeOf, Source.ownShape, hkind]
    have hfirst : node.unwrapped.firstPart? = some name := by simp [Node.firstPart?, hparts]
    have hnodes : genericArguments? node.unwrapped = some bracket.parts := by
      simp [genericArguments?, hparts, hbracket]
    rw [applied] at hsource
    have hgather : Report.gather (bracket.parts.map (typeText source)) =
        pure (arguments.map some) :=
      gather_of_places id
        (by simpa [String.append_assoc] using hsource.left.right) hlength ih
    rw [typeText, hshape]
    simp only
    split
    · rename_i first nodes hfirst' hnodes'
      obtain rfl := Option.some.inj (hfirst.symm.trans hfirst')
      obtain rfl := Option.some.inj (hnodes.symm.trans hnodes')
      simp only [namePath_of_pathAt hbase hsource.left.left.left, Report.pure_bind,
        List.attach_map_val, hgather, allTexts?_map_some, Option.map_some]
    · rename_i hnone
      exact absurd hnodes (hnone _ _ hfirst)
  | @list before items node hkind hlength _ ih =>
    have hshape : source.shapeOf node = .list := by
      simp [Source.shapeOf, Source.ownShape, hkind]
    rw [listed] at hsource
    have hgather : Report.gather (node.unwrapped.parts.map (typeText source)) =
        pure (items.map some) :=
      gather_of_places id (by simpa using hsource.left.right) hlength ih
    rw [typeText, hshape]
    simp only [List.attach_map_val, hgather, Report.pure_bind, List.filterMap_map]
    simp

theorem baseClass_of_baseAt {source : Source} {before text : String} {node : Node}
    (h : BaseAt before text node) (hsource : source.Holds before text) :
    baseClass source node = pure (some text) := by
  induction h with
  | path hpath =>
    rw [baseClass]
    rcases shapeOf_of_pathAt source hpath with hshape | hshape <;>
      simp only [hshape, namePath_of_pathAt hpath hsource]
  | @applied before base inner node value argument hkind hvalue hbase hargument _ ih =>
    have hshape : source.shapeOf node = .subscript := by
      simp [Source.shapeOf, Source.ownShape, hkind]
    rw [applied] at hsource
    have hinner := ih (by simpa [String.append_assoc] using hsource.left.right)
    rw [baseClass, hshape]
    simp only [subscriptBase_of_pathAt hvalue hbase hsource.left.left.left, Report.pure_bind]
    split
    · rename_i argument' hargument'
      obtain rfl : argument = argument' := by simpa using hargument.symm.trans hargument'
      rw [hinner]
      rfl
    · rename_i hother
      exact absurd hargument (hother argument)

/-! ## Parameters -/

/-- The name and the annotation of an argument are read from two nodes. -/
def ReadsArgument (source : Source) (argument : Argument) (name : Node) (type : Option Node) :
    Prop :=
  source.text name = argument.name ∧ optionalType source type = pure argument.annotation

/-- The entry of a parameter list for a parameter. -/
inductive EntryFor (source : Source) : Parameter → ParameterEntry → Prop where
  | star : EntryFor source ⟨"*", none⟩ .star
  | plain {argument : Argument} {name : Node} {type value : Option Node}
      (hargument : ReadsArgument source argument name type)
      (hvalue : value.isSome = argument.hasDefault) :
      EntryFor source ⟨"", some argument⟩ (.plain name type value)
  | varArg {argument : Argument} {name : Node} {type : Option Node}
      (hargument : ReadsArgument source argument name type) (hvalue : argument.hasDefault = false) :
      EntryFor source ⟨"*", some argument⟩ (.varArg name type)
  | kwArg {argument : Argument} {name : Node} {type : Option Node}
      (hargument : ReadsArgument source argument name type) (hvalue : argument.hasDefault = false) :
      EntryFor source ⟨"**", some argument⟩ (.kwArg name type)

theorem EntryFor.of_plain {source : Source} {argument : Argument} {entry : ParameterEntry}
    (h : EntryFor source ⟨"", some argument⟩ entry) :
    ∃ name type value, entry = .plain name type value ∧ ReadsArgument source argument name type ∧
      value.isSome = argument.hasDefault := by
  generalize hparameter : (⟨"", some argument⟩ : Parameter) = parameter at h
  cases h with
  | plain hargument hvalue =>
    obtain rfl : argument = _ := by simpa using hparameter
    exact ⟨_, _, _, rfl, hargument, hvalue⟩
  | _ => simp at hparameter

theorem EntryFor.of_doubleStar {source : Source} {argument : Argument} {entry : ParameterEntry}
    (h : EntryFor source ⟨"**", some argument⟩ entry) :
    ∃ name type, entry = .kwArg name type ∧ ReadsArgument source argument name type ∧
      argument.hasDefault = false := by
  generalize hparameter : (⟨"**", some argument⟩ : Parameter) = parameter at h
  cases h with
  | kwArg hargument hvalue =>
    obtain rfl : argument = _ := by simpa using hparameter
    exact ⟨_, _, rfl, hargument, hvalue⟩
  | _ => simp at hparameter

theorem EntryFor.of_star {source : Source} {argument : Option Argument} {entry : ParameterEntry}
    (h : EntryFor source ⟨"*", argument⟩ entry) :
    (argument = none ∧ entry = .star) ∨ ∃ own name type, argument = some own ∧
      entry = .varArg name type ∧ ReadsArgument source own name type ∧ own.hasDefault = false := by
  generalize hparameter : (⟨"*", argument⟩ : Parameter) = parameter at h
  cases h with
  | star => exact .inl ⟨by simpa using hparameter, rfl⟩
  | varArg hargument hvalue =>
    exact .inr ⟨_, _, _, by simpa using hparameter, rfl, hargument, hvalue⟩
  | _ => simp at hparameter

/-- A name with its stars, and an annotation, are the entry for an argument without default. -/
theorem EntryFor.of_starredNameAt {source : Source} {before stars name : String} {node : Node}
    {written : Option String} {type : Option Node} (parameters : Node)
    (h : StarredNameAt before stars name node) (hsource : source.Holds before (stars ++ name))
    (htype : optionalType source type = pure written) :
    EntryFor source ⟨stars, some ⟨name, written, false⟩⟩
      (if node.isVariadic then splatEntry parameters node type else .plain node type none) := by
  cases h with
  | plain hkind hname =>
    have hname : source.text node = name := hname.text_eq (by simpa using hsource)
    simpa [Node.isVariadic, hkind] using EntryFor.plain ⟨hname, htype⟩ rfl
  | star hkind hpart hinner hname =>
    simpa [Node.isVariadic, splatEntry, hkind, hpart, hinner] using
      EntryFor.varArg ⟨hname.text_eq hsource.right, htype⟩ rfl
  | doubleStar hkind hpart hinner hname =>
    simpa [Node.isVariadic, splatEntry, hkind, hpart, hinner] using
      EntryFor.kwArg ⟨hname.text_eq hsource.right, htype⟩ rfl

theorem entryFor_of_parameterAt {source : Source} {before : String} {parameter : Parameter}
    {node : Node} (parameters : Node) (hsource : source.Holds before parameter.text)
    (h : ParameterAt before parameter node) :
    EntryFor source parameter (partEntry parameters node) := by
  cases h with
  | separator hkind =>
    simpa [partEntry, hkind] using EntryFor.star
  | @bare stars name _ hname =>
    have hentry := EntryFor.of_starredNameAt parameters hname
      (by simpa [Parameter.text, Parameter.body, Argument.text, Argument.tail] using hsource)
      (show optionalType source none = pure none from rfl)
    cases hname with
    | plain hkind _ => simpa [partEntry, Node.isVariadic, hkind] using hentry
    | star hkind => simpa [partEntry, Node.isVariadic, hkind] using hentry
    | doubleStar hkind => simpa [partEntry, Node.isVariadic, hkind] using hentry
  | @typed stars name annotation _ inner type hkind hpart hname htype hannotated =>
    have htext : source.Holds before (stars ++ name ++ ": " ++ annotation) := by
      simpa [Parameter.text, Parameter.body, Argument.text, Argument.tail, String.append_assoc]
        using hsource
    have hentry := EntryFor.of_starredNameAt parameters hname htext.left.left
      (show optionalType source (some type) = pure (some annotation) from
        typeText_of_typeAt hannotated (by simpa [String.append_assoc] using htext.right))
    simpa [partEntry, hkind, hpart, htype] using hentry
  | @default name _ inner hkind hchild hinner hname htype hvalue =>
    have htext : source.Holds before (name ++ "=...") := by
      simpa [Parameter.text, Parameter.body, Argument.text, Argument.tail] using hsource
    have hentry : EntryFor source ⟨"", some ⟨name, none, true⟩⟩
        (.plain inner none (node.child? .value)) := .plain ⟨hname.text_eq htext.left, rfl⟩ hvalue
    simpa [partEntry, hkind, hchild, hinner, htype] using hentry
  | @typedDefault name annotation _ inner type hkind hchild hinner hname htype hannotated hvalue =>
    have htext : source.Holds before (name ++ ": " ++ annotation ++ " = ...") := by
      simpa [Parameter.text, Parameter.body, Argument.text, Argument.tail, String.append_assoc]
        using hsource
    have htypeText : optionalType source (some type) = pure (some annotation) :=
      typeText_of_typeAt hannotated (by simpa [String.append_assoc] using htext.left.right)
    simpa [partEntry, hkind, hchild, hinner, htype] using EntryFor.plain
      ⟨hname.text_eq htext.left.left.left, htypeText⟩ hvalue

/-- The entry of a parameter without stars. -/
def Extraction.Parameter.plainEntry (parameter : Extraction.Parameter) : ParameterEntry :=
  .plain parameter.name parameter.type parameter.value

/-- Plain entries are parameters, with one role before the star and another after it. -/
theorem assignRoles_plain {starred : Bool} {plain : List Extraction.Parameter}
    (h : ∀ parameter ∈ plain, parameter.role = if starred then .keywordOnly else .positional)
    (rest : List ParameterEntry) :
    assignRoles starred (plain.map Extraction.Parameter.plainEntry ++ rest) =
      plain ++ assignRoles starred rest := by
  induction plain with
  | nil => rfl
  | cons parameter plain ih =>
    rw [List.forall_mem_cons] at h
    rw [List.map_cons, List.cons_append, Extraction.Parameter.plainEntry, assignRoles, ih h.2,
      ← h.1]
    rfl

/-- The entries for arguments without stars, in front of others. -/
theorem exists_plain {source : Source} (role : Role) {arguments : List Argument}
    {rest : List Parameter} {found : List ParameterEntry}
    (h : List.Forall₂ (EntryFor source)
      (arguments.map (fun argument => ⟨"", some argument⟩) ++ rest) found) :
    ∃ plain others, found = plain.map Extraction.Parameter.plainEntry ++ others ∧
      List.Forall₂ (EntryFor source) rest others ∧
      (∀ parameter ∈ plain, parameter.role = role) ∧
      List.Forall₂ (fun argument parameter =>
        ReadsArgument source argument parameter.name parameter.type ∧
          parameter.value.isSome = argument.hasDefault) arguments plain := by
  induction arguments generalizing found with
  | nil => exact ⟨[], found, rfl, h, by simp, .nil⟩
  | cons argument arguments ih =>
    obtain ⟨entry, found, hentry, hfound, rfl⟩ := List.forall₂_cons_left_iff.1 h
    obtain ⟨plain, others, rfl, hothers, hrole, hplain⟩ := ih hfound
    obtain ⟨name, type, value, rfl, hargument, hvalue⟩ := hentry.of_plain
    exact ⟨⟨role, name, type, value⟩ :: plain, others, rfl, hothers, by simpa using hrole,
      .cons ⟨hargument, hvalue⟩ hplain⟩

theorem namedArgument_of_reads {source : Source} {argument : Argument}
    {parameter : Extraction.Parameter}
    (h : ReadsArgument source argument parameter.name parameter.type)
    (hvalue : (parameter.role == .keywordOnly && parameter.value.isSome) = argument.hasDefault) :
    parameter.namedArgument source = pure (parameter.role, argument) := by
  rw [Extraction.Parameter.namedArgument, Extraction.Parameter.argument, h.2, h.1, hvalue]
  rfl

/-- The entries for the last parameter of a function, which has two stars. -/
theorem assignRoles_kwArg {source : Source} {argument : Option Argument}
    {found : List ParameterEntry} (starred : Bool)
    (h : List.Forall₂ (EntryFor source)
      (argument.toList.map fun argument => ⟨"**", some argument⟩) found) :
    (∀ parameter ∈ assignRoles starred found, parameter.role ≠ .positional) ∧
      (assignRoles starred found).map (·.namedArgument source) =
        (argument.toList.map (Role.kwArg, ·)).map pure := by
  cases argument with
  | none =>
    obtain rfl : found = [] := by simpa using h
    exact ⟨by simp [assignRoles], rfl⟩
  | some argument =>
    obtain ⟨entry, found, hentry, hfound, rfl⟩ := List.forall₂_cons_left_iff.1 h
    obtain rfl : found = [] := by simpa using hfound
    obtain ⟨name, type, rfl, hargument, hvalue⟩ := hentry.of_doubleStar
    have hread : (⟨.kwArg, name, type, none⟩ : Extraction.Parameter).namedArgument source =
        pure (.kwArg, argument) := namedArgument_of_reads hargument (by simp [hvalue])
    simp [assignRoles, hread]

/-- The entries for the parameters that are given by name, and for the last one. -/
theorem assignRoles_named {source : Source} {function : FunctionStub} {found : List ParameterEntry}
    (h : List.Forall₂ (EntryFor source)
      (function.kwArgs.map (fun argument => ⟨"", some argument⟩) ++
        function.kwArg.toList.map fun argument => ⟨"**", some argument⟩) found) :
    (∀ parameter ∈ assignRoles true found, parameter.role ≠ .positional) ∧
      (assignRoles true found).map (·.namedArgument source) =
        (function.kwArgs.map (Role.keywordOnly, ·) ++
          function.kwArg.toList.map (Role.kwArg, ·)).map pure := by
  obtain ⟨plain, others, rfl, hothers, hrole, hplain⟩ := exists_plain .keywordOnly h
  obtain ⟨hlast, hlastReads⟩ := assignRoles_kwArg true hothers
  have hreads : plain.map (·.namedArgument source) =
      (function.kwArgs.map (Role.keywordOnly, ·)).map pure := by
    rw [List.map_map]
    refine map_of_forall₂ hplain fun argument parameter hparameter hargument => ?_
    have hkeyword := hrole parameter hparameter
    rw [namedArgument_of_reads hargument.1 (by simpa [hkeyword] using hargument.2), hkeyword]
    rfl
  rw [assignRoles_plain (by simpa using hrole)]
  constructor
  · intro parameter hparameter
    rcases List.mem_append.1 hparameter with hparameter | hparameter
    · simp [hrole parameter hparameter]
    · exact hlast parameter hparameter
  · rw [List.map_append, List.map_append, hreads, hlastReads]

/-- What can be read of the entries for the parameters of a function. -/
theorem assignRoles_parameters {source : Source} {function : FunctionStub}
    {found : List ParameterEntry} (h : List.Forall₂ (EntryFor source) function.parameters found) :
    ∃ positional named, assignRoles false found = positional ++ named ∧
      (∀ parameter ∈ positional, parameter.role = .positional) ∧
      (∀ parameter ∈ named, parameter.role ≠ .positional) ∧
      List.Forall₂ (fun argument parameter =>
        ReadsArgument source argument parameter.name parameter.type ∧
          parameter.value.isSome = argument.hasDefault) function.args positional ∧
      named.map (·.namedArgument source) =
        (function.varArg.toList.map (Role.varArg, ·) ++
          (function.kwArgs.map (Role.keywordOnly, ·) ++
            function.kwArg.toList.map (Role.kwArg, ·))).map pure := by
  rw [FunctionStub.parameters, List.append_assoc, List.append_assoc] at h
  obtain ⟨positional, others, rfl, hothers, hrole, hargs⟩ := exists_plain .positional h
  refine ⟨positional, assignRoles false others, assignRoles_plain (by simpa using hrole) others,
    hrole, ?_⟩
  rw [and_left_comm]
  refine ⟨hargs, ?_⟩
  by_cases hstar : function.hasStar
  · rw [if_pos hstar, List.singleton_append] at hothers
    obtain ⟨entry, found, hentry, hfound, rfl⟩ := List.forall₂_cons_left_iff.1 hothers
    obtain ⟨hnamed, hreads⟩ := assignRoles_named hfound
    rcases hentry.of_star with
      ⟨hvarArg, rfl⟩ | ⟨argument, name, type, hvarArg, rfl, hargument, hvalue⟩
    · rw [hvarArg]
      exact ⟨hnamed, hreads⟩
    · have hread : (⟨.varArg, name, type, none⟩ : Extraction.Parameter).namedArgument source =
          pure (.varArg, argument) := namedArgument_of_reads hargument (by simp [hvalue])
      rw [hvarArg, assignRoles]
      exact ⟨by simpa using hnamed, by simp [hread, hreads]⟩
  · have hnone : function.varArg = none ∧ function.kwArgs = [] := by
      simpa [FunctionStub.hasStar] using hstar
    rw [if_neg hstar, hnone.2] at hothers
    rw [hnone.1, hnone.2]
    exact assignRoles_kwArg false hothers

/-- Nothing is reported of the entries for parameters. -/
theorem reportEntries_parameters {source : Source} {parameters : List Parameter}
    {found : List ParameterEntry} (h : List.Forall₂ (EntryFor source) parameters found)
    (slashed : Bool) : reportEntries source slashed found = pure () := by
  induction h with
  | nil => rfl
  | cons hentry _ ih => cases hentry <;> exact ih

theorem entries_of_uncommented {source : Source} {parameters : Node}
    (h : parameters.Uncommented) :
    entries source parameters = parameters.parts.map (partEntry parameters) := by
  have hnamed : parameters.children.filter (·.label.named) = parameters.parts := by
    refine List.filter_congr fun child hchild => ?_
    simp [Node.isPart, (h child hchild).1]
  rw [entries, hnamed]
  refine List.map_congr_left fun child hchild => ?_
  rw [entryOf, if_neg (by simp [(h child (Node.mem_children_of_mem_parts hchild)).1])]

theorem positionalArguments_of_reads {source : Source} {parameters : Node}
    {arguments : List Argument} {positional : List Extraction.Parameter}
    (hdefaults : arguments.Pairwise fun first second => first.hasDefault → second.hasDefault)
    (h : List.Forall₂ (fun argument parameter =>
      ReadsArgument source argument parameter.name parameter.type ∧
        parameter.value.isSome = argument.hasDefault) arguments positional) :
    positionalArguments source parameters positional = pure arguments := by
  have hvalues : positional.map (·.value.isSome) = arguments.map Argument.hasDefault :=
    map_of_forall₂ h fun _ _ _ hread => hread.2
  have hlast : positional.Pairwise fun first second =>
      first.value.isSome → second.value.isSome := by
    have hpairwise : (arguments.map Argument.hasDefault).Pairwise
        fun first second : Bool => first → second := List.pairwise_map.2 hdefaults
    rw [← hvalues] at hpairwise
    exact List.pairwise_map.1 hpairwise
  have hreads : positional.map (fun parameter =>
      parameter.argument source parameter.value.isSome) = arguments.map pure := by
    refine map_of_forall₂ h fun argument parameter _ hread => ?_
    rw [Extraction.Parameter.argument, hread.1.2, hread.1.1, hread.2]
    rfl
  rw [positionalArguments, alignRight_filterMap hlast]
  simp only [List.map_map, Function.comp_def]
  rw [hreads, Report.gather_pure]

theorem withRole_append (role : Role) (first second : List (Role × Argument)) :
    withRole role (first ++ second) = withRole role first ++ withRole role second := by
  simp [withRole]

theorem withRole_map (role other : Role) (arguments : List Argument) :
    withRole role (arguments.map (other, ·)) = if other = role then arguments else [] := by
  by_cases h : other = role
  · simp [withRole, h, List.filter_map, Function.comp_def]
  · simp [withRole, h, List.filter_map, Function.comp_def]

theorem getLast?_toList (argument : Option Argument) : argument.toList.getLast? = argument := by
  cases argument <;> rfl

theorem parameterList_of_row {source : Source} {before : String} {function : FunctionStub}
    {parameters : Node}
    (hdefaults : function.args.Pairwise fun first second => first.hasDefault → second.hasDefault)
    (huncommented : parameters.Uncommented)
    (hrow : RowAt ParameterAt Parameter.text ", " before function.parameters parameters.parts)
    (hsource : source.Holds before function.parametersText) :
    parameterList source function.name parameters =
      pure { function with returns := none, decorators := [] } := by
  have hentries : List.Forall₂ (EntryFor source) function.parameters
      (entries source parameters) := by
    rw [entries_of_uncommented huncommented]
    exact List.forall₂_map_right_iff.2
      (hrow.forall₂ hsource fun _ hholds => entryFor_of_parameterAt parameters hholds)
  obtain ⟨positional, named, hroles, hpositional, hnamed, hargs, hothers⟩ :=
    assignRoles_parameters hentries
  have hpartition : (positional ++ named).partition (·.role == .positional) =
      (positional, named) := by
    have hfirst : positional.filter (·.role == .positional) = positional :=
      List.filter_eq_self.2 fun parameter hmem => by simp [hpositional parameter hmem]
    have hsecond : named.filter (·.role == .positional) = [] :=
      List.filter_eq_nil_iff.2 fun parameter hmem => by simp [hnamed parameter hmem]
    have hfirst' : positional.filter (fun parameter => !(parameter.role == .positional)) = [] :=
      List.filter_eq_nil_iff.2 fun parameter hmem => by simp [hpositional parameter hmem]
    have hsecond' : named.filter (fun parameter => !(parameter.role == .positional)) = named :=
      List.filter_eq_self.2 fun parameter hmem => by simp [hnamed parameter hmem]
    rw [List.partition_eq_filter_filter, List.filter_append, List.filter_append, hfirst, hsecond]
    simp only [Function.comp_def, hfirst', hsecond', List.append_nil, List.nil_append]
  rw [parameterList]
  simp only [reportEntries_parameters hentries, Report.pure_bind, hroles, hpartition,
    positionalArguments_of_reads hdefaults hargs, hothers, Report.gather_pure, withRole_append,
    withRole_map]
  simp [getLast?_toList]

/-! ## Functions -/

/-- No comment stands among the children of a node without comments. -/
theorem Syntax.Node.Uncommented.any_eq_false {node : Node} (h : node.Uncommented) (source : Source)
    {nodes : List Node} (hnodes : ∀ other ∈ nodes, other ∈ node.children) :
    nodes.any source.commentDeclaresType = false := by
  rw [List.any_eq_false]
  intro other hother
  simp [Source.commentDeclaresType, (h other (hnodes other hother)).2]

theorem optionalType_of_optionalTypeAt {source : Source} {before : String}
    {written : Option String} {type : Option Node} (h : OptionalTypeAt before written type)
    (hsource : ∀ text ∈ written, source.Holds before text) :
    optionalType source type = pure written := by
  cases written with
  | none =>
    obtain rfl : type = none := h
    rfl
  | some text =>
    obtain ⟨node, rfl, htype⟩ := h
    exact typeText_of_typeAt htype (hsource text rfl)

theorem nameOf_of_covers {source : Source} {definition : Node} {before text : String}
    (h : ∃ name, definition.child? .name = some name ∧ name.Covers before text)
    (hsource : source.Holds before text) : nameOf source definition = text := by
  obtain ⟨name, hchild, hname⟩ := h
  rw [nameOf, hchild, Option.map_some, Option.getD_some, hname.text_eq hsource]

theorem functionStub_of_signatureAt {source : Source} {before : String} {function : FunctionStub}
    {definition : Node} {decorators : List Node}
    (hdefaults : function.args.Pairwise fun first second => first.hasDefault → second.hasDefault)
    (h : SignatureAt before function definition)
    (hsource : source.Holds before function.signature)
    (hdecorators : Report.gather (decorators.map (decoratorPath source)) =
      pure (function.decorators.map some)) :
    functionStub source definition decorators = pure function := by
  have htext : source.Holds before (function.opening ++ function.parametersText ++ ")" ++
      returnsText function.returns ++ ": ...") := hsource
  have hname : nameOf source definition = function.name :=
    nameOf_of_covers h.name htext.left.left.left.left.left.right
  obtain ⟨parameters, hchild, huncommented, hrow⟩ := h.parameters
  have hparameters := parameterList_of_row hdefaults huncommented hrow htext.left.left.left.right
  have hreturns : optionalType source (definition.child? .returnType) =
      pure function.returns := by
    refine optionalType_of_optionalTypeAt h.returns fun text hmem => ?_
    have hholds := htext.left.right
    rw [Option.mem_def.1 hmem, returnsText] at hholds
    simpa [String.append_assoc] using hholds.right
  have hcomments : source.signatureDeclaresType definition = false := by
    rw [Source.signatureDeclaresType, h.uncommented.any_eq_false source fun _ hmem => hmem,
      Bool.false_or]
    cases hbody : definition.child? .body with
    | none => rfl
    | some body =>
      exact (h.body body hbody).any_eq_false source fun _ hmem =>
        (List.takeWhile_sublist _).subset hmem
  rw [functionStub, hdecorators]
  simp only [Report.pure_bind, hname, hchild, hparameters, hreturns, hcomments]
  simp [List.filterMap_map]

theorem decoratorPath_of_decoratorAt {source : Source} {margin before path : String} {node : Node}
    (hsource : source.Holds before (margin ++ decoratorLine path ++ "\n"))
    (h : DecoratorAt margin before path node) :
    decoratorPath source node = pure (some path) := by
  obtain ⟨expression, hpart, hpath⟩ := h
  rw [decoratorLine, ← String.append_assoc] at hsource
  have hholds : source.Holds (before ++ margin ++ "@") path := by
    simpa [String.append_assoc] using hsource.left.right
  rw [decoratorPath, hpart]
  rcases shapeOf_of_pathAt source hpath with hshape | hshape <;>
    simp only [hshape, namePath_of_pathAt hpath hholds]

end InterfaceStub
