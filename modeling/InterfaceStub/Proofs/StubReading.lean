import InterfaceStub.Proofs.LineBreaks
import InterfaceStub.Proofs.LineReading

/-!
# What the text of a stub tells

The text of a well formed stub has one reading.

* Lines.  No part of a well formed stub holds the end of a line, so the text shows its lines
  (`joinLines_inj`).
* First lines.  A declaration is its decorators, one line that is neither a decorator nor indented,
  and indented lines.  `Keyword` tells the lines that open with `import`, `from`, `def` and `class`
  from those that open with the name of a variable, which may be one of these words.
* Modules.  The imports come first, so they end where the first other line stands.
  `render_eq_iff_of_wellFormed` is the result.
-/

namespace InterfaceStub

/-! ## Lines -/

theorem oneLine_of_isWordChar {text : String} (h : ∀ c ∈ text.toList, isWordChar c) :
    OneLine text := by
  intro hmem
  have hword := h '\n' hmem
  rw [isWordChar_of_mem_marks (by decide)] at hword
  contradiction

theorem oneLine_of_isIdentifier {name : String} (h : Text.isIdentifier name) : OneLine name :=
  oneLine_of_isWordChar (IsDotted.name h).isWordChar_of_mem

theorem IsDotted.oneLine {text : String} (h : IsDotted text) : OneLine text :=
  oneLine_of_isWordChar h.isWordChar_of_mem

theorem IsType.oneLine {text : String} (h : IsType text) : OneLine text := by
  have hopen : OneLine "[" := by simp [OneLine]
  have hclose : OneLine "]" := by simp [OneLine]
  induction h with
  | noneType => simp [OneLine]
  | ellipsis => simp [OneLine]
  | path htext => exact htext.oneLine
  | applied hbase _ ih =>
    simp only [oneLine_append]
    exact ⟨⟨⟨hbase.oneLine, hopen⟩, oneLine_commas_iff.2 ih⟩, hclose⟩
  | list _ ih =>
    simp only [oneLine_append]
    exact ⟨⟨hopen, oneLine_commas_iff.2 ih⟩, hclose⟩

/-- A text of lines shows its lines. -/
theorem joinLines_inj {first second : List String} (hfirst : AllOneLine first)
    (hsecond : AllOneLine second) (h : joinLines first = joinLines second) : first = second := by
  have hlines : first ++ [""] = second ++ [""] := by
    rw [← split_joinLines_iff.2 hfirst, ← split_joinLines_iff.2 hsecond, h]
  exact List.append_cancel_right hlines

/-! ## One line each -/

theorem allOneLine_localName {localName : Option String}
    (h : ∀ name ∈ localName, Text.isIdentifier name) : AllOneLine localName.toList := by
  intro name hname
  exact oneLine_of_isIdentifier (h name (Option.mem_toList.1 hname))

theorem Import.allOneLine_nameTexts {statement : Import} (h : statement.WellFormed) :
    AllOneLine statement.nameTexts :=
  allOneLine_cons.2 ⟨h.1.oneLine, allOneLine_localName h.2⟩

theorem ImportFrom.allOneLine_nameTexts {statement : ImportFrom} (h : statement.WellFormed) :
    AllOneLine statement.nameTexts := by
  have hpath : OneLine statement.path := by
    rcases h.path with hpath | ⟨hpath, -⟩
    · exact hpath.oneLine
    · simp [hpath, OneLine]
  refine allOneLine_cons.2 ⟨hpath, allOneLine_flatMap.2 ?_⟩
  intro imported himported
  obtain ⟨hname, hlocal⟩ := h.names imported himported
  refine allOneLine_cons.2 ⟨?_, allOneLine_localName hlocal⟩
  rcases hname with hname | hstar
  · exact oneLine_of_isIdentifier hname
  · simp [hstar, OneLine]

theorem FunctionStub.arguments_wellFormed {function : FunctionStub} (h : function.WellFormed) :
    ∀ argument ∈ function.arguments, argument.WellFormed := by
  intro argument hargument
  simp only [arguments, List.mem_append, Option.mem_toList] at hargument
  rcases hargument with ((hargument | hargument) | hargument) | hargument
  · exact h.args argument hargument
  · exact h.varArg argument hargument
  · exact h.kwArgs argument hargument
  · exact h.kwArg argument hargument

theorem FunctionStub.allOneLine_lines {function : FunctionStub} (h : function.WellFormed) :
    AllOneLine function.lines := by
  have harguments := arguments_wellFormed h
  refine allOneLine_lines_iff.2 ⟨?_, ?_⟩
  · refine allOneLine_append.2 ⟨fun decorator hdecorator => ?_, allOneLine_cons.2 ⟨?_, ?_⟩⟩
    · exact (h.decorators decorator hdecorator).oneLine
    · exact oneLine_of_isIdentifier h.name
    · exact allOneLine_map.2 fun argument hargument =>
        oneLine_of_isIdentifier (harguments argument hargument).1
  · refine allOneLine_append.2 ⟨allOneLine_filterMap.2 ?_, ?_⟩
    · intro argument hargument text htext
      exact ((harguments argument hargument).2 text (Option.mem_toList.1 htext)).oneLine
    · intro text htext
      exact (h.returns text (Option.mem_toList.1 htext)).oneLine

theorem ClassMember.allOneLine_lines {member : ClassMember} (h : member.WellFormed) :
    AllOneLine member.lines := by
  cases member with
  | method declared => exact FunctionStub.allOneLine_lines h
  | field declared =>
    have hline := ClassField.oneLine_line_iff.2
      ⟨oneLine_of_isIdentifier h.name, h.annotation.oneLine⟩
    exact allOneLine_cons.2 ⟨hline, allOneLine_nil⟩

theorem ClassStub.allOneLine_lines {cls : ClassStub} (h : cls.WellFormed) :
    AllOneLine cls.lines := by
  have hmembers := fun member hmember =>
    ClassMember.allOneLine_lines_iff.1 (ClassMember.allOneLine_lines (h.body member hmember))
  have hkeywords : AllOneLine
      (cls.keywords.flatMap fun keyword => [keyword.name, keyword.value]) := by
    refine allOneLine_flatMap.2 fun keyword hkeyword => ?_
    obtain ⟨hname, hvalue⟩ := h.keywords keyword hkeyword
    simp [oneLine_of_isIdentifier hname, hvalue.oneLine]
  have hdecorators : AllOneLine cls.decorators := fun decorator hdecorator =>
    (h.decorators decorator hdecorator).oneLine
  have hbases : AllOneLine cls.bases := fun base hbase => (h.bases base hbase).oneLine
  refine allOneLine_lines_iff.2 ⟨?_, ?_⟩
  · simp only [nameTexts, allOneLine_append, allOneLine_cons]
    exact ⟨⟨⟨hdecorators, oneLine_of_isIdentifier h.name, hbases⟩, hkeywords⟩,
      allOneLine_flatMap.2 fun member hmember => (hmembers member hmember).1⟩
  · exact allOneLine_flatMap.2 fun member hmember => (hmembers member hmember).2

theorem Declaration.allOneLine_lines {declared : Declaration} (h : declared.WellFormed) :
    AllOneLine declared.lines := by
  match declared with
  | .attribute declared =>
    simpa [Declaration.lines, OneLine] using ⟨oneLine_of_isIdentifier h.1, h.2.oneLine⟩
  | .typeAlias declared =>
    simpa [Declaration.lines, OneLine] using ⟨oneLine_of_isIdentifier h.1, h.2.oneLine⟩
  | .function declared => exact FunctionStub.allOneLine_lines h
  | .classStub declared => exact ClassStub.allOneLine_lines h

theorem ModuleStub.oneLine_lines {stub : ModuleStub} (h : stub.WellFormed) :
    AllOneLine (stub.lines []) := by
  have hcontent := fun declared hdeclared =>
    Declaration.allOneLine_lines_iff.1 (Declaration.allOneLine_lines (h.content declared hdeclared))
  refine (allOneLine_lines_iff (by simp)).2 ⟨?_, ?_⟩
  · simp only [nameTexts, allOneLine_append, allOneLine_flatMap]
    exact ⟨⟨fun statement hstatement =>
        Import.allOneLine_nameTexts (h.imports statement hstatement),
      fun statement hstatement =>
        ImportFrom.allOneLine_nameTexts (h.importFroms statement hstatement)⟩,
      fun declared hdeclared => (hcontent declared hdeclared).1⟩
  · exact allOneLine_flatMap.2 fun declared hdeclared => (hcontent declared hdeclared).2

/-! ## First lines -/

/-- A line that opens with a word and goes on with another, as a statement of that name does. -/
def Keyword (word line : String) : Prop :=
  ∃ c rest, line.toList = word.toList ++ ' ' :: c :: rest ∧ c ∉ marks

/-- A line opens with one word only. -/
theorem Keyword.word_eq {first second line : String} (hfirst : IsWord first)
    (hsecond : IsWord second) (h : Keyword first line) (h' : Keyword second line) :
    first = second := by
  obtain ⟨c, rest, hline, -⟩ := h
  obtain ⟨c', rest', hline', -⟩ := h'
  have hspace (rest : List Char) : Stops (' ' :: rest) := stops_of_head rfl (by decide)
  exact (hfirst.append_inj hsecond (hspace _) (hspace _) (hline.symm.trans hline')).1

theorem isWord_def : IsWord "def" := isWord_of_all (by decide +kernel)

theorem isWord_class : IsWord "class" := isWord_of_all (by decide +kernel)

theorem isWord_import : IsWord "import" := isWord_of_all (by decide +kernel)

theorem isWord_from : IsWord "from" := isWord_of_all (by decide +kernel)

/-- A variable is declared by a line that no statement opens, whatever its name. -/
theorem not_keyword_attribute {word name : String} (hword : IsWord word)
    (hname : Text.isIdentifier name) (type : String) :
    ¬ Keyword word (name ++ ": " ++ type) := by
  rintro ⟨c, rest, hline, -⟩
  have htexts : name.toList ++ ':' :: ' ' :: type.toList = word.toList ++ ' ' :: c :: rest := by
    simpa using hline
  obtain ⟨-, hrest⟩ := (isWord_of_isIdentifier hname).append_inj hword
    (stops_of_head rfl (by decide)) (stops_of_head rfl (by decide)) htexts
  simp at hrest

theorem not_keyword_alias {word name : String} (hword : IsWord word)
    (hname : Text.isIdentifier name) (target : String) :
    ¬ Keyword word (name ++ " = " ++ target) := by
  rintro ⟨c, rest, hline, hc⟩
  have htexts : name.toList ++ ' ' :: '=' :: ' ' :: target.toList =
      word.toList ++ ' ' :: c :: rest := by
    simpa using hline
  obtain ⟨-, hrest⟩ := (isWord_of_isIdentifier hname).append_inj hword
    (stops_of_head rfl (by decide)) (stops_of_head rfl (by decide)) htexts
  have hequals : '=' = c := by simpa using (List.cons.inj (List.cons.inj hrest).2).1
  exact hc (hequals ▸ by decide)

/-- An attribute and an alias are told apart by what follows the name. -/
theorem attribute_ne_alias {name other : String} (hname : Text.isIdentifier name)
    (hother : Text.isIdentifier other) (type target : String) :
    name ++ ": " ++ type ≠ other ++ " = " ++ target := by
  intro h
  have htexts : name.toList ++ ':' :: ' ' :: type.toList =
      other.toList ++ ' ' :: '=' :: ' ' :: target.toList := by
    simpa [← String.toList_inj] using h
  obtain ⟨-, hrest⟩ := (isWord_of_isIdentifier hname).append_inj (isWord_of_isIdentifier hother)
    (stops_of_head rfl (by decide)) (stops_of_head rfl (by decide)) htexts
  simp at hrest

/-- A word, a blank and a type expression open a statement. -/
theorem keyword_of_prefix {word text line : String}
    (htext : ∃ c cs, text.toList = c :: cs ∧ c ∉ marks)
    (hline : word.toList ++ ' ' :: text.toList <+: line.toList) : Keyword word line := by
  obtain ⟨c, cs, hchars, hc⟩ := htext
  obtain ⟨rest, hrest⟩ := hline
  exact ⟨c, cs ++ rest, by simp [← hrest, hchars], hc⟩

theorem FunctionStub.keyword_signature {function : FunctionStub} (h : function.WellFormed) :
    Keyword "def" function.signature :=
  keyword_of_prefix (head_of_isType (.path (.name h.name))) (by simp [FunctionStub.signature])

theorem ClassStub.keyword_header {cls : ClassStub} (h : cls.WellFormed) :
    Keyword "class" cls.header :=
  keyword_of_prefix (head_of_isType (.path (.name h.name))) (by simp [ClassStub.header])

theorem Import.keyword_line {statement : Import} (h : statement.WellFormed) :
    Keyword "import" statement.line :=
  keyword_of_prefix (head_of_isType (.path h.1)) (by simp [Import.line])

theorem ImportFrom.keyword_line {statement : ImportFrom} (h : statement.WellFormed) :
    Keyword "from" statement.line := by
  have hpath : ∃ c cs, (statement.dots ++ statement.path).toList = c :: cs ∧ c ∉ marks := by
    cases hlevel : statement.level.toNat with
    | succ count =>
      exact ⟨'.', List.replicate count '.' ++ statement.path.toList,
        by simp [ImportFrom.dots, hlevel, List.replicate_succ], by decide⟩
    | zero =>
      rcases h.path with hpath | ⟨-, hzero⟩
      · simpa [ImportFrom.dots, hlevel] using head_of_isType (.path hpath)
      · exact absurd (UInt32.toNat_inj.1 hlevel) hzero
  refine keyword_of_prefix hpath ?_
  simp [ImportFrom.line, String.append_assoc]

/-! ## Decorators and members -/

/-- A line that holds a decorator. -/
def IsDecoratorLine (line : String) : Prop :=
  line.toList.head? = some '@'

/-- A line of the body of a class. -/
def IsIndented (line : String) : Prop :=
  line.toList.head? = some ' '

/-- Decorators stand before the first line that is none, so they can be read off. -/
theorem decorated_append_inj {first second : List String} {headline other : String}
    {r s : List String} (hheadline : ¬ IsDecoratorLine headline) (hother : ¬ IsDecoratorLine other)
    (h : first.map decoratorLine ++ headline :: r = second.map decoratorLine ++ other :: s) :
    first = second ∧ headline = other ∧ r = s := by
  have hlines (decorators : List String) :
      ∀ line ∈ decorators.map decoratorLine, IsDecoratorLine line := by
    simp [IsDecoratorLine, decoratorLine]
  obtain ⟨hdecorators, hrest⟩ := append_inj_of_sort (hlines first) (hlines second)
    (by simpa using hheadline) (by simpa using hother) h
  have hinj (x y : String) (hxy : decoratorLine x = decoratorLine y) : x = y := by
    simpa [decoratorLine, ← String.toList_inj] using hxy
  exact ⟨(List.map_inj_right hinj).1 hdecorators, (List.cons.inj hrest).1, (List.cons.inj hrest).2⟩

/-- Items whose lines can be read one item at a time can be read one after the other. -/
theorem flatMap_lines_inj {lines : α → List String} {wf : α → Prop} (hlines : ∀ x, lines x ≠ [])
    (hitem : ∀ {x y : α} {xs ys : List α}, wf x → wf y → (∀ z ∈ xs, wf z) → (∀ z ∈ ys, wf z) →
      lines x ++ xs.flatMap lines = lines y ++ ys.flatMap lines →
      x = y ∧ xs.flatMap lines = ys.flatMap lines)
    {xs ys : List α} (hxs : ∀ x ∈ xs, wf x) (hys : ∀ y ∈ ys, wf y)
    (h : xs.flatMap lines = ys.flatMap lines) : xs = ys := by
  induction xs generalizing ys with
  | nil =>
    cases ys with
    | nil => rfl
    | cons y ys => simp [hlines] at h
  | cons x xs ih =>
    cases ys with
    | nil => simp [hlines] at h
    | cons y ys =>
      rw [List.forall_mem_cons] at hxs hys
      obtain ⟨rfl, hrest⟩ := hitem hxs.1 hys.1 hxs.2 hys.2 (by simpa using h)
      rw [ih hxs.2 hys.2 hrest]

/-- The line of a member that is no decorator. -/
def ClassMember.headline : ClassMember → String
  | .field declared => declared.line
  | .method declared => declared.signature

def ClassMember.decorators : ClassMember → List String
  | .field _ => []
  | .method declared => declared.decorators

theorem ClassMember.lines_eq (member : ClassMember) :
    member.lines = member.decorators.map decoratorLine ++ [member.headline] := by
  cases member <;> rfl

/-- A line that starts with a name or a keyword is neither a decorator nor a line of a class. -/
theorem not_isDecoratorLine_of_head {line : String}
    (h : ∃ c cs, line.toList = c :: cs ∧ c ∉ marks) :
    ¬ IsDecoratorLine line ∧ ¬ IsIndented line := by
  obtain ⟨c, cs, hchars, hc⟩ := h
  simp only [IsDecoratorLine, IsIndented, hchars, List.head?_cons, Option.some.injEq]
  constructor
  · rintro rfl
    exact hc (by decide)
  · rintro rfl
    exact hc (by decide)

theorem Keyword.head {word line : String} (hword : ∃ c cs, word.toList = c :: cs ∧ c ∉ marks)
    (h : Keyword word line) : ∃ c cs, line.toList = c :: cs ∧ c ∉ marks := by
  obtain ⟨_, rest, hline, -⟩ := h
  obtain ⟨c, cs, hchars, hc⟩ := hword
  exact ⟨c, _, by rw [hline, hchars, List.cons_append], hc⟩

theorem FunctionStub.head_signature {function : FunctionStub} (h : function.WellFormed) :
    ∃ c cs, function.signature.toList = c :: cs ∧ c ∉ marks :=
  (keyword_signature h).head ⟨'d', ['e', 'f'], by simp, by decide⟩

theorem head_of_name {name : String} (hname : Text.isIdentifier name) (rest : String) :
    ∃ c cs, (name ++ rest).toList = c :: cs ∧ c ∉ marks := by
  obtain ⟨c, cs, hchars, hc⟩ := head_of_isType (.path (.name hname))
  exact ⟨c, _, by rw [String.toList_append, hchars, List.cons_append], hc⟩

theorem ClassMember.head_headline {member : ClassMember} (h : member.WellFormed) :
    ∃ c cs, member.headline.toList = c :: cs ∧ c ∉ marks := by
  cases member with
  | method declared => exact FunctionStub.head_signature h
  | field declared =>
    rw [headline, ClassField.line, String.append_assoc]
    exact head_of_name h.name _

/-- Functions with one signature and the same decorators are one function. -/
theorem FunctionStub.eq_of_signature_eq {first second : FunctionStub} (hfirst : first.WellFormed)
    (hsecond : second.WellFormed) (hsignature : first.signature = second.signature)
    (hdecorators : first.decorators = second.decorators) : first = second := by
  obtain ⟨hname, hparameters, hreturns⟩ := signature_inj hfirst hsecond hsignature
  obtain ⟨hargs, hvarArg, hkwArgs, hkwArg⟩ := parameters_inj hparameters
  cases first
  cases second
  simp_all

theorem ClassMember.eq_of_headline_eq {first second : ClassMember} (hfirst : first.WellFormed)
    (hsecond : second.WellFormed) (hheadline : first.headline = second.headline)
    (hdecorators : first.decorators = second.decorators) : first = second := by
  cases first with
  | field declared =>
    cases second with
    | field other => rw [ClassField.line_inj hfirst hsecond hheadline]
    | method other =>
      have hkeyword : Keyword "def" declared.line :=
        Eq.mpr (congrArg _ hheadline) (FunctionStub.keyword_signature hsecond)
      exact absurd hkeyword (not_keyword_attribute isWord_def hfirst.name _)
  | method declared =>
    cases second with
    | field other =>
      have hkeyword : Keyword "def" other.line :=
        Eq.mp (congrArg _ hheadline) (FunctionStub.keyword_signature hfirst)
      exact absurd hkeyword (not_keyword_attribute isWord_def hsecond.name _)
    | method other =>
      rw [FunctionStub.eq_of_signature_eq hfirst hsecond hheadline hdecorators]

/-- The lines of the body of a class show its members. -/
theorem ClassMember.flatMap_lines_inj {first second : List ClassMember}
    (hfirst : ∀ member ∈ first, member.WellFormed) (hsecond : ∀ member ∈ second, member.WellFormed)
    (h : first.flatMap ClassMember.lines = second.flatMap ClassMember.lines) : first = second := by
  refine InterfaceStub.flatMap_lines_inj (fun member => by simp [lines_eq]) ?_ hfirst hsecond h
  intro member other members others hmember hother _ _ hlines
  rw [lines_eq, lines_eq, List.append_assoc, List.append_assoc] at hlines
  obtain ⟨hdecorators, hheadline, hrest⟩ := decorated_append_inj
    (not_isDecoratorLine_of_head (head_headline hmember)).1
    (not_isDecoratorLine_of_head (head_headline hother)).1 hlines
  exact ⟨eq_of_headline_eq hmember hother hheadline hdecorators, hrest⟩

/-! ## Declarations -/

/-- The line of a declaration that is neither a decorator nor indented. -/
def Declaration.headline : Declaration → String
  | .attribute declared => declared.name ++ ": " ++ declared.annotation
  | .typeAlias declared => declared.name ++ " = " ++ declared.target
  | .function declared => declared.signature
  | .classStub declared => declared.header

def Declaration.decorators : Declaration → List String
  | .function declared => declared.decorators
  | .classStub declared => declared.decorators
  | _ => []

/-- The members of a declaration: none but for a class. -/
def Declaration.members : Declaration → List ClassMember
  | .classStub declared => declared.body
  | _ => []

theorem Declaration.lines_eq (declared : Declaration) :
    declared.lines = declared.decorators.map decoratorLine ++
      declared.headline :: (declared.members.flatMap ClassMember.lines).map indented := by
  match declared with
  | .attribute declared => rfl
  | .typeAlias declared => rfl
  | .function declared => rfl
  | .classStub declared => simp [lines, ClassStub.lines, decorators, headline, members]

theorem Declaration.members_wellFormed {declared : Declaration} (h : declared.WellFormed) :
    ∀ member ∈ declared.members, member.WellFormed := by
  match declared with
  | .attribute declared => simp [members]
  | .typeAlias declared => simp [members]
  | .function declared => simp [members]
  | .classStub declared => exact h.body

theorem Declaration.head_headline {declared : Declaration} (h : declared.WellFormed) :
    ∃ c cs, declared.headline.toList = c :: cs ∧ c ∉ marks := by
  match declared with
  | .attribute declared =>
    rw [headline, String.append_assoc]
    exact head_of_name h.1 _
  | .typeAlias declared =>
    rw [headline, String.append_assoc]
    exact head_of_name h.1 _
  | .function declared => exact FunctionStub.head_signature h
  | .classStub declared =>
    exact (ClassStub.keyword_header h).head ⟨'c', ['l', 'a', 's', 's'], by simp, by decide⟩

/-- A headline opens with `def` or `class`, or with no keyword. -/
theorem Declaration.keyword_headline {declared : Declaration} (h : declared.WellFormed)
    {word : String} (hword : IsWord word) (hkeyword : Keyword word declared.headline) :
    (word = "def" ∧ ∃ function, declared = .function function) ∨
      word = "class" ∧ ∃ cls, declared = .classStub cls := by
  match declared with
  | .attribute declared => exact absurd hkeyword (not_keyword_attribute hword h.1 _)
  | .typeAlias declared => exact absurd hkeyword (not_keyword_alias hword h.1 _)
  | .function declared =>
    exact .inl ⟨hkeyword.word_eq hword isWord_def (FunctionStub.keyword_signature h), _, rfl⟩
  | .classStub declared =>
    exact .inr ⟨hkeyword.word_eq hword isWord_class (ClassStub.keyword_header h), _, rfl⟩

theorem Declaration.eq_of_headline_eq {first second : Declaration} (hfirst : first.WellFormed)
    (hsecond : second.WellFormed) (hheadline : first.headline = second.headline)
    (hdecorators : first.decorators = second.decorators)
    (hmembers : first.members = second.members) :
    first = second := by
  -- A keyword on one side is a keyword on the other.
  have hkeyword (word : String) : Keyword word first.headline ↔ Keyword word second.headline := by
    rw [hheadline]
  match first with
  | .function declared =>
    rcases keyword_headline hsecond isWord_def
      ((hkeyword _).1 (FunctionStub.keyword_signature hfirst)) with ⟨-, other, rfl⟩ | ⟨h, -⟩
    · rw [FunctionStub.eq_of_signature_eq hfirst hsecond hheadline hdecorators]
    · simp at h
  | .classStub declared =>
    rcases keyword_headline hsecond isWord_class
      ((hkeyword _).1 (ClassStub.keyword_header hfirst)) with ⟨h, -⟩ | ⟨-, other, rfl⟩
    · simp at h
    · obtain ⟨hname, hbases, hkeywords⟩ := ClassStub.header_inj hfirst hsecond hheadline
      cases declared
      cases other
      simp_all [decorators, members]
  | .attribute declared =>
    match second with
    | .attribute other =>
      obtain ⟨hname, htype⟩ := named_inj ⟨':', by simp, by decide⟩ hfirst.1 hsecond.1 hheadline
      cases declared
      cases other
      simp_all
    | .typeAlias other => exact absurd hheadline (attribute_ne_alias hfirst.1 hsecond.1 _ _)
    | .function other =>
      exact absurd ((hkeyword _).2 (FunctionStub.keyword_signature hsecond))
        (not_keyword_attribute isWord_def hfirst.1 _)
    | .classStub other =>
      exact absurd ((hkeyword _).2 (ClassStub.keyword_header hsecond))
        (not_keyword_attribute isWord_class hfirst.1 _)
  | .typeAlias declared =>
    match second with
    | .attribute other => exact absurd hheadline.symm (attribute_ne_alias hsecond.1 hfirst.1 _ _)
    | .typeAlias other =>
      obtain ⟨hname, htarget⟩ := named_inj ⟨' ', by simp, by decide⟩ hfirst.1 hsecond.1 hheadline
      cases declared
      cases other
      simp_all
    | .function other =>
      exact absurd ((hkeyword _).2 (FunctionStub.keyword_signature hsecond))
        (not_keyword_alias isWord_def hfirst.1 _)
    | .classStub other =>
      exact absurd ((hkeyword _).2 (ClassStub.keyword_header hsecond))
        (not_keyword_alias isWord_class hfirst.1 _)

/-- The first line of some declarations is a decorator or a headline. -/
theorem Declaration.head_lines {content : List Declaration} {line : String}
    (h : line ∈ (content.flatMap Declaration.lines).head?) :
    IsDecoratorLine line ∨ ∃ declared ∈ content, line = declared.headline := by
  cases content with
  | nil => simp at h
  | cons declared content =>
    rw [List.flatMap_cons, lines_eq] at h
    cases hdecorators : declared.decorators with
    | nil =>
      obtain rfl : declared.headline = line := by simpa [hdecorators] using h
      exact .inr ⟨declared, List.mem_cons_self, rfl⟩
    | cons decorator decorators =>
      obtain rfl : decoratorLine decorator = line := by simpa [hdecorators] using h
      exact .inl (by simp [IsDecoratorLine, decoratorLine])

/-- The lines of some declarations show the declarations. -/
theorem Declaration.flatMap_lines_inj {first second : List Declaration}
    (hfirst : ∀ declared ∈ first, declared.WellFormed)
    (hsecond : ∀ declared ∈ second, declared.WellFormed)
    (h : first.flatMap Declaration.lines = second.flatMap Declaration.lines) : first = second := by
  -- A body ends before the next line that is not indented.
  have hnext {content : List Declaration} (hcontent : ∀ declared ∈ content, declared.WellFormed) :
      ∀ line ∈ (content.flatMap Declaration.lines).head?, ¬ IsIndented line := by
    intro line hline
    rcases head_lines hline with hdecorator | ⟨declared, hdeclared, rfl⟩
    · simp only [IsDecoratorLine] at hdecorator
      simp [IsIndented, hdecorator]
    · exact (not_isDecoratorLine_of_head (head_headline (hcontent declared hdeclared))).2
  have hbody (lines : List String) : ∀ line ∈ lines.map indented, IsIndented line := by
    simp [IsIndented, indented]
  have hindented (x y : String) (hxy : indented x = indented y) : x = y := by
    simpa [indented, ← String.toList_inj] using hxy
  refine InterfaceStub.flatMap_lines_inj (fun declared => by simp [lines_eq]) ?_ hfirst hsecond h
  intro declared other content others hdeclared hother hcontent hothers hlines
  rw [lines_eq, lines_eq, List.append_assoc, List.append_assoc, List.cons_append,
    List.cons_append] at hlines
  obtain ⟨hdecorators, hheadline, hrest⟩ := decorated_append_inj
    (not_isDecoratorLine_of_head (head_headline hdeclared)).1
    (not_isDecoratorLine_of_head (head_headline hother)).1 hlines
  obtain ⟨hbodies, hrest⟩ := append_inj_of_sort (hbody _) (hbody _) (hnext hcontent)
    (hnext hothers) hrest
  have hmembers : declared.members = other.members :=
    ClassMember.flatMap_lines_inj (members_wellFormed hdeclared) (members_wellFormed hother)
      ((List.map_inj_right hindented).1 hbodies)
  exact ⟨eq_of_headline_eq hdeclared hother hheadline hdecorators hmembers, hrest⟩

/-! ## Modules -/

/-- Statements that open with one keyword, in front of lines that do not, can be read off. -/
theorem map_line_append_inj {line : α → String} {wf : α → Prop} {word : String}
    (hword : ∀ {x : α}, wf x → Keyword word (line x))
    (hline : ∀ {x y : α}, wf x → wf y → line x = line y → x = y) {xs ys : List α}
    {r s : List String} (hxs : ∀ x ∈ xs, wf x) (hys : ∀ y ∈ ys, wf y)
    (hr : ∀ next ∈ r.head?, ¬ Keyword word next) (hs : ∀ next ∈ s.head?, ¬ Keyword word next)
    (h : xs.map line ++ r = ys.map line ++ s) : xs = ys ∧ r = s := by
  have hlines {zs : List α} (hzs : ∀ z ∈ zs, wf z) : ∀ l ∈ zs.map line, Keyword word l := by
    intro l hl
    obtain ⟨z, hz, rfl⟩ := List.mem_map.1 hl
    exact hword (hzs z hz)
  obtain ⟨hmaps, hrs⟩ := append_inj_of_sort (hlines hxs) (hlines hys) hr hs h
  refine ⟨?_, hrs⟩
  clear h hr hs hrs
  induction xs generalizing ys with
  | nil => simpa using hmaps.symm
  | cons x xs ih =>
    cases ys with
    | nil => simp at hmaps
    | cons y ys =>
      rw [List.forall_mem_cons] at hxs hys
      rw [List.map_cons, List.map_cons, List.cons.injEq] at hmaps
      rw [hline hxs.1 hys.1 hmaps.1, ih hxs.2 hys.2 hmaps.2]

/-- What comes after the imports of a module. -/
def ModuleStub.contentLines (stub : ModuleStub) : List String :=
  (if stub.importsAnything && !stub.content.isEmpty then [""] else []) ++
    stub.content.flatMap Declaration.lines

theorem ModuleStub.lines_eq (stub : ModuleStub) :
    stub.lines [] = stub.imports.map Import.line ++
      (stub.importFroms.map ImportFrom.line ++ stub.contentLines) := by
  simp [ModuleStub.lines, ModuleStub.importLines, ModuleStub.contentLines]

/-- The first line after the imports is blank, a decorator or a headline. -/
theorem ModuleStub.head_contentLines {stub : ModuleStub} {line : String}
    (h : line ∈ stub.contentLines.head?) :
    line = "" ∨ IsDecoratorLine line ∨ ∃ declared ∈ stub.content, line = declared.headline := by
  unfold contentLines at h
  split at h
  · exact .inl (by simpa using h.symm)
  · exact .inr (Declaration.head_lines (by simpa using h))

/-- The line after the imports opens with no keyword but `def` and `class`. -/
theorem ModuleStub.not_keyword_contentLines {stub : ModuleStub} (h : stub.WellFormed)
    {word : String} (hword : IsWord word) (hhead : ∃ c cs, word.toList = c :: cs ∧ c ∉ marks)
    (hdef : word ≠ "def") (hclass : word ≠ "class") :
    ∀ line ∈ stub.contentLines.head?, ¬ Keyword word line := by
  intro line hline hkeyword
  rcases head_contentLines hline with rfl | hdecorator | ⟨declared, hdeclared, rfl⟩
  · obtain ⟨_, _, hchars, -⟩ := hkeyword
    simp at hchars
  · exact (not_isDecoratorLine_of_head (hkeyword.head hhead)).1 hdecorator
  · rcases Declaration.keyword_headline (h.content declared hdeclared) hword hkeyword with
      ⟨heq, -⟩ | ⟨heq, -⟩
    · exact hdef heq
    · exact hclass heq

theorem ModuleStub.contentLines_inj {first second : ModuleStub} (hfirst : first.WellFormed)
    (hsecond : second.WellFormed) (h : first.contentLines = second.contentLines) :
    first.content = second.content := by
  have hblank (stub : ModuleStub) : ∀ line ∈
      (if stub.importsAnything && !stub.content.isEmpty then [""] else []), line = "" := by
    intro line hline
    split at hline <;> simp_all
  have hlines {stub : ModuleStub} (hwf : stub.WellFormed) :
      ∀ line ∈ (stub.content.flatMap Declaration.lines).head?, ¬ line = "" := by
    rintro line hline rfl
    rcases Declaration.head_lines hline with hdecorator | ⟨declared, hdeclared, heq⟩
    · simp [IsDecoratorLine] at hdecorator
    · obtain ⟨c, cs, hchars, -⟩ := Declaration.head_headline (hwf.content declared hdeclared)
      simp [← heq] at hchars
  obtain ⟨-, hcontent⟩ :=
    append_inj_of_sort (hblank first) (hblank second) (hlines hfirst) (hlines hsecond) h
  exact Declaration.flatMap_lines_inj hfirst.content hsecond.content hcontent

/-- The lines of a module show the module. -/
theorem ModuleStub.lines_inj {first second : ModuleStub} (hfirst : first.WellFormed)
    (hsecond : second.WellFormed) (h : first.lines [] = second.lines []) : first = second := by
  have hheadFrom : ∃ c cs, "from".toList = c :: cs ∧ c ∉ marks :=
    ⟨'f', ['r', 'o', 'm'], by simp, by decide⟩
  have hheadImport : ∃ c cs, "import".toList = c :: cs ∧ c ∉ marks :=
    ⟨'i', ['m', 'p', 'o', 'r', 't'], by simp, by decide⟩
  have hcontentFrom {stub : ModuleStub} (hwf : stub.WellFormed) :
      ∀ line ∈ stub.contentLines.head?, ¬ Keyword "from" line :=
    not_keyword_contentLines hwf isWord_from hheadFrom (by decide) (by decide)
  have hafterImports {stub : ModuleStub} (hwf : stub.WellFormed) :
      ∀ line ∈ (stub.importFroms.map ImportFrom.line ++ stub.contentLines).head?,
        ¬ Keyword "import" line := by
    cases hfroms : stub.importFroms with
    | nil => exact not_keyword_contentLines hwf isWord_import hheadImport (by decide) (by decide)
    | cons statement statements =>
      have hstatement := hwf.importFroms statement (hfroms ▸ List.mem_cons_self)
      simp only [List.map_cons, List.cons_append, List.head?_cons, Option.mem_some_iff, forall_eq']
      intro hkeyword
      have heq := hkeyword.word_eq isWord_import isWord_from (ImportFrom.keyword_line hstatement)
      simp at heq
  rw [lines_eq, lines_eq] at h
  obtain ⟨himports, hrest⟩ := map_line_append_inj Import.keyword_line Import.line_inj
    hfirst.imports hsecond.imports (hafterImports hfirst) (hafterImports hsecond) h
  obtain ⟨himportFroms, hrest⟩ := map_line_append_inj ImportFrom.keyword_line ImportFrom.line_inj
    hfirst.importFroms hsecond.importFroms (hcontentFrom hfirst) (hcontentFrom hsecond) hrest
  have hcontent := contentLines_inj hfirst hsecond hrest
  cases first
  cases second
  simp_all

/-- Well formed modules have the same text only where they are one module. -/
theorem ModuleStub.render_eq_iff_of_wellFormed {first second : ModuleStub}
    (hfirst : first.WellFormed) (hsecond : second.WellFormed) :
    first.render = second.render ↔ first = second := by
  constructor
  · intro h
    rw [render_empty, render_empty] at h
    exact lines_inj hfirst hsecond (joinLines_inj (oneLine_lines hfirst) (oneLine_lines hsecond) h)
  · rintro rfl
    rfl

/-- A module with one parameter that takes all positions, or that is given by name. -/
def scaledModule (varArg : Option Argument) (kwArgs : List Argument) : ModuleStub where
  imports := [⟨"abc", none⟩]
  importFroms := [⟨"", 2, [⟨"units", some "u"⟩]⟩]
  content := [.classStub
    { name := "Shape"
      bases := ["u.Area[Any, [None, ...]]"]
      keywords := [⟨"metaclass", "abc.ABCMeta"⟩]
      body := [
        .field ⟨"count", "int", true⟩,
        .method ⟨"area", [⟨"self", none, false⟩], varArg, kwArgs, none, some "None",
          ["abc.abstractmethod"]⟩] }]

theorem scaledModule_wellFormed (varArg : Option Argument) (kwArgs : List Argument)
    (hvarArg : ∀ argument ∈ varArg, argument.WellFormed)
    (hkwArgs : ∀ argument ∈ kwArgs, argument.WellFormed) :
    (scaledModule varArg kwArgs).WellFormed := by
  have hnames : ∀ name ∈ ["abc", "units", "u", "Shape", "metaclass", "count", "area", "self",
      "Area", "Any", "int", "ABCMeta", "abstractmethod"], Text.isIdentifier name := by
    decide +kernel
  simp only [List.forall_mem_cons, List.not_mem_nil, false_imp_iff, implies_true,
    and_true] at hnames
  obtain ⟨habc, hunits, hu, hshape, hmetaclass, hcount, harea, hself, hArea, hany, hint, hmeta,
    habstract⟩ := hnames
  have hlist : IsType ("[" ++ ", ".intercalate ["None", "..."] ++ "]") :=
    .list (by simp [IsType.noneType, IsType.ellipsis])
  have hbase : IsType (DottedName.child "u" "Area" ++ "[" ++
      ", ".intercalate ["Any", "[" ++ ", ".intercalate ["None", "..."] ++ "]"] ++ "]") :=
    .applied (.child (.name hu) hArea) (by simpa [IsType.path (.name hany)] using hlist)
  have hmethod : (ClassMember.method ⟨"area", [⟨"self", none, false⟩], varArg, kwArgs, none,
      some "None", ["abc.abstractmethod"]⟩).WellFormed :=
    { name := harea
      args := by simpa [Argument.WellFormed] using hself
      varArg := hvarArg
      kwArgs := hkwArgs
      kwArg := by simp
      returns := by simp [IsType.noneType]
      decorators := by
        simpa [DottedName.child] using IsDotted.child (.name habc) habstract }
  refine ⟨?_, ?_, ?_⟩
  · simpa [scaledModule, Import.WellFormed] using IsDotted.name habc
  · simp only [scaledModule, List.mem_singleton, forall_eq]
    exact ⟨.inr ⟨rfl, by decide⟩, by simp [ImportedName.WellFormed, hunits, hu], by simp⟩
  · simp only [scaledModule, List.mem_singleton, forall_eq]
    exact {
      name := hshape
      bases := by simpa [DottedName.child] using hbase
      keywords := by
        simpa [hmetaclass, DottedName.child] using IsType.path (.child (.name habc) hmeta)
      decorators := by simp
      body := by simpa [ClassMember.WellFormed] using
        ⟨⟨hcount, .path (.name hint), by simp⟩, hmethod⟩ }

/-- A star before a name and a star before a comma are read as different modules. -/
theorem scaledModule_render_ne :
    (scaledModule (some ⟨"scale", none, false⟩) []).WellFormed ∧
      (scaledModule none [⟨"scale", none, false⟩]).WellFormed ∧
      (scaledModule (some ⟨"scale", none, false⟩) []).render ≠
        (scaledModule none [⟨"scale", none, false⟩]).render := by
  have hscale : Text.isIdentifier "scale" := by decide +kernel
  have hstarred := scaledModule_wellFormed (some ⟨"scale", none, false⟩) []
    (by simpa [Argument.WellFormed] using hscale) (by simp)
  have hnamed := scaledModule_wellFormed none [⟨"scale", none, false⟩] (by simp)
    (by simpa [Argument.WellFormed] using hscale)
  refine ⟨hstarred, hnamed, ?_⟩
  rw [ne_eq, ModuleStub.render_eq_iff_of_wellFormed hstarred hnamed]
  decide

end InterfaceStub
