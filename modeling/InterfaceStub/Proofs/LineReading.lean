import InterfaceStub.Proofs.StubLines
import InterfaceStub.Proofs.TypeGrammar

/-!
# What a line of a stub tells

A line of a stub has one reading: the import, signature, header or variable that it was written for.
`WellFormed` says which stubs this is about: names are identifiers, paths are dotted names, and
types are type expressions.

* Lists.  `intercalate_append_inj` carries a reading of one item over to items with commas between
  them.
* Imports.  The dots before a path belong to the level, since no path starts with a dot.
* Signatures.  A parameter is a word with its stars and what follows; its stars tell to which of the
  four groups it belongs.
* Classes.  A base has no equality sign, so a header falls into bases and keywords.
-/

namespace InterfaceStub

/-! ## Well formed stubs -/

/-- The name is an identifier and the annotation a type expression. -/
def Argument.WellFormed (argument : Argument) : Prop :=
  Text.isIdentifier argument.name ∧ ∀ annotation ∈ argument.annotation, IsType annotation

/-- Every name, annotation and decorator of the function is what its place asks for. -/
structure FunctionStub.WellFormed (function : FunctionStub) : Prop where
  name : Text.isIdentifier function.name
  args : ∀ argument ∈ function.args, argument.WellFormed
  varArg : ∀ argument ∈ function.varArg, argument.WellFormed
  kwArgs : ∀ argument ∈ function.kwArgs, argument.WellFormed
  kwArg : ∀ argument ∈ function.kwArg, argument.WellFormed
  returns : ∀ annotation ∈ function.returns, IsType annotation
  decorators : ∀ decorator ∈ function.decorators, IsDotted decorator

/-- Only a variable of the class has `ClassVar[...]` around its type. -/
structure ClassField.WellFormed (field : ClassField) : Prop where
  name : Text.isIdentifier field.name
  annotation : IsType field.annotation
  unwrapped : field.classVar = false → ∀ inner, field.annotation ≠ "ClassVar[" ++ inner ++ "]"

def ClassMember.WellFormed : ClassMember → Prop
  | .field declared => declared.WellFormed
  | .method declared => declared.WellFormed

/-- Every part of the class is what its place asks for. -/
structure ClassStub.WellFormed (cls : ClassStub) : Prop where
  name : Text.isIdentifier cls.name
  bases : ∀ base ∈ cls.bases, IsType base
  keywords : ∀ keyword ∈ cls.keywords, Text.isIdentifier keyword.name ∧ IsType keyword.value
  decorators : ∀ decorator ∈ cls.decorators, IsDotted decorator
  body : ∀ member ∈ cls.body, member.WellFormed

def Declaration.WellFormed : Declaration → Prop
  | .attribute declared => Text.isIdentifier declared.name ∧ IsType declared.annotation
  | .typeAlias declared => Text.isIdentifier declared.name ∧ IsType declared.target
  | .function declared => declared.WellFormed
  | .classStub declared => declared.WellFormed

def Import.WellFormed (statement : Import) : Prop :=
  IsDotted statement.name ∧ ∀ localName ∈ statement.localName, Text.isIdentifier localName

def ImportedName.WellFormed (imported : ImportedName) : Prop :=
  (Text.isIdentifier imported.name ∨ imported.name = "*") ∧
    ∀ localName ∈ imported.localName, Text.isIdentifier localName

/-- The path is a dotted name, or empty after at least one dot. -/
structure ImportFrom.WellFormed (statement : ImportFrom) : Prop where
  path : IsDotted statement.path ∨ statement.path = "" ∧ statement.level ≠ 0
  names : ∀ imported ∈ statement.names, imported.WellFormed
  nonempty : statement.names ≠ []

/-- Every part of the module is what its place asks for. -/
structure ModuleStub.WellFormed (stub : ModuleStub) : Prop where
  imports : ∀ statement ∈ stub.imports, statement.WellFormed
  importFroms : ∀ statement ∈ stub.importFroms, statement.WellFormed
  content : ∀ declared ∈ stub.content, declared.WellFormed

/-! ## Lists -/

/-- Where two lists start with items of one sort and go on with another sort, both parts agree. -/
theorem append_inj_of_sort {sort : α → Prop} {xs ys rs ss : List α} (hxs : ∀ x ∈ xs, sort x)
    (hys : ∀ y ∈ ys, sort y) (hrs : ∀ r ∈ rs.head?, ¬ sort r) (hss : ∀ s ∈ ss.head?, ¬ sort s)
    (h : xs ++ rs = ys ++ ss) : xs = ys ∧ rs = ss := by
  induction xs generalizing ys with
  | nil =>
    cases ys with
    | nil => exact ⟨rfl, h⟩
    | cons y ys =>
      obtain rfl : rs = y :: ys ++ ss := h
      exact absurd (hys y List.mem_cons_self) (hrs y rfl)
  | cons x xs ih =>
    cases ys with
    | nil =>
      obtain rfl : x :: xs ++ rs = ss := h
      exact absurd (hxs x List.mem_cons_self) (hss x rfl)
    | cons y ys =>
      obtain ⟨rfl, hrest⟩ := List.cons.inj h
      obtain ⟨rfl, hends⟩ := ih (fun z hz => hxs z (.tail _ hz)) (fun z hz => hys z (.tail _ hz))
        hrest
      exact ⟨rfl, hends⟩

/-- A text that goes on with a comma, or ends in the way that `closing` says. -/
def Continues (closing : List Char → Prop) (rest : List Char) : Prop :=
  (∃ more, rest = ',' :: ' ' :: more) ∨ closing rest

/-- A comma, or the end of a line, stops a word. -/
theorem Continues.stops {rest : List Char} (h : Continues (· = []) rest) : Stops rest := by
  rcases h with ⟨more, rfl⟩ | rfl
  · exact stops_of_head (c := ',') rfl (by decide)
  · exact stops_nil

/-- Items that can be read one at a time can be read with commas between them. -/
theorem intercalate_append_inj {text : α → String} {wf : α → Prop} (closing : List Char → Prop)
    (hitem : ∀ {x y : α} {r s : List Char}, wf x → wf y → Continues closing r →
      Continues closing s → (text x).toList ++ r = (text y).toList ++ s → x = y ∧ r = s)
    (hstart : ∀ {x : α} {r s : List Char}, wf x → closing s → (text x).toList ++ r ≠ s)
    (hclosing : ∀ {r : List Char}, ¬ closing (',' :: ' ' :: r))
    {xs ys : List α} {r s : List Char} (hxs : ∀ x ∈ xs, wf x) (hys : ∀ y ∈ ys, wf y)
    (hr : closing r) (hs : closing s)
    (h : (", ".intercalate (xs.map text)).toList ++ r =
      (", ".intercalate (ys.map text)).toList ++ s) :
    xs = ys ∧ r = s := by
  -- What an item is followed by: the end, or a comma and the other items.
  have hfollow (x : α) (zs : List α) (t : List Char) (ht : closing t) :
      ∃ rest, (", ".intercalate ((x :: zs).map text)).toList ++ t = (text x).toList ++ rest ∧
        Continues closing rest ∧
        (zs = [] ∧ rest = t ∨ zs ≠ [] ∧
          rest = ',' :: ' ' :: ((", ".intercalate (zs.map text)).toList ++ t)) := by
    cases zs with
    | nil => exact ⟨t, by simp, .inr ht, .inl ⟨rfl, rfl⟩⟩
    | cons z zs =>
      exact ⟨_, by simp, .inl ⟨_, rfl⟩, .inr ⟨by simp, rfl⟩⟩
  induction xs generalizing ys with
  | nil =>
    cases ys with
    | nil => exact ⟨rfl, by simpa using h⟩
    | cons y ys =>
      obtain ⟨rest, heq, -, -⟩ := hfollow y ys s hs
      rw [heq] at h
      exact absurd h.symm (hstart (hys y List.mem_cons_self) (by simpa using hr))
  | cons x xs ih =>
    cases ys with
    | nil =>
      obtain ⟨rest, heq, -, -⟩ := hfollow x xs r hr
      rw [heq] at h
      exact absurd h (hstart (hxs x List.mem_cons_self) (by simpa using hs))
    | cons y ys =>
      obtain ⟨rest, heq, hcont, hrest⟩ := hfollow x xs r hr
      obtain ⟨rest', heq', hcont', hrest'⟩ := hfollow y ys s hs
      rw [heq, heq'] at h
      obtain ⟨rfl, rfl⟩ :=
        hitem (hxs x List.mem_cons_self) (hys y List.mem_cons_self) hcont hcont' h
      rcases hrest with ⟨rfl, rfl⟩ | ⟨hne, hrest⟩
      · rcases hrest' with ⟨rfl, hs'⟩ | ⟨-, hs'⟩
        · exact ⟨rfl, hs'⟩
        · exact absurd (hs' ▸ hr) hclosing
      · rcases hrest' with ⟨-, hs'⟩ | ⟨-, hs'⟩
        · exact absurd (hrest ▸ hs' ▸ hs) hclosing
        · rw [hrest, List.cons.injEq, List.cons.injEq] at hs'
          obtain ⟨rfl, hrs⟩ := ih (fun z hz => hxs z (.tail _ hz)) (fun z hz => hys z (.tail _ hz))
            hs'.2.2
          exact ⟨rfl, hrs⟩

/-! ## Words in lines -/

/-- The first character of an identifier is no mark, dot or star. -/
theorem head_of_isIdentifier {name : String} (h : Text.isIdentifier name) :
    ∃ c cs, name.toList = c :: cs ∧ c ∉ '.' :: '*' :: '[' :: marks := by
  cases hchars : name.toList with
  | nil => exact absurd hchars (toList_ne_nil_of_isIdentifier h)
  | cons c cs =>
    refine ⟨c, cs, rfl, fun hmem => ?_⟩
    have hpart : Text.isIdentifierPart c :=
      isIdentifierPart_of_mem h (hchars ▸ List.mem_cons_self)
    rw [isIdentifierPart_of_mem_marks hmem] at hpart
    contradiction

theorem head_of_isDotted {text : String} (h : IsDotted text) :
    ∃ c cs, text.toList = c :: cs ∧ c ∉ '.' :: '*' :: '[' :: marks := by
  induction h with
  | name hname => exact head_of_isIdentifier hname
  | @child _ member _ _ ih =>
    obtain ⟨c, cs, hchars, hc⟩ := ih
    exact ⟨c, cs ++ '.' :: member.toList, by simp [DottedName.child, hchars], hc⟩

/-- A name, a mark and some text show the name and the text. -/
theorem named_inj {mark name other text text' : String}
    (hmark : ∃ c, mark.toList.head? = some c ∧ c ∈ marks) (hname : Text.isIdentifier name)
    (hother : Text.isIdentifier other) (h : name ++ mark ++ text = other ++ mark ++ text') :
    name = other ∧ text = text' := by
  obtain ⟨c, hhead, hc⟩ := hmark
  have htexts : name.toList ++ (mark.toList ++ text.toList) =
      other.toList ++ (mark.toList ++ text'.toList) := by
    simpa using congrArg String.toList h
  have hstops (rest : List Char) : Stops (mark.toList ++ rest) :=
    stops_of_head (by simp [hhead]) hc
  obtain ⟨hnames, hrest⟩ := (isWord_of_isIdentifier hname).append_inj
    (isWord_of_isIdentifier hother) (hstops _) (hstops _) htexts
  exact ⟨hnames, String.toList_inj.1 (List.append_cancel_left hrest)⟩

/-! ## Imports -/

/-- What comes after an imported name stops the name. -/
theorem stops_localNameText (localName : Option String) {rest : List Char} (h : Stops rest) :
    Stops ((localNameText localName).toList ++ rest) := by
  cases localName with
  | none => simpa [localNameText] using h
  | some localName => exact stops_of_head (c := ' ') (by simp [localNameText]) (by decide)

theorem localNameText_append_inj {first second : Option String} {r s : List Char}
    (hfirst : ∀ name ∈ first, Text.isIdentifier name)
    (hsecond : ∀ name ∈ second, Text.isIdentifier name)
    (hr : Continues (· = []) r) (hs : Continues (· = []) s)
    (h : (localNameText first).toList ++ r = (localNameText second).toList ++ s) :
    first = second ∧ r = s := by
  have hblank {t more : List Char} (ht : Continues (· = []) t) : t ≠ ' ' :: more := by
    rcases ht with ⟨_, rfl⟩ | rfl <;> simp
  cases first with
  | none =>
    cases second with
    | none => simpa [localNameText] using h
    | some name => exact absurd (by simpa [localNameText] using h) (hblank hr)
  | some name =>
    cases second with
    | none => exact absurd (by simpa [localNameText] using h.symm) (hblank hs)
    | some other =>
      have hwords : name.toList ++ r = other.toList ++ s := by simpa [localNameText] using h
      obtain ⟨rfl, hrs⟩ := (isWord_of_isIdentifier (hfirst name rfl)).append_inj
        (isWord_of_isIdentifier (hsecond other rfl)) hr.stops hs.stops hwords
      exact ⟨rfl, hrs⟩

theorem Import.line_inj {first second : Import} (hfirst : first.WellFormed)
    (hsecond : second.WellFormed) (h : first.line = second.line) : first = second := by
  have htexts : first.name.toList ++ (localNameText first.localName).toList =
      second.name.toList ++ (localNameText second.localName).toList := by
    simpa [Import.line, ← String.toList_inj] using h
  have hstops (localName : Option String) : Stops (localNameText localName).toList := by
    simpa using stops_localNameText localName stops_nil
  obtain ⟨hname, hrest⟩ := hfirst.1.isWord.append_inj hsecond.1.isWord (hstops _) (hstops _) htexts
  have hlocal := localNameText_append_inj hfirst.2 hsecond.2 (.inr rfl) (.inr rfl)
    (by simpa using hrest)
  cases first
  cases second
  simp_all

/-- A number of dots and a text that does not start with one show which is which. -/
theorem replicate_append_inj {c : Char} {m n : Nat} {r s : List Char} (hr : r.head? ≠ some c)
    (hs : s.head? ≠ some c) (h : List.replicate m c ++ r = List.replicate n c ++ s) :
    m = n ∧ r = s := by
  induction m generalizing n with
  | zero =>
    cases n with
    | zero => exact ⟨rfl, by simpa using h⟩
    | succ n => simp [List.replicate_succ] at h; simp [h] at hr
  | succ m ih =>
    cases n with
    | zero => simp [List.replicate_succ] at h; simp [← h] at hs
    | succ n =>
      simp only [List.replicate_succ, List.cons_append, List.cons.injEq, true_and] at h
      obtain ⟨rfl, hrs⟩ := ih h
      exact ⟨rfl, hrs⟩

theorem ImportedName.isWord {imported : ImportedName} (h : imported.WellFormed) :
    IsWord imported.name := by
  rcases h.1 with hname | hstar
  · exact isWord_of_isIdentifier hname
  · exact isWord_of_forall (by simp [hstar, isWordChar])

theorem ImportedName.text_append_inj {first second : ImportedName} {r s : List Char}
    (hfirst : first.WellFormed) (hsecond : second.WellFormed) (hr : Continues (· = []) r)
    (hs : Continues (· = []) s) (h : first.text.toList ++ r = second.text.toList ++ s) :
    first = second ∧ r = s := by
  have htexts : first.name.toList ++ ((localNameText first.localName).toList ++ r) =
      second.name.toList ++ ((localNameText second.localName).toList ++ s) := by
    simpa [ImportedName.text] using h
  obtain ⟨hname, hrest⟩ := (isWord hfirst).append_inj (isWord hsecond)
    (stops_localNameText _ hr.stops) (stops_localNameText _ hs.stops) htexts
  obtain ⟨hlocal, hrs⟩ := localNameText_append_inj hfirst.2 hsecond.2 hr hs hrest
  cases first
  cases second
  simp_all

theorem ImportedName.text_ne_nil {imported : ImportedName} (h : imported.WellFormed) :
    imported.text.toList ≠ [] := by
  have hname : imported.name.toList ≠ [] := by
    rcases h.1 with hname | hstar
    · exact toList_ne_nil_of_isIdentifier hname
    · simp [hstar]
  simp [ImportedName.text, hname]

theorem ImportFrom.line_inj {first second : ImportFrom} (hfirst : first.WellFormed)
    (hsecond : second.WellFormed) (h : first.line = second.line) : first = second := by
  have hword {statement : ImportFrom} (hwf : statement.WellFormed) :
      IsWord (statement.dots ++ statement.path) := by
    refine isWord_of_forall fun c hc => ?_
    rw [String.toList_append, List.mem_append] at hc
    rcases hc with hc | hc
    · have hdot : c = '.' := by simpa [ImportFrom.dots] using (List.eq_of_mem_replicate
        (by simpa [ImportFrom.dots] using hc : c ∈ List.replicate statement.level.toNat '.'))
      simp [hdot, isWordChar]
    · rcases hwf.path with hpath | ⟨hpath, -⟩
      · exact hpath.isWordChar_of_mem c hc
      · simp [hpath] at hc
  have hhead {statement : ImportFrom} (hwf : statement.WellFormed) :
      statement.path.toList.head? ≠ some '.' := by
    rcases hwf.path with hpath | ⟨hpath, -⟩
    · obtain ⟨c, cs, hchars, hc⟩ := head_of_isDotted hpath
      rw [hchars]
      rintro ⟨⟩
      exact hc List.mem_cons_self
    · simp [hpath]
  have htexts : (first.dots ++ first.path).toList ++
        (" import ".toList ++ (", ".intercalate (first.names.map ImportedName.text)).toList) =
      (second.dots ++ second.path).toList ++
        (" import ".toList ++ (", ".intercalate (second.names.map ImportedName.text)).toList) := by
    simpa [ImportFrom.line, ← String.toList_inj] using h
  have hstops (rest : List Char) : Stops (" import ".toList ++ rest) :=
    stops_of_head (c := ' ') (by simp) (by decide)
  obtain ⟨hpaths, hnames⟩ := (hword hfirst).append_inj (hword hsecond) (hstops _) (hstops _) htexts
  have hdots : first.level.toNat = second.level.toNat ∧ first.path.toList = second.path.toList :=
    replicate_append_inj (hhead hfirst) (hhead hsecond)
      (by simpa [ImportFrom.dots, ← String.toList_inj] using hpaths)
  obtain ⟨hitems, -⟩ := intercalate_append_inj (· = []) ImportedName.text_append_inj
    (fun hx hs heq => ImportedName.text_ne_nil hx (List.append_eq_nil_iff.1 (heq.trans hs)).1)
    (fun h => by simp at h) hfirst.names hsecond.names rfl rfl
    (by simpa using List.append_cancel_left hnames)
  cases first
  cases second
  simp_all [UInt32.toNat_inj, String.toList_inj]

/-! ## Signatures -/

/-- A text that goes on with the closing parenthesis. -/
def Closes (rest : List Char) : Prop :=
  rest.head? = some ')'

/-- What can come after a parameter: a comma or the closing parenthesis. -/
theorem head_of_continues {rest : List Char} (h : Continues Closes rest) :
    rest.head? = some ',' ∨ rest.head? = some ')' := by
  rcases h with ⟨more, rfl⟩ | h
  · exact .inl rfl
  · exact .inr h

theorem Continues.stops_closes {rest : List Char} (h : Continues Closes rest) : Stops rest := by
  rcases head_of_continues h with hhead | hhead
  · exact stops_of_head hhead (by decide)
  · exact stops_of_head hhead (by decide)

/-- A mark that may be there shows whether it is, when what comes after it starts differently. -/
theorem ite_append_inj {mark : String} {c : Char} (hmark : mark.toList.head? = some c)
    {first second : Bool} {r s : List Char} (hr : r.head? ≠ some c) (hs : s.head? ≠ some c)
    (h : (if first then mark else "").toList ++ r = (if second then mark else "").toList ++ s) :
    first = second ∧ r = s := by
  have hhead (t : List Char) : (mark.toList ++ t).head? = some c := by simp [hmark]
  cases first <;> cases second
  · simpa using h
  · have heq : r = mark.toList ++ s := by simpa using h
    exact absurd (heq ▸ hhead s) hr
  · have heq : mark.toList ++ r = s := by simpa using h
    exact absurd (heq ▸ hhead r) hs
  · simpa using h

/-- What follows the annotation of a parameter. -/
def defaultText (hasDefault : Bool) : String :=
  if hasDefault then " = ..." else ""

theorem Argument.tail_eq (argument : Argument) :
    argument.tail =
      match argument.annotation with
      | some annotation => ": " ++ annotation ++ defaultText argument.hasDefault
      | none => if argument.hasDefault then "=..." else "" := by
  rcases argument with ⟨name, _ | annotation, _ | _⟩ <;> simp [Argument.tail, defaultText]

/-- What follows the name of a parameter stops the name. -/
theorem Argument.stops_tail (argument : Argument) {rest : List Char} (h : Stops rest) :
    Stops (argument.tail.toList ++ rest) := by
  rcases argument with ⟨name, _ | annotation, _ | _⟩
  · simpa [Argument.tail] using h
  · exact stops_of_head (c := '=') (by simp [Argument.tail]) (by decide)
  · exact stops_of_head (c := ':') (by simp [Argument.tail]) (by decide)
  · exact stops_of_head (c := ':') (by simp [Argument.tail]) (by decide)

theorem stops_defaultText (hasDefault : Bool) {rest : List Char} (h : Stops rest) :
    Stops ((defaultText hasDefault).toList ++ rest) := by
  cases hasDefault
  · simpa [defaultText] using h
  · exact stops_of_head (c := ' ') (by simp [defaultText]) (by decide)

theorem Argument.tail_append_inj {first second : Argument} {r s : List Char}
    (hfirst : first.WellFormed) (hsecond : second.WellFormed) (hr : Continues Closes r)
    (hs : Continues Closes s) (h : first.tail.toList ++ r = second.tail.toList ++ s) :
    first.annotation = second.annotation ∧ first.hasDefault = second.hasDefault ∧ r = s := by
  have hne {t : List Char} (ht : Continues Closes t) (c : Char) (hc : c ≠ ',' ∧ c ≠ ')') :
      t.head? ≠ some c := by
    rcases head_of_continues ht with hhead | hhead <;> rw [hhead] <;> simp [hc.1.symm, hc.2.symm]
  -- A parameter without annotation does not go on with a colon.
  have hcolon (hasDefault : Bool) {t more : List Char} (ht : Continues Closes t) :
      (if hasDefault then "=..." else "").toList ++ t ≠ ':' :: more := by
    intro heq
    cases hasDefault
    · have ht' : t = ':' :: more := by simpa using heq
      exact hne ht ':' (by decide) (by rw [ht']; rfl)
    · simp at heq
  rw [Argument.tail_eq, Argument.tail_eq] at h
  rcases hann : first.annotation with _ | annotation <;>
    rcases hann' : second.annotation with _ | annotation' <;> rw [hann, hann'] at h
  · obtain ⟨hdefault, hrs⟩ := ite_append_inj rfl (hne hr '=' (by decide))
      (hne hs '=' (by decide)) h
    exact ⟨rfl, hdefault, hrs⟩
  · exact absurd (by simpa using h) (hcolon first.hasDefault hr)
  · exact absurd (by simpa using h.symm) (hcolon second.hasDefault hs)
  · have hwords : annotation.toList ++ ((defaultText first.hasDefault).toList ++ r) =
        annotation'.toList ++ ((defaultText second.hasDefault).toList ++ s) := by
      simpa using h
    obtain ⟨rfl, hrest⟩ := (hfirst.2 _ hann).isWord.append_inj (hsecond.2 _ hann').isWord
      (stops_defaultText _ hr.stops_closes) (stops_defaultText _ hs.stops_closes) hwords
    obtain ⟨hdefault, hrs⟩ := ite_append_inj rfl (hne hr ' ' (by decide))
      (hne hs ' ' (by decide)) hrest
    exact ⟨rfl, hdefault, hrs⟩

/-- Which stars a parameter can have: none or two with an argument, one with or without. -/
def Parameter.WellFormed (parameter : Parameter) : Prop :=
  (parameter.stars = "*" ∧ parameter.argument = none ∨
    parameter.stars ∈ ["", "*", "**"] ∧ parameter.argument.isSome) ∧
    ∀ argument ∈ parameter.argument, argument.WellFormed

theorem FunctionStub.parameters_wellFormed {function : FunctionStub} (h : function.WellFormed) :
    ∀ parameter ∈ function.parameters, parameter.WellFormed := by
  intro parameter hmem
  simp only [FunctionStub.parameters, List.mem_append, List.mem_map] at hmem
  rcases hmem with ((⟨argument, hargument, rfl⟩ | hmem) | ⟨argument, hargument, rfl⟩) |
    ⟨argument, hargument, rfl⟩
  · exact ⟨.inr ⟨by simp, rfl⟩, by simpa using h.args argument hargument⟩
  · split at hmem
    · obtain rfl := List.mem_singleton.1 hmem
      refine ⟨?_, h.varArg⟩
      cases function.varArg with
      | none => exact .inl ⟨rfl, rfl⟩
      | some argument => exact .inr ⟨by simp, rfl⟩
    · simp at hmem
  · exact ⟨.inr ⟨by simp, rfl⟩, by simpa using h.kwArgs argument hargument⟩
  · exact ⟨.inr ⟨by simp, rfl⟩, by simpa using h.kwArg argument (Option.mem_toList.1 hargument)⟩

theorem Parameter.WellFormed.stars_eq {parameter : Parameter} (h : parameter.WellFormed) :
    ∃ count, parameter.stars.toList = List.replicate count '*' := by
  rcases h.1 with ⟨hstars, -⟩ | ⟨hstars, -⟩
  · exact ⟨1, by simp [hstars]⟩
  · simp only [List.mem_cons, List.not_mem_nil, or_false] at hstars
    rcases hstars with hstars | hstars | hstars
    · exact ⟨0, by simp [hstars]⟩
    · exact ⟨1, by simp [hstars]⟩
    · exact ⟨2, by simp [hstars, List.replicate_succ]⟩

/-- After its stars, a parameter goes on with a name or with what comes after it. -/
theorem Parameter.head_body {parameter : Parameter} (h : parameter.WellFormed) {rest : List Char}
    (hrest : Continues Closes rest) :
    ∃ c cs, parameter.body.toList ++ rest = c :: cs ∧ c ≠ '*' ∧
      (parameter.argument.isSome ↔ c ∉ marks) := by
  cases hargument : parameter.argument with
  | none =>
    have hbody : parameter.body.toList ++ rest = rest := by simp [Parameter.body, hargument]
    rcases head_of_continues hrest with hhead | hhead <;>
      obtain ⟨cs, rfl⟩ := List.head?_eq_some_iff.1 hhead
    · exact ⟨',', cs, hbody, by decide, by simp; decide⟩
    · exact ⟨')', cs, hbody, by decide, by simp; decide⟩
  | some argument =>
    obtain ⟨c, cs, hchars, hc⟩ := head_of_isIdentifier (h.2 argument hargument).1
    refine ⟨c, cs ++ argument.tail.toList ++ rest, ?_, ?_, ?_⟩
    · simp [Parameter.body, hargument, Argument.text, hchars]
    · rintro rfl
      exact hc (by decide)
    · simp only [Option.isSome_some, true_iff]
      exact fun hmem => hc (.tail _ (.tail _ (.tail _ hmem)))

theorem Parameter.body_append_inj {first second : Parameter} {r s : List Char}
    (hfirst : first.WellFormed) (hsecond : second.WellFormed) (hr : Continues Closes r)
    (hs : Continues Closes s) (h : first.body.toList ++ r = second.body.toList ++ s) :
    first.argument = second.argument ∧ r = s := by
  obtain ⟨c, cs, hchars, -, hsome⟩ := head_body hfirst hr
  obtain ⟨c', cs', hchars', -, hsome'⟩ := head_body hsecond hs
  obtain ⟨rfl, -⟩ : c = c' ∧ cs = cs' := by simpa [hchars, hchars'] using h
  cases hargument : first.argument with
  | none =>
    cases hargument' : second.argument with
    | none => exact ⟨rfl, by simpa [Parameter.body, hargument, hargument'] using h⟩
    | some argument => simp [hargument, hargument', ← hsome'] at hsome
  | some argument =>
    cases hargument' : second.argument with
    | none => simp [hargument, hargument', ← hsome] at hsome'
    | some argument' =>
      have hwf := hfirst.2 argument hargument
      have hwf' := hsecond.2 argument' hargument'
      have hwords : argument.name.toList ++ (argument.tail.toList ++ r) =
          argument'.name.toList ++ (argument'.tail.toList ++ s) := by
        simpa [Parameter.body, hargument, hargument', Argument.text] using h
      obtain ⟨hname, htails⟩ := (isWord_of_isIdentifier hwf.1).append_inj
        (isWord_of_isIdentifier hwf'.1) (argument.stops_tail hr.stops_closes)
        (argument'.stops_tail hs.stops_closes) hwords
      obtain ⟨hannotated, hdefault, hrs⟩ := Argument.tail_append_inj hwf hwf' hr hs htails
      cases argument
      cases argument'
      simp_all

theorem Parameter.text_append_inj {first second : Parameter} {r s : List Char}
    (hfirst : first.WellFormed) (hsecond : second.WellFormed) (hr : Continues Closes r)
    (hs : Continues Closes s) (h : first.text.toList ++ r = second.text.toList ++ s) :
    first = second ∧ r = s := by
  have htext (parameter : Parameter) (t : List Char) :
      parameter.text.toList ++ t = parameter.stars.toList ++ (parameter.body.toList ++ t) := by
    simp [Parameter.text]
  have hstar {parameter : Parameter} (hwf : parameter.WellFormed) {t : List Char}
      (ht : Continues Closes t) : (parameter.body.toList ++ t).head? ≠ some '*' := by
    obtain ⟨c, cs, hchars, hc, -⟩ := head_body hwf ht
    simpa [hchars] using hc
  obtain ⟨m, hm⟩ := hfirst.stars_eq
  obtain ⟨n, hn⟩ := hsecond.stars_eq
  rw [htext, htext, hm, hn] at h
  obtain ⟨rfl, hbodies⟩ := replicate_append_inj (hstar hfirst hr) (hstar hsecond hs) h
  obtain ⟨hargument, hrs⟩ := body_append_inj hfirst hsecond hr hs hbodies
  have hstars : first.stars = second.stars := String.toList_inj.1 (hm.trans hn.symm)
  cases first
  cases second
  simp_all

/-- The parameters of a function without those before the first star. -/
def FunctionStub.starred (function : FunctionStub) : List Parameter :=
  (if function.hasStar then [⟨"*", function.varArg⟩] else []) ++
    (function.kwArgs.map (fun argument => ⟨"", some argument⟩) ++
      function.kwArg.toList.map (fun argument => ⟨"**", some argument⟩))

theorem FunctionStub.kwArgs_of_not_hasStar {function : FunctionStub}
    (h : ¬ function.hasStar) : function.varArg = none ∧ function.kwArgs = [] := by
  simpa [FunctionStub.hasStar] using h

theorem map_argument_inj {first second : List Argument} {stars : String}
    (h : first.map (fun argument => (⟨stars, some argument⟩ : Parameter)) =
      second.map fun argument => ⟨stars, some argument⟩) : first = second :=
  (List.map_inj_right fun x y hxy => by simpa using hxy).1 h

/-- The parameters that are given by name, and the last one, show which is which. -/
theorem FunctionStub.named_inj {first second : FunctionStub}
    (h : first.kwArgs.map (fun argument => (⟨"", some argument⟩ : Parameter)) ++
        first.kwArg.toList.map (fun argument => ⟨"**", some argument⟩) =
      second.kwArgs.map (fun argument => ⟨"", some argument⟩) ++
        second.kwArg.toList.map (fun argument => ⟨"**", some argument⟩)) :
    first.kwArgs = second.kwArgs ∧ first.kwArg = second.kwArg := by
  have hplain (arguments : List Argument) :
      ∀ parameter ∈ arguments.map (fun argument => (⟨"", some argument⟩ : Parameter)),
        parameter.stars = "" := by
    simp
  have hdouble (argument : Option Argument) : ∀ parameter ∈
      (argument.toList.map (fun argument => (⟨"**", some argument⟩ : Parameter))).head?,
        ¬ parameter.stars = "" := by
    cases argument <;> simp
  obtain ⟨hkwArgs, hkwArg⟩ :=
    append_inj_of_sort (hplain _) (hplain _) (hdouble _) (hdouble _) h
  have hlists : first.kwArg.toList = second.kwArg.toList := map_argument_inj hkwArg
  refine ⟨map_argument_inj hkwArgs, ?_⟩
  cases hfirst : first.kwArg <;> cases hsecond : second.kwArg <;> simp_all

/-- The parameters of a function show its four groups. -/
theorem FunctionStub.parameters_inj {first second : FunctionStub}
    (h : first.parameters = second.parameters) :
    first.args = second.args ∧ first.varArg = second.varArg ∧ first.kwArgs = second.kwArgs ∧
      first.kwArg = second.kwArg := by
  have hplain (arguments : List Argument) :
      ∀ parameter ∈ arguments.map (fun argument => (⟨"", some argument⟩ : Parameter)),
        parameter.stars = "" := by
    simp
  have hstarred (function : FunctionStub) :
      ∀ parameter ∈ function.starred.head?, ¬ parameter.stars = "" := by
    by_cases hstar : function.hasStar
    · simp [FunctionStub.starred, hstar]
    · rw [FunctionStub.starred, (kwArgs_of_not_hasStar hstar).2]
      cases function.kwArg <;> simp [hstar]
  obtain ⟨hargs, hrest⟩ := append_inj_of_sort (hplain first.args) (hplain second.args)
    (hstarred first) (hstarred second) (by simpa [parameters, starred] using h)
  -- A bare `**` parameter is not a star, so both functions have one or neither has.
  by_cases hstar : first.hasStar
  · by_cases hstar' : second.hasStar
    · simp only [starred, hstar, hstar', if_true, List.cons_append, List.nil_append,
        List.cons.injEq, Parameter.mk.injEq, true_and] at hrest
      exact ⟨map_argument_inj hargs, hrest.1, named_inj hrest.2⟩
    · rw [starred, starred, (kwArgs_of_not_hasStar hstar').2] at hrest
      cases hkwArg : second.kwArg <;> simp [hstar, hstar', hkwArg] at hrest
  · by_cases hstar' : second.hasStar
    · rw [starred, starred, (kwArgs_of_not_hasStar hstar).2] at hrest
      cases hkwArg : first.kwArg <;> simp [hstar, hstar', hkwArg] at hrest
    · rw [starred, starred, if_neg hstar, if_neg hstar'] at hrest
      have hvar := (kwArgs_of_not_hasStar hstar).1.trans (kwArgs_of_not_hasStar hstar').1.symm
      exact ⟨map_argument_inj hargs, hvar, named_inj hrest⟩

/-- A parameter does not start with a mark. -/
theorem Parameter.head_text {parameter : Parameter} (h : parameter.WellFormed) :
    ∃ c cs, parameter.text.toList = c :: cs ∧ c ∉ marks := by
  obtain ⟨count, hcount⟩ := h.stars_eq
  cases count with
  | succ count =>
    refine ⟨'*', List.replicate count '*' ++ parameter.body.toList, ?_, by decide⟩
    simp [Parameter.text, hcount, List.replicate_succ]
  | zero =>
    rcases h.1 with ⟨hstars, -⟩ | ⟨-, hsome⟩
    · simp [hstars] at hcount
    · obtain ⟨argument, hargument⟩ := Option.isSome_iff_exists.1 hsome
      obtain ⟨c, cs, hchars, hc⟩ := head_of_isIdentifier (h.2 argument hargument).1
      refine ⟨c, cs ++ argument.tail.toList, ?_, fun hmem => hc (.tail _ (.tail _ (.tail _ hmem)))⟩
      simp [Parameter.text, Parameter.body, hcount, hargument, Argument.text, hchars]

theorem returnsText_inj {first second : Option String}
    (h : returnsText first = returnsText second) : first = second := by
  cases first <;> cases second <;> simp_all [returnsText]

theorem FunctionStub.signature_inj {first second : FunctionStub} (hfirst : first.WellFormed)
    (hsecond : second.WellFormed) (h : first.signature = second.signature) :
    first.name = second.name ∧ first.parameters = second.parameters ∧
      first.returns = second.returns := by
  have htexts : first.name.toList ++ ('(' ::
        ((", ".intercalate (first.parameters.map Parameter.text)).toList ++
          (')' :: ((returnsText first.returns).toList ++ ": ...".toList)))) =
      second.name.toList ++ ('(' ::
        ((", ".intercalate (second.parameters.map Parameter.text)).toList ++
          (')' :: ((returnsText second.returns).toList ++ ": ...".toList)))) := by
    simpa [FunctionStub.signature, ← String.toList_inj] using h
  have hopen (rest : List Char) : Stops ('(' :: rest) := stops_of_head rfl (by decide)
  obtain ⟨hname, hrest⟩ := (isWord_of_isIdentifier hfirst.name).append_inj
    (isWord_of_isIdentifier hsecond.name) (hopen _) (hopen _) htexts
  have hstart {parameter : Parameter} {r s : List Char} (hwf : parameter.WellFormed)
      (hs : Closes s) : parameter.text.toList ++ r ≠ s := by
    rintro rfl
    obtain ⟨c, cs, hchars, hc⟩ := parameter.head_text hwf
    have hclose : c = ')' := by simpa [Closes, hchars] using hs
    exact hc (hclose ▸ by decide)
  have hcloses (rest : List Char) : Closes (')' :: rest) := rfl
  obtain ⟨hparameters, hclose⟩ := intercalate_append_inj Closes Parameter.text_append_inj hstart
    (fun h => by simp [Closes] at h) (parameters_wellFormed hfirst) (parameters_wellFormed hsecond)
    (hcloses _) (hcloses _) (List.cons.inj hrest).2
  have hreturns : returnsText first.returns = returnsText second.returns := by
    simpa [String.toList_inj] using hclose
  exact ⟨hname, hparameters, returnsText_inj hreturns⟩

/-! ## Classes -/

/-- What stands in the parentheses of a class header, bases and keywords told apart. -/
def ClassStub.headerItems (cls : ClassStub) : List (String ⊕ ClassKeyword) :=
  cls.bases.map .inl ++ cls.keywords.map .inr

def headerItemText : String ⊕ ClassKeyword → String
  | .inl base => base
  | .inr keyword => keyword.name ++ "=" ++ keyword.value

def HeaderItemWellFormed : String ⊕ ClassKeyword → Prop
  | .inl base => IsType base
  | .inr keyword => Text.isIdentifier keyword.name ∧ IsType keyword.value

theorem ClassStub.headerArguments_eq (cls : ClassStub) :
    cls.headerArguments = cls.headerItems.map headerItemText := by
  simp [ClassStub.headerArguments, ClassStub.headerItems, headerItemText, Function.comp_def]

theorem ClassStub.headerItems_wellFormed {cls : ClassStub} (h : cls.WellFormed) :
    ∀ item ∈ cls.headerItems, HeaderItemWellFormed item := by
  intro item hitem
  simp only [ClassStub.headerItems, List.mem_append, List.mem_map] at hitem
  rcases hitem with ⟨base, hbase, rfl⟩ | ⟨keyword, hkeyword, rfl⟩
  · exact h.bases base hbase
  · exact h.keywords keyword hkeyword

theorem head_of_isType {text : String} (h : IsType text) :
    ∃ c cs, text.toList = c :: cs ∧ c ∉ marks := by
  have hdotted {path : String} (hpath : IsDotted path) (rest : List Char) :
      ∃ c cs, path.toList ++ rest = c :: cs ∧ c ∉ marks := by
    obtain ⟨c, cs, hchars, hc⟩ := head_of_isDotted hpath
    exact ⟨c, cs ++ rest, by simp [hchars], fun hmem => hc (.tail _ (.tail _ (.tail _ hmem)))⟩
  cases h with
  | noneType => exact ⟨'N', ['o', 'n', 'e'], by simp, by decide⟩
  | ellipsis => exact ⟨'.', ['.', '.'], by simp, by decide⟩
  | path htext => simpa using hdotted htext []
  | applied hbase _ => simpa using hdotted hbase _
  | list _ => exact ⟨'[', _, by simp; rfl, by decide⟩

theorem head_of_headerItem {item : String ⊕ ClassKeyword} (h : HeaderItemWellFormed item) :
    ∃ c cs, (headerItemText item).toList = c :: cs ∧ c ∉ marks := by
  cases item with
  | inl base => exact head_of_isType h
  | inr keyword =>
    obtain ⟨c, cs, hchars, hc⟩ := head_of_isIdentifier h.1
    exact ⟨c, cs ++ '=' :: keyword.value.toList, by simp [headerItemText, hchars],
      fun hmem => hc (.tail _ (.tail _ (.tail _ hmem)))⟩

/-- A base does not go on with an equality sign. -/
theorem base_ne_keyword {base : String} {keyword : ClassKeyword} {r s : List Char}
    (hbase : IsType base) (hkeyword : Text.isIdentifier keyword.name) (hr : Continues Closes r) :
    base.toList ++ r ≠ (headerItemText (.inr keyword)).toList ++ s := by
  intro h
  have hwords : base.toList ++ r =
      keyword.name.toList ++ '=' :: (keyword.value.toList ++ s) := by
    simpa [headerItemText] using h
  obtain ⟨-, rfl⟩ := hbase.isWord.append_inj (isWord_of_isIdentifier hkeyword) hr.stops_closes
    (stops_of_head rfl (by decide)) hwords
  rcases head_of_continues hr with hhead | hhead <;> simp at hhead

theorem headerItemText_append_inj {first second : String ⊕ ClassKeyword} {r s : List Char}
    (hfirst : HeaderItemWellFormed first) (hsecond : HeaderItemWellFormed second)
    (hr : Continues Closes r) (hs : Continues Closes s)
    (h : (headerItemText first).toList ++ r = (headerItemText second).toList ++ s) :
    first = second ∧ r = s := by
  cases first with
  | inl base =>
    cases second with
    | inl other =>
      obtain ⟨rfl, hrs⟩ :=
        (IsType.isWord hfirst).append_inj (IsType.isWord hsecond) hr.stops_closes hs.stops_closes h
      exact ⟨rfl, hrs⟩
    | inr keyword => exact absurd h (base_ne_keyword hfirst hsecond.1 hr)
  | inr keyword =>
    cases second with
    | inl base => exact absurd h.symm (base_ne_keyword hsecond hfirst.1 hs)
    | inr other =>
      have hwords : keyword.name.toList ++ '=' :: (keyword.value.toList ++ r) =
          other.name.toList ++ '=' :: (other.value.toList ++ s) := by
        simpa [headerItemText] using h
      have hequals (rest : List Char) : Stops ('=' :: rest) := stops_of_head rfl (by decide)
      obtain ⟨hname, hrest⟩ := (isWord_of_isIdentifier hfirst.1).append_inj
        (isWord_of_isIdentifier hsecond.1) (hequals _) (hequals _) hwords
      obtain ⟨hvalue, hrs⟩ := hfirst.2.isWord.append_inj hsecond.2.isWord hr.stops_closes
        hs.stops_closes (List.cons.inj hrest).2
      cases keyword
      cases other
      simp_all

theorem ClassStub.headerItems_inj {first second : ClassStub}
    (h : first.headerItems = second.headerItems) :
    first.bases = second.bases ∧ first.keywords = second.keywords := by
  have hbases (cls : ClassStub) : cls.headerItems.filterMap Sum.getLeft? = cls.bases := by
    simp [ClassStub.headerItems, List.filterMap_append, List.filterMap_map, Function.comp_def]
  have hkeywords (cls : ClassStub) : cls.headerItems.filterMap Sum.getRight? = cls.keywords := by
    simp [ClassStub.headerItems, List.filterMap_append, List.filterMap_map, Function.comp_def]
  exact ⟨by rw [← hbases first, h, hbases], by rw [← hkeywords first, h, hkeywords]⟩

/-- What comes after the parentheses of a class header. -/
def ClassStub.headerEnd (cls : ClassStub) : String :=
  ":" ++ if cls.body.isEmpty then " ..." else ""

theorem ClassStub.headerItems_eq_nil {cls : ClassStub} (h : ¬ cls.hasHeader) :
    cls.headerItems = [] := by
  have hnil : cls.bases = [] ∧ cls.keywords = [] := by simpa [ClassStub.hasHeader] using h
  simp [ClassStub.headerItems, hnil.1, hnil.2]

theorem ClassStub.headerText_append_inj {first second : ClassStub} (hfirst : first.WellFormed)
    (hsecond : second.WellFormed)
    (h : first.headerText.toList ++ first.headerEnd.toList =
      second.headerText.toList ++ second.headerEnd.toList) :
    first.headerItems = second.headerItems ∧ first.headerEnd = second.headerEnd := by
  have hopen {cls : ClassStub} (hhas : cls.hasHeader) :
      cls.headerText.toList ++ cls.headerEnd.toList =
        '(' :: ((", ".intercalate (cls.headerItems.map headerItemText)).toList ++
          ')' :: cls.headerEnd.toList) := by
    simp [ClassStub.headerText, hhas, headerArguments_eq]
  have hbare {cls : ClassStub} (hhas : ¬ cls.hasHeader) :
      cls.headerText.toList ++ cls.headerEnd.toList = cls.headerEnd.toList := by
    simp [ClassStub.headerText, hhas]
  have hcolon (cls : ClassStub) {rest : List Char} : cls.headerEnd.toList ≠ '(' :: rest := by
    simp [ClassStub.headerEnd]
  by_cases hhas : first.hasHeader
  · by_cases hhas' : second.hasHeader
    · rw [hopen hhas, hopen hhas'] at h
      have hstart {item : String ⊕ ClassKeyword} {r s : List Char}
          (hwf : HeaderItemWellFormed item) (hs : Closes s) :
          (headerItemText item).toList ++ r ≠ s := by
        rintro rfl
        obtain ⟨c, cs, hchars, hc⟩ := head_of_headerItem hwf
        have hclose : c = ')' := by simpa [Closes, hchars] using hs
        exact hc (hclose ▸ by decide)
      have hcloses (rest : List Char) : Closes (')' :: rest) := rfl
      obtain ⟨hitems, hend⟩ := intercalate_append_inj Closes headerItemText_append_inj hstart
        (fun h => by simp [Closes] at h) (headerItems_wellFormed hfirst)
        (headerItems_wellFormed hsecond) (hcloses _) (hcloses _) (List.cons.inj h).2
      exact ⟨hitems, String.toList_inj.1 (List.cons.inj hend).2⟩
    · rw [hopen hhas, hbare hhas'] at h
      exact absurd h.symm (hcolon second)
  · by_cases hhas' : second.hasHeader
    · rw [hbare hhas, hopen hhas'] at h
      exact absurd h (hcolon first)
    · rw [hbare hhas, hbare hhas'] at h
      rw [headerItems_eq_nil hhas, headerItems_eq_nil hhas']
      exact ⟨rfl, String.toList_inj.1 h⟩

theorem ClassStub.header_inj {first second : ClassStub} (hfirst : first.WellFormed)
    (hsecond : second.WellFormed) (h : first.header = second.header) :
    first.name = second.name ∧ first.bases = second.bases ∧ first.keywords = second.keywords := by
  have htexts : first.name.toList ++ (first.headerText.toList ++ first.headerEnd.toList) =
      second.name.toList ++ (second.headerText.toList ++ second.headerEnd.toList) := by
    simpa [ClassStub.header, ClassStub.headerEnd, ← String.toList_inj] using h
  have hstops (cls : ClassStub) : Stops (cls.headerText.toList ++ cls.headerEnd.toList) := by
    by_cases hhas : cls.hasHeader
    · exact stops_of_head (c := '(') (by simp [ClassStub.headerText, hhas]) (by decide)
    · exact stops_of_head (c := ':') (by simp [ClassStub.headerText, hhas, headerEnd]) (by decide)
  obtain ⟨hname, hrest⟩ := (isWord_of_isIdentifier hfirst.name).append_inj
    (isWord_of_isIdentifier hsecond.name) (hstops first) (hstops second) htexts
  exact ⟨hname, headerItems_inj (headerText_append_inj hfirst hsecond hrest).1⟩

/-- The written type of a variable shows whether it belongs to the class. -/
theorem ClassField.writtenType_inj {first second : ClassField} (hfirst : first.WellFormed)
    (hsecond : second.WellFormed) (h : first.writtenType = second.writtenType) :
    first.annotation = second.annotation ∧ first.classVar = second.classVar := by
  cases hvar : first.classVar <;> cases hvar' : second.classVar <;>
    simp only [ClassField.writtenType, hvar, hvar', if_true, Bool.false_eq_true, if_false] at h
  · exact ⟨h, rfl⟩
  · exact absurd h (hfirst.unwrapped hvar _)
  · exact absurd h.symm (hsecond.unwrapped hvar' _)
  · have hchars : first.annotation.toList = second.annotation.toList := by
      simpa [← String.toList_inj] using h
    exact ⟨String.toList_inj.1 hchars, rfl⟩

theorem ClassField.line_inj {first second : ClassField} (hfirst : first.WellFormed)
    (hsecond : second.WellFormed) (h : first.line = second.line) : first = second := by
  obtain ⟨hname, htypes⟩ := named_inj ⟨':', by simp, by decide⟩ hfirst.name hsecond.name h
  obtain ⟨hannotated, hclassVar⟩ := writtenType_inj hfirst hsecond htypes
  cases first
  cases second
  simp_all

end InterfaceStub
