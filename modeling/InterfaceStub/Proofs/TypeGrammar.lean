import InterfaceStub.Stub.DottedName
import InterfaceStub.Text.Identifier

/-!
# The grammar of type expressions

The texts that a stub may hold for a type: `None`, `...`, a dotted name, a dotted name with type
expressions in brackets, and a list of type expressions.  `IsDotted` and `IsType` are the two
grammars.

Such a text shows its own end.  `frontWord` reads a text up to the first blank, comma or other mark
outside brackets, and `IsType.isWord` says that it reads a type expression whole, whatever comes
after.  `IsWord.append_inj` is the form in which the fact is used: where two texts start with a word
and a mark, the words are equal and so is the rest.
-/

namespace InterfaceStub

/-- A name, or names with dots between them. -/
inductive IsDotted : String → Prop where
  | name {name : String} (hname : Text.isIdentifier name) : IsDotted name
  | child {parent member : String} (hparent : IsDotted parent)
      (hmember : Text.isIdentifier member) : IsDotted (DottedName.child parent member)

/-- The text of a type expression. -/
inductive IsType : String → Prop where
  | noneType : IsType "None"
  | ellipsis : IsType "..."
  | path {text : String} (htext : IsDotted text) : IsType text
  | applied {base : String} {arguments : List String} (hbase : IsDotted base)
      (harguments : ∀ argument ∈ arguments, IsType argument) :
      IsType (base ++ "[" ++ ", ".intercalate arguments ++ "]")
  | list {items : List String} (hitems : ∀ item ∈ items, IsType item) :
      IsType ("[" ++ ", ".intercalate items ++ "]")

/-! ## Characters -/

/-- Whether `c` stands in a word outside brackets.  The star is there for the name that stands for
all names. -/
def isWordChar (c : Char) : Bool :=
  c == '.' || c == '*' || Text.isIdentifierPart c

/-- Characters that end a word when they stand outside brackets. -/
def marks : List Char :=
  [' ', ',', ':', '=', '(', ')', ']', '@', '-', '>', '\n']

-- The tables of letters and numbers are long, so the kernel evaluates them.
theorem isIdentifierPart_of_mem_marks {c : Char} (h : c ∈ '.' :: '*' :: '[' :: marks) :
    Text.isIdentifierPart c = false := by
  have hall : ('.' :: '*' :: '[' :: marks).all (!Text.isIdentifierPart ·) = true := by
    decide +kernel
  simpa using List.all_eq_true.1 hall c h

theorem isWordChar_of_mem_marks {c : Char} (h : c ∈ '[' :: marks) : isWordChar c = false := by
  have hpart := isIdentifierPart_of_mem_marks (.tail _ (.tail _ h))
  have hdot : c ≠ '.' := fun heq => by subst heq; exact absurd h (by decide)
  have hstar : c ≠ '*' := fun heq => by subst heq; exact absurd h (by decide)
  simp [isWordChar, hpart, hdot, hstar]

theorem isIdentifierPart_of_isIdentifierStart {c : Char} (h : Text.isIdentifierStart c) :
    Text.isIdentifierPart c := by
  simp only [Text.isIdentifierStart, Bool.or_eq_true] at h
  rcases h with h | h <;> simp [Text.isIdentifierPart, h]

theorem isIdentifierPart_of_mem {name : String} (h : Text.isIdentifier name) {c : Char}
    (hc : c ∈ name.toList) : Text.isIdentifierPart c := by
  unfold Text.isIdentifier at h
  split at h
  · contradiction
  · rename_i first rest heq
    simp only [Bool.and_eq_true, List.all_eq_true] at h
    rw [heq] at hc
    rcases List.mem_cons.1 hc with rfl | hc
    · exact isIdentifierPart_of_isIdentifierStart h.1
    · exact h.2 c hc

theorem toList_ne_nil_of_isIdentifier {name : String} (h : Text.isIdentifier name) :
    name.toList ≠ [] := by
  intro heq
  simp [Text.isIdentifier, heq] at h

theorem isWordChar_of_isIdentifierPart {c : Char} (h : Text.isIdentifierPart c) : isWordChar c := by
  simp [isWordChar, h]

theorem IsDotted.isWordChar_of_mem {text : String} (h : IsDotted text) :
    ∀ c ∈ text.toList, isWordChar c := by
  induction h with
  | name hname =>
    intro c hc
    exact isWordChar_of_isIdentifierPart (isIdentifierPart_of_mem hname hc)
  | child _ hmember ih =>
    intro c hc
    simp only [DottedName.child, String.toList_append, List.mem_append] at hc
    rcases hc with (hc | hc) | hc
    · exact ih c hc
    · have hdot : c = '.' := by simpa using hc
      simp [hdot, isWordChar]
    · exact isWordChar_of_isIdentifierPart (isIdentifierPart_of_mem hmember hc)

/-! ## The end of a word -/

/-- The front of a text up to the first mark outside brackets, when `depth` brackets are open. -/
def frontWord (depth : Nat) : List Char → List Char
  | [] => []
  | c :: cs =>
    if c = '[' then c :: frontWord (depth + 1) cs
    else if c = ']' then if depth = 0 then [] else c :: frontWord (depth - 1) cs
    else if depth = 0 && !isWordChar c then []
    else c :: frontWord depth cs

/-- A text that is read whole, whatever comes after. -/
def IsWord (text : String) : Prop :=
  ∀ depth rest, frontWord depth (text.toList ++ rest) = text.toList ++ frontWord depth rest

/-- A text with which a word cannot go on. -/
def Stops (rest : List Char) : Prop :=
  frontWord 0 rest = []

theorem stops_nil : Stops [] := rfl

theorem stops_of_head {c : Char} {rest : List Char} (hhead : rest.head? = some c)
    (hmark : c ∈ marks) : Stops rest := by
  obtain ⟨cs, rfl⟩ := List.head?_eq_some_iff.1 hhead
  have hword := isWordChar_of_mem_marks (.tail _ hmark)
  have hopen : c ≠ '[' := by
    rintro rfl
    exact absurd hmark (by decide)
  by_cases hclose : c = ']'
  · simp [Stops, frontWord, hclose]
  · simp [Stops, frontWord, hopen, hclose, hword]

/-- Where two texts start with a word and something that ends it, the words are equal and so is the
rest. -/
theorem IsWord.append_inj {first second : String} {rest rest' : List Char} (hfirst : IsWord first)
    (hsecond : IsWord second) (hrest : Stops rest) (hrest' : Stops rest')
    (h : first.toList ++ rest = second.toList ++ rest') : first = second ∧ rest = rest' := by
  have hfront : frontWord 0 (first.toList ++ rest) = first.toList := by
    rw [hfirst, hrest, List.append_nil]
  have hfront' : frontWord 0 (second.toList ++ rest') = second.toList := by
    rw [hsecond, hrest', List.append_nil]
  have heq : first.toList = second.toList := by rw [← hfront, ← hfront', h]
  rw [heq] at h
  exact ⟨String.toList_inj.1 heq, List.append_cancel_left h⟩

theorem isWord_of_forall {text : String} (h : ∀ c ∈ text.toList, isWordChar c) : IsWord text := by
  intro depth rest
  generalize text.toList = cs at h
  induction cs with
  | nil => rfl
  | cons c cs ih =>
    have hc : isWordChar c := h c List.mem_cons_self
    have hopen : c ≠ '[' := by
      rintro rfl
      exact absurd hc (by rw [isWordChar_of_mem_marks (by decide)]; decide)
    have hclose : c ≠ ']' := by
      rintro rfl
      exact absurd hc (by rw [isWordChar_of_mem_marks (by decide)]; decide)
    rw [List.cons_append, frontWord, if_neg hopen, if_neg hclose, if_neg (by simp [hc]),
      ih fun d hd => h d (.tail _ hd), List.cons_append]

theorem isWord_of_all {text : String} (h : text.toList.all isWordChar) : IsWord text :=
  isWord_of_forall (List.all_eq_true.1 h)

theorem IsDotted.isWord {text : String} (h : IsDotted text) : IsWord text :=
  isWord_of_forall h.isWordChar_of_mem

theorem isWord_of_isIdentifier {name : String} (h : Text.isIdentifier name) : IsWord name :=
  (IsDotted.name h).isWord

theorem frontWord_open (depth : Nat) (rest : List Char) :
    frontWord depth ('[' :: rest) = '[' :: frontWord (depth + 1) rest := rfl

theorem frontWord_close (depth : Nat) (rest : List Char) :
    frontWord (depth + 1) (']' :: rest) = ']' :: frontWord depth rest := by
  simp [frontWord]

theorem frontWord_comma (depth : Nat) (rest : List Char) :
    frontWord (depth + 1) (',' :: ' ' :: rest) = ',' :: ' ' :: frontWord (depth + 1) rest := by
  simp [frontWord]

/-- Inside brackets, words with commas between them are read whole. -/
theorem frontWord_intercalate {words : List String} (hwords : ∀ word ∈ words, IsWord word)
    (depth : Nat) (rest : List Char) :
    frontWord (depth + 1) ((", ".intercalate words).toList ++ rest) =
      (", ".intercalate words).toList ++ frontWord (depth + 1) rest := by
  induction words with
  | nil => simp
  | cons word words ih =>
    have hword : IsWord word := hwords word List.mem_cons_self
    have hrest := ih fun other hother => hwords other (.tail _ hother)
    cases words with
    | nil => simpa using hword _ _
    | cons next words =>
      rw [String.intercalate_cons_cons, String.toList_append, String.toList_append,
        List.append_assoc, List.append_assoc, List.append_assoc, List.append_assoc, hword]
      have hcomma : ", ".toList = [',', ' '] := rfl
      rw [hcomma, List.cons_append, List.cons_append, List.nil_append, frontWord_comma, hrest]
      rfl

/-- Brackets around words are read whole. -/
theorem frontWord_brackets {words : List String} (hwords : ∀ word ∈ words, IsWord word)
    (depth : Nat) (rest : List Char) :
    frontWord depth (("[" ++ ", ".intercalate words ++ "]").toList ++ rest) =
      ("[" ++ ", ".intercalate words ++ "]").toList ++ frontWord depth rest := by
  have hopen : "[".toList = ['['] := rfl
  have hclose : "]".toList = [']'] := rfl
  rw [String.toList_append, String.toList_append, hopen, hclose, List.append_assoc,
    List.append_assoc, List.append_assoc, List.cons_append, List.nil_append, frontWord_open,
    frontWord_intercalate hwords, List.cons_append, List.nil_append, frontWord_close]
  simp

theorem IsType.isWord {text : String} (h : IsType text) : IsWord text := by
  induction h with
  | noneType => exact isWord_of_all (by decide +kernel)
  | ellipsis => exact isWord_of_all (by decide +kernel)
  | path htext => exact htext.isWord
  | @applied base arguments hbase _ ih =>
    intro depth rest
    have hsplit : base ++ "[" ++ ", ".intercalate arguments ++ "]" =
        base ++ ("[" ++ ", ".intercalate arguments ++ "]") := by
      simp only [String.append_assoc]
    rw [hsplit, String.toList_append, List.append_assoc, hbase.isWord, frontWord_brackets ih,
      List.append_assoc]
  | list _ ih => exact frontWord_brackets ih

end InterfaceStub
