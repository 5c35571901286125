import InterfaceStub.Json.Printer
import InterfaceStub.Json.Reader
import Mathlib.Data.List.TakeWhile
import Mathlib.Tactic.Common

/-!
# JSON text and JSON values

What is written for a value is read back as the value.  The text is divided into tokens and the
tokens are put together again, and each half is followed from the outside in.

* `IsProper` says which values have a text of their own.
* `tokens` are the tokens of a value.  `scansAsTokens` finds them in its text, however the text is
  laid out, and `readsTokens` reads the value from them.
* `parse_write` joins the two.
-/

namespace InterfaceStub.Json

/-- A value that has a text of its own: numbers are spelled as JSON wants them, strings and keys are
text, and no object has a key twice. -/
inductive IsProper : Json → Prop
  | null : IsProper .null
  | bool (value : Bool) : IsProper (.bool value)
  | number {literal : String} (h : isNumber literal.toList = true) : IsProper (.number literal)
  | string (text : String) : IsProper (ofString text)
  | array {items : List Json} (h : ∀ item ∈ items, IsProper item) : IsProper (.array items)
  | object {members : List (String × Json)} (hkeys : (members.map Prod.fst).Nodup)
    (h : ∀ member ∈ members, IsProper member.2) : IsProper (ofMembers members)

/-- The members of an object, with their keys as they are read. -/
def named (members : List (String × Json)) : List (Option String × Json) :=
  members.map fun member => (some member.1, member.2)

theorem ofMembers_cons (member : String × Json) (members : List (String × Json)) :
    ofMembers (member :: members) = .object ((some member.1, member.2) :: named members) := rfl

/-! ## Runs

Scanning and reading both take one step after the other, and a step may fail. -/

section Runs

variable {step : σ → α → Option σ} {state next : σ} {item : α} {items rest : List α}

theorem foldlM_cons_of_eq_some (h : step state item = some next) :
    (item :: rest).foldlM step state = rest.foldlM step next := by
  rw [List.foldlM_cons, h]
  rfl

theorem foldlM_append_of_eq_some (h : items.foldlM step state = some next) :
    (items ++ rest).foldlM step state = rest.foldlM step next := by
  rw [List.foldlM_append, h]
  rfl

end Runs

/-! ## Words -/

section Words

variable {cs : List Char} {c : Char}

/-- No character ends the word that it stands in. -/
def IsWord (cs : List Char) : Prop :=
  ∀ c ∈ cs, Scanner.endsWord c = false

instance (cs : List Char) : Decidable (IsWord cs) :=
  decidable_of_iff (cs.any Scanner.endsWord = false) (by simp [IsWord])

theorem endsWord_of_isDigit (h : isDigit c = true) : Scanner.endsWord c = false := by
  have hnone : "\x7b\x7d[]:,\" \t\n\r".toList.any isDigit = false := by decide
  rw [Scanner.endsWord, List.contains_eq_mem, decide_eq_false_iff_not]
  intro hmem
  exact List.any_eq_false.1 hnone c hmem h

theorem isWord_cons (hc : Scanner.endsWord c = false) (hcs : IsWord cs) : IsWord (c :: cs) :=
  List.forall_mem_cons.2 ⟨hc, hcs⟩

theorem isWord_of_dropWhile (h : IsWord (cs.dropWhile isDigit)) : IsWord cs := by
  intro c hc
  rw [← List.takeWhile_append_dropWhile (p := isDigit) (l := cs), List.mem_append] at hc
  obtain hc | hc := hc
  · exact endsWord_of_isDigit (List.mem_takeWhile_imp hc)
  · exact h c hc

theorem isWord_of_isDigits (h : isDigits cs = true) : IsWord cs := by
  cases cs with
  | nil => cases h
  | cons c cs => exact fun d hd => endsWord_of_isDigit (List.all_eq_true.1 h d hd)

theorem isWord_of_isExponent (h : isExponent cs = true) : IsWord cs := by
  cases cs with
  | nil => exact nofun
  | cons e cs =>
    rw [isExponent.eq_def, Bool.and_eq_true, Bool.or_eq_true, beq_iff_eq, beq_iff_eq] at h
    obtain ⟨he, hcs⟩ := h
    refine isWord_cons ?_ ?_
    · obtain rfl | rfl := he <;> decide
    · split at hcs
      · exact isWord_cons (by decide) (isWord_of_isDigits hcs)
      · exact isWord_cons (by decide) (isWord_of_isDigits hcs)
      · exact isWord_of_isDigits hcs

theorem isWord_of_isFraction (h : isFraction cs = true) : IsWord cs := by
  rw [isFraction.eq_def] at h
  split at h
  · rw [Bool.and_eq_true] at h
    refine isWord_cons (by decide) (isWord_cons (endsWord_of_isDigit h.1) ?_)
    exact isWord_of_dropWhile (isWord_of_isExponent h.2)
  · exact isWord_of_isExponent h

theorem isWord_of_isUnsignedNumber (h : isUnsignedNumber cs = true) : IsWord cs := by
  rw [isUnsignedNumber.eq_def] at h
  split at h
  · exact isWord_cons (by decide) (isWord_of_isFraction h)
  · rw [Bool.and_eq_true] at h
    exact isWord_cons (endsWord_of_isDigit h.1) (isWord_of_dropWhile (isWord_of_isFraction h.2))
  · cases h

theorem isWord_of_isNumber (h : isNumber cs = true) : IsWord cs := by
  rw [isNumber.eq_def] at h
  split at h
  · exact isWord_cons (by decide) (isWord_of_isUnsignedNumber h)
  · exact isWord_of_isUnsignedNumber h

/-- A number is none of the literal names. -/
theorem wordValue?_of_isNumber (h : isNumber cs = true) :
    wordValue? cs = some (.number (String.ofList cs)) := by
  have hnull : cs ≠ "null".toList := by
    rintro rfl
    revert h
    decide
  have htrue : cs ≠ "true".toList := by
    rintro rfl
    revert h
    decide
  have hfalse : cs ≠ "false".toList := by
    rintro rfl
    revert h
    decide
  rw [wordValue?, if_neg hnull, if_neg htrue, if_neg hfalse, if_pos h]

end Words

/-! ## Scanning -/

/-- The tokens of a text, after those that came before it. -/
def scanFrom (before : List Token) (text : List Char) : Option (List Token) :=
  text.foldlM Scanner.step ⟨before, .between⟩ >>= Scanner.finish

/-- A word may end before this text. -/
def AtBreak : List Char → Prop
  | [] => True
  | c :: _ => Scanner.endsWord c = true

/-- A blank of JSON text. -/
def isBlank (c : Char) : Bool :=
  [' ', '\t', '\n', '\r'].contains c

/-- Nothing stands between tokens but blanks. -/
structure Layout.IsBlank (layout : Layout) : Prop where
  newline : ∀ depth, (layout.newline depth).toList.all isBlank = true
  colon : ∃ blanks, layout.colon.toList = ':' :: blanks ∧ blanks.all isBlank = true

theorem isBlank_compact : Layout.compact.IsBlank :=
  ⟨fun _ => rfl, [], rfl, rfl⟩

theorem isBlank_pretty : Layout.pretty.IsBlank := by
  refine ⟨fun depth => ?_, [' '], rfl, rfl⟩
  simp [Layout.pretty, isBlank]

section Scanning

variable {before : List Token} {rest blanks : List Char} {c : Char}

/-- A mark is one token by itself. -/
theorem scanFrom_mark (mark : String) (token : Token)
    (h : ∀ before, mark.toList.foldlM Scanner.step ⟨before, .between⟩ =
      some ⟨token :: before, .between⟩) :
    scanFrom before (mark.toList ++ rest) = scanFrom (token :: before) rest := by
  rw [scanFrom, foldlM_append_of_eq_some (h before), scanFrom]

theorem start_of_isBlank (h : isBlank c = true) (scanner : Scanner) :
    scanner.start c = scanner := by
  simp only [isBlank, List.contains_cons, List.contains_nil, Bool.or_false, Bool.or_eq_true,
    beq_iff_eq] at h
  obtain rfl | rfl | rfl | rfl := h <;> rfl

theorem scanFrom_blanks (h : blanks.all isBlank = true) :
    scanFrom before (blanks ++ rest) = scanFrom before rest := by
  induction blanks with
  | nil => rfl
  | cons c blanks ih =>
    rw [List.all_cons, Bool.and_eq_true] at h
    have hstep : Scanner.step ⟨before, .between⟩ c = some ⟨before, .between⟩ :=
      congrArg some (start_of_isBlank h.1 _)
    rw [List.cons_append, scanFrom, foldlM_cons_of_eq_some hstep]
    exact ih h.2

theorem endsWord_of_isBlank (h : isBlank c = true) : Scanner.endsWord c = true := by
  simp only [isBlank, List.contains_cons, List.contains_nil, Bool.or_false, Bool.or_eq_true,
    beq_iff_eq] at h
  obtain rfl | rfl | rfl | rfl := h <;> decide

theorem atBreak_blanks (h : blanks.all isBlank = true) (hrest : AtBreak rest) :
    AtBreak (blanks ++ rest) := by
  cases blanks with
  | nil => exact hrest
  | cons c blanks =>
    rw [List.all_cons, Bool.and_eq_true] at h
    exact endsWord_of_isBlank h.1

/-! ### Words -/

theorem start_of_not_endsWord (h : Scanner.endsWord c = false) (scanner : Scanner) :
    scanner.start c = { scanner with mode := .word [c] } := by
  rw [Scanner.start.eq_def]
  split
  all_goals first | rfl | (exfalso; revert h; decide)

theorem foldlM_word {word : List Char} (h : IsWord word) (chars : List Char) :
    word.foldlM Scanner.step ⟨before, .word chars⟩ =
      some ⟨before, .word (word.reverse ++ chars)⟩ := by
  induction word generalizing chars with
  | nil => rfl
  | cons c word ih =>
    obtain ⟨hc, hword⟩ := List.forall_mem_cons.1 h
    have hstep : Scanner.step ⟨before, .word chars⟩ c = some ⟨before, .word (c :: chars)⟩ := by
      simp [Scanner.step, hc]
    rw [foldlM_cons_of_eq_some hstep, ih hword, List.reverse_cons, List.append_assoc,
      List.singleton_append]

/-- A word is one token, which ends where a word may end. -/
theorem scanFrom_word {word : List Char} {value : Json} (hword : IsWord word)
    (hvalue : wordValue? word = some value) (hrest : AtBreak rest) :
    scanFrom before (word ++ rest) = scanFrom (.scalar value :: before) rest := by
  cases word with
  | nil => cases hvalue
  | cons c word =>
    obtain ⟨hc, hword⟩ := List.forall_mem_cons.1 hword
    have hstep : Scanner.step ⟨before, .between⟩ c = some ⟨before, .word [c]⟩ :=
      congrArg some (start_of_not_endsWord hc _)
    rw [scanFrom, List.cons_append, foldlM_cons_of_eq_some hstep,
      foldlM_append_of_eq_some (foldlM_word hword _)]
    cases rest with
    | nil => simp [scanFrom, Scanner.finish, hvalue]
    | cons d rest =>
      have hbreak : Scanner.endsWord d = true := hrest
      simp [scanFrom, Scanner.step, Scanner.emit, hbreak, hvalue]

/-! ### Strings -/

theorem fourHexDigits_control : ∀ n < 0x20, fourHexDigits n =
    ['0', '0', Nat.digitChar (n / 16), Nat.digitChar (n % 16)] := by
  decide

theorem hexDigit?_digitChar : ∀ n < 16, hexDigit? (Nat.digitChar n) = some n := by
  decide

/-- A control character is written as a code unit. -/
theorem foldlM_fourHexDigits (chars : List Char) (h : c.toNat < 0x20) :
    (fourHexDigits c.toNat).foldlM Scanner.step ⟨before, .codeUnit ⟨chars, none, true⟩ 0 3⟩ =
      some ⟨before, .quoted ⟨c :: chars, none, true⟩⟩ := by
  have hhigh := hexDigit?_digitChar (c.toNat / 16) (by omega)
  have hlow := hexDigit?_digitChar (c.toNat % 16) (by omega)
  have hzero : hexDigit? '0' = some 0 := by decide
  have hvalue : 16 * (c.toNat / 16) + c.toNat % 16 = c.toNat := by omega
  have hlead : ¬(0xD800 ≤ c.toNat ∧ c.toNat < 0xDC00) := by omega
  have htrail : ¬(0xDC00 ≤ c.toNat ∧ c.toNat < 0xE000) := by omega
  rw [fourHexDigits_control _ h]
  simp [Scanner.step, hzero, hhigh, hlow, hvalue, TextPart.pushUnit, hlead, htrail, TextPart.push]

theorem foldlM_stringChar (chars : List Char) (c : Char) :
    (stringChar c).foldlM Scanner.step ⟨before, .quoted ⟨chars, none, true⟩⟩ =
      some ⟨before, .quoted ⟨c :: chars, none, true⟩⟩ := by
  rw [stringChar.eq_def]
  split
  case h_8 hquote hbackslash _ _ _ _ _ =>
    have hquote : c ≠ '"' := hquote
    have hbackslash : c ≠ '\\' := hbackslash
    split
    case isTrue hcontrol => exact foldlM_fourHexDigits chars hcontrol
    case isFalse hcontrol => simp [Scanner.step, TextPart.push, hcontrol, hquote, hbackslash]
  all_goals rfl

theorem foldlM_flatMap_stringChar (cs chars : List Char) :
    (cs.flatMap stringChar).foldlM Scanner.step ⟨before, .quoted ⟨chars, none, true⟩⟩ =
      some ⟨before, .quoted ⟨cs.reverse ++ chars, none, true⟩⟩ := by
  induction cs generalizing chars with
  | nil => rfl
  | cons c cs ih =>
    rw [List.flatMap_cons, foldlM_append_of_eq_some (foldlM_stringChar chars c), ih,
      List.reverse_cons, List.append_assoc, List.singleton_append]

theorem scanFrom_stringLiteral (text : String) :
    scanFrom before ((stringLiteral text).toList ++ rest) =
      scanFrom (.scalar (ofString text) :: before) rest := by
  have hopen : Scanner.step ⟨before, .between⟩ '"' = some ⟨before, .quoted ⟨[], none, true⟩⟩ := rfl
  have hclose : Scanner.step ⟨before, .quoted ⟨text.toList.reverse, none, true⟩⟩ '"' =
      some ⟨.scalar (ofString text) :: before, .between⟩ := by
    simp [Scanner.step, Scanner.emit, TextPart.text?, ofString]
  rw [stringLiteral, String.toList_ofList, scanFrom, List.append_assoc, List.cons_append,
    foldlM_cons_of_eq_some hopen, foldlM_append_of_eq_some (foldlM_flatMap_stringChar _ _),
    List.append_nil, List.singleton_append, foldlM_cons_of_eq_some hclose, scanFrom]

end Scanning

/-! ### Values -/

mutual
/-- The tokens of a value. -/
def tokens : Json → List Token
  | .array [] => [.openBracket, .closeBracket]
  | .array (item :: items) => .openBracket :: (tokens item ++ itemTokens items ++ [.closeBracket])
  | .object [] => [.openBrace, .closeBrace]
  | .object ((key, value) :: members) =>
    .openBrace :: .scalar (.string key) :: .colon ::
      (tokens value ++ memberTokens members ++ [.closeBrace])
  | json => [.scalar json]

/-- The tokens of the items after the first one. -/
def itemTokens : List Json → List Token
  | [] => []
  | item :: items => .comma :: (tokens item ++ itemTokens items)

/-- The tokens of the members after the first one. -/
def memberTokens : List (Option String × Json) → List Token
  | [] => []
  | (key, value) :: members =>
    .comma :: .scalar (.string key) :: .colon :: (tokens value ++ memberTokens members)
end

section Values

variable {layout : Layout} {before : List Token} {rest : List Char} {depth : Nat}

/-- The text of a value is scanned as its tokens, wherever it stands. -/
def ScansAsTokens (layout : Layout) (json : Json) : Prop :=
  ∀ depth before rest, AtBreak rest →
    scanFrom before ((json.write layout depth).toList ++ rest) =
      scanFrom (json.tokens.reverse ++ before) rest

theorem atBreak_writeItems (items : List Json) (hrest : AtBreak rest) :
    AtBreak ((writeItems layout depth items).toList ++ rest) := by
  cases items with
  | nil => simpa [writeItems] using hrest
  | cons item items =>
    simp only [writeItems, String.toList_append, List.append_assoc]
    rfl

theorem atBreak_writeMembers (members : List (Option String × Json)) (hrest : AtBreak rest) :
    AtBreak ((writeMembers layout depth members).toList ++ rest) := by
  cases members with
  | nil => simpa [writeMembers] using hrest
  | cons member members =>
    obtain ⟨key, value⟩ := member
    simp only [writeMembers, String.toList_append, List.append_assoc]
    rfl

variable (hlayout : layout.IsBlank)
include hlayout

theorem scanFrom_colon :
    scanFrom before (layout.colon.toList ++ rest) = scanFrom (.colon :: before) rest := by
  obtain ⟨blanks, hcolon, hblanks⟩ := hlayout.colon
  have hsplit : layout.colon.toList ++ rest = ":".toList ++ (blanks ++ rest) := by
    rw [hcolon]
    rfl
  rw [hsplit, scanFrom_mark ":" .colon fun _ => rfl, scanFrom_blanks hblanks]

theorem scanFrom_writeItems {items : List Json} (h : ∀ item ∈ items, ScansAsTokens layout item)
    (hrest : AtBreak rest) :
    scanFrom before ((writeItems layout depth items).toList ++ rest) =
      scanFrom ((itemTokens items).reverse ++ before) rest := by
  induction items generalizing before with
  | nil => simp [writeItems, itemTokens]
  | cons item items ih =>
    obtain ⟨hitem, hitems⟩ := List.forall_mem_cons.1 h
    simp only [writeItems, String.toList_append, List.append_assoc]
    rw [scanFrom_mark "," .comma fun _ => rfl, scanFrom_blanks (hlayout.newline _),
      hitem _ _ _ (atBreak_writeItems items hrest), ih hitems]
    simp [itemTokens]

theorem scanFrom_writeMembers {members : List (String × Json)}
    (h : ∀ member ∈ members, ScansAsTokens layout member.2) (hrest : AtBreak rest) :
    scanFrom before ((writeMembers layout depth (named members)).toList ++ rest) =
      scanFrom ((memberTokens (named members)).reverse ++ before) rest := by
  induction members generalizing before with
  | nil => simp [named, writeMembers, memberTokens]
  | cons member members ih =>
    obtain ⟨hmember, hmembers⟩ := List.forall_mem_cons.1 h
    have hcons : named (member :: members) = (some member.1, member.2) :: named members := rfl
    simp only [hcons, writeMembers, textLiteral, Option.getD_some, String.toList_append,
      List.append_assoc]
    rw [scanFrom_mark "," .comma fun _ => rfl, scanFrom_blanks (hlayout.newline _),
      scanFrom_stringLiteral, scanFrom_colon hlayout,
      hmember _ _ _ (atBreak_writeMembers _ hrest), ih hmembers]
    simp [memberTokens, ofString]

theorem scansAsTokens_array {items : List Json} (h : ∀ item ∈ items, ScansAsTokens layout item) :
    ScansAsTokens layout (.array items) := by
  intro depth before rest _
  cases items with
  | nil =>
    have hempty : "[]".toList ++ rest = "[".toList ++ ("]".toList ++ rest) := rfl
    rw [write, hempty, scanFrom_mark "[" .openBracket fun _ => rfl,
      scanFrom_mark "]" .closeBracket fun _ => rfl]
    rfl
  | cons item items =>
    obtain ⟨hitem, hitems⟩ := List.forall_mem_cons.1 h
    have hclose : AtBreak ((layout.newline depth).toList ++ ("]".toList ++ rest)) :=
      atBreak_blanks (hlayout.newline depth) rfl
    simp only [write, String.toList_append, List.append_assoc]
    rw [scanFrom_mark "[" .openBracket fun _ => rfl, scanFrom_blanks (hlayout.newline _),
      hitem _ _ _ (atBreak_writeItems items hclose), scanFrom_writeItems hlayout hitems hclose,
      scanFrom_blanks (hlayout.newline _), scanFrom_mark "]" .closeBracket fun _ => rfl]
    simp [tokens]

theorem scansAsTokens_object {members : List (String × Json)}
    (h : ∀ member ∈ members, ScansAsTokens layout member.2) :
    ScansAsTokens layout (ofMembers members) := by
  intro depth before rest _
  cases members with
  | nil =>
    have hempty : "\x7b\x7d".toList ++ rest = "\x7b".toList ++ ("\x7d".toList ++ rest) := rfl
    rw [ofMembers, List.map_nil, write, hempty, scanFrom_mark "\x7b" .openBrace fun _ => rfl,
      scanFrom_mark "\x7d" .closeBrace fun _ => rfl]
    rfl
  | cons member members =>
    obtain ⟨hmember, hmembers⟩ := List.forall_mem_cons.1 h
    have hclose : AtBreak ((layout.newline depth).toList ++ ("\x7d".toList ++ rest)) :=
      atBreak_blanks (hlayout.newline depth) rfl
    simp only [ofMembers_cons, write, textLiteral, Option.getD_some, String.toList_append,
      List.append_assoc]
    rw [scanFrom_mark "\x7b" .openBrace fun _ => rfl, scanFrom_blanks (hlayout.newline _),
      scanFrom_stringLiteral, scanFrom_colon hlayout,
      hmember _ _ _ (atBreak_writeMembers _ hclose), scanFrom_writeMembers hlayout hmembers hclose,
      scanFrom_blanks (hlayout.newline _), scanFrom_mark "\x7d" .closeBrace fun _ => rfl]
    simp [tokens, ofString]

/-- The tokens of a value are found in its text. -/
theorem scansAsTokens {json : Json} (h : json.IsProper) : ScansAsTokens layout json := by
  induction h with
  | null =>
    intro depth before rest hrest
    have hvalue : wordValue? "null".toList = some .null := rfl
    rw [write, scanFrom_word (by decide) hvalue hrest]
    rfl
  | bool value =>
    intro depth before rest hrest
    cases value with
    | false =>
      have hvalue : wordValue? "false".toList = some (.bool false) := rfl
      rw [write, scanFrom_word (by decide) hvalue hrest]
      rfl
    | true =>
      have hvalue : wordValue? "true".toList = some (.bool true) := rfl
      rw [write, scanFrom_word (by decide) hvalue hrest]
      rfl
  | @number literal h =>
    intro depth before rest hrest
    rw [write, scanFrom_word (isWord_of_isNumber h) (wordValue?_of_isNumber h) hrest,
      String.ofList_toList]
    rfl
  | string text => exact fun depth before rest _ => scanFrom_stringLiteral text
  | array _ ih => exact scansAsTokens_array hlayout ih
  | object _ _ ih => exact scansAsTokens_object hlayout ih

end Values

/-! ## Reading -/

namespace Reading

/-- A value is read from its tokens where a value may stand, and handed to what is open there. -/
def ReadsTokens (json : Json) : Prop :=
  ∀ frames expected rest, expected = .value ∨ expected = .valueOrClose →
    (json.tokens ++ rest).foldlM step ⟨frames, expected⟩ =
      (complete json frames).bind fun reading => rest.foldlM step reading

variable {frames : List Frame} {rest : List Token}

theorem foldlM_itemTokens {items : List Json} (h : ∀ item ∈ items, ReadsTokens item)
    (read : List Json) :
    (itemTokens items ++ rest).foldlM step ⟨.array read :: frames, .separator⟩ =
      rest.foldlM step ⟨.array (items.reverse ++ read) :: frames, .separator⟩ := by
  induction items generalizing read with
  | nil => rfl
  | cons item items ih =>
    obtain ⟨hitem, hitems⟩ := List.forall_mem_cons.1 h
    have hcomma : step ⟨.array read :: frames, .separator⟩ .comma =
        some ⟨.array read :: frames, .value⟩ := rfl
    rw [itemTokens, List.cons_append, foldlM_cons_of_eq_some hcomma, List.append_assoc,
      hitem _ _ _ (.inl rfl), complete, Option.bind_some, ih hitems, List.reverse_cons,
      List.append_assoc, List.singleton_append]

theorem foldlM_member {value : Json} (h : ReadsTokens value) {expected : Expected}
    (hexpected : expected = .key ∨ expected = .keyOrClose) (read : List (Option String × Json))
    (key : Option String) :
    (.scalar (.string key) :: .colon :: (value.tokens ++ rest)).foldlM step
        ⟨.object read :: frames, expected⟩ =
      rest.foldlM step ⟨.object ((key, value) :: read) :: frames, .separator⟩ := by
  have hkey : step ⟨.object read :: frames, expected⟩ (.scalar (.string key)) =
      some ⟨.member read key :: frames, .colon⟩ := by
    obtain rfl | rfl := hexpected <;> rfl
  have hcolon : step ⟨.member read key :: frames, .colon⟩ .colon =
      some ⟨.member read key :: frames, .value⟩ := rfl
  rw [foldlM_cons_of_eq_some hkey, foldlM_cons_of_eq_some hcolon, h _ _ _ (.inl rfl), complete,
    Option.bind_some]

theorem foldlM_memberTokens {members : List (Option String × Json)}
    (h : ∀ member ∈ members, ReadsTokens member.2) (read : List (Option String × Json)) :
    (memberTokens members ++ rest).foldlM step ⟨.object read :: frames, .separator⟩ =
      rest.foldlM step ⟨.object (members.reverse ++ read) :: frames, .separator⟩ := by
  induction members generalizing read with
  | nil => rfl
  | cons member members ih =>
    obtain ⟨key, value⟩ := member
    obtain ⟨hvalue, hmembers⟩ := List.forall_mem_cons.1 h
    have hcomma : step ⟨.object read :: frames, .separator⟩ .comma =
        some ⟨.object read :: frames, .key⟩ := rfl
    rw [memberTokens, List.cons_append, foldlM_cons_of_eq_some hcomma, List.cons_append,
      List.cons_append, List.append_assoc, foldlM_member hvalue (.inl rfl), ih hmembers,
      List.reverse_cons, List.append_assoc, List.singleton_append]

theorem readsTokens_array {items : List Json} (h : ∀ item ∈ items, ReadsTokens item) :
    ReadsTokens (.array items) := by
  intro frames expected rest hexpected
  have hopen : step ⟨frames, expected⟩ .openBracket =
      some ⟨.array [] :: frames, .valueOrClose⟩ := by
    obtain rfl | rfl := hexpected <;> rfl
  cases items with
  | nil =>
    rw [tokens, List.cons_append, foldlM_cons_of_eq_some hopen]
    rfl
  | cons item items =>
    obtain ⟨hitem, hitems⟩ := List.forall_mem_cons.1 h
    rw [tokens, List.cons_append, foldlM_cons_of_eq_some hopen, List.append_assoc,
      List.append_assoc, hitem _ _ _ (.inr rfl), complete, Option.bind_some,
      foldlM_itemTokens hitems, List.singleton_append, List.foldlM_cons]
    simp [step, separator]

theorem readsTokens_object {members : List (Option String × Json)}
    (h : ∀ member ∈ members, ReadsTokens member.2) : ReadsTokens (.object members) := by
  intro frames expected rest hexpected
  have hopen : step ⟨frames, expected⟩ .openBrace = some ⟨.object [] :: frames, .keyOrClose⟩ := by
    obtain rfl | rfl := hexpected <;> rfl
  cases members with
  | nil =>
    rw [tokens, List.cons_append, foldlM_cons_of_eq_some hopen]
    rfl
  | cons member members =>
    obtain ⟨key, value⟩ := member
    obtain ⟨hvalue, hmembers⟩ := List.forall_mem_cons.1 h
    rw [tokens, List.cons_append, foldlM_cons_of_eq_some hopen, List.cons_append, List.cons_append,
      List.append_assoc, List.append_assoc, foldlM_member hvalue (.inr rfl),
      foldlM_memberTokens hmembers, List.singleton_append, List.foldlM_cons]
    simp [step, separator]

/-- A value is read from its tokens. -/
theorem readsTokens {json : Json} (h : json.IsProper) : ReadsTokens json := by
  induction h with
  | null | bool | number | string =>
    intro frames expected rest hexpected
    obtain rfl | rfl := hexpected <;> rfl
  | array _ ih => exact readsTokens_array ih
  | object _ _ ih => exact readsTokens_object (List.forall_mem_map.2 ih)

end Reading

/-- What is written for a value is read back as the value. -/
theorem parse_write {layout : Layout} (hlayout : layout.IsBlank) {json : Json} (h : json.IsProper)
    (depth : Nat) : parse (json.write layout depth) = some json := by
  have hscan : Token.scan (json.write layout depth).toList = some json.tokens := by
    have hscan := scansAsTokens hlayout h depth [] [] trivial
    rw [List.append_nil, List.append_nil] at hscan
    rw [Token.scan, ← scanFrom, hscan, scanFrom]
    simp [Scanner.finish]
  have hread := Reading.readsTokens h [] .value [] (.inl rfl)
  rw [List.append_nil] at hread
  rw [parse, hscan, Option.bind_eq_bind, Option.bind_some, hread]
  rfl

end InterfaceStub.Json
