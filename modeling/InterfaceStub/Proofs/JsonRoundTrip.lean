import InterfaceStub.Proofs.JsonText
import InterfaceStub.Settings.Codec
import InterfaceStub.Stub.Codec

/-!
# Stubs and settings in JSON

A stub, and settings, written as JSON and read back are the same, whatever texts and numbers they
hold.

* `IsCodec write read`: every value is written as proper JSON, and reading gives it back.  This is
  shown of texts, truth values and numbers, of lists and of what may be absent, and from these of
  each record.
* `IsTagged`: a declaration, or a member of a class, is a record with one more member, `kind`.  No
  field of it has this name, so that the kind is found and the fields are found beside it.
* `parse_write` takes what holds of values to their texts.
-/

namespace InterfaceStub

namespace Json

/-! ## Numbers -/

theorem digit?_of_isDigit {c : Char} (h : c.isDigit = true) :
    digit? c = some (c.toNat - '0'.toNat) :=
  if_pos (Char.isDigit_iff_toNat.1 h)

theorem isDigit_of_mem_toDigits {n : Nat} {c : Char} (h : c ∈ Nat.toDigits 10 n) :
    isDigit c = true := by
  rw [isDigit, digit?_of_isDigit (Nat.isDigit_of_mem_toDigits (by decide) (by decide) h)]
  rfl

/-- Digits spell the number whose digits they are. -/
theorem natOfDigits?_toDigits (n : Nat) : natOfDigits? (Nat.toDigits 10 n) = some n := by
  have hfold (cs : List Char) (start : Nat) (h : ∀ c ∈ cs, c.isDigit = true) :
      cs.foldlM (fun n c => (digit? c).map (10 * n + ·)) start =
        some (Nat.ofDigitChars 10 cs start) := by
    induction cs generalizing start with
    | nil => rfl
    | cons c cs ih =>
      obtain ⟨hc, hcs⟩ := List.forall_mem_cons.1 h
      rw [List.foldlM_cons, digit?_of_isDigit hc]
      exact ih _ hcs
  have hdigits : ∀ c ∈ Nat.toDigits 10 n, c.isDigit = true :=
    fun c => Nat.isDigit_of_mem_toDigits (by decide) (by decide)
  have hsome := hfold _ 0 hdigits
  rw [Nat.ofDigitChars_ten_toDigits] at hsome
  cases hcs : Nat.toDigits 10 n with
  | nil => exact absurd hcs Nat.toDigits_ne_nil
  | cons c cs => rwa [hcs] at hsome

/-- The digits of a positive number do not begin with zero. -/
theorem exists_toDigits_eq_cons {n : Nat} (h : 0 < n) :
    ∃ d cs, Nat.toDigits 10 n = d :: cs ∧ d ≠ '0' := by
  induction n using Nat.strongRecOn with
  | _ n ih =>
    by_cases hsmall : n < 10
    · refine ⟨_, [], Nat.toDigits_of_lt_base hsmall, fun hzero => ?_⟩
      rw [Nat.digitChar_eq_zero] at hzero
      omega
    · obtain ⟨d, cs, hdigits, hd⟩ := ih (n / 10) (by omega) (by omega)
      refine ⟨d, cs ++ [Nat.digitChar (n % 10)], ?_, hd⟩
      rw [Nat.toDigits_of_base_le (by decide) (by omega), hdigits, List.cons_append]

theorem isNumber_toDigits (n : Nat) : isNumber (Nat.toDigits 10 n) = true := by
  obtain rfl | hpos := Nat.eq_zero_or_pos n
  · decide
  · obtain ⟨d, cs, hdigits, hzero⟩ := exists_toDigits_eq_cons hpos
    have hall : ∀ c ∈ d :: cs, isDigit c = true :=
      fun c hc => isDigit_of_mem_toDigits (hdigits ▸ hc)
    obtain ⟨hd, hcs⟩ := List.forall_mem_cons.1 hall
    have hminus : d ≠ '-' := by
      rintro rfl
      revert hd
      decide
    have hrest : cs.dropWhile isDigit = [] := List.dropWhile_eq_nil_iff.2 hcs
    rw [hdigits, isNumber, isUnsignedNumber, hd, hrest]
    · rfl
    · exact hzero
    · rintro cs' h
      exact hminus (List.cons.inj h).1

/-! ## Codecs -/

/-- Every value is written as proper JSON, and reading gives it back. -/
structure IsCodec (write : α → Json) (read : Json → Option α) : Prop where
  proper (value : α) : (write value).IsProper
  read_write (value : α) : read (write value) = some value

theorem mapM_map_eq_some {f : α → β} {g : β → Option γ} {k : α → γ} {items : List α}
    (h : ∀ item ∈ items, g (f item) = some (k item)) :
    (items.map f).mapM g = some (items.map k) := by
  induction items with
  | nil => rfl
  | cons item items ih =>
    obtain ⟨hitem, hitems⟩ := List.forall_mem_cons.1 h
    rw [List.map_cons, List.mapM_cons, hitem, ih hitems]
    rfl

theorem isCodec_text : IsCodec ofString text? :=
  ⟨.string, fun _ => rfl⟩

theorem isCodec_bool : IsCodec .bool bool? :=
  ⟨.bool, fun _ => rfl⟩

theorem isCodec_nat : IsCodec ofNat nat? where
  proper n := .number (by rw [String.toList_ofList, isNumber_toDigits])
  read_write n := by rw [ofNat, nat?, String.toList_ofList, natOfDigits?_toDigits]

section Combinators

variable {write : α → Json} {read : Json → Option α} (h : IsCodec write read)
include h

theorem IsCodec.list : IsCodec (fun values => .array (values.map write)) (list? read) where
  proper values := .array (List.forall_mem_map.2 fun value _ => h.proper value)
  read_write values := by
    rw [list?, items?, Option.bind_eq_bind, Option.bind_some,
      mapM_map_eq_some fun value _ => h.read_write value, List.map_id']

theorem IsCodec.option (hnull : read .null = none) : IsCodec (ofOption write) (nullable? read) where
  proper value := by
    cases value with
    | none => exact .null
    | some value => exact h.proper value
  read_write value := by
    cases value with
    | none => rfl
    | some value =>
      have hread := h.read_write value
      rw [ofOption]
      generalize write value = json at hread
      rw [nullable?]
      · rw [hread]
        rfl
      · rintro rfl
        cases hnull.symm.trans hread

end Combinators

/-! ## Records -/

@[simp] theorem required?_some (read : Json → Option α) (json : Json) :
    required? read (some json) = read json := rfl

@[simp] theorem optional?_some (read : Json → Option α) (json : Json) :
    optional? read (some json) = json.nullable? read := rfl

@[simp] theorem withDefault?_some (read : Json → Option α) (default : α) (json : Json) :
    withDefault? read default (some json) = read json := rfl

section Records

variable {members : List (String × Json)}

theorem valuesOf_named_cons (key : String) (member : String × Json)
    (members : List (String × Json)) :
    valuesOf key (named (member :: members)) =
      if member.1 = key then member.2 :: valuesOf key (named members)
      else valuesOf key (named members) := by
  by_cases hkey : member.1 = key <;> simp [valuesOf, named, hkey]

theorem valuesOf_of_notMem {key : String} (h : key ∉ members.map Prod.fst) :
    valuesOf key (named members) = [] := by
  induction members with
  | nil => rfl
  | cons member members ih =>
    rw [List.map_cons, List.mem_cons, not_or] at h
    rw [valuesOf_named_cons, if_neg (Ne.symm h.1), ih h.2]

/-- A key that comes once has one value. -/
theorem valuesOf_of_mem (hkeys : (members.map Prod.fst).Nodup) {member : String × Json}
    (h : member ∈ members) : valuesOf member.1 (named members) = [member.2] := by
  induction members with
  | nil => cases h
  | cons first members ih =>
    obtain ⟨hfirst, hkeys⟩ := List.nodup_cons.1 hkeys
    obtain rfl | h := List.mem_cons.1 h
    · rw [valuesOf_named_cons, if_pos rfl, valuesOf_of_notMem hfirst]
    · have hne : first.1 ≠ member.1 := fun hkey => hfirst (hkey ▸ List.mem_map_of_mem h)
      rw [valuesOf_named_cons, if_neg hne, ih hkeys h]

theorem onlyValue?_of_mem (hkeys : (members.map Prod.fst).Nodup) {member : String × Json}
    (h : member ∈ members) : onlyValue? member.1 (named members) = some (some member.2) := by
  rw [onlyValue?, valuesOf_of_mem hkeys h]

/-- The fields of a record are found in an object, also after other members. -/
theorem fieldValues?_named (front fields : List (String × Json))
    (hkeys : ((front ++ fields).map Prod.fst).Nodup) :
    fieldValues? (fields.map Prod.fst) (named (front ++ fields)) =
      some (fields.map fun field => some field.2) := by
  have hsome : (named (front ++ fields)).all (·.1.isSome) = true := by
    rw [named, List.all_map, List.all_eq_true]
    exact fun _ _ => rfl
  rw [fieldValues?, if_pos hsome]
  exact mapM_map_eq_some fun field hfield =>
    onlyValue?_of_mem hkeys (List.mem_append_right _ hfield)

theorem record?_ofMembers {fields : List String} (hfields : members.map Prod.fst = fields)
    (hkeys : fields.Nodup) :
    (ofMembers members).record? fields = some (members.map fun field => some field.2) := by
  subst hfields
  exact fieldValues?_named [] members hkeys

theorem settings?_ofMembers {fields : List String} (hfields : members.map Prod.fst = fields)
    (hkeys : fields.Nodup) :
    (ofMembers members).settings? fields = some (members.map fun field => some field.2) := by
  subst hfields
  exact fieldValues?_named [] members hkeys

theorem record?_taggedJson {fields : List String} (kind : String)
    (hfields : members.map Prod.fst = fields) (hkeys : ("kind" :: fields).Nodup) :
    (taggedJson kind members).record? fields = some (members.map fun field => some field.2) := by
  subst hfields
  exact fieldValues?_named [("kind", ofString kind)] members hkeys

/-- The kind is found beside the fields, and the record keeps it. -/
theorem tagged?_taggedJson {kind : String} {read : Json → Option String}
    (hkeys : ("kind" :: members.map Prod.fst).Nodup) (hread : read (ofString kind) = some kind) :
    (taggedJson kind members).tagged? read = some (kind, taggedJson kind members) := by
  have hall : ((("kind", ofString kind) :: members).map Prod.fst).Nodup := hkeys
  have hkind : onlyValue? "kind" (named (("kind", ofString kind) :: members)) =
      some (some (ofString kind)) := onlyValue?_of_mem hall List.mem_cons_self
  have htagged : (taggedJson kind members).tagged? read =
      (onlyValue? "kind" (named (("kind", ofString kind) :: members))).bind fun value =>
        (required? read value).bind fun name => some (name, taggedJson kind members) := rfl
  rw [htagged, hkind, Option.bind_some, required?, Option.bind_eq_bind, Option.bind_some, hread,
    Option.bind_some]

end Records

end Json

open Json

/-! ## The parts of a stub -/

-- The codecs of the fields come first, then those of the records that are made up of them: a record
-- is proper JSON if its fields are, and each field is read back by the codec that wrote it.

theorem isCodec_texts : IsCodec ofStrings texts? :=
  isCodec_text.list

theorem isCodec_optionalText : IsCodec optionalText (nullable? text?) :=
  isCodec_text.option rfl

theorem isCodec_uint32 : IsCodec (fun n : UInt32 => Json.ofNat n.toNat) uint32? where
  proper n := isCodec_nat.proper n.toNat
  read_write n := by
    rw [uint32?, isCodec_nat.read_write, Option.bind_some, if_pos n.toNat_lt, UInt32.ofNat_toNat]

theorem isCodec_uint64 : IsCodec (fun n : UInt64 => Json.ofNat n.toNat) uint64? where
  proper n := isCodec_nat.proper n.toNat
  read_write n := by
    rw [uint64?, isCodec_nat.read_write, Option.bind_some, if_pos n.toNat_lt, UInt64.ofNat_toNat]

theorem Argument.isCodec : IsCodec Argument.toJson Argument.ofJson? where
  proper argument := by
    refine .object (by simp) ?_
    simp [isCodec_text.proper, isCodec_optionalText.proper, isCodec_bool.proper]
  read_write argument := by
    simp [Argument.ofJson?, Argument.toJson, record?_ofMembers, isCodec_text.read_write,
      isCodec_optionalText.read_write, isCodec_bool.read_write]

theorem ClassKeyword.isCodec : IsCodec ClassKeyword.toJson ClassKeyword.ofJson? where
  proper keyword := by
    refine .object (by simp) ?_
    simp [isCodec_text.proper]
  read_write keyword := by
    simp [ClassKeyword.ofJson?, ClassKeyword.toJson, record?_ofMembers, isCodec_text.read_write]

theorem Import.isCodec : IsCodec Import.toJson Import.ofJson? where
  proper statement := by
    refine .object (by simp) ?_
    simp [isCodec_text.proper, isCodec_optionalText.proper]
  read_write statement := by
    simp [Import.ofJson?, Import.toJson, record?_ofMembers, isCodec_text.read_write,
      isCodec_optionalText.read_write]

theorem ImportedName.isCodec : IsCodec ImportedName.toJson ImportedName.ofJson? where
  proper imported := by
    refine .object (by simp) ?_
    simp [isCodec_text.proper, isCodec_optionalText.proper]
  read_write imported := by
    simp [ImportedName.ofJson?, ImportedName.toJson, record?_ofMembers, isCodec_text.read_write,
      isCodec_optionalText.read_write]

theorem ImportFrom.isCodec : IsCodec ImportFrom.toJson ImportFrom.ofJson? where
  proper statement := by
    refine .object (by simp) ?_
    simp [isCodec_text.proper, isCodec_uint32.proper, (ImportedName.isCodec).list.proper]
  read_write statement := by
    simp [ImportFrom.ofJson?, ImportFrom.toJson, record?_ofMembers, isCodec_text.read_write,
      isCodec_uint32.read_write, (ImportedName.isCodec).list.read_write]

/-! ## Values of several forms -/

/-- Records that are told apart by a kind: no field is called so, every field is written as proper
JSON, and the record is read beside its kind. -/
structure IsTagged (members : α → List (String × Json)) (read : Json → Option α) : Prop where
  keys (value : α) : ("kind" :: (members value).map Prod.fst).Nodup
  proper (value : α) : ∀ member ∈ members value, member.2.IsProper
  read_write (kind : String) (value : α) : read (taggedJson kind (members value)) = some value

theorem IsTagged.proper_taggedJson {members : α → List (String × Json)} {read : Json → Option α}
    (h : IsTagged members read) (kind : String) (value : α) :
    (taggedJson kind (members value)).IsProper :=
  .object (h.keys value) (List.forall_mem_cons.2 ⟨.string kind, h.proper value⟩)

theorem FunctionStub.isTagged : IsTagged FunctionStub.members FunctionStub.ofJson? where
  keys function := by simp [FunctionStub.members]
  proper function := by
    simp [FunctionStub.members, isCodec_text.proper, isCodec_texts.proper,
      isCodec_optionalText.proper, (Argument.isCodec).list.proper,
      ((Argument.isCodec).option rfl).proper]
  read_write kind function := by
    simp [FunctionStub.ofJson?, FunctionStub.members, record?_taggedJson, isCodec_text.read_write,
      isCodec_texts.read_write, isCodec_optionalText.read_write, (Argument.isCodec).list.read_write,
      ((Argument.isCodec).option rfl).read_write]

theorem ClassField.isTagged : IsTagged ClassField.members ClassField.ofJson? where
  keys field := by simp [ClassField.members]
  proper field := by simp [ClassField.members, isCodec_text.proper, isCodec_bool.proper]
  read_write kind field := by
    simp [ClassField.ofJson?, ClassField.members, record?_taggedJson, isCodec_text.read_write,
      isCodec_bool.read_write]

/-- The kind of a member of a class. -/
def ClassMember.kind : ClassMember → String
  | .field _ => "assign"
  | .method _ => "function"

/-- The members of the JSON object of a class member, apart from its kind. -/
def ClassMember.jsonMembers : ClassMember → List (String × Json)
  | .field declared => declared.members
  | .method declared => declared.members

theorem ClassMember.toJson_eq (member : ClassMember) :
    member.toJson = taggedJson member.kind member.jsonMembers := by
  cases member <;> rfl

theorem ClassMember.keys_jsonMembers (member : ClassMember) :
    ("kind" :: member.jsonMembers.map Prod.fst).Nodup := by
  cases member with
  | field declared => exact (ClassField.isTagged).keys declared
  | method declared => exact (FunctionStub.isTagged).keys declared

theorem ClassMember.tagged?_toJson (member : ClassMember) :
    member.toJson.tagged? (nameOrPlace? ["assign", "function"]) =
      some (member.kind, member.toJson) := by
  rw [toJson_eq, tagged?_taggedJson member.keys_jsonMembers rfl]

theorem ClassMember.isCodec : IsCodec ClassMember.toJson ClassMember.ofJson? where
  proper member := by
    cases member with
    | field declared => exact (ClassField.isTagged).proper_taggedJson _ declared
    | method declared => exact (FunctionStub.isTagged).proper_taggedJson _ declared
  read_write member := by
    rw [ClassMember.ofJson?, tagged?_toJson]
    cases member with
    | field declared => simp [kind, toJson, (ClassField.isTagged).read_write]
    | method declared => simp [kind, toJson, (FunctionStub.isTagged).read_write]

/-- The kind of a class member that is read is the one that its JSON names. -/
theorem ClassMember.kind_of_ofJson? {json : Json} {member : ClassMember}
    (h : ClassMember.ofJson? json = some member) :
    ∃ record, json.tagged? (nameOrPlace? ["assign", "function"]) = some (member.kind, record) := by
  obtain ⟨tagged, htagged, hread⟩ := Option.bind_eq_some_iff.1 h
  split at hread
  case h_3 => cases hread
  all_goals
    obtain ⟨declared, -, hmember⟩ := Option.bind_eq_some_iff.1 hread
    cases hmember
    exact ⟨_, htagged⟩

theorem ClassStub.isTagged : IsTagged ClassStub.members ClassStub.ofJson? where
  keys cls := by simp [ClassStub.members]
  proper cls := by
    simp [ClassStub.members, isCodec_text.proper, isCodec_texts.proper,
      (ClassKeyword.isCodec).list.proper, (ClassMember.isCodec).list.proper]
  read_write kind cls := by
    simp [ClassStub.ofJson?, ClassStub.members, record?_taggedJson, isCodec_text.read_write,
      isCodec_texts.read_write, (ClassKeyword.isCodec).list.read_write,
      (ClassMember.isCodec).list.read_write]

/-- The members of a variable of a module apart from its kind. -/
def Attribute.members (declared : Attribute) : List (String × Json) :=
  [("name", ofString declared.name), ("annotation", ofString declared.annotation)]

/-- The members of a name for a type apart from its kind. -/
def TypeAlias.members (declared : TypeAlias) : List (String × Json) :=
  [("name", ofString declared.name), ("target", ofString declared.target)]

theorem Attribute.isTagged : IsTagged Attribute.members Attribute.ofJson? where
  keys declared := by simp [Attribute.members]
  proper declared := by simp [Attribute.members, isCodec_text.proper]
  read_write kind declared := by
    simp [Attribute.ofJson?, Attribute.members, record?_taggedJson, isCodec_text.read_write]

theorem TypeAlias.isTagged : IsTagged TypeAlias.members TypeAlias.ofJson? where
  keys declared := by simp [TypeAlias.members]
  proper declared := by simp [TypeAlias.members, isCodec_text.proper]
  read_write kind declared := by
    simp [TypeAlias.ofJson?, TypeAlias.members, record?_taggedJson, isCodec_text.read_write]

/-- The kind of a declaration. -/
def Declaration.kind : Declaration → String
  | .attribute _ => "attribute"
  | .typeAlias _ => "alias"
  | .function _ => "function"
  | .classStub _ => "class"

/-- The members of the JSON object of a declaration, apart from its kind. -/
def Declaration.jsonMembers : Declaration → List (String × Json)
  | .attribute declared => declared.members
  | .typeAlias declared => declared.members
  | .function declared => declared.members
  | .classStub declared => declared.members

theorem Declaration.toJson_eq (declaration : Declaration) :
    declaration.toJson = taggedJson declaration.kind declaration.jsonMembers := by
  cases declaration <;> rfl

theorem Declaration.keys_jsonMembers (declaration : Declaration) :
    ("kind" :: declaration.jsonMembers.map Prod.fst).Nodup := by
  cases declaration with
  | «attribute» declared => exact (Attribute.isTagged).keys declared
  | typeAlias declared => exact (TypeAlias.isTagged).keys declared
  | function declared => exact (FunctionStub.isTagged).keys declared
  | classStub declared => exact (ClassStub.isTagged).keys declared

theorem Declaration.tagged?_toJson (declaration : Declaration) :
    declaration.toJson.tagged? text? = some (declaration.kind, declaration.toJson) := by
  rw [toJson_eq, tagged?_taggedJson declaration.keys_jsonMembers rfl]

theorem Declaration.isCodec : IsCodec Declaration.toJson Declaration.ofJson? where
  proper declaration := by
    cases declaration with
    | «attribute» declared => exact (Attribute.isTagged).proper_taggedJson _ declared
    | typeAlias declared => exact (TypeAlias.isTagged).proper_taggedJson _ declared
    | function declared => exact (FunctionStub.isTagged).proper_taggedJson _ declared
    | classStub declared => exact (ClassStub.isTagged).proper_taggedJson _ declared
  read_write declaration := by
    rw [Declaration.ofJson?, tagged?_toJson, toJson_eq]
    cases declaration with
    | «attribute» declared => simp [kind, jsonMembers, (Attribute.isTagged).read_write]
    | typeAlias declared => simp [kind, jsonMembers, (TypeAlias.isTagged).read_write]
    | function declared => simp [kind, jsonMembers, (FunctionStub.isTagged).read_write]
    | classStub declared => simp [kind, jsonMembers, (ClassStub.isTagged).read_write]

/-- The kind of a declaration that is read is the one that its JSON names. -/
theorem Declaration.kind_of_ofJson? {json : Json} {declaration : Declaration}
    (h : Declaration.ofJson? json = some declaration) :
    ∃ record, json.tagged? text? = some (declaration.kind, record) := by
  obtain ⟨tagged, htagged, hread⟩ := Option.bind_eq_some_iff.1 h
  split at hread
  case h_5 => cases hread
  all_goals
    obtain ⟨declared, -, hdeclaration⟩ := Option.bind_eq_some_iff.1 hread
    cases hdeclaration
    exact ⟨_, htagged⟩

/-! ## Whole stubs and settings -/

theorem ModuleStub.isCodec : IsCodec ModuleStub.toJson ModuleStub.ofJson? where
  proper stub := by
    refine .object (by simp) ?_
    simp [(Import.isCodec).list.proper, (ImportFrom.isCodec).list.proper,
      (Declaration.isCodec).list.proper]
  read_write stub := by
    simp [ModuleStub.ofJson?, ModuleStub.toJson, record?_ofMembers,
      (Import.isCodec).list.read_write, (ImportFrom.isCodec).list.read_write,
      (Declaration.isCodec).list.read_write]

theorem ExtractSettings.isCodec : IsCodec ExtractSettings.toJson ExtractSettings.ofJson? where
  proper settings := by
    refine .object (by simp) ?_
    simp [isCodec_texts.proper]
  read_write settings := by
    simp [ExtractSettings.ofJson?, ExtractSettings.toJson, settings?_ofMembers, ofStrings,
      isCodec_text.list.read_write]

theorem GenerateSettings.isCodec : IsCodec GenerateSettings.toJson GenerateSettings.ofJson? where
  proper settings := by
    refine .object (by simp) ?_
    simp [isCodec_bool.proper]
  read_write settings := by
    simp [GenerateSettings.ofJson?, GenerateSettings.toJson, settings?_ofMembers,
      isCodec_bool.read_write]

theorem ScanSettings.isCodec : IsCodec ScanSettings.toJson ScanSettings.ofJson? where
  proper settings := by
    refine .object (by simp) ?_
    simp [isCodec_bool.proper, isCodec_texts.proper, (isCodec_uint64.option rfl).proper]
  read_write settings := by
    simp [ScanSettings.ofJson?, ScanSettings.toJson, settings?_ofMembers, isCodec_bool.read_write,
      ofStrings, isCodec_text.list.read_write, (isCodec_uint64.option rfl).read_write]

theorem Settings.isCodec : IsCodec Settings.toJson Settings.ofJson? where
  proper settings := by
    refine .object (by simp) ?_
    simp [(ExtractSettings.isCodec).proper, (GenerateSettings.isCodec).proper,
      (ScanSettings.isCodec).proper]
  read_write settings := by
    simp [Settings.ofJson?, Settings.toJson, settings?_ofMembers,
      (ExtractSettings.isCodec).read_write, (GenerateSettings.isCodec).read_write,
      (ScanSettings.isCodec).read_write]

/-- What a codec writes is read back from its text, on one line or on many. -/
theorem Json.IsCodec.parse_write {write : α → Json} {read : Json → Option α}
    (h : IsCodec write read) {layout : Layout} (hlayout : layout.IsBlank) (value : α) :
    parse ((write value).write layout 0) >>= read = some value := by
  rw [Json.parse_write hlayout (h.proper value)]
  exact h.read_write value

/-- A stub, and settings, are read back from their JSON, as a value, as a line and as indented text.
Each declaration and each member of a class has one `kind` beside its fields, and it is the kind
that is read.  A settings file with this text gives the settings if they can be used. -/
theorem json_readBack :
    (∀ stub : ModuleStub,
      ModuleStub.ofJson? stub.toJson = some stub ∧
      parse stub.toJson.compact >>= ModuleStub.ofJson? = some stub ∧
      parse stub.toJson.pretty >>= ModuleStub.ofJson? = some stub ∧ stub.toJson.IsProper) ∧
    (∀ settings : Settings,
      Settings.ofJson? settings.toJson = some settings ∧
      parse settings.toJson.compact >>= Settings.ofJson? = some settings ∧
      Settings.ofText settings.toJson.pretty = settings.validate.map fun () => settings) ∧
    (∀ declaration : Declaration,
      declaration.toJson = taggedJson declaration.kind declaration.jsonMembers ∧
      ("kind" :: declaration.jsonMembers.map Prod.fst).Nodup ∧
      declaration.toJson.tagged? text? = some (declaration.kind, declaration.toJson) ∧
      ∀ json, Declaration.ofJson? json = some declaration →
        ∃ record, json.tagged? text? = some (declaration.kind, record)) ∧
    (∀ member : ClassMember,
      let read := nameOrPlace? ["assign", "function"]
      member.toJson = taggedJson member.kind member.jsonMembers ∧
      ("kind" :: member.jsonMembers.map Prod.fst).Nodup ∧
      member.toJson.tagged? read = some (member.kind, member.toJson) ∧
      ∀ json, ClassMember.ofJson? json = some member →
        ∃ record, json.tagged? read = some (member.kind, record)) := by
  refine ⟨fun stub => ?_, fun settings => ?_, fun declaration => ?_, fun member => ?_⟩
  · exact ⟨ModuleStub.isCodec.read_write stub, ModuleStub.isCodec.parse_write isBlank_compact stub,
      ModuleStub.isCodec.parse_write isBlank_pretty stub, ModuleStub.isCodec.proper stub⟩
  · have hpretty : parse settings.toJson.pretty >>= Settings.ofJson? = some settings :=
      Settings.isCodec.parse_write isBlank_pretty settings
    refine ⟨Settings.isCodec.read_write settings,
      Settings.isCodec.parse_write isBlank_compact settings, ?_⟩
    rw [Settings.ofText, hpretty]
  · exact ⟨declaration.toJson_eq, declaration.keys_jsonMembers, declaration.tagged?_toJson,
      fun _ => Declaration.kind_of_ofJson?⟩
  · exact ⟨member.toJson_eq, member.keys_jsonMembers, member.tagged?_toJson,
      fun _ => ClassMember.kind_of_ofJson?⟩

end InterfaceStub
