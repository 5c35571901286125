import InterfaceStub.Files.Glob.Basic

/-!
# Reading globs

`?`, `*`, `**`, a class `[…]` and a group of alternatives `{…,…}` are wildcards; a backslash takes
the character after it as it is.  Two stars span directories where a whole name would stand, and are
two single stars elsewhere.  A bracket that is never closed stands for itself.  Malformed are a
backslash at the end, a range whose ends are in the wrong order, and a brace without its partner.
-/

namespace InterfaceStub.Glob

/-! ## Classes -/

/-- The last range of a list, given first, with another end; `none` when it would end before it
starts. -/
def endRange? (last : Char) : List (Char × Char) → Option (List (Char × Char))
  | [] => some [(last, last)]
  | (low, _) :: ranges => if low ≤ last then some ((low, last) :: ranges) else none

/-- What a class turns out to be. -/
inductive ClassText where
  /-- The ranges of the class, and the text after it. -/
  | closed (ranges : List (Char × Char)) (rest : List Char)
  | unclosed
  | malformed

/-- Reads the members of a class.  `started` says whether there are any yet, `inRange` whether a
range waits for its end, and `ranges` are those read so far, the last one first. -/
def readClass (started inRange : Bool) (ranges : List (Char × Char)) : List Char → ClassText
  | [] => .unclosed
  | c :: text =>
    if c = ']' ∧ started then .closed (if inRange then ('-', '-') :: ranges else ranges) text
    else if inRange then
      match endRange? c ranges with
      | some ranges => readClass true false ranges text
      | none => .malformed
    else if c = '-' ∧ started then readClass true true ranges text
    else readClass true false ((c, c) :: ranges) text

/-- A class leaves a shorter text than it was read from. -/
theorem length_of_readClass {started inRange : Bool} {ranges found : List (Char × Char)}
    {text rest : List Char} (h : readClass started inRange ranges text = .closed found rest) :
    rest.length < text.length := by
  induction text generalizing started inRange ranges with
  | nil => simp [readClass] at h
  | cons c text ih =>
    rw [readClass] at h
    split at h
    · cases h
      exact Nat.lt_succ_self _
    · split at h
      · split at h
        · exact Nat.lt_succ_of_lt (ih h)
        · cases h
      · split at h <;> exact Nat.lt_succ_of_lt (ih h)

/-! ## Groups -/

/-- A group of alternatives that is not closed yet. -/
structure OpenGroup where
  /-- The parts before the group, the last one first. -/
  before : List GlobPart
  /-- The alternatives read so far. -/
  options : List (List GlobPart)

/-- A glob of which the start has been read. -/
structure Draft where
  /-- The parts of the alternative that is being read, the last one first. -/
  parts : List GlobPart
  /-- The groups that it is in, the innermost first. -/
  groups : List OpenGroup

namespace Draft

/-- Nothing has been read. -/
def empty : Draft := ⟨[], []⟩

/-- Adds a part. -/
def push (draft : Draft) (part : GlobPart) : Draft :=
  { draft with parts := part :: draft.parts }

/-- Puts a part for any directories in the place of the slash before it.  After one that reaches to
a start or an end it adds nothing. -/
def spread (draft : Draft) (part : GlobPart) : Draft :=
  match draft.parts with
  | .anyStart :: _ | .anyEnd :: _ => draft
  | _ :: parts => { draft with parts := part :: parts }
  | [] => draft.push part

/-- Starts a group. -/
def openGroup (draft : Draft) : Draft :=
  ⟨[], ⟨draft.parts, []⟩ :: draft.groups⟩

/-- A comma starts the next alternative of a group, and stands for itself outside. -/
def comma (draft : Draft) : Draft :=
  match draft.groups with
  | [] => draft.push (.literal ',')
  | group :: groups =>
    ⟨[], { group with options := draft.parts.reverse :: group.options } :: groups⟩

/-- Whether a part is a group without alternatives. -/
def isVoid : GlobPart → Bool
  | .choice [] => true
  | _ => false

/-- Ends a group.  Alternatives with nothing in them do not count. -/
def closeGroup? (draft : Draft) : Option Draft :=
  match draft.groups with
  | [] => none
  | group :: groups =>
    let options := (draft.parts.reverse :: group.options).filter fun parts => !parts.all isVoid
    some ⟨.choice options :: group.before, groups⟩

/-- The glob, if every group is closed. -/
def finish? (draft : Draft) : Option Glob :=
  if draft.groups.isEmpty then some draft.parts.reverse else none

/-- The draft after two stars, when they span directories there.  `previous` is the character before
them and `following` the one after. -/
def stars? (draft : Draft) (previous following : Option Char) : Option Draft :=
  let grouped := !draft.groups.isEmpty
  if draft.parts.isEmpty then
    if following = none ∨ following = some '/' then some (draft.push .anyStart) else none
  else if previous = some '/' ∨ grouped ∧ (previous = some ',' ∨ previous = some '\x7b') then
    if following = some '/' then some (draft.spread .anyMiddle)
    else if following = none ∨ grouped ∧ (following = some ',' ∨ following = some '\x7d') then
      some (draft.spread .anyEnd)
    else none
  else none

end Draft

/-! ## Globs -/

/-- Reads the rest of a glob.  `classes` says whether a bracket can start a class, `previous` is the
character before. -/
def readFrom? (classes : Bool) (previous : Option Char) (draft : Draft) :
    List Char → Option Glob
  | [] => draft.finish?
  | ['\\'] => none
  | '\\' :: c :: text => readFrom? classes (some c) (draft.push (.literal c)) text
  | '*' :: '*' :: text =>
    match draft.stars? previous text.head?, text with
    | some draft, '/' :: text => readFrom? classes (some '/') draft text
    | some draft, text => readFrom? classes (some '*') draft text
    | none, text => readFrom? classes (some '*') ((draft.push .anyText).push .anyText) text
  | c :: text =>
    match c with
    | '?' => readFrom? classes (some c) (draft.push .anyByte) text
    | '*' => readFrom? classes (some c) (draft.push .anyText) text
    | ',' => readFrom? classes (some c) draft.comma text
    | '\x7b' => readFrom? classes (some c) draft.openGroup text
    | '\x7d' => draft.closeGroup?.bind fun draft => readFrom? classes (some c) draft text
    | '[' =>
      let negated := text.head? = some '!' ∨ text.head? = some '^'
      let members := if negated then text.tail else text
      if classes then
        match _h : readClass false false [] members with
        | .closed ranges rest =>
          readFrom? classes (some ']') (draft.push (.oneOf negated ranges)) rest
        | .unclosed => readFrom? false (some c) (draft.push (.literal c)) text
        | .malformed => none
      else readFrom? classes (some c) (draft.push (.literal c)) text
    | c => readFrom? classes (some c) (draft.push (.literal c)) text
termination_by text => text.length
decreasing_by
  all_goals simp_wf
  all_goals try omega
  have := length_of_readClass ‹_›
  grind

/-- The glob that a text spells; `none` when it is malformed. -/
def read? (text : List Char) : Option Glob :=
  readFrom? true none Draft.empty text

end InterfaceStub.Glob
