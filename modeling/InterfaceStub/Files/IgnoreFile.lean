import InterfaceStub.Files.FileSystem
import InterfaceStub.Files.Glob.Reader
import InterfaceStub.Text.Blank

/-!
# Ignore files

A line of an ignore file says which entries a walk passes over, or takes nonetheless when it starts
with `!`.  A pattern without a slash matches at any depth; one with a slash matches from the
directory of the ignore file on.  A slash at the end restricts a pattern to directories.  Of the
patterns of a file the last that matches decides.
-/

namespace InterfaceStub

/-- What a line of an ignore file says. -/
structure IgnorePattern where
  /-- Whether a matching entry is taken. -/
  negated : Bool
  /-- Whether only directories match. -/
  directoriesOnly : Bool
  glob : Glob

namespace IgnorePattern

/-- Whether an entry matches, given the bytes of its path. -/
def covers (pattern : IgnorePattern) (path : List UInt8) (isDirectory : Bool) : Bool :=
  (isDirectory || !pattern.directoriesOnly) && pattern.glob.covers path

/-- Drops the blanks at the end of a line, unless the last one is escaped. -/
def trimLine (line : List Char) : List Char :=
  match line.reverse with
  | ' ' :: '\\' :: _ => line
  | _ => Text.dropTrailingBlanks line

/-- Drops the slash at the end of a pattern, and a backslash before it. -/
def dropFinalSlash (body : List Char) : List Char :=
  let rest := body.dropLast
  if rest.getLast? = some '\\' then rest.dropLast else rest

/-- The text of the glob for a pattern.  Without a slash it starts at any depth, and after a slash
two stars at its end leave out the directory before them. -/
def globText (anchored : Bool) (body : List Char) : List Char :=
  let anyDepth := ['*', '*', '/']
  let text :=
    if anchored || body.contains '/' || body = ['*', '*'] then body else anyDepth ++ body
  if ['/', '*', '*'].isSuffixOf text then text ++ ['/', '*'] else text

end IgnorePattern

/-- A line of an ignore file. -/
inductive IgnoreLine where
  /-- A comment, or an empty line. -/
  | blank
  | pattern (pattern : IgnorePattern)
  | malformed

namespace IgnoreLine

/-- The line whose pattern is `body`, after the marks at its front. -/
def ofBody (negated anchored : Bool) (body : List Char) : IgnoreLine :=
  let directoriesOnly := body.getLast? = some '/'
  let body := if directoriesOnly then IgnorePattern.dropFinalSlash body else body
  match Glob.read? (IgnorePattern.globText anchored body) with
  | some glob => .pattern ⟨negated, directoriesOnly, glob⟩
  | none => .malformed

/-- What a line says. -/
def ofText (line : List Char) : IgnoreLine :=
  if line.head? = some '#' then .blank
  else
    match IgnorePattern.trimLine line with
    | [] => .blank
    | '\\' :: '!' :: rest => ofBody false false ('!' :: rest)
    | '\\' :: '#' :: rest => ofBody false false ('#' :: rest)
    | '!' :: '/' :: rest => ofBody true true rest
    | '!' :: rest => ofBody true false rest
    | '/' :: rest => ofBody false true rest
    | rest => ofBody false false rest

/-- The pattern of a line. -/
def pattern? : IgnoreLine → Option IgnorePattern
  | .pattern found => some found
  | .blank | .malformed => none

/-- Whether a line cannot be read. -/
def isMalformed : IgnoreLine → Bool
  | .malformed => true
  | .blank | .pattern _ => false

end IgnoreLine

/-- What an ignore file says. -/
structure IgnoreFile where
  /-- The patterns that can be read, in order. -/
  patterns : List IgnorePattern
  /-- Whether there is a malformed one. -/
  malformed : Bool

namespace IgnoreFile

/-- An ignore file without patterns. -/
def empty : IgnoreFile := ⟨[], false⟩

/-- Drops the carriage return at the end of a line. -/
def dropReturn (line : List Char) : List Char :=
  if line.getLast? = some '\r' then line.dropLast else line

/-- The lines of a text.  A line feed, with a carriage return before it or not, ends a line. -/
def linesOf (text : List Char) : List (List Char) :=
  let pieces := Text.splitList '\n' text
  pieces.dropLast.map dropReturn ++ pieces.getLast?.toList

/-- The texts of the lines before the first that is no text. -/
def decodedLines : List (List UInt8) → List (List Char)
  | [] => []
  | line :: lines =>
    match String.fromUTF8? line.toByteArray with
    | some decoded => decoded.toList :: decodedLines lines
    | none => []

/-- The lines of a content, up to the first that is no text. -/
def linesIn : Content → List (List Char)
  | .text text => linesOf text.toList
  | .binary bytes _ => (decodedLines (Text.splitList 10 bytes)).map dropReturn

/-- Drops the byte order marks in front of the first line. -/
def dropMarks : List (List Char) → List (List Char)
  | [] => []
  | line :: lines => line.dropWhile (· == '\ufeff') :: lines

/-- The patterns that a content holds. -/
def ofContent (content : Content) : IgnoreFile :=
  let lines := (dropMarks (linesIn content)).map IgnoreLine.ofText
  ⟨lines.filterMap IgnoreLine.pattern?, lines.any IgnoreLine.isMalformed⟩

/-- What the last pattern that matches says of an entry: whether it is taken. -/
def taken? (file : IgnoreFile) (path : List UInt8) (isDirectory : Bool) : Option Bool :=
  (file.patterns.reverse.find? (·.covers path isDirectory)).map IgnorePattern.negated

end IgnoreFile

end InterfaceStub
