import InterfaceStub.Text.Alphabetic
import InterfaceStub.Text.Numeric

/-!
# Identifiers

A name that can stand alone in a program: a letter or an underscore, then letters, numbers and
underscores.
-/

namespace InterfaceStub.Text

/-- Whether an identifier can begin with `c`. -/
def isIdentifierStart (c : Char) : Bool :=
  c == '_' || isAlphabetic c

/-- Whether `c` can stand in an identifier after its first character. -/
def isIdentifierPart (c : Char) : Bool :=
  c == '_' || isAlphabetic c || isNumeric c

/-- Whether `name` is an identifier. -/
def isIdentifier (name : String) : Bool :=
  match name.toList with
  | [] => false
  | c :: cs => isIdentifierStart c && cs.all isIdentifierPart

end InterfaceStub.Text
