import InterfaceStub.Text.GraphemeExtend
import InterfaceStub.Text.Unprintable

/-!
# Quoted text

A text between double quotes in which every character is visible: what has no visible form of its
own is written as an escape.
-/

namespace InterfaceStub.Text

/-- The code point of `c` in lower case hexadecimal between braces. -/
def codePointEscape (c : Char) : List Char :=
  ['\\', 'u', '\x7b'] ++ Nat.toDigits 16 c.toNat ++ ['\x7d']

/-- How `c` is written inside a quoted text. -/
def quotedChar (c : Char) : List Char :=
  if c = '\x00' then ['\\', '0']
  else if c = '\t' then ['\\', 't']
  else if c = '\r' then ['\\', 'r']
  else if c = '\n' then ['\\', 'n']
  else if c = '\\' then ['\\', '\\']
  else if c = '"' then ['\\', '"']
  else if isGraphemeExtend c || isUnprintable c then codePointEscape c
  else [c]

/-- `text` between double quotes, with escapes. -/
def quoted (text : String) : String :=
  String.ofList ('"' :: text.toList.flatMap quotedChar ++ ['"'])

end InterfaceStub.Text
