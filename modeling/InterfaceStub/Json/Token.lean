import InterfaceStub.Json.Basic

/-!
# Tokens of JSON text

`Token.scan` divides a JSON text into its tokens.  It goes through the text once, one character at a
time; between two characters it stands in one of five modes.
-/

namespace InterfaceStub.Json

/-- The tokens of JSON text. -/
inductive Token where
  | openBrace
  | closeBrace
  | openBracket
  | closeBracket
  | colon
  | comma
  /-- A string, a number or one of the three literal names. -/
  | scalar (value : Json)

/-- A string of which a part has been read. -/
structure TextPart where
  /-- The characters read, the last one first. -/
  chars : List Char := []
  /-- A leading surrogate that waits for its partner. -/
  leading : Option Nat := none
  /-- Whether every surrogate so far has its partner. -/
  whole : Bool := true

namespace TextPart

/-- Adds a character. -/
def push (part : TextPart) (c : Char) : TextPart :=
  { chars := c :: part.chars, leading := none, whole := part.whole && part.leading.isNone }

/-- Adds a UTF-16 code unit, given as an escape. -/
def pushUnit (part : TextPart) (unit : Nat) : TextPart :=
  if 0xD800 ≤ unit ∧ unit < 0xDC00 then
    { part with leading := some unit, whole := part.whole && part.leading.isNone }
  else if 0xDC00 ≤ unit ∧ unit < 0xE000 then
    match part.leading with
    | some leading =>
      let code := 0x10000 + (leading - 0xD800) * 0x400 + (unit - 0xDC00)
      { part with chars := Char.ofNat code :: part.chars, leading := none }
    | none => { part with whole := false }
  else part.push (Char.ofNat unit)

/-- The text read, if every surrogate has its partner. -/
def text? (part : TextPart) : Option String :=
  if part.whole && part.leading.isNone then some (String.ofList part.chars.reverse) else none

end TextPart

/-- Where the scanner stands between two characters. -/
inductive Mode where
  /-- Between tokens. -/
  | between
  /-- Inside a number or a literal name; its characters, the last one first. -/
  | word (chars : List Char)
  /-- Inside a string. -/
  | quoted (part : TextPart)
  /-- After a backslash in a string. -/
  | escape (part : TextPart)
  /-- After some of the four hexadecimal digits of an escape: their value and how many are due. -/
  | codeUnit (part : TextPart) (value : Nat) (due : Nat)

/-- The tokens read, the last one first, and the mode. -/
structure Scanner where
  tokens : List Token := []
  mode : Mode := .between

/-- Whether `c` is a digit of base ten. -/
def isDigit (c : Char) : Bool :=
  (digit? c).isSome

/-- The value of a hexadecimal digit of either case. -/
def hexDigit? (c : Char) : Option Nat :=
  if 'a'.toNat ≤ c.toNat ∧ c.toNat ≤ 'f'.toNat then some (c.toNat - 'a'.toNat + 10)
  else if 'A'.toNat ≤ c.toNat ∧ c.toNat ≤ 'F'.toNat then some (c.toNat - 'A'.toNat + 10)
  else digit? c

/-- One digit or more and nothing else. -/
def isDigits : List Char → Bool
  | [] => false
  | cs => cs.all isDigit

/-- The end of a number after its fraction: nothing, or an exponent. -/
def isExponent : List Char → Bool
  | [] => true
  | e :: cs =>
    (e == 'e' || e == 'E') &&
      match cs with
      | '+' :: digits => isDigits digits
      | '-' :: digits => isDigits digits
      | digits => isDigits digits

/-- The end of a number after its whole part: a fraction, an exponent, both or neither. -/
def isFraction : List Char → Bool
  | '.' :: c :: cs => isDigit c && isExponent (cs.dropWhile isDigit)
  | cs => isExponent cs

/-- A number without a sign: its whole part is `0` or begins with another digit. -/
def isUnsignedNumber : List Char → Bool
  | '0' :: cs => isFraction cs
  | c :: cs => isDigit c && isFraction (cs.dropWhile isDigit)
  | [] => false

/-- Whether `cs` is a JSON number. -/
def isNumber : List Char → Bool
  | '-' :: cs => isUnsignedNumber cs
  | cs => isUnsignedNumber cs

/-- The value of a word: a literal name or a number. -/
def wordValue? (word : List Char) : Option Json :=
  if word = "null".toList then some .null
  else if word = "true".toList then some (.bool true)
  else if word = "false".toList then some (.bool false)
  else if isNumber word then some (.number (String.ofList word))
  else none

/-- The character that a single letter stands for after a backslash. -/
def escaped? (c : Char) : Option Char :=
  match c with
  | '"' => some '"'
  | '\\' => some '\\'
  | '/' => some '/'
  | 'b' => some '\x08'
  | 'f' => some '\x0c'
  | 'n' => some '\n'
  | 'r' => some '\r'
  | 't' => some '\t'
  | _ => none

namespace Scanner

/-- The scanner after one more token, between tokens. -/
def emit (scanner : Scanner) (token : Token) : Scanner :=
  { tokens := token :: scanner.tokens, mode := .between }

/-- Reads a character that stands between tokens. -/
def start (scanner : Scanner) (c : Char) : Scanner :=
  match c with
  | '\x7b' => scanner.emit .openBrace
  | '\x7d' => scanner.emit .closeBrace
  | '[' => scanner.emit .openBracket
  | ']' => scanner.emit .closeBracket
  | ':' => scanner.emit .colon
  | ',' => scanner.emit .comma
  | '"' => { scanner with mode := .quoted {} }
  | ' ' => scanner
  | '\t' => scanner
  | '\n' => scanner
  | '\r' => scanner
  | c => { scanner with mode := .word [c] }

/-- Whether `c` ends the word before it. -/
def endsWord (c : Char) : Bool :=
  "\x7b\x7d[]:,\" \t\n\r".toList.contains c

/-- Reads one character. -/
def step (scanner : Scanner) (c : Char) : Option Scanner :=
  match scanner.mode with
  | .between => some (scanner.start c)
  | .word chars =>
    if endsWord c then
      (wordValue? chars.reverse).map fun value => (scanner.emit (.scalar value)).start c
    else some { scanner with mode := .word (c :: chars) }
  | .quoted part =>
    if c = '"' then some (scanner.emit (.scalar (.string part.text?)))
    else if c = '\\' then some { scanner with mode := .escape part }
    else if c.toNat < 0x20 then none
    else some { scanner with mode := .quoted (part.push c) }
  | .escape part =>
    if c = 'u' then some { scanner with mode := .codeUnit part 0 3 }
    else (escaped? c).map fun c => { scanner with mode := .quoted (part.push c) }
  | .codeUnit part value due =>
    (hexDigit? c).map fun digit =>
      let value := 16 * value + digit
      match due with
      | 0 => { scanner with mode := .quoted (part.pushUnit value) }
      | due + 1 => { scanner with mode := .codeUnit part value due }

/-- The tokens read, if the text may end here. -/
def finish (scanner : Scanner) : Option (List Token) :=
  match scanner.mode with
  | .between => some scanner.tokens.reverse
  | .word chars =>
    (wordValue? chars.reverse).map fun value => (.scalar value :: scanner.tokens).reverse
  | _ => none

end Scanner

/-- The tokens of a text. -/
def Token.scan (text : List Char) : Option (List Token) :=
  text.foldlM Scanner.step {} >>= Scanner.finish

end InterfaceStub.Json
