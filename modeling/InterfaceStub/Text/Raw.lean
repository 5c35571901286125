/-!
# Raw texts

Names and contents of files are bytes, which need not be a text in UTF-8.  A `RawText` is one or the
other, so that two of them with the same bytes are the same.  `lossy` is what is shown for bytes.
-/

namespace InterfaceStub

namespace Text

/-- The bytes of a text. -/
def bytes (text : String) : List UInt8 :=
  text.toUTF8.data.toList

/-- The byte between the names of a path. -/
def slash : UInt8 := 47

/-! ## Showing bytes -/

/-- The ranges of the bytes that may follow a first byte of a character. -/
def continuations? (first : UInt8) : Option (List (UInt8 × UInt8)) :=
  let any : UInt8 × UInt8 := (0x80, 0xBF)
  if first < 0x80 then some []
  else if first < 0xC2 then none
  else if first < 0xE0 then some [any]
  else if first = 0xE0 then some [(0xA0, 0xBF), any]
  else if first = 0xED then some [(0x80, 0x9F), any]
  else if first < 0xF0 then some [any, any]
  else if first = 0xF0 then some [(0x90, 0xBF), any, any]
  else if first < 0xF4 then some [any, any, any]
  else if first = 0xF4 then some [(0x80, 0x8F), any, any]
  else none

/-- The number of bytes that follow a first byte as they should. -/
def followers : List (UInt8 × UInt8) → List UInt8 → Nat
  | (low, high) :: ranges, byte :: bytes =>
    if low ≤ byte && byte ≤ high then followers ranges bytes + 1 else 0
  | _, _ => 0

/-- The text of some bytes, with a replacement character for each part that is none. -/
def lossy : List UInt8 → String
  | [] => ""
  | byte :: bytes =>
    let ranges? := continuations? byte
    let count := followers (ranges?.getD []) bytes
    let piece :=
      if ranges?.map List.length = some count then
        (String.fromUTF8? (byte :: bytes.take count).toByteArray).getD "\uFFFD"
      else "\uFFFD"
    piece ++ lossy (bytes.drop count)
termination_by bytes => bytes.length
decreasing_by simp only [List.length_drop, List.length_cons]; omega

end Text

/-- Some bytes, which may be a text. -/
inductive RawText where
  | text (text : String)
  /-- Bytes that are no text. -/
  | binary (bytes : List UInt8) (invalid : ¬ bytes.toByteArray.IsValidUTF8)
  deriving DecidableEq

namespace RawText

instance : Coe String RawText := ⟨.text⟩

/-- What some bytes make up. -/
def ofBytes (bytes : List UInt8) : RawText :=
  if h : bytes.toByteArray.IsValidUTF8 then .text (String.fromUTF8 _ h) else .binary bytes h

/-- The bytes of a raw text. -/
def bytes : RawText → List UInt8
  | .text decoded => Text.bytes decoded
  | .binary bytes _ => bytes

/-- Whether the first byte is a dot. -/
def isDotted (raw : RawText) : Bool :=
  raw.bytes.head? = some 46

/-- The text that a raw text is. -/
def text? : RawText → Option String
  | .text decoded => some decoded
  | .binary .. => none

end RawText

end InterfaceStub
