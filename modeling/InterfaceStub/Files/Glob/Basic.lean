import InterfaceStub.Text.Raw

/-!
# Globs

A glob describes paths.  It is matched byte by byte against the whole text of a path: a wildcard for
one character stands for one byte, and a class of characters for the bytes that its members are
written with.  `*` stays within a name, `**` spans any number of directories.
-/

namespace InterfaceStub

/-- A part of a glob. -/
inductive GlobPart where
  | literal (c : Char)
  /-- One byte of the characters in some ranges, both ends included, or one that is none of them. -/
  | oneOf (negated : Bool) (ranges : List (Char × Char))
  /-- One byte of a name. -/
  | anyByte
  /-- Any bytes of a name. -/
  | anyText
  /-- Nothing, or any directories with the slash after them. -/
  | anyStart
  /-- A slash, or any directories between two slashes. -/
  | anyMiddle
  /-- A slash and anything after it. -/
  | anyEnd
  /-- One of some globs; nothing when there are none. -/
  | choice (options : List (List GlobPart))

/-- The parts of a glob in order. -/
abbrev Glob := List GlobPart

namespace Glob

open Text (slash)

/-! ## What may follow a wildcard -/

/-- Whether a test holds after some bytes of a name. -/
def afterText (test : List UInt8 → Bool) : List UInt8 → Bool
  | [] => test []
  | byte :: bytes => test (byte :: bytes) || byte != slash && afterText test bytes

/-- Whether a test holds right after some slash. -/
def afterSlash (test : List UInt8 → Bool) : List UInt8 → Bool
  | [] => false
  | byte :: bytes => byte == slash && test bytes || afterSlash test bytes

/-- Whether a test holds after any bytes. -/
def afterAny (test : List UInt8 → Bool) : List UInt8 → Bool
  | [] => test []
  | byte :: bytes => test (byte :: bytes) || afterAny test bytes

/-! ## Classes of bytes -/

/-- The ranges of bytes that a range of characters stands for.  A range between two characters joins
the last byte of the first to the first byte of the last; their other bytes stand for themselves. -/
def byteRanges (range : Char × Char) : List (UInt8 × UInt8) :=
  let low := String.utf8EncodeChar range.1
  let high := String.utf8EncodeChar range.2
  if range.1 = range.2 then low.map fun byte => (byte, byte)
  else
    (low.dropLast ++ high.tail).map (fun byte => (byte, byte)) ++
      (low.getLast?.toList.zip high.head?.toList)

/-- Whether a byte is in one of some ranges of characters. -/
def inRanges (ranges : List (Char × Char)) (byte : UInt8) : Bool :=
  (ranges.flatMap byteRanges).any fun range => range.1 ≤ byte && byte ≤ range.2

/-! ## Matching -/

mutual

/-- Whether a part matches the start of some bytes in such a way that a test holds of the rest. -/
def matchesPart (next : List UInt8 → Bool) : GlobPart → List UInt8 → Bool
  | .literal c, bytes =>
    (String.utf8EncodeChar c).isPrefixOf bytes && next (bytes.drop (String.utf8EncodeChar c).length)
  | .oneOf negated ranges, byte :: bytes => inRanges ranges byte != negated && next bytes
  | .anyByte, byte :: bytes => byte != slash && next bytes
  | .anyText, bytes => afterText next bytes
  | .anyStart, bytes => next bytes || afterSlash next bytes
  | .anyMiddle, byte :: bytes => byte == slash && (next bytes || afterSlash next bytes)
  | .anyEnd, byte :: bytes => byte == slash && afterAny next bytes
  | .choice options, bytes => options.isEmpty && next bytes || matchesSome next options bytes
  | _, [] => false

/-- Whether the parts of a glob match the start of some bytes one after the other. -/
def matchesAll (next : List UInt8 → Bool) : List GlobPart → List UInt8 → Bool
  | [], bytes => next bytes
  | part :: parts, bytes => matchesPart (matchesAll next parts) part bytes

/-- Whether one of several globs matches the start of some bytes. -/
def matchesSome (next : List UInt8 → Bool) : List (List GlobPart) → List UInt8 → Bool
  | [], _ => false
  | parts :: options, bytes => matchesAll next parts bytes || matchesSome next options bytes

end

/-- Whether a glob matches all bytes of a path.  Two stars alone match every path. -/
def covers (glob : Glob) (path : List UInt8) : Bool :=
  match glob with
  | [.anyStart] => true
  | parts => matchesAll List.isEmpty parts path

end Glob

end InterfaceStub
