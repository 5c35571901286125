import InterfaceStub.Json.Token

/-!
# Reading JSON text

`Json.parse` reads a document strictly: one value, nothing but blanks around it, no comma too many.
Nesting has no limit; the values that are still open stand on a list of frames.
-/

namespace InterfaceStub.Json

/-- A value of which a part has been read; items and members stand last one first. -/
inductive Frame where
  | array (items : List Json)
  | object (members : List (Option String × Json))
  /-- An object and the key of the member whose value comes next. -/
  | member (members : List (Option String × Json)) (key : Option String)

/-- What may come next. -/
inductive Expected where
  | value
  /-- A value, or the end of an array that is still empty. -/
  | valueOrClose
  | key
  /-- A key, or the end of an object that is still empty. -/
  | keyOrClose
  | colon
  /-- A comma, or the end of the innermost array or object. -/
  | separator
  /-- Nothing: the document's value is read. -/
  | nothing (value : Json)

/-- The frames that are open, the innermost first, and what may come next. -/
structure Reading where
  frames : List Frame := []
  expected : Expected := .value

namespace Reading

/-- Hands a complete value to the innermost frame. -/
def complete (value : Json) : List Frame → Option Reading
  | [] => some ⟨[], .nothing value⟩
  | .array items :: frames => some ⟨.array (value :: items) :: frames, .separator⟩
  | .member members key :: frames => some ⟨.object ((key, value) :: members) :: frames, .separator⟩
  | .object _ :: _ => none

/-- Reads a token where a value begins. -/
def value (frames : List Frame) : Token → Option Reading
  | .openBrace => some ⟨.object [] :: frames, .keyOrClose⟩
  | .openBracket => some ⟨.array [] :: frames, .valueOrClose⟩
  | .scalar value => complete value frames
  | _ => none

/-- Reads a token where a key stands. -/
def key : List Frame → Token → Option Reading
  | .object members :: frames, .scalar (.string key) => some ⟨.member members key :: frames, .colon⟩
  | _, _ => none

/-- Reads a token after an item or a member. -/
def separator : List Frame → Token → Option Reading
  | .array items :: frames, .comma => some ⟨.array items :: frames, .value⟩
  | .array items :: frames, .closeBracket => complete (.array items.reverse) frames
  | .object members :: frames, .comma => some ⟨.object members :: frames, .key⟩
  | .object members :: frames, .closeBrace => complete (.object members.reverse) frames
  | _, _ => none

/-- Reads one token. -/
def step (reading : Reading) (token : Token) : Option Reading :=
  match reading.expected, token with
  | .value, token => value reading.frames token
  | .valueOrClose, .closeBracket => separator reading.frames token
  | .valueOrClose, token => value reading.frames token
  | .key, token => key reading.frames token
  | .keyOrClose, .closeBrace => separator reading.frames token
  | .keyOrClose, token => key reading.frames token
  | .colon, .colon => some ⟨reading.frames, .value⟩
  | .colon, _ => none
  | .separator, token => separator reading.frames token
  | .nothing _, _ => none

/-- The document's value, once it is complete. -/
def result? (reading : Reading) : Option Json :=
  match reading.expected with
  | .nothing value => some value
  | _ => none

end Reading

/-- The value of a JSON document. -/
def parse (text : String) : Option Json := do
  let tokens ← Token.scan text.toList
  let reading ← tokens.foldlM Reading.step {}
  reading.result?

end InterfaceStub.Json
