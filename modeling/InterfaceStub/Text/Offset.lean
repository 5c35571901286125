/-!
# Byte offsets

A position in a text is an offset in its UTF-8 bytes.  `slice` cuts the text between two offsets,
`rowAt` and `columnAt` give the line and the byte column of an offset, both from zero.

`slice_append` says that a slice is the part it was cut at.
-/

namespace InterfaceStub.Text

/-- The number of bytes that `cs` takes in UTF-8. -/
def byteLength : List Char → Nat
  | [] => 0
  | c :: cs => c.utf8Size + byteLength cs

/-- `cs` without its first `count` bytes, unless that cuts a character in two or goes beyond the
end. -/
def dropBytes : (count : Nat) → (cs : List Char) → Option (List Char)
  | 0, cs => some cs
  | _ + 1, [] => none
  | count + 1, c :: cs =>
    if c.utf8Size ≤ count + 1 then dropBytes (count + 1 - c.utf8Size) cs else none

/-- The first `count` bytes of `cs`, unless that cuts a character in two or goes beyond the end. -/
def takeBytes : (count : Nat) → (cs : List Char) → Option (List Char)
  | 0, _ => some []
  | _ + 1, [] => none
  | count + 1, c :: cs =>
    if c.utf8Size ≤ count + 1 then (takeBytes (count + 1 - c.utf8Size) cs).map (c :: ·) else none

/-- The characters from offset `start` to offset `stop`, when both stand between characters and in
order. -/
def slice (cs : List Char) (start stop : Nat) : Option (List Char) :=
  if start ≤ stop then (dropBytes start cs).bind (takeBytes (stop - start)) else none

/-- The number of line ends before `offset`. -/
def rowAt : (cs : List Char) → (offset : Nat) → Nat
  | [], _ => 0
  | _ :: _, 0 => 0
  | c :: cs, offset + 1 =>
    (if c = '\n' then 1 else 0) + rowAt cs (offset + 1 - c.utf8Size)

/-- The number of bytes between the last line end before `offset` and `offset`, when `column` bytes
of the line stand before `cs`. -/
def columnFrom (column : Nat) : (cs : List Char) → (offset : Nat) → Nat
  | [], _ => column
  | _ :: _, 0 => column
  | c :: cs, offset + 1 =>
    if c = '\n' then columnFrom 0 cs offset
    else if c.utf8Size ≤ offset + 1 then
      columnFrom (column + c.utf8Size) cs (offset + 1 - c.utf8Size)
    else column + (offset + 1)

/-- The number of bytes between the last line end before `offset` and `offset`. -/
def columnAt (cs : List Char) (offset : Nat) : Nat :=
  columnFrom 0 cs offset

theorem byteLength_append (cs ds : List Char) :
    byteLength (cs ++ ds) = byteLength cs + byteLength ds := by
  induction cs with
  | nil => simp [byteLength]
  | cons c cs ih => simp [byteLength, ih, Nat.add_assoc]

theorem dropBytes_append (cs ds : List Char) :
    dropBytes (byteLength cs) (cs ++ ds) = some ds := by
  induction cs with
  | nil => cases ds <;> rfl
  | cons c cs ih =>
    have hpos := c.utf8Size_pos
    obtain ⟨n, hn⟩ : ∃ n, byteLength (c :: cs) = n + 1 :=
      ⟨c.utf8Size + byteLength cs - 1, by simp only [byteLength]; omega⟩
    have hle : c.utf8Size ≤ n + 1 := by rw [← hn]; simp [byteLength]
    have hrest : n + 1 - c.utf8Size = byteLength cs := by rw [← hn]; simp [byteLength]
    rw [hn, List.cons_append, dropBytes, if_pos hle, hrest, ih]

theorem takeBytes_append (cs ds : List Char) :
    takeBytes (byteLength cs) (cs ++ ds) = some cs := by
  induction cs with
  | nil => cases ds <;> rfl
  | cons c cs ih =>
    have hpos := c.utf8Size_pos
    obtain ⟨n, hn⟩ : ∃ n, byteLength (c :: cs) = n + 1 :=
      ⟨c.utf8Size + byteLength cs - 1, by simp only [byteLength]; omega⟩
    have hle : c.utf8Size ≤ n + 1 := by rw [← hn]; simp [byteLength]
    have hrest : n + 1 - c.utf8Size = byteLength cs := by rw [← hn]; simp [byteLength]
    rw [hn, List.cons_append, takeBytes, if_pos hle, hrest, ih]
    rfl

theorem slice_append (before inside after : List Char) :
    slice (before ++ inside ++ after) (byteLength before) (byteLength (before ++ inside)) =
      some inside := by
  rw [slice, if_pos (by simp [byteLength_append]), List.append_assoc, dropBytes_append,
    Option.bind_some, byteLength_append, Nat.add_sub_cancel_left, takeBytes_append]

end InterfaceStub.Text
