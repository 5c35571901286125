/-!
# Right alignment

`alignRight` pairs the items of a list with those of a shorter one so that the last ones meet.
-/

namespace InterfaceStub

/-- The second list is the longer one. -/
structure AlignmentError where
  /-- The length of the first list. -/
  first : Nat
  /-- The length of the second list. -/
  second : Nat
  deriving DecidableEq, Repr

/-- The text of an alignment error. -/
def AlignmentError.message (error : AlignmentError) : String :=
  "cannot align " ++ error.second.repr ++ " trailing values onto " ++ error.first.repr ++ " items"

/-- Pairs every item of `first` with an item of `second` or with none, the last ones of both lists
together. -/
def alignRight (first : List α) (second : List β) : Except AlignmentError (List (α × Option β)) :=
  if second.length ≤ first.length then
    .ok (first.zip (List.replicate (first.length - second.length) none ++ second.map some))
  else .error ⟨first.length, second.length⟩

end InterfaceStub
