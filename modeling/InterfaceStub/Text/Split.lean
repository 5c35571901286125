/-!
# Splitting

The pieces of a list or a text between the places where a separator stands.  There is always at
least one piece; `splitList_append` says how the first one is found.
-/

namespace InterfaceStub.Text

/-- The pieces between the places where `separator` stands. -/
def splitList [DecidableEq α] (separator : α) : List α → List (List α)
  | [] => [[]]
  | a :: as =>
    if a = separator then [] :: splitList separator as
    else
      match splitList separator as with
      | [] => [[a]]
      | piece :: pieces => (a :: piece) :: pieces

/-- The pieces of a text between the places where `separator` stands. -/
def split (separator : Char) (text : String) : List String :=
  (splitList separator text.toList).map String.ofList

theorem splitList_of_not_mem [DecidableEq α] {separator : α} {as : List α} (h : separator ∉ as) :
    splitList separator as = [as] := by
  induction as with
  | nil => rfl
  | cons a as ih =>
    have ha : a ≠ separator := fun heq => h (heq ▸ List.mem_cons_self)
    have has : separator ∉ as := fun hmem => h (List.mem_cons_of_mem _ hmem)
    rw [splitList, if_neg ha, ih has]

theorem splitList_append [DecidableEq α] {separator : α} {first rest : List α}
    (h : separator ∉ first) :
    splitList separator (first ++ separator :: rest) = first :: splitList separator rest := by
  induction first with
  | nil => rw [List.nil_append, splitList, if_pos rfl]
  | cons a as ih =>
    have ha : a ≠ separator := fun heq => h (heq ▸ List.mem_cons_self)
    have has : separator ∉ as := fun hmem => h (List.mem_cons_of_mem _ hmem)
    rw [List.cons_append, splitList, if_neg ha, ih has]

end InterfaceStub.Text
