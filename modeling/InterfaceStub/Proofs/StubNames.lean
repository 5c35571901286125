import InterfaceStub.Files.FileSystem
import InterfaceStub.Files.Path

/-!
# The names of stubs

The path of a stub ends with the name of a stub, or it has no last name: the one source named `..py`
would have its stub at `..`.

* `getLast?_stepsOf_stubOf` says this of the steps along the path of a stub.
* `extension?_ne_of_suffix` says that the name of a stub is not that of a source.
-/

namespace InterfaceStub

/-! ## Last pieces -/

namespace Text

variable {α : Type} [DecidableEq α] {separator : α}

theorem splitList_ne_nil (text : List α) : splitList separator text ≠ [] := by
  cases text with
  | nil => simp [splitList]
  | cons a as =>
    rw [splitList]
    split
    · simp
    · split <;> simp

theorem splitList_append_cons (before rest : List α) :
    splitList separator (before ++ separator :: rest) =
      splitList separator before ++ splitList separator rest := by
  induction before with
  | nil => simp [splitList]
  | cons a as ih =>
    rw [List.cons_append, splitList, splitList, ih]
    split
    · rfl
    · cases hpieces : splitList separator as with
      | nil => exact absurd hpieces (splitList_ne_nil as)
      | cons piece pieces => rfl

/-- What follows the last separator of a text. -/
theorem exists_last_piece (separator : α) (text : List α) :
    ∃ before last, text = before ++ last ∧ separator ∉ last ∧
      (before = [] ∨ ∃ above, before = above ++ [separator]) := by
  induction text with
  | nil => exact ⟨[], [], rfl, by simp, .inl rfl⟩
  | cons a as ih =>
    obtain ⟨before, last, rfl, hlast, rfl | ⟨above, rfl⟩⟩ := ih
    · by_cases ha : a = separator
      · exact ⟨[a], last, rfl, hlast, .inr ⟨[], by rw [ha, List.nil_append]⟩⟩
      · exact ⟨[], a :: last, rfl, by simp [Ne.symm ha, hlast], .inl rfl⟩
    · exact ⟨a :: (above ++ [separator]), last, rfl, hlast, .inr ⟨a :: above, rfl⟩⟩

/-- The last piece is what follows the last separator. -/
theorem getLast?_splitList {before last : List α} (hlast : separator ∉ last)
    (hbefore : before = [] ∨ ∃ above, before = above ++ [separator]) :
    ∃ pieces, splitList separator (before ++ last) = pieces ++ [last] := by
  obtain rfl | ⟨above, rfl⟩ := hbefore
  · exact ⟨[], splitList_of_not_mem hlast⟩
  · refine ⟨splitList separator above, ?_⟩
    rw [List.append_assoc, List.singleton_append, splitList_append_cons, splitList_of_not_mem hlast]

end Text

/-! ## Last names -/

/-- The name ends like that of a stub. -/
def IsStubName : Name → Prop
  | .text name => ".pyi".toList <:+ name.toList
  | .binary .. => False

instance (name : Name) : Decidable (IsStubName name) :=
  match name with
  | .text name => inferInstanceAs (Decidable (".pyi".toList <:+ name.toList))
  | .binary .. => inferInstanceAs (Decidable False)

namespace FileSystem

theorem stepOf?_eq_none_iff {part : String} : stepOf? part = none ↔ part = "" := by
  rw [stepOf?.eq_def]
  split <;> simp_all

theorem eq_of_stepOf?_eq_name {part name : Name} (h : stepOf? part = some (.name name)) :
    name = part := by
  rw [stepOf?.eq_def] at h
  split at h <;> simp_all

variable {path : String} {steps : List Step} {before last : List Char}

/-- The last step along a path, given what follows the last slash. -/
theorem getLast?_stepsOf (hpath : path.toList = before ++ last) (hlast : '/' ∉ last)
    (hbefore : before = [] ∨ ∃ above, before = above ++ ['/']) (h : stepsOf path = .ok steps) :
    steps.getLast? = some ((stepOf? (String.ofList last)).getD .stay) := by
  obtain ⟨pieces, hpieces⟩ := Text.getLast?_splitList hlast hbefore
  rw [stepsOf, stepsIn] at h
  split at h
  · cases h
  · split at h
    · cases h
    · rename_i hne
      cases h
      rw [hpath, hpieces, List.filterMap_append]
      generalize (if (before ++ last).head? = some '/' then [Step.top] else []) = first
      by_cases hempty : last = []
      · -- Nothing follows the last slash, which then asks for a directory.
        subst hempty
        obtain rfl | ⟨above, rfl⟩ := hbefore
        · simp [hpath] at hne
        · rw [if_pos (by simp)]
          simp [stepOf?]
      · have hslash : (before ++ last).getLast? ≠ some '/' := by
          intro hgetLast
          rw [List.getLast?_append, List.getLast?_eq_some_getLast hempty,
            Option.some_or] at hgetLast
          exact hlast (Option.some.inj hgetLast ▸ List.getLast_mem hempty)
        have hsome : String.ofList last ≠ "" := by simpa using hempty
        obtain ⟨step, hstep⟩ := Option.ne_none_iff_exists'.1 (mt stepOf?_eq_none_iff.1 hsome)
        rw [if_neg hslash, List.append_nil]
        simp [hstep]

end FileSystem

namespace Path

variable {path : String} {before last : List Char}

theorem dropIdle_of_ne {first : Char} {rest : List Char} (hfirst : first ≠ '/')
    (hrest : first = '.' → rest.head? ≠ some '/') : dropIdle (first :: rest) = first :: rest := by
  rw [dropIdle.eq_def]
  split <;> simp_all

/-- A path is divided after its last slash, unless nothing or a single dot follows. -/
theorem splitName_eq (hpath : path.toList = before ++ last) (hlast : '/' ∉ last)
    (hbefore : before = [] ∨ ∃ above, before = above ++ ['/'])
    (hempty : String.ofList last ≠ "") (hstay : String.ofList last ≠ ".") :
    splitName path = (String.ofList before, String.ofList last) := by
  have hreversed : dropIdle path.toList.reverse = last.reverse ++ before.reverse := by
    rw [hpath, List.reverse_append]
    cases hcases : last.reverse with
    | nil => exact absurd (by rw [List.reverse_eq_nil_iff.1 hcases]) hempty
    | cons first rest =>
      rw [← List.mem_reverse, hcases] at hlast
      refine dropIdle_of_ne (fun heq => hlast (heq ▸ List.mem_cons_self)) fun hdot => ?_
      cases rest with
      | nil =>
        have hdotted : last = ['.'] := by simpa [hdot] using congrArg List.reverse hcases
        exact absurd (by rw [hdotted]) hstay
      | cons second rest => simpa [eq_comm] using fun heq : second = '/' => hlast (by simp [heq])
  have hname : (last.reverse ++ before.reverse).takeWhile (· != '/') = last.reverse := by
    rw [List.takeWhile_append_of_pos]
    · obtain rfl | ⟨above, rfl⟩ := hbefore <;> simp
    · intro character hmem
      simpa using fun heq : character = '/' => hlast (heq ▸ List.mem_reverse.1 hmem)
  rw [splitName, hreversed, hname, List.reverse_reverse, List.drop_left, List.reverse_reverse]

/-- What follows the last slash is the last name, unless it stands for a directory by its place. -/
theorem fileName?_eq (hpath : path.toList = before ++ last) (hlast : '/' ∉ last)
    (hbefore : before = [] ∨ ∃ above, before = above ++ ['/'])
    (hempty : String.ofList last ≠ "") (hstay : String.ofList last ≠ ".")
    (hup : String.ofList last ≠ "..") : fileName? path = some (String.ofList last) := by
  rw [fileName?, splitName_eq hpath hlast hbefore hempty hstay]
  split
  · exact absurd ‹_› hempty
  · exact absurd ‹_› hstay
  · exact absurd ‹_› hup
  · rfl

theorem suffix_append_stubExtension (text : String) :
    ".pyi".toList <:+ (text ++ "." ++ stubExtension).toList :=
  ⟨text.toList, by simp [stubExtension]⟩

/-- The path of a stub ends like one, or has no last name. -/
theorem suffix_stubOf_or (path : String) :
    ".pyi".toList <:+ (stubOf path).toList ∨ fileName? (stubOf path) = none := by
  rw [stubOf]
  split
  · rw [replaceExtension]
    split
    · rename_i hnone
      exact .inr hnone
    · exact .inl (suffix_append_stubExtension _)
  · exact .inl (suffix_append_stubExtension _)

/-- The end of a stub has no slash, so it stands after the last one. -/
theorem suffix_last (hbefore : before = [] ∨ ∃ above, before = above ++ ['/'])
    (h : ".pyi".toList <:+ before ++ last) : ".pyi".toList <:+ last := by
  obtain rfl | ⟨above, rfl⟩ := hbefore
  · exact h
  · rw [List.append_assoc, List.singleton_append] at h
    obtain hend | hend := List.suffix_or_suffix_of_suffix h (List.suffix_append above ('/' :: last))
    · obtain heq | hend := List.suffix_cons_iff.1 hend
      · simp at heq
      · exact hend
    · exact absurd (hend.subset List.mem_cons_self) (by decide)

/-- The last step along the path of a stub is the name of a stub, or no name. -/
theorem getLast?_stepsOf_stubOf {steps : List FileSystem.Step}
    (h : FileSystem.stepsOf (stubOf path) = .ok steps) :
    ∃ step, steps.getLast? = some step ∧ ∀ name, step = .name name → IsStubName name := by
  obtain ⟨before, last, hpath, hlast, hbefore⟩ := Text.exists_last_piece '/' (stubOf path).toList
  refine ⟨_, FileSystem.getLast?_stepsOf hpath hlast hbefore h, fun name hname => ?_⟩
  cases hstep : FileSystem.stepOf? (String.ofList last) with
  | none => simp [hstep] at hname
  | some step =>
    rw [hstep, Option.getD_some] at hname
    subst hname
    cases FileSystem.eq_of_stepOf?_eq_name hstep
    obtain hsuffix | hnone := suffix_stubOf_or path
    · rw [IsStubName, @String.toList_ofList last]
      exact suffix_last hbefore (hpath ▸ hsuffix)
    · have hsome : fileName? (stubOf path) = some (String.ofList last) := by
        refine fileName?_eq hpath hlast hbefore ?_ ?_ ?_ <;> intro heq <;> rw [heq] at hstep <;>
          cases hstep
      simp [hnone] at hsome

/-- A path that ends with the name of a stub is not that of a source. -/
theorem extension?_ne_of_suffix (h : ".pyi".toList <:+ path.toList) :
    extension? path ≠ some sourceExtension := by
  obtain ⟨before, last, hpath, hlast, hbefore⟩ := Text.exists_last_piece '/' path.toList
  obtain ⟨stem, rfl⟩ := suffix_last hbefore (hpath ▸ h)
  have hne (text : List Char) (htext : text.length < 4) :
      String.ofList (stem ++ ".pyi".toList) ≠ String.ofList text := by
    intro heq
    have hlength := congrArg (fun text => text.toList.length) heq
    simp at hlength
    omega
  have hname : fileName? path = some (String.ofList (stem ++ ".pyi".toList)) :=
    fileName?_eq hpath hlast hbefore (hne [] (by decide)) (hne ['.'] (by decide))
      (hne ['.', '.'] (by decide))
  have hreversed : (String.ofList (stem ++ ".pyi".toList)).toList.reverse =
      'i' :: 'y' :: 'p' :: '.' :: stem.reverse := by simp
  have hextension : (splitExtension (String.ofList (stem ++ ".pyi".toList))).2 ≠
      some sourceExtension := by
    rw [splitExtension, hreversed]
    cases stem.reverse <;> simp [List.takeWhile, sourceExtension]
  rwa [extension?, hname]

end Path

end InterfaceStub
