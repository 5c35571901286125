import InterfaceStub.Proofs.PathResolution
import InterfaceStub.Proofs.StubNames

/-!
# File systems without links

Without links a path leads down from directory to directory.

* `locate?` is where a path leads to, and `place?_eq_map` says that this and what stands there are
  all there is to know.
* `Rooted` says that a location is below directories only, and `IsText` that its path is a text.
* `exists_isStubName_of_locate?`: the path of a stub leads to the name of a stub, or to a directory.
  As a path is a text, so is the path of where it leads to (`isText_of_locate?`).
-/

namespace InterfaceStub.FileSystem

variable {files : FileSystem} {path : String} {location here : Location} {followLast : Bool}
  {links : Nat} {steps : List Step} {place : Place}

/-- There is no link. -/
def LinkFree (files : FileSystem) : Prop :=
  ∀ location target, files.get? location ≠ some (.link target)

theorem linkFree_of_forall_mem (h : ∀ entry ∈ files.entries, ∀ target, entry.2 ≠ .link target) :
    files.LinkFree := by
  intro location target hlink
  rw [get?_eq_lookup (not_prefix_start (by simp [hlink]))] at hlink
  obtain ⟨before, after, hentries, -⟩ := List.lookup_eq_some_iff.1 hlink
  exact h (location, .link target) (by simp [hentries]) target rfl

theorem LinkFree.resolve_eq (h : files.LinkFree) (followLast : Bool) :
    files.resolve path followLast = files.resolve path := by
  cases followLast with
  | true => rfl
  | false =>
    obtain heq | ⟨location, target, hlink⟩ := @resolve_false files path
    · exact heq
    · exact absurd (get?_of_resolve hlink) (h location target)

/-! ## Locations of paths -/

/-- Where a path leads to. -/
def locate? (files : FileSystem) (path : String) : Option Location :=
  (files.place? path).map Place.location

theorem locate?_of_resolve (h : files.resolve path = .ok place) :
    files.locate? path = some place.location := by
  rw [locate?, place?_eq_some_iff.2 h]
  rfl

/-- The place at a location. -/
def placeAt (files : FileSystem) (location : Location) : Place :=
  (files.get? location).elim (.vacant location) (.found location)

/-- What a path leads to is what stands where it leads to. -/
theorem place?_eq_map : files.place? path = (files.locate? path).map files.placeAt := by
  rw [locate?, Option.map_map]
  cases hplace : files.place? path with
  | none => rfl
  | some place =>
    have hentry := get?_of_resolve (place?_eq_some_iff.1 hplace)
    rw [Option.map_some, Function.comp_apply, placeAt, hentry]
    cases place <;> rfl

theorem WrittenAt.locate?_eq {other : FileSystem} {target : Location} {content : Content}
    (h : files.WrittenAt target content other) : other.locate? path = files.locate? path := by
  rw [locate?, locate?, h.place?_eq, Option.map_map]
  exact congrArg (fun view => (files.place? path).map view) (funext fun place => by simp)

theorem pathExists_eq_place? :
    files.pathExists path = ((files.place? path).bind Place.entry?).isSome := by
  rw [pathExists, place?]
  rcases files.resolve path with _ | (_ | _) <;> rfl

theorem pathExists_eq : files.pathExists path = ((files.locate? path).bind files.get?).isSome := by
  rw [pathExists_eq_place?, place?_eq_map]
  cases files.locate? path with
  | none => rfl
  | some location => cases h : files.get? location <;> simp [placeAt, h, Place.entry?]

/-! ## Below directories -/

/-- The location and all above it are directories. -/
def Rooted (files : FileSystem) (location : Location) : Prop :=
  ∀ above, above <+: location → files.get? above = some .directory

theorem rooted_start : files.Rooted files.start :=
  fun _ => get?_above_start

theorem rooted_nil : files.Rooted [] :=
  fun above habove => rooted_start above (habove.trans List.nil_prefix)

theorem Rooted.dropLast (h : files.Rooted here) : files.Rooted here.dropLast :=
  fun above habove => h above (habove.trans here.dropLast_prefix)

theorem Rooted.append {name : Name} (h : files.Rooted here)
    (hname : files.get? (here ++ [name]) = some .directory) : files.Rooted (here ++ [name]) := by
  intro above habove
  obtain rfl | habove := List.prefix_concat_iff.1 habove
  · exact hname
  · exact h above habove

/-- The last step is made in a directory below directories. -/
theorem follow_concat (hlinks : files.LinkFree) (hhere : files.Rooted here) {step : Step}
    (h : files.follow followLast links here (steps ++ [step]) = .ok place) :
    ∃ directory, files.Rooted directory ∧
      files.follow followLast links directory [step] = .ok place := by
  induction steps generalizing here with
  | nil => exact ⟨here, hhere, h⟩
  | cons first steps ih =>
    have hdirectory : files.get? here = some .directory := hhere here (List.prefix_refl _)
    rw [List.cons_append] at h
    cases first with
    | top => exact ih rooted_nil (follow_top hdirectory ▸ h)
    | stay => exact ih hhere (follow_stay hdirectory ▸ h)
    | up => exact ih hhere.dropLast (follow_up hdirectory ▸ h)
    | name name =>
      cases hname : files.get? (here ++ [name]) with
      | none => simp [follow_vacant hdirectory hname] at h
      | some entry =>
        rw [follow_entry hdirectory hname fun target hlink => hlinks _ target (hlink ▸ hname)] at h
        by_cases hnext : files.get? (here ++ [name]) = some .directory
        · exact ih (hhere.append hnext) h
        · cases steps <;> simp [follow_of_ne hnext] at h

/-- The path of a stub leads to the name of a stub, or to a directory. -/
theorem exists_isStubName_of_locate? (hlinks : files.LinkFree)
    (h : files.locate? (Path.stubOf path) = some location)
    (hlocation : files.get? location ≠ some .directory) :
    ∃ directory name, location = directory ++ [name] ∧ IsStubName name := by
  obtain ⟨place, hplace, rfl⟩ := Option.map_eq_some_iff.1 h
  rw [get?_of_resolve (place?_eq_some_iff.1 hplace)] at hlocation
  obtain ⟨steps, hsteps, hfollow⟩ := follow_of_resolve (place?_eq_some_iff.1 hplace)
  obtain ⟨step, hlast, hname⟩ := Path.getLast?_stepsOf_stubOf hsteps
  obtain ⟨steps, rfl⟩ := List.getLast?_eq_some_iff.1 hlast
  obtain ⟨directory, hrooted, hstep⟩ := follow_concat hlinks rooted_start hfollow
  have hdirectory : files.get? directory = some .directory :=
    hrooted directory (List.prefix_refl _)
  cases step with
  | top =>
    rw [follow_top hdirectory, follow, get?_nil] at hstep
    cases hstep
    exact absurd rfl hlocation
  | stay =>
    rw [follow_stay hdirectory, follow, hdirectory] at hstep
    cases hstep
    exact absurd rfl hlocation
  | up =>
    rw [follow_up hdirectory, follow, hrooted.dropLast _ (List.prefix_refl _)] at hstep
    cases hstep
    exact absurd rfl hlocation
  | name name =>
    refine ⟨directory, name, ?_, hname name rfl⟩
    cases hentry : files.get? (directory ++ [name]) with
    | none =>
      rw [follow_vacant hdirectory hentry] at hstep
      cases hstep
      rfl
    | some entry =>
      rw [follow_entry hdirectory hentry fun target hlink => hlinks _ target (hlink ▸ hentry),
        follow, hentry] at hstep
      cases hstep
      rfl

/-! ## Locations whose paths are texts -/

/-- All names are texts. -/
def IsText (location : Location) : Prop :=
  ∀ name ∈ location, ∃ text, name = .text text

theorem isText_iff : IsText location ↔ ∃ names : List String, location = names.map .text := by
  constructor
  · intro h
    induction location with
    | nil => exact ⟨[], rfl⟩
    | cons name location ih =>
      obtain ⟨⟨text, rfl⟩, hrest⟩ := List.forall_mem_cons.1 h
      obtain ⟨names, rfl⟩ := ih hrest
      exact ⟨text :: names, rfl⟩
  · rintro ⟨names, rfl⟩
    simp [IsText]

theorem isText_start : IsText files.start := by
  simp [IsText, start]

theorem IsText.dropLast (h : IsText here) : IsText here.dropLast :=
  fun name hname => h name (here.dropLast_prefix.subset hname)

theorem IsText.append {text : String} (h : IsText here) : IsText (here ++ [.text text]) :=
  List.forall_mem_append.2 ⟨h, List.forall_mem_singleton.2 ⟨text, rfl⟩⟩

theorem isText_of_mem_stepsOf {name : Name} (h : stepsOf path = .ok steps)
    (hname : .name name ∈ steps) : ∃ text, name = .text text := by
  rw [stepsOf, stepsIn] at h
  split at h
  · cases h
  · split at h
    · cases h
    · cases h
      have hpart : Step.name name ∈ (Text.splitList '/' path.toList).filterMap
          fun part => stepOf? (.text (String.ofList part)) := by
        simp only [List.mem_append, List.mem_ite_nil_right, List.mem_singleton, reduceCtorEq,
          and_false, false_or, or_false] at hname
        exact hname
      obtain ⟨part, -, hstep⟩ := List.mem_filterMap.1 hpart
      exact ⟨_, eq_of_stepOf?_eq_name hstep⟩

theorem isText_of_follow (hlinks : files.LinkFree) (hhere : IsText here)
    (hsteps : ∀ name, .name name ∈ steps → ∃ text, name = .text text)
    (h : files.follow followLast links here steps = .ok place) : IsText place.location := by
  induction steps generalizing here with
  | nil =>
    rw [follow] at h
    split at h
    · cases h
      exact hhere
    · cases h
  | cons step steps ih =>
    have ih {next : Location} (hnext : IsText next) :=
      @ih next hnext fun name hname => hsteps name (List.mem_cons_of_mem _ hname)
    by_cases hdirectory : files.get? here = some .directory
    · cases step with
      | top => exact ih (by simp [IsText]) (follow_top hdirectory ▸ h)
      | stay => exact ih hhere (follow_stay hdirectory ▸ h)
      | up => exact ih hhere.dropLast (follow_up hdirectory ▸ h)
      | name name =>
        obtain ⟨text, rfl⟩ := hsteps name List.mem_cons_self
        cases hname : files.get? (here ++ [.text text]) with
        | none =>
          rw [follow_vacant hdirectory hname] at h
          split at h
          · cases h
            exact hhere.append
          · cases h
        | some entry =>
          rw [follow_entry hdirectory hname
            fun target hlink => hlinks _ target (hlink ▸ hname)] at h
          exact ih hhere.append h
    · simp [follow_of_ne hdirectory] at h

theorem isText_of_locate? (hlinks : files.LinkFree) (h : files.locate? path = some location) :
    IsText location := by
  obtain ⟨place, hplace, rfl⟩ := Option.map_eq_some_iff.1 h
  obtain ⟨steps, hsteps, hfollow⟩ := follow_of_resolve (place?_eq_some_iff.1 hplace)
  exact isText_of_follow hlinks isText_start (fun _ => isText_of_mem_stepsOf hsteps) hfollow

end InterfaceStub.FileSystem
