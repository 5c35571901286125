import InterfaceStub.Conversion.File

/-!
# What paths lead to

How the place at the end of a path depends on the file system, and what becomes of it when a file is
written.

* `follow_top` to `follow_link` are the steps of the way along a path; all else about single steps
  follows from them.
* `way` lists the locations that are looked up along a path.  File systems that agree there give the
  same place (`resolve_congr`), and only the end of a way can be a file (`eq_location_of_mem_way`).
* `WrittenAt` relates a file system to the one after a file was written, and `WrittenAt.place?_eq`
  says what this does to every path: those that lead to the file find it, all others lead to where
  they led.
-/

namespace InterfaceStub.FileSystem

namespace Place

/-- Where a path leads to. -/
def location : Place → Location
  | .found location _ | .vacant location => location

/-- What stands there. -/
def entry? : Place → Option Entry
  | .found _ entry => some entry
  | .vacant _ => none

/-- The place once a file is written at a location. -/
def rewrite (target : Location) (content : Content) (place : Place) : Place :=
  if place.location = target then .found target (.file content) else place

@[simp] theorem location_rewrite (target : Location) (content : Content) (place : Place) :
    (place.rewrite target content).location = place.location := by
  rw [rewrite]
  split
  · rename_i h
    exact h.symm
  · rfl

end Place

variable {files other : FileSystem} {followLast : Bool} {links : Nat} {here : Location}
  {step : Step} {name : Name} {path : String} {target : RawText} {entry : Entry}
  {steps rest : List Step} {place : Place}

/-! ## One step -/

theorem follow_of_ne (h : files.get? here ≠ some .directory) :
    files.follow followLast links here (step :: rest) = .error .notDirectory := by
  rw [follow.eq_def]
  exact if_pos h

theorem follow_top (h : files.get? here = some .directory) :
    files.follow followLast links here (.top :: rest) = files.follow followLast links [] rest := by
  rw [follow, if_neg (not_not_intro h)]

theorem follow_stay (h : files.get? here = some .directory) :
    files.follow followLast links here (.stay :: rest) =
      files.follow followLast links here rest := by
  rw [follow, if_neg (not_not_intro h)]

theorem follow_up (h : files.get? here = some .directory) :
    files.follow followLast links here (.up :: rest) =
      files.follow followLast links here.dropLast rest := by
  rw [follow, if_neg (not_not_intro h)]

theorem follow_vacant (h : files.get? here = some .directory)
    (hname : files.get? (here ++ [name]) = none) :
    files.follow followLast links here (.name name :: rest) =
      if rest.isEmpty then .ok (.vacant (here ++ [name])) else .error .notFound := by
  rw [follow, if_neg (not_not_intro h), hname]

theorem follow_entry (h : files.get? here = some .directory)
    (hname : files.get? (here ++ [name]) = some entry) (hlink : ∀ target, entry ≠ .link target) :
    files.follow followLast links here (.name name :: rest) =
      files.follow followLast links (here ++ [name]) rest := by
  rw [follow, if_neg (not_not_intro h), hname]
  cases entry with
  | link target => exact absurd rfl (hlink target)
  | file | directory => rfl

theorem follow_link (h : files.get? here = some .directory)
    (hname : files.get? (here ++ [name]) = some (.link target)) :
    files.follow followLast links here (.name name :: rest) =
      if rest.isEmpty && !followLast then .ok (.found (here ++ [name]) (.link target))
      else
        match links, stepsOf target with
        | 0, _ => .error .tooManyLinks
        | _, .error error => .error error
        | links + 1, .ok steps => files.follow followLast links here (steps ++ rest) := by
  rewrite [follow, if_neg (not_not_intro h), hname]
  rfl

/-- What is found stands there, and a vacant place is vacant. -/
theorem get?_of_follow (h : files.follow followLast links here steps = .ok place) :
    files.get? place.location = place.entry? := by
  fun_induction follow files followLast links here steps with
  | case1 | case7 | case9 =>
    cases h
    assumption
  | case2 | case3 | case8 | case10 | case11 => cases h
  | case4 _ _ _ _ ih | case5 _ _ _ _ ih | case6 _ _ _ _ ih | case12 _ _ _ _ _ _ _ _ _ _ ih
  | case13 _ _ _ _ _ _ _ _ ih => exact ih h

/-- A link at the end that is not followed is where the way ends. -/
theorem follow_false :
    files.follow false links here steps = files.follow true links here steps ∨
      ∃ location target,
        files.follow false links here steps = .ok (.found location (.link target)) := by
  fun_induction follow files true links here steps with
  | case1 | case2 => exact .inl (by rw [follow]; simp [*])
  | case3 _ _ _ _ hne => exact .inl (follow_of_ne hne)
  | case4 _ _ _ hhere ih => simpa [follow_top (Decidable.not_not.1 hhere)] using ih
  | case5 _ _ _ hhere ih => simpa [follow_stay (Decidable.not_not.1 hhere)] using ih
  | case6 _ _ _ hhere ih => simpa [follow_up (Decidable.not_not.1 hhere)] using ih
  | case7 _ _ _ hhere _ hname hrest | case8 _ _ _ hhere _ hname hrest =>
    exact .inl (by simp [follow_vacant (Decidable.not_not.1 hhere) hname, hrest])
  | case9 => simp_all
  | case10 _ rest hhere _ _ hlink | case11 _ _ rest hhere _ _ hlink
  | case12 _ rest hhere _ _ hlink =>
    -- Only a link that comes last makes a difference.
    rw [follow_link (Decidable.not_not.1 hhere) hlink]
    cases rest with
    | nil => exact .inr ⟨_, _, rfl⟩
    | cons => simp_all
  | case13 _ _ _ hhere _ _ hlink hentry ih =>
    simpa [follow_entry (Decidable.not_not.1 hhere) hentry hlink] using ih

/-! ## What is looked up -/

/-- The locations that are looked up along some steps. -/
def visited (files : FileSystem) (followLast : Bool) (links : Nat) (here : Location) :
    List Step → List Location
  | [] => [here]
  | step :: rest =>
    here ::
      if files.get? here ≠ some .directory then []
      else
        match step with
        | .top => visited files followLast links [] rest
        | .stay => visited files followLast links here rest
        | .up => visited files followLast links here.dropLast rest
        | .name name =>
          (here ++ [name]) ::
            match files.get? (here ++ [name]) with
            | none => []
            | some (.link target) =>
              if rest.isEmpty && !followLast then []
              else
                match links, stepsOf target with
                | 0, _ => []
                | _, .error _ => []
                | links + 1, .ok steps => visited files followLast links here (steps ++ rest)
            | some _ => visited files followLast links (here ++ [name]) rest
termination_by steps => (links, steps.length)

theorem visited_of_ne (h : files.get? here ≠ some .directory) :
    files.visited followLast links here (step :: rest) = [here] := by
  rw [visited.eq_def]
  exact congrArg _ (if_pos h)

theorem mem_visited_start : here ∈ files.visited followLast links here steps := by
  cases steps <;> rw [visited.eq_def] <;> exact List.mem_cons_self

/-- The two ways look alike at every step, so they go on alike. -/
theorem follow_congr
    (h : ∀ location ∈ files.visited followLast links here steps,
      other.get? location = files.get? location) :
    other.follow followLast links here steps = files.follow followLast links here steps := by
  fun_induction follow files followLast links here steps with
  | case3 _ _ _ _ hne => exact follow_of_ne (h _ mem_visited_start ▸ hne)
  | _ => simp_all [visited, follow]

/-- Less is looked up when a link at the end is not followed. -/
theorem visited_subset :
    files.visited false links here steps ⊆ files.visited true links here steps := by
  fun_induction follow files false links here steps with
  | case3 _ _ _ _ hne =>
    rw [visited_of_ne hne, visited_of_ne hne]
    exact List.Subset.refl _
  | _ => simp_all [visited]

/-- On the way there are directories and links, and only its end can be anything else. -/
theorem eq_location_of_mem_visited (h : files.follow followLast links here steps = .ok place)
    {location : Location} (hmem : location ∈ files.visited followLast links here steps) :
    location = place.location ∨ files.get? location = some .directory ∨
      ∃ target, files.get? location = some (.link target) := by
  fun_induction follow files followLast links here steps with
  | case1 =>
    cases h
    exact .inl (by rwa [visited, List.mem_singleton] at hmem)
  | case2 | case3 | case8 | case10 | case11 => cases h
  | case4 _ _ _ hhere ih | case5 _ _ _ hhere ih | case6 _ _ _ hhere ih =>
    rw [visited, if_neg hhere] at hmem
    obtain rfl | hmem := List.mem_cons.1 hmem
    · exact .inr (.inl (Decidable.not_not.1 hhere))
    · exact ih h hmem
  | case7 _ _ _ hhere _ hname =>
    cases h
    simp only [visited, if_neg hhere, hname, List.mem_cons, List.not_mem_nil, or_false] at hmem
    obtain rfl | rfl := hmem
    · exact .inr (.inl (Decidable.not_not.1 hhere))
    · exact .inl rfl
  | case9 _ _ _ hhere _ _ hname hrest =>
    cases h
    simp only [visited, if_neg hhere, hname, if_pos hrest, List.mem_cons, List.not_mem_nil,
      or_false] at hmem
    obtain rfl | rfl := hmem
    · exact .inr (.inl (Decidable.not_not.1 hhere))
    · exact .inl rfl
  | case12 _ _ hhere _ _ hname hrest _ _ hsteps ih =>
    simp only [visited, if_neg hhere, hname, if_neg hrest, hsteps, List.mem_cons] at hmem
    obtain rfl | rfl | hmem := hmem
    · exact .inr (.inl (Decidable.not_not.1 hhere))
    · exact .inr (.inr ⟨_, hname⟩)
    · exact ih h hmem
  | case13 _ _ _ hhere _ _ _ hname ih =>
    simp only [visited, if_neg hhere, hname, List.mem_cons] at hmem
    obtain rfl | rfl | hmem := hmem
    · exact .inr (.inl (Decidable.not_not.1 hhere))
    · exact ih h mem_visited_start
    · exact ih h hmem

/-- The end of the way is looked up. -/
theorem location_mem_visited (h : files.follow followLast links here steps = .ok place) :
    place.location ∈ files.visited followLast links here steps := by
  fun_induction follow files followLast links here steps with
  | case1 | case7 | case9 =>
    cases h
    simp_all [visited, Place.location]
  | case2 | case3 | case8 | case10 | case11 => cases h
  | case4 _ _ _ hhere ih | case5 _ _ _ hhere ih | case6 _ _ _ hhere ih =>
    rw [visited, if_neg hhere]
    exact List.mem_cons_of_mem _ (ih h)
  | case12 _ _ hhere _ _ hname hrest _ _ hsteps ih =>
    simp only [visited, if_neg hhere, hname, if_neg hrest, hsteps]
    exact List.mem_cons_of_mem _ (List.mem_cons_of_mem _ (ih h))
  | case13 _ _ _ hhere _ _ _ hname ih =>
    simp only [visited, if_neg hhere, hname]
    exact List.mem_cons_of_mem _ (List.mem_cons_of_mem _ (ih h))

/-! ## Writing a file -/

/-- Every location on the way down to a location holds something. -/
def Reached (files : FileSystem) (location : Location) : Prop :=
  ∀ above, above <+: location → files.get? above ≠ none

theorem reached_start : files.Reached files.start := by
  intro above habove
  simp [get?_above_start habove]

theorem reached_nil : files.Reached [] :=
  fun above habove => reached_start above (habove.trans List.nil_prefix)

theorem Reached.dropLast (h : files.Reached here) : files.Reached here.dropLast :=
  fun above habove => h above (habove.trans here.dropLast_prefix)

theorem Reached.append (h : files.Reached here) (hname : files.get? (here ++ [name]) = some entry) :
    files.Reached (here ++ [name]) := by
  intro above habove
  obtain rfl | habove := List.prefix_concat_iff.1 habove
  · simp [hname]
  · exact h above habove

/-- `other` is `files` with a file written where nothing or a file stood. -/
structure WrittenAt (files : FileSystem) (target : Location) (content : Content)
    (other : FileSystem) : Prop where
  start : other.start = files.start
  before : files.get? target = none ∨ ∃ old, files.get? target = some (.file old)
  written : other.get? target = some (.file content)
  kept : ∀ location, location ≠ target → other.get? location = files.get? location

namespace WrittenAt

variable {target location : Location} {content : Content}

theorem of_insert (h : files.get? target = none ∨ ∃ old, files.get? target = some (.file old)) :
    files.WrittenAt target content (files.insert target (.file content)) := by
  have htarget : ¬ target <+: files.start := by
    refine not_prefix_start fun hdirectory => ?_
    simp [hdirectory] at h
  refine ⟨rfl, h, ?_, fun location hne => ?_⟩
  · rw [get?_insert htarget, if_pos rfl]
  · rw [get?_insert htarget, if_neg hne]

theorem ne_of_get? (h : files.WrittenAt target content other)
    (hentry : files.get? location = some entry) (hfile : ∀ old, entry ≠ .file old) :
    location ≠ target := by
  rintro rfl
  obtain hnone | ⟨old, hold⟩ := h.before
  · simp [hnone] at hentry
  · exact hfile old (Option.some.inj (hentry.symm.trans hold))

theorem get?_directory_iff (h : files.WrittenAt target content other) :
    other.get? location = some .directory ↔ files.get? location = some .directory := by
  by_cases heq : location = target
  · subst heq
    obtain hnone | ⟨old, hold⟩ := h.before <;> simp [h.written, *]
  · rw [h.kept location heq]

theorem get?_link {path : RawText} (h : files.WrittenAt target content other)
    (hlink : files.get? location = some (.link path)) :
    other.get? location = some (.link path) := by
  rw [h.kept location (h.ne_of_get? hlink (by simp)), hlink]

theorem toOption_follow (h : files.WrittenAt target content other) (hhere : files.Reached here) :
    (other.follow followLast links here steps).toOption =
      (files.follow followLast links here steps).toOption.map (.rewrite target content) := by
  fun_induction follow files followLast links here steps with
  | case1 _ here entry hentry =>
    by_cases heq : here = target
    · simp [follow, heq, h.written, Place.rewrite, Place.location, Except.toOption]
    · simp [follow, heq, h.kept, hentry, Place.rewrite, Place.location, Except.toOption]
  | case2 _ here hnone => exact absurd hnone (hhere here (List.prefix_refl here))
  | case3 _ _ _ _ hne =>
    rw [follow_of_ne fun hdirectory => hne (h.get?_directory_iff.1 hdirectory)]
    rfl
  | case4 _ _ _ hdirectory ih =>
    rw [follow_top (h.get?_directory_iff.2 (Decidable.not_not.1 hdirectory))]
    exact ih reached_nil
  | case5 _ _ _ hdirectory ih =>
    rw [follow_stay (h.get?_directory_iff.2 (Decidable.not_not.1 hdirectory))]
    exact ih hhere
  | case6 _ _ _ hdirectory ih =>
    rw [follow_up (h.get?_directory_iff.2 (Decidable.not_not.1 hdirectory))]
    exact ih hhere.dropLast
  | case7 _ here rest hdirectory name hname hrest =>
    have hdirectory := h.get?_directory_iff.2 (Decidable.not_not.1 hdirectory)
    have hrest : rest = [] := List.isEmpty_iff.1 hrest
    by_cases heq : here ++ [name] = target
    · -- The place that was vacant is the one that is written to.
      rw [follow_entry hdirectory (heq ▸ h.written) (by simp), hrest]
      simp [follow, heq, h.written, Place.rewrite, Place.location, Except.toOption]
    · rw [follow_vacant hdirectory ((h.kept _ heq).trans hname)]
      simp [hrest, heq, Place.rewrite, Place.location, Except.toOption]
  | case8 _ here rest hdirectory name hname hrest =>
    have hdirectory := h.get?_directory_iff.2 (Decidable.not_not.1 hdirectory)
    by_cases heq : here ++ [name] = target
    · -- A way that ended because nothing was there now ends because a file is.
      rw [follow_entry hdirectory (heq ▸ h.written) (by simp)]
      cases rest with
      | nil => exact absurd rfl hrest
      | cons => rw [follow_of_ne (by simp [heq, h.written])]; rfl
    · rw [follow_vacant hdirectory ((h.kept _ heq).trans hname), if_neg hrest]
      rfl
  | case9 _ _ _ hdirectory _ _ hname hrest =>
    have hdirectory := h.get?_directory_iff.2 (Decidable.not_not.1 hdirectory)
    have hne := h.ne_of_get? hname (by simp)
    rw [follow_link hdirectory (h.get?_link hname), if_pos hrest]
    simp [hne, Place.rewrite, Place.location, Except.toOption]
  | case10 _ _ hdirectory _ _ hname hrest | case11 _ _ _ hdirectory _ _ hname hrest =>
    have hdirectory := h.get?_directory_iff.2 (Decidable.not_not.1 hdirectory)
    rw [follow_link hdirectory (h.get?_link hname), if_neg hrest]
    simp [*, Except.toOption]
  | case12 _ _ hdirectory _ _ hname hrest _ _ hsteps ih =>
    have hdirectory := h.get?_directory_iff.2 (Decidable.not_not.1 hdirectory)
    rw [follow_link hdirectory (h.get?_link hname), if_neg hrest, hsteps]
    exact ih hhere
  | case13 _ here _ hdirectory name entry hlink hname ih =>
    have hdirectory := h.get?_directory_iff.2 (Decidable.not_not.1 hdirectory)
    have ih := ih (hhere.append hname)
    by_cases heq : here ++ [name] = target
    · rwa [follow_entry hdirectory (heq ▸ h.written) (by simp)]
    · rwa [follow_entry hdirectory ((h.kept _ heq).trans hname) hlink]

end WrittenAt

/-! ## Paths -/

/-- The locations that are looked up along a path. -/
def way (files : FileSystem) (path : String) : List Location :=
  match stepsOf path with
  | .error _ => []
  | .ok steps => files.visited true maxLinks files.start steps

/-- What a path leads to, if to anything. -/
def place? (files : FileSystem) (path : String) (followLast : Bool := true) : Option Place :=
  (files.resolve path followLast).toOption

theorem place?_eq_some_iff :
    files.place? path followLast = some place ↔ files.resolve path followLast = .ok place := by
  rw [place?]
  cases files.resolve path followLast <;> simp [Except.toOption]

theorem resolve_eq_of_stepsOf (h : stepsOf path = .ok steps) :
    files.resolve path followLast = files.follow followLast maxLinks files.start steps := by
  rw [resolve, resolveFrom, h]
  rfl

theorem resolve_eq_of_error {error : FileError} (h : stepsOf path = .error error) :
    files.resolve path followLast = .error error := by
  rw [resolve, resolveFrom, h]
  rfl

/-- A path that is only a name leads to the file of this name. -/
theorem resolve_name {content : Content} (hsteps : stepsOf path = .ok [.name name])
    (hname : files.get? (files.start ++ [name]) = some (.file content)) :
    files.resolve path followLast = .ok (.found (files.start ++ [name]) (.file content)) := by
  rw [resolve_eq_of_stepsOf hsteps, follow_entry (get?_start files) hname (by simp)]
  simp [follow, hname]

theorem resolve_name_vacant (hsteps : stepsOf path = .ok [.name name])
    (hname : files.get? (files.start ++ [name]) = none) :
    files.resolve path followLast = .ok (.vacant (files.start ++ [name])) := by
  rw [resolve_eq_of_stepsOf hsteps, follow_vacant (get?_start files) hname]
  rfl

/-- A first step that stays in place makes no difference. -/
theorem resolve_stay {path' : String} (hstay : stepsOf path = .ok (.stay :: steps))
    (hsteps : stepsOf path' = .ok steps) :
    files.resolve path followLast = files.resolve path' followLast := by
  rw [resolve_eq_of_stepsOf hstay, resolve_eq_of_stepsOf hsteps,
    follow_stay (get?_start files)]

/-- The names on the way to the working directory lead there. -/
theorem follow_to_start {names : List Name} (h : here ++ names = files.start) :
    files.follow followLast links here (names.map .name ++ steps) =
      files.follow followLast links files.start steps := by
  induction names generalizing here with
  | nil => rw [← h, List.append_nil, List.map_nil, List.nil_append]
  | cons name names ih =>
    have hnext : here ++ [name] ++ names = files.start := by simpa using h
    have hhere := get?_above_start (h ▸ List.prefix_append here _)
    have hname := get?_above_start (hnext ▸ List.prefix_append (here ++ [name]) _)
    rw [List.map_cons, List.cons_append, follow_entry hhere hname (by simp), ih hnext]

/-- An absolute path that goes through the working directory leads to what the rest of it leads
to. -/
theorem resolve_absolute {path' : String}
    (habsolute : stepsOf path = .ok (.top :: (files.start.map .name ++ steps)))
    (hsteps : stepsOf path' = .ok steps) :
    files.resolve path followLast = files.resolve path' followLast := by
  rw [resolve_eq_of_stepsOf habsolute, resolve_eq_of_stepsOf hsteps, follow_top (get?_start files),
    follow_to_start (List.nil_append _)]

theorem resolve_congr (hstart : other.start = files.start)
    (h : ∀ location ∈ files.way path, other.get? location = files.get? location) :
    other.resolve path followLast = files.resolve path followLast := by
  cases hsteps : stepsOf path with
  | error error => rw [resolve_eq_of_error hsteps, resolve_eq_of_error hsteps]
  | ok steps =>
    rw [resolve_eq_of_stepsOf hsteps, resolve_eq_of_stepsOf hsteps, hstart]
    simp only [way, hsteps] at h
    cases followLast with
    | false => exact follow_congr fun location hmem => h location (visited_subset hmem)
    | true => exact follow_congr h

theorem follow_of_resolve (h : files.resolve path followLast = .ok place) :
    ∃ steps, stepsOf path = .ok steps ∧
      files.follow followLast maxLinks files.start steps = .ok place := by
  cases hsteps : stepsOf path with
  | error error => simp [resolve_eq_of_error hsteps] at h
  | ok steps => exact ⟨steps, rfl, resolve_eq_of_stepsOf hsteps ▸ h⟩

theorem get?_of_resolve (h : files.resolve path followLast = .ok place) :
    files.get? place.location = place.entry? := by
  obtain ⟨steps, -, hfollow⟩ := follow_of_resolve h
  exact get?_of_follow hfollow

/-- Along a path that is only a name nothing else is looked up. -/
theorem way_name_vacant (hsteps : stepsOf path = .ok [.name name])
    (hname : files.get? (files.start ++ [name]) = none) :
    files.way path = [files.start, files.start ++ [name]] := by
  simp only [way, hsteps, visited, get?_start, hname, ne_eq, not_true_eq_false, if_false]

theorem location_mem_way (h : files.resolve path = .ok place) :
    place.location ∈ files.way path := by
  obtain ⟨steps, hsteps, hfollow⟩ := follow_of_resolve h
  simpa only [way, hsteps] using location_mem_visited hfollow

theorem eq_location_of_mem_way (h : files.resolve path = .ok place) {location : Location}
    (hmem : location ∈ files.way path) :
    location = place.location ∨ files.get? location = some .directory ∨
      ∃ target, files.get? location = some (.link target) := by
  obtain ⟨steps, hsteps, hfollow⟩ := follow_of_resolve h
  simp only [way, hsteps] at hmem
  exact eq_location_of_mem_visited hfollow hmem

theorem resolve_false :
    files.resolve path false = files.resolve path ∨
      ∃ location target, files.resolve path false = .ok (.found location (.link target)) := by
  cases hsteps : stepsOf path with
  | error error => exact .inl (by rw [resolve_eq_of_error hsteps, resolve_eq_of_error hsteps])
  | ok steps => simpa only [resolve_eq_of_stepsOf hsteps] using follow_false

theorem resolve_false_of_found {location : Location}
    (h : files.resolve path = .ok (.found location entry)) :
    ∃ location entry, files.resolve path false = .ok (.found location entry) := by
  obtain heq | ⟨location, target, hlink⟩ := @resolve_false files path
  · exact ⟨location, entry, heq.trans h⟩
  · exact ⟨location, .link target, hlink⟩

/-- A path that leads to no link if a last link is not followed leads there if it is. -/
theorem resolve_of_not_link {place : Place} (h : files.resolve path false = .ok place)
    (hplace : ∀ target, place.entry? ≠ some (.link target)) : files.resolve path = .ok place := by
  obtain heq | ⟨_, target, hlink⟩ := @resolve_false files path
  · exact heq ▸ h
  · rw [h] at hlink
    cases hlink
    exact absurd rfl (hplace target)

/-- The paths that lead to what is written find it; all others lead to where they led.  Of a path
that led nowhere only the reason can change. -/
theorem WrittenAt.place?_eq {target : Location} {content : Content}
    (h : files.WrittenAt target content other) :
    other.place? path followLast =
      (files.place? path followLast).map (.rewrite target content) := by
  rw [place?, place?]
  cases hsteps : stepsOf path with
  | error error =>
    rw [resolve_eq_of_error hsteps, resolve_eq_of_error hsteps]
    rfl
  | ok steps =>
    rw [resolve_eq_of_stepsOf hsteps, resolve_eq_of_stepsOf hsteps, h.start]
    exact h.toOption_follow reached_start

/-- A path leads to a place elsewhere exactly if it did so before. -/
theorem WrittenAt.place?_eq_some_iff_of_ne {target : Location} {content : Content}
    (h : files.WrittenAt target content other) (hplace : place.location ≠ target) :
    other.place? path followLast = some place ↔ files.place? path followLast = some place := by
  rw [h.place?_eq, Option.map_eq_some_iff]
  constructor
  · rintro ⟨old, hold, rfl⟩
    rw [Place.location_rewrite] at hplace
    rwa [Place.rewrite, if_neg hplace]
  · intro hold
    exact ⟨place, hold, if_neg hplace⟩

/-- What paths lead to stays when a file is written where nothing stood. -/
theorem WrittenAt.resolve_of_found {target location : Location} {content : Content}
    (h : files.WrittenAt target content other) (hvacant : files.get? target = none)
    (hfound : files.resolve path followLast = .ok (.found location entry)) :
    other.resolve path followLast = .ok (.found location entry) := by
  have hget := get?_of_resolve hfound
  rw [← place?_eq_some_iff] at hfound ⊢
  refine (h.place?_eq_some_iff_of_ne ?_).2 hfound
  rintro rfl
  simp [hvacant, Place.entry?] at hget

theorem WrittenAt.resolve_eq {target : Location} {content : Content}
    (h : files.WrittenAt target content other) (hplace : files.resolve path followLast = .ok place)
    (htarget : place.location = target) :
    other.resolve path followLast = .ok (.found target (.file content)) := by
  rw [← place?_eq_some_iff, h.place?_eq, place?_eq_some_iff.2 hplace, Option.map_some,
    Place.rewrite, if_pos htarget]

theorem pathExists_iff :
    files.pathExists path = true ↔
      ∃ location entry, files.resolve path = .ok (.found location entry) := by
  rw [pathExists]
  rcases files.resolve path with _ | (_ | _) <;> simp

theorem directoryAt?_eq_some_iff {location : Location} :
    files.directoryAt? path = some location ↔
      files.resolve path = .ok (.found location .directory) := by
  rw [directoryAt?]
  rcases files.resolve path with _ | (⟨_, _ | _ | _⟩ | _) <;> simp

theorem read_eq_ok_iff {text : String} :
    files.read path = .ok text ↔
      ∃ location, files.resolve path = .ok (.found location (.file (.text text))) := by
  rw [read]
  rcases files.resolve path with _ | (⟨_, (_ | _) | _ | _⟩ | _) <;>
    simp [bind, Except.bind, Place.text]

theorem read_name {text : String} (hsteps : stepsOf path = .ok [.name name])
    (hname : files.get? (files.start ++ [name]) = some (.file (.text text))) :
    files.read path = .ok text :=
  read_eq_ok_iff.2 ⟨_, resolve_name hsteps hname⟩

end InterfaceStub.FileSystem
