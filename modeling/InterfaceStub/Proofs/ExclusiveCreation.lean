import Mathlib.Data.Set.Card
import InterfaceStub.Proofs.FileWrites
import InterfaceStub.Proofs.Interleaving

/-!
# Stubs that are not replaced

When stubs are not to be replaced, whether a stub is in the way is looked at twice: before its
source is read, and again when the stub is written.  Between the two another conversion can write
the stub.  Only the second look keeps what is there.

* `Keeps` says that paths lead to what they led to.  Every step keeps this (`keeps_of_step`).
* `Creates` describes the files after any number of steps: those of the start, and one new file for
  each conversion that succeeded, which holds the stub of its source.  `creates_of_run` is the run
  lemma.
* `run_without_overwrite` is the result.
-/

namespace InterfaceStub

open FileSystem

variable {env : Environment} {files other : FileSystem} {pool next final : Pool}
  {path : String} {location : Location}

/-! ## What paths lead to -/

/-- Every path that leads to something still leads there. -/
def FileSystem.Keeps (files other : FileSystem) : Prop :=
  ∀ ⦃path followLast location entry⦄,
    files.resolve path followLast = .ok (.found location entry) →
      other.resolve path followLast = .ok (.found location entry)

namespace FileSystem.Keeps

theorem refl (files : FileSystem) : files.Keeps files :=
  fun _ _ _ _ h => h

theorem trans {third : FileSystem} (h : files.Keeps other) (hthird : other.Keeps third) :
    files.Keeps third :=
  fun _ _ _ _ hfound => hthird (h hfound)

theorem pathExists (h : files.Keeps other) (hpath : files.pathExists path = true) :
    other.pathExists path = true := by
  obtain ⟨location, entry, hfound⟩ := pathExists_iff.1 hpath
  exact pathExists_iff.2 ⟨location, entry, h hfound⟩

theorem read {text : String} (h : files.Keeps other) (hpath : files.read path = .ok text) :
    other.read path = .ok text := by
  obtain ⟨location, hfound⟩ := read_eq_ok_iff.1 hpath
  exact read_eq_ok_iff.2 ⟨location, h hfound⟩

end FileSystem.Keeps

namespace Environment

/-- A stub that is not to replace anything is written where nothing stands. -/
theorem resolve_of_target_of_not_overwrite (henv : env.settings.scan.overwrite = false)
    (h : env.target files path = .ok location) :
    files.resolve (Path.stubOf path) false = .ok (.vacant location) := by
  obtain ⟨place, hplace, hrefusal, rfl⟩ := target_eq_ok_iff.1 h
  rw [henv] at hplace
  cases place with
  | vacant => exact hplace
  | found => simp [refusal?, henv] at hrefusal

/-- A stub that can be found is not written. -/
theorem target_of_pathExists (henv : env.settings.scan.overwrite = false)
    (h : files.pathExists (Path.stubOf path) = true) : env.target files path = .error .exists := by
  obtain ⟨_, _, hfound⟩ := pathExists_iff.1 h
  obtain ⟨location, entry, hfound⟩ := resolve_false_of_found hfound
  rw [target, henv, hfound]
  simp [bind, Except.bind, refusal?, henv]

theorem clear_of_pathExists (henv : env.settings.scan.overwrite = false)
    (hparser : env.parser ≠ none) (h : files.pathExists (Path.stubOf path) = true) :
    env.clear files path = .error (.targetExists (Path.stubOf path)) := by
  rw [clear, if_neg (by simpa using hparser), henv, h]
  rfl

end Environment

namespace Pool

variable {index : Nat} {schedule : List Nat}

theorem keeps_of_step (henv : env.settings.scan.overwrite = false)
    (h : pool.step env index = some next) : pool.files.Keeps next.files := by
  obtain ⟨before, path, stage, after, shared, following, hjobs, -, hadvances, rfl⟩ := step_eq_some h
  cases hadvances with
  | write htarget =>
    have hvacant := env.resolve_of_target_of_not_overwrite henv htarget
    exact fun _ _ _ _ =>
      (env.writtenAt_of_target htarget _).resolve_of_found (get?_of_resolve hvacant)
  | _ => exact .refl _

theorem keeps_of_run (henv : env.settings.scan.overwrite = false)
    (h : pool.run env schedule = some final) : pool.files.Keeps final.files := by
  refine run_invariant (P := fun next => pool.files.Keeps next.files) ?_ h (.refl _)
  exact fun _ _ _ hstep hkeeps => hkeeps.trans (keeps_of_step henv hstep)

end Pool

/-! ## What is created -/

/-- A conversion that wrote its stub. -/
structure Creation where
  path : String
  /-- Where the stub was written. -/
  location : Location
  source : String
  conversion : Conversion

namespace Creation

/-- What was written. -/
def write (creation : Creation) : Location × Content :=
  (creation.location, .text creation.conversion.text)

/-- The stub of the source is there, and so is the source. -/
structure Holds (env : Environment) (files : FileSystem) (creation : Creation) : Prop where
  stub : files.resolve (Path.stubOf creation.path) false =
    .ok (.found creation.location (.file (.text creation.conversion.text)))
  source : files.read creation.path = .ok creation.source
  convert : env.convert creation.path creation.source = .ok creation.conversion

theorem Holds.mono {creation : Creation} (h : creation.Holds env files)
    (hkeeps : files.Keeps other) : creation.Holds env other :=
  ⟨hkeeps h.stub, hkeeps.read h.source, h.convert⟩

end Creation

/-- The files of a pool are those of the start and what its conversions have created. -/
structure Creates (env : Environment) (files : FileSystem) (pool : Pool) (made : List Creation) :
    Prop where
  files_eq : pool.files = files.insertAll (made.map Creation.write)
  fresh : ∀ creation ∈ made, files.get? creation.location = none
  nodup : (made.map Creation.location).Nodup
  paths : (made.map Creation.path).Perm ((pool.jobs.filter Job.isConverted).map Job.path)
  holds : ∀ creation ∈ made, creation.Holds env pool.files
  /-- What is yet to be written was made of a source that is there. -/
  pending : ∀ job ∈ pool.jobs, ∀ conversion, job.stage.conversion? = some conversion →
    ∃ source, pool.files.read job.path = .ok source ∧
      env.convert job.path source = .ok conversion

namespace Creates

variable {made : List Creation} {before after : List Job} {shared : Shared}
  {stage following : Stage}

theorem start (env : Environment) (state : RunState) (paths : List String) :
    Creates env state.files (.start state paths) [] where
  files_eq := rfl
  fresh := by simp
  nodup := .nil
  paths := by simp [Pool.start, Job.isConverted]
  holds := by simp
  pending := by simp [Pool.start, Stage.conversion?]

/-- A step that writes no stub. -/
theorem quiet (h : Creates env files pool made)
    (hjobs : pool.jobs = before ++ ⟨path, stage⟩ :: after) (hfiles : shared.files = pool.files)
    (hstage : Job.isConverted ⟨path, stage⟩ = false)
    (hfollowing : Job.isConverted ⟨path, following⟩ = false)
    (hpending : ∀ conversion, following.conversion? = some conversion →
      stage.conversion? = some conversion ∨ env.render pool.files path = .ok conversion) :
    Creates env files ⟨shared, before ++ ⟨path, following⟩ :: after⟩ made where
  files_eq := hfiles.trans h.files_eq
  fresh := h.fresh
  nodup := h.nodup
  paths := by
    simpa [hjobs, List.filter_append, List.filter_cons, hstage, hfollowing] using h.paths
  holds := by
    rw [Pool.files, hfiles]
    exact h.holds
  pending := by
    have hold := h.pending
    rw [Pool.files, hfiles]
    rw [hjobs] at hold
    simp only [List.forall_mem_append, List.forall_mem_cons] at hold ⊢
    refine ⟨hold.1, fun conversion hconversion => ?_, hold.2.2⟩
    obtain hconversion | hrender := hpending conversion hconversion
    · exact hold.2.1 conversion hconversion
    · exact Environment.render_eq_ok hrender

theorem get?_of_mem (h : Creates env files pool made) {creation : Creation}
    (hmem : creation ∈ made) :
    pool.files.get? creation.location = some (.file (.text creation.conversion.text)) :=
  get?_of_resolve (h.holds creation hmem).stub

theorem get?_of_not_mem (h : Creates env files pool made)
    (hlocation : location ∉ made.map Creation.location) :
    pool.files.get? location = files.get? location := by
  rw [h.files_eq, get?_insertAll_of_not_mem]
  rwa [List.map_map]

theorem get?_of_get? (h : Creates env files pool made) {entry : Entry}
    (hentry : files.get? location = some entry) : pool.files.get? location = some entry := by
  rw [h.get?_of_not_mem, hentry]
  intro hmem
  obtain ⟨creation, hcreation, rfl⟩ := List.mem_map.1 hmem
  simp [h.fresh creation hcreation] at hentry

/-- The step that writes a stub. -/
theorem write (henv : env.settings.scan.overwrite = false) (h : Creates env files pool made)
    {conversion : Conversion}
    (hjobs : pool.jobs = before ++ ⟨path, .reported conversion⟩ :: after)
    (htarget : env.target pool.files path = .ok location) :
    let files' := pool.files.insert location (.file (.text conversion.text))
    ∃ creation, Creates env files
      ⟨{ pool.shared with files := files' },
        before ++ ⟨path, .finished (.ok (Path.stubOf path))⟩ :: after⟩
      (made ++ [creation]) := by
  intro files'
  have hpending := h.pending
  rw [hjobs] at hpending
  simp only [List.forall_mem_append, List.forall_mem_cons] at hpending
  obtain ⟨source, hread, hconvert⟩ := hpending.2.1 conversion rfl
  have hvacant := env.resolve_of_target_of_not_overwrite henv htarget
  have hnone : pool.files.get? location = none := get?_of_resolve hvacant
  have hwritten := env.writtenAt_of_target htarget (.text conversion.text)
  have hkeeps : pool.files.Keeps files' :=
    fun _ _ _ _ => hwritten.resolve_of_found hnone
  refine ⟨⟨path, location, source, conversion⟩, ?_, ?_, ?_, ?_, ?_, ?_⟩
  · rw [List.map_append, insertAll_append, ← h.files_eq]
    rfl
  · refine List.forall_mem_append.2 ⟨h.fresh, List.forall_mem_singleton.2 ?_⟩
    by_contra hsome
    obtain ⟨entry, hentry⟩ := Option.ne_none_iff_exists'.1 hsome
    simp [h.get?_of_get? hentry] at hnone
  · rw [List.map_append, List.nodup_append']
    refine ⟨h.nodup, by simp, ?_⟩
    rw [List.map_singleton, List.disjoint_singleton]
    intro hmem
    obtain ⟨creation, hcreation, rfl⟩ := List.mem_map.1 hmem
    simp [h.get?_of_mem hcreation] at hnone
  · have hold := h.paths
    simp only [hjobs, List.filter_append, List.filter_cons, List.map_append, Job.isConverted,
      if_true, List.map_cons] at hold ⊢
    exact (hold.append_right [path]).trans
      ((List.perm_append_singleton ..).trans List.perm_middle.symm)
  · refine List.forall_mem_append.2 ⟨fun creation hmem => (h.holds creation hmem).mono hkeeps,
      List.forall_mem_singleton.2 ⟨?_, hkeeps.read hread, hconvert⟩⟩
    exact hwritten.resolve_eq hvacant rfl
  · have hkept (job : Job) (hmem : job ∈ before ∨ job ∈ after) :
        ∀ conversion, job.stage.conversion? = some conversion →
          ∃ source, files'.read job.path = .ok source ∧
            env.convert job.path source = .ok conversion := by
      intro conversion hconversion
      obtain ⟨source, hread, hconvert⟩ :=
        h.pending job (by rw [hjobs]; simp; tauto) conversion hconversion
      exact ⟨source, hkeeps.read hread, hconvert⟩
    simp only [List.forall_mem_append, List.forall_mem_cons]
    exact ⟨fun job hmem => hkept job (.inl hmem), by simp [Stage.conversion?],
      fun job hmem => hkept job (.inr hmem)⟩

/-- Every step goes from creations to creations. -/
theorem step (henv : env.settings.scan.overwrite = false) {index : Nat}
    (h : Creates env files pool made) (hstep : pool.step env index = some next) :
    ∃ made, Creates env files next made := by
  obtain ⟨before, path, stage, after, shared, following, hjobs, -, hadvances, rfl⟩ :=
    Pool.step_eq_some hstep
  cases hadvances with
  | write htarget =>
    obtain ⟨creation, hcreates⟩ := h.write henv hjobs htarget
    exact ⟨_, hcreates⟩
  | render hrender =>
    refine ⟨made, h.quiet hjobs rfl rfl rfl fun _ hconversion => .inr ?_⟩
    cases hconversion
    exact hrender
  | pass | count | lock | report | unlock =>
    exact ⟨made, h.quiet hjobs rfl rfl rfl fun _ => .inl⟩
  | blocked | clear | unread | unwritten =>
    exact ⟨made, h.quiet hjobs rfl rfl rfl fun _ hconversion => by cases hconversion⟩

end Creates

theorem creates_of_run (henv : env.settings.scan.overwrite = false) {state : RunState}
    {paths : List String} {schedule : List Nat}
    (hrun : (Pool.start state paths).run env schedule = some final) :
    ∃ made, Creates env state.files final made := by
  refine Pool.run_invariant (P := fun pool => ∃ made, Creates env state.files pool made) ?_ hrun
    ⟨[], .start env state paths⟩
  rintro pool index next hstep ⟨made, hmade⟩
  exact hmade.step henv hstep

/-! ## Conversions that come late -/

namespace Pool

variable {index : Nat} {job : Job} {schedule : List Nat}

/-- A conversion that looks for its stub, or comes to write it, when it is there, ends there.  One
without a parser does not look. -/
theorem getElem?_of_step_of_late (henv : env.settings.scan.overwrite = false)
    (h : pool.step env index = some next) (hjob : pool.jobs[index]? = some job)
    (hstage : job.stage = .waiting ∧ env.parser ≠ none ∨
      ∃ conversion, job.stage = .reported conversion)
    (hstub : pool.files.pathExists (Path.stubOf job.path) = true) :
    next.jobs[index]? =
      some ⟨job.path, .finished (.error (.targetExists (Path.stubOf job.path)))⟩ := by
  obtain ⟨before, path, stage, after, shared, following, hjobs, rfl, hadvances, rfl⟩ :=
    step_eq_some h
  rw [hjobs, List.getElem?_append_right le_rfl, Nat.sub_self] at hjob
  cases hjob
  have htarget : env.target pool.shared.files path = _ := env.target_of_pathExists henv hstub
  obtain ⟨rfl, hparser⟩ | ⟨conversion, rfl⟩ := hstage
  · have hclear : env.clear pool.shared.files path = _ :=
      env.clear_of_pathExists henv hparser hstub
    cases hadvances with
    | blocked hblocked =>
      rw [hclear] at hblocked
      cases hblocked
      simp
    | clear hfree => simp [hclear] at hfree
  · cases hadvances with
    | unwritten hunwritten =>
      rw [htarget] at hunwritten
      cases hunwritten
      simp [Environment.writeError]
    | write hwrite => simp [htarget] at hwrite

/-- A step that changes files is the last one of a conversion that succeeds. -/
theorem isConverted_of_step (h : pool.step env index = some next)
    (hfiles : next.files ≠ pool.files) :
    ∃ job result, next.jobs[index]? = some job ∧ job.stage = .finished (.ok result) := by
  obtain ⟨before, path, stage, after, shared, following, hjobs, rfl, hadvances, rfl⟩ :=
    step_eq_some h
  cases hadvances with
  | write => exact ⟨⟨path, .finished (.ok (Path.stubOf path))⟩, _, by simp, rfl⟩
  | _ => exact absurd rfl hfiles

end Pool

/-! ## The result -/

/-- The locations at which something stands that did not before. -/
def FileSystem.newLocations (files other : FileSystem) : Set Location :=
  {location | files.get? location = none ∧ other.get? location ≠ none}

theorem Creates.newLocations_eq {made : List Creation} (h : Creates env files pool made) :
    files.newLocations pool.files = {location | location ∈ made.map Creation.location} := by
  ext location
  constructor
  · rintro ⟨hnone, hsome⟩
    by_contra hmem
    exact hsome ((h.get?_of_not_mem hmem).trans hnone)
  · intro hmem
    obtain ⟨creation, hcreation, rfl⟩ := List.mem_map.1 hmem
    exact ⟨h.fresh creation hcreation, by simp [h.get?_of_mem hcreation]⟩

theorem Creates.ncard_newLocations {made : List Creation} (h : Creates env files pool made) :
    (files.newLocations pool.files).ncard = pool.jobs.countP Job.isConverted := by
  have hlength : made.length = (pool.jobs.filter Job.isConverted).length := by
    simpa using h.paths.length_eq
  have hset : files.newLocations pool.files = ↑(made.map Creation.location).toFinset := by
    rw [h.newLocations_eq, List.coe_toFinset]
  rw [hset, Set.ncard_coe_finset, List.toFinset_card_of_nodup h.nodup, List.length_map, hlength,
    List.countP_eq_length_filter]

/-- Conversions that succeeded have stub paths of their own. -/
theorem Creates.nodup_stubs {made : List Creation} (h : Creates env files pool made) :
    ((pool.jobs.filter Job.isConverted).map fun job => Path.stubOf job.path).Nodup := by
  have hmade : (made.map fun creation => Path.stubOf creation.path).Nodup := by
    refine List.pairwise_map.2 ((List.pairwise_map.1 h.nodup).imp_of_mem ?_)
    intro creation other hcreation hother hne hstub
    have hplace := (h.holds creation hcreation).stub
    rw [hstub, (h.holds other hother).stub, Except.ok.injEq, Place.found.injEq] at hplace
    exact hne hplace.1.symm
  have hperm := h.paths.map Path.stubOf
  rw [List.map_map, List.map_map] at hperm
  exact hperm.nodup_iff.1 hmade

/-- A new file is the stub of a source whose conversion succeeded. -/
theorem Creates.exists_job {made : List Creation} (h : Creates env files pool made)
    (hlocation : location ∈ files.newLocations pool.files) :
    ∃ job ∈ pool.jobs, ∃ source conversion, job.isConverted = true ∧
      pool.files.read job.path = .ok source ∧
      env.convert job.path source = .ok conversion ∧
      pool.files.resolve (Path.stubOf job.path) =
        .ok (.found location (.file (.text conversion.text))) := by
  rw [h.newLocations_eq] at hlocation
  obtain ⟨creation, hcreation, rfl⟩ := List.mem_map.1 hlocation
  obtain ⟨job, hjob, hpath⟩ := List.mem_map.1 (h.paths.subset (List.mem_map_of_mem hcreation))
  obtain ⟨hmem, hconverted⟩ := List.mem_filter.1 hjob
  have hholds := h.holds creation hcreation
  refine ⟨job, hmem, creation.source, creation.conversion, hconverted, ?_⟩
  rw [hpath]
  exact ⟨hholds.source, hholds.convert, resolve_of_not_link hholds.stub (by simp [Place.entry?])⟩

/-- Where stubs are not replaced, no schedule changes what is there.  Each stub is written by one
conversion at most; a conversion that looks for its stub (as it does first if there is a parser) or
writes it when the stub is there ends in an error and changes nothing; and the new files are the
stubs of the conversions that succeed. -/
theorem run_without_overwrite (henv : env.settings.scan.overwrite = false) {state : RunState}
    {paths : List String} {schedule : List Nat}
    (hrun : (Pool.start state paths).run env schedule = some final) :
    (∀ location entry, state.files.get? location = some entry →
      final.files.get? location = some entry) ∧
    ((final.jobs.filter Job.isConverted).map fun job => Path.stubOf job.path).Nodup ∧
    (∀ early later index rest seen moving job, schedule = early ++ (later ++ index :: rest) →
      (Pool.start state paths).run env early = some seen → seen.run env later = some moving →
      moving.jobs[index]? = some job →
      (job.stage = .waiting ∧ env.parser ≠ none ∨ ∃ conversion, job.stage = .reported conversion) →
      seen.files.pathExists (Path.stubOf job.path) = true →
      final.jobs[index]? =
        some ⟨job.path, .finished (.error (.targetExists (Path.stubOf job.path)))⟩) ∧
    (∀ early index rest before after, schedule = early ++ index :: rest →
      (Pool.start state paths).run env early = some before → before.step env index = some after →
      after.files ≠ before.files →
      ∃ job, final.jobs[index]? = some job ∧ job.isConverted = true) ∧
    (state.files.newLocations final.files).ncard = final.jobs.countP Job.isConverted ∧
    ∀ location ∈ state.files.newLocations final.files, ∃ job ∈ final.jobs, ∃ source conversion,
      job.isConverted = true ∧ final.files.read job.path = .ok source ∧
      env.convert job.path source = .ok conversion ∧
      final.files.resolve (Path.stubOf job.path) =
        .ok (.found location (.file (.text conversion.text))) := by
  obtain ⟨made, hmade⟩ := creates_of_run henv hrun
  refine ⟨fun _ _ => hmade.get?_of_get?, hmade.nodup_stubs, ?_, ?_, hmade.ncard_newLocations,
    fun _ => hmade.exists_job⟩
  · rintro early later index rest seen moving job rfl hearly hlater hjob hstage hstub
    rw [Pool.run_append, hearly, Option.bind_some, Pool.run_append, hlater,
      Option.bind_some] at hrun
    obtain ⟨next, hnext, hrest⟩ := Option.bind_eq_some_iff.1 hrun
    have hlate := (Pool.keeps_of_run henv hlater).pathExists hstub
    exact Pool.getElem?_of_run_of_finished hrest
      (Pool.getElem?_of_step_of_late henv hnext hjob hstage hlate) rfl
  · rintro early index rest before after rfl hearly hstep hfiles
    rw [Pool.run_append, hearly, Option.bind_some, Pool.run, hstep, Option.bind_some] at hrun
    obtain ⟨job, result, hjob, hstage⟩ := Pool.isConverted_of_step hstep hfiles
    exact ⟨job, Pool.getElem?_of_run_of_finished hrun hjob hstage, by rw [Job.isConverted, hstage]⟩

/-! Two sources with the same stub, one of them by an absolute path.  Each looks for the stub before
it is there. -/

def collidingFiles : FileSystem where
  entries := [
    (["srv", "foo"], .file (.text importText)),
    (["srv", "foo.py"], .file (.text importText))]
  workingDirectory := ["srv"]

/-- The second source is written first. -/
def collisionPool : Pool where
  shared := {
    files := collidingFiles.insert ["srv", "foo.pyi"]
      (.file (.text (importConversion "/srv/foo.py").text))
    tally := { total := 2, diagnostics := 2 }
    stream := (importConversion "foo").diagnostics ++ (importConversion "/srv/foo.py").diagnostics }
  jobs := [
    ⟨"foo", .finished (.error (.targetExists "foo.pyi"))⟩,
    ⟨"/srv/foo.py", .finished (.ok "/srv/foo.pyi")⟩]

theorem run_collidingFiles :
    (Pool.start ⟨collidingFiles, {}⟩ ["foo", "/srv/foo.py"]).run (importEnvironment false)
      [0, 1, 0, 1, 0, 1, 0, 0, 0, 1, 1, 1, 1, 0] = some collisionPool := by
  have hname : stepsOf "foo" = .ok [.name "foo"] := rfl
  have hstub : stepsOf "foo.pyi" = .ok [.name "foo.pyi"] := rfl
  have habsolute : stepsOf "/srv/foo.py" = .ok [.top, .name "srv", .name "foo.py"] := rfl
  have habsoluteStub : stepsOf "/srv/foo.pyi" = .ok [.top, .name "srv", .name "foo.pyi"] := rfl
  have hstubOf : Path.stubOf "foo" = "foo.pyi" := by decide +kernel
  have hstubOf' : Path.stubOf "/srv/foo.py" = "/srv/foo.pyi" := by decide +kernel
  have hdotted : stepsOf "foo.py" = .ok [.name "foo.py"] := rfl
  have hread' : collidingFiles.read "/srv/foo.py" = .ok importText :=
    read_eq_ok_iff.2 ⟨_, (resolve_absolute habsolute hdotted).trans (resolve_name hdotted rfl)⟩
  have hrender : (importEnvironment false).render collidingFiles "foo" = _ :=
    render_importEnvironment (read_name hname rfl)
  have hrender' : (importEnvironment false).render collidingFiles "/srv/foo.py" = _ :=
    render_importEnvironment hread'
  have hplace : collidingFiles.resolve "/srv/foo.pyi" false = .ok (.vacant ["srv", "foo.pyi"]) :=
    (resolve_absolute habsoluteStub hstub).trans (resolve_name_vacant hstub rfl)
  have hwrite :
      (importEnvironment false).target collidingFiles "/srv/foo.py" = .ok ["srv", "foo.pyi"] :=
    Environment.target_eq_ok_iff.2 ⟨_, hstubOf' ▸ hplace, rfl, rfl⟩
  have htaken (text : String) : (importEnvironment false).target
      (collidingFiles.insert ["srv", "foo.pyi"] (.file (.text text))) "foo" = .error .exists := by
    refine Environment.target_of_pathExists rfl
      (pathExists_iff.2 ⟨["srv", "foo.pyi"], .file (.text text), ?_⟩)
    rw [hstubOf]
    exact resolve_name hstub rfl
  have hclear := Environment.clear_of_target hrender (target_importEnvironment hstubOf hstub rfl)
  have hclear' := Environment.clear_of_target hrender' hwrite
  have hfirst : (importConversion "foo").diagnostics.length = 1 := by decide +kernel
  have hsecond : (importConversion "/srv/foo.py").diagnostics.length = 1 := by decide +kernel
  obtain ⟨first, hfirst⟩ := List.length_eq_one_iff.1 hfirst
  obtain ⟨second, hsecond⟩ := List.length_eq_one_iff.1 hsecond
  refine Pool.run_side_by_side hclear hclear' hrender hrender' hfirst hsecond ?_
  refine Pool.run_of_advances [_] rfl (.write hwrite) ?_
  refine Pool.run_of_advances [] rfl (.unwritten (htaken _)) ?_
  rw [collisionPool, hfirst, hsecond, hstubOf, hstubOf']
  rfl

/-- The two conversions make one new file. -/
theorem run_without_overwrite_collidingFiles :
    (Pool.start ⟨collidingFiles, {}⟩ ["foo", "/srv/foo.py"]).run (importEnvironment false)
      [0, 1, 0, 1, 0, 1, 0, 0, 0, 1, 1, 1, 1, 0] = some collisionPool ∧
    collisionPool.isFinished = true ∧
    (collidingFiles.newLocations collisionPool.files).ncard = 1 := by
  obtain ⟨-, -, -, -, hcount, -⟩ := run_without_overwrite rfl run_collidingFiles
  exact ⟨run_collidingFiles, rfl, hcount⟩

end InterfaceStub
