import InterfaceStub.Proofs.StubWriting

/-!
# Conversions at the same time

Conversions that go on at the same time share the files, the counters and the stream of diagnostics.
Each goes through its stages: it looks whether the stub is in the way, reads the source, writes its
diagnostics while no other one does so, and writes the stub.  A `Pool` holds what they share and how
far each has come.  A schedule says which of them takes the next step, and `Pool.run` is the run
under a schedule.

* `step_eq_some` says what a step of a pool is: the step of one job, while the others stay as they
  are.  `run_invariant` takes what every step keeps to a whole run.
* `Environment.Advances` lists what a step of a conversion can do; all else about steps follows from
  this list.
* `getElem?_of_run_of_finished`: a result that is there stays.
-/

namespace InterfaceStub

/-- Counts what became of a file. -/
def Tally.recordResult (tally : Tally) : Except ConversionError String → Tally
  | .ok _ => tally.countConverted
  | .error error => if error.isSkip then tally.countSkipped else tally.countFailed

theorem Tally.foldl_recordResult {tally : Tally} (results : List (Except ConversionError String)) :
    results.foldl recordResult tally = tally + (results.map ofResult).sum := by
  have hrecord (tally : Tally) (result : Except ConversionError String) :
      tally.recordResult result = tally + ofResult result := by
    cases result with
    | ok => ext1 <;> simp [recordResult, ofResult, countConverted]
    | error error =>
      cases h : error.isSkip <;> ext1 <;>
        simp [recordResult, ofResult, h, countSkipped, countFailed]
  induction results generalizing tally with
  | nil => simp
  | cons result results ih => rw [List.foldl_cons, ih, hrecord]; simp [add_assoc]

/-! ## Jobs and pools -/

/-- How far the conversion of a file has come. -/
inductive Stage where
  | waiting
  /-- The stub is not in the way. -/
  | cleared
  /-- The source is read. -/
  | rendered (conversion : Conversion)
  /-- The diagnostics are counted, and none is written. -/
  | counted (conversion : Conversion)
  /-- The diagnostics are being written, and `rest` are left. -/
  | reporting (conversion : Conversion) (rest : List Diagnostic)
  /-- The diagnostics are written. -/
  | reported (conversion : Conversion)
  | finished (result : Except ConversionError String)

namespace Stage

/-- The text and diagnostics that were made of the source, until the stub is written. -/
def conversion? : Stage → Option Conversion
  | .rendered conversion | .counted conversion | .reporting conversion _ | .reported conversion =>
    some conversion
  | .waiting | .cleared | .finished _ => none

/-- The diagnostics that are still to be written by one that has begun. -/
def unwritten : Stage → List Diagnostic
  | .reporting _ rest => rest
  | _ => []

/-- Whether the diagnostics are being written. -/
def isReporting : Stage → Bool
  | .reporting .. => true
  | _ => false

def result? : Stage → Option (Except ConversionError String)
  | .finished result => some result
  | _ => none

end Stage

/-- The conversion of a file. -/
structure Job where
  path : String
  stage : Stage := .waiting

/-- Whether the stub was written. -/
def Job.isConverted (job : Job) : Bool :=
  match job.stage with
  | .finished (.ok _) => true
  | _ => false

/-- What conversions share. -/
structure Shared where
  files : FileSystem
  tally : Tally := {}
  stream : List Diagnostic := []

/-- Conversions that go on at the same time. -/
structure Pool where
  shared : Shared
  jobs : List Job

/-- The next step of the conversion of a file; `none` if there is none.  `locked` says that one of
the conversions is writing its diagnostics, so that no other one can begin to. -/
def Environment.advance (env : Environment) (locked : Bool) (shared : Shared) (path : String) :
    Stage → Option (Shared × Stage)
  | .waiting =>
    let shared := { shared with tally := shared.tally.countTotal }
    match env.clear shared.files path with
    | .error error => some (shared, .finished (.error error))
    | .ok () => some (shared, .cleared)
  | .cleared =>
    match env.render shared.files path with
    | .error error => some (shared, .finished (.error error))
    | .ok conversion => some (shared, .rendered conversion)
  | .rendered conversion =>
    if conversion.diagnostics.isEmpty then some (shared, .reported conversion)
    else
      let tally := shared.tally.countDiagnostics (.ofNat conversion.diagnostics.length)
      some ({ shared with tally }, .counted conversion)
  | .counted conversion =>
    if locked then none else some (shared, .reporting conversion conversion.diagnostics)
  | .reporting conversion (diagnostic :: rest) =>
    some ({ shared with stream := shared.stream ++ [diagnostic] }, .reporting conversion rest)
  | .reporting conversion [] => some (shared, .reported conversion)
  | .reported conversion =>
    match env.write shared.files path conversion.text with
    | .error error => some (shared, .finished (.error error))
    | .ok files => some ({ shared with files }, .finished (.ok (Path.stubOf path)))
  | .finished _ => none

namespace Pool

/-- Some files before their conversion. -/
def start (state : RunState) (paths : List String) : Pool where
  shared := { files := state.files, tally := state.tally }
  jobs := paths.map fun path => { path }

def files (pool : Pool) : FileSystem :=
  pool.shared.files

/-- Whether some conversion is writing its diagnostics. -/
def isLocked (pool : Pool) : Bool :=
  pool.jobs.any fun job => job.stage.isReporting

/-- A step of the conversion at an index. -/
def step (env : Environment) (pool : Pool) (index : Nat) : Option Pool := do
  let job ← pool.jobs[index]?
  let (shared, stage) ← env.advance pool.isLocked pool.shared job.path job.stage
  return ⟨shared, pool.jobs.set index { job with stage }⟩

/-- The steps that a schedule says. -/
def run (env : Environment) (pool : Pool) : List Nat → Option Pool
  | [] => some pool
  | index :: schedule => (pool.step env index).bind fun next => next.run env schedule

/-- Whether every conversion has come to its end. -/
def isFinished (pool : Pool) : Bool :=
  pool.jobs.all fun job => job.stage.result?.isSome

/-- The results of the conversions that have come to their end, in the order of the files. -/
def results (pool : Pool) : List (Except ConversionError String) :=
  pool.jobs.filterMap fun job => job.stage.result?

/-- The report on conversions that have come to their end.  What became of the files is counted
now. -/
def report (pool : Pool) : RunReport where
  state := ⟨pool.files, pool.results.foldl Tally.recordResult pool.shared.tally⟩
  errors := pool.results.filterMap errorOf?
  diagnostics := pool.shared.stream

end Pool

/-! ## Steps -/

/-- What a step of a conversion can do, with its guards. -/
inductive Environment.Advances (env : Environment) (locked : Bool) (shared : Shared)
    (path : String) : Stage → Shared → Stage → Prop
  | blocked {error : ConversionError} (h : env.clear shared.files path = .error error) :
    Advances env locked shared path .waiting { shared with tally := shared.tally.countTotal }
      (.finished (.error error))
  | clear (h : env.clear shared.files path = .ok ()) :
    Advances env locked shared path .waiting { shared with tally := shared.tally.countTotal }
      .cleared
  | unread {error : ConversionError} (h : env.render shared.files path = .error error) :
    Advances env locked shared path .cleared shared (.finished (.error error))
  | render {conversion : Conversion} (h : env.render shared.files path = .ok conversion) :
    Advances env locked shared path .cleared shared (.rendered conversion)
  | pass {conversion : Conversion} (h : conversion.diagnostics = []) :
    Advances env locked shared path (.rendered conversion) shared (.reported conversion)
  | count {conversion : Conversion} (h : conversion.diagnostics ≠ []) :
    Advances env locked shared path (.rendered conversion)
      { shared with
        tally := shared.tally.countDiagnostics (.ofNat conversion.diagnostics.length) }
      (.counted conversion)
  | lock {conversion : Conversion} (h : locked = false) :
    Advances env locked shared path (.counted conversion) shared
      (.reporting conversion conversion.diagnostics)
  | report {conversion : Conversion} {diagnostic : Diagnostic} {rest : List Diagnostic} :
    Advances env locked shared path (.reporting conversion (diagnostic :: rest))
      { shared with stream := shared.stream ++ [diagnostic] } (.reporting conversion rest)
  | unlock {conversion : Conversion} :
    Advances env locked shared path (.reporting conversion []) shared (.reported conversion)
  | unwritten {conversion : Conversion} {error : FileError}
    (h : env.target shared.files path = .error error) :
    Advances env locked shared path (.reported conversion) shared
      (.finished (.error (writeError (Path.stubOf path) error)))
  | write {conversion : Conversion} {location : Location}
    (h : env.target shared.files path = .ok location) :
    Advances env locked shared path (.reported conversion)
      { shared with files := shared.files.insert location (.file (.text conversion.text)) }
      (.finished (.ok (Path.stubOf path)))

theorem Environment.advances_of_advance {env : Environment} {locked : Bool} {shared after : Shared}
    {path : String} {stage following : Stage}
    (h : env.advance locked shared path stage = some (after, following)) :
    env.Advances locked shared path stage after following := by
  cases stage with
  | waiting =>
    rw [advance] at h
    cases hclear : env.clear shared.files path with
    | error error =>
      simp only [hclear] at h
      cases h
      exact .blocked hclear
    | ok =>
      simp only [hclear] at h
      cases h
      exact .clear hclear
  | cleared =>
    rw [advance] at h
    cases hrender : env.render shared.files path with
    | error error =>
      simp only [hrender] at h
      cases h
      exact .unread hrender
    | ok conversion =>
      simp only [hrender] at h
      cases h
      exact .render hrender
  | rendered conversion =>
    rw [advance] at h
    split at h
    · rename_i hempty
      cases h
      exact .pass (List.isEmpty_iff.1 hempty)
    · rename_i hsome
      cases h
      exact .count fun hempty => hsome (List.isEmpty_iff.2 hempty)
  | counted conversion =>
    rw [advance] at h
    split at h
    · cases h
    · rename_i hfree
      cases h
      exact .lock (Bool.eq_false_iff.2 hfree)
  | reporting conversion rest =>
    cases rest with
    | nil =>
      cases h
      exact .unlock
    | cons =>
      cases h
      exact .report
  | reported conversion =>
    rw [advance] at h
    cases htarget : env.target shared.files path with
    | error error =>
      simp only [write_of_target_error htarget] at h
      cases h
      exact .unwritten htarget
    | ok location =>
      simp only [write_of_target htarget] at h
      cases h
      exact .write htarget
  | finished => cases h

theorem Environment.Advances.advance_eq {env : Environment} {locked : Bool} {shared after : Shared}
    {path : String} {stage following : Stage}
    (h : env.Advances locked shared path stage after following) :
    env.advance locked shared path stage = some (after, following) := by
  cases h with
  | blocked h | clear h | unread h | render h => simp only [advance, h]
  | pass h | count h | lock h => simp [advance, h]
  | report | unlock => rfl
  | unwritten h => simp only [advance, write_of_target_error h]
  | write h => simp only [advance, write_of_target h]

/-! ## Steps and runs -/

namespace Pool

variable {env : Environment} {pool next final : Pool} {index : Nat} {schedule : List Nat}

/-- A step of a pool is a step of one job. -/
theorem step_eq_some (h : pool.step env index = some next) :
    ∃ before path stage after shared following,
      pool.jobs = before ++ ⟨path, stage⟩ :: after ∧ before.length = index ∧
      env.Advances pool.isLocked pool.shared path stage shared following ∧
      next = ⟨shared, before ++ ⟨path, following⟩ :: after⟩ := by
  rw [step] at h
  obtain ⟨job, hjob, h⟩ := Option.bind_eq_some_iff.1 h
  obtain ⟨⟨shared, following⟩, hadvance, h⟩ := Option.bind_eq_some_iff.1 h
  obtain ⟨hindex, rfl⟩ := List.getElem?_eq_some_iff.1 hjob
  obtain ⟨before, after, hjobs, hlength, hset⟩ := List.exists_of_set hindex
  refine ⟨before, _, _, after, shared, following, hjobs, hlength,
    Environment.advances_of_advance hadvance, ?_⟩
  rw [← hset]
  exact (Option.some.inj h).symm

theorem step_of_advances {path : String} {stage following : Stage} {shared : Shared}
    {after : List Job} (before : List Job) (hjobs : pool.jobs = before ++ ⟨path, stage⟩ :: after)
    (h : env.Advances pool.isLocked pool.shared path stage shared following) :
    pool.step env before.length = some ⟨shared, before ++ ⟨path, following⟩ :: after⟩ := by
  have hjob : pool.jobs[before.length]? = some ⟨path, stage⟩ := by simp [hjobs]
  rw [step, hjob]
  simp only [Option.bind_eq_bind, Option.bind_some, h.advance_eq]
  simp [hjobs]

/-- A run that begins with a step of the job after those in `before`. -/
theorem run_of_advances {path : String} {stage following : Stage} {shared : Shared}
    {after : List Job} (before : List Job) (hjobs : pool.jobs = before ++ ⟨path, stage⟩ :: after)
    (h : env.Advances pool.isLocked pool.shared path stage shared following)
    (hrest : Pool.run env ⟨shared, before ++ ⟨path, following⟩ :: after⟩ schedule = some final) :
    pool.run env (before.length :: schedule) = some final := by
  rw [run, step_of_advances before hjobs h, Option.bind_some, hrest]

theorem run_append (first second : List Nat) :
    pool.run env (first ++ second) = (pool.run env first).bind fun next => next.run env second := by
  induction first generalizing pool with
  | nil => rfl
  | cons index first ih =>
    rw [List.cons_append, run, run, Option.bind_assoc]
    exact congrArg _ (funext fun _ => ih)

/-- What every step keeps holds after a run if it holds before. -/
theorem run_invariant {P : Pool → Prop}
    (hstep : ∀ pool index next, pool.step env index = some next → P pool → P next)
    (hrun : pool.run env schedule = some final) (hpool : P pool) : P final := by
  induction schedule generalizing pool with
  | nil =>
    cases hrun
    exact hpool
  | cons index schedule ih =>
    obtain ⟨next, hnext, hrest⟩ := Option.bind_eq_some_iff.1 hrun
    exact ih hrest (hstep pool index next hnext hpool)

theorem map_path_of_step (h : pool.step env index = some next) :
    next.jobs.map Job.path = pool.jobs.map Job.path := by
  obtain ⟨_, _, _, _, _, _, hjobs, -, -, rfl⟩ := step_eq_some h
  simp [hjobs]

/-- A conversion that has come to its end takes no more step, and steps of others do not change
it. -/
theorem getElem?_of_step_of_finished {place : Nat} {job : Job}
    {result : Except ConversionError String} (h : pool.step env index = some next)
    (hjob : pool.jobs[place]? = some job)
    (hstage : job.stage = .finished result) : next.jobs[place]? = some job := by
  rw [step] at h
  obtain ⟨moving, hmoving, h⟩ := Option.bind_eq_some_iff.1 h
  obtain ⟨⟨shared, stage⟩, hadvance, h⟩ := Option.bind_eq_some_iff.1 h
  cases Option.some.inj h
  by_cases heq : index = place
  · subst heq
    rw [hjob] at hmoving
    cases hmoving
    simp [hstage, Environment.advance] at hadvance
  · rwa [List.getElem?_set_ne heq]

theorem getElem?_of_run_of_finished {place : Nat} {job : Job}
    {result : Except ConversionError String} (hrun : pool.run env schedule = some final)
    (hjob : pool.jobs[place]? = some job)
    (hstage : job.stage = .finished result) : final.jobs[place]? = some job := by
  refine run_invariant (P := fun pool => pool.jobs[place]? = some job) ?_ hrun hjob
  intro pool index next hstep hpool
  exact getElem?_of_step_of_finished hstep hpool hstage

/-! ## Runs come to their end -/

/-- Steps of one job take it to its end. -/
def Finishes (env : Environment) (shared : Shared) (before : List Job) (path : String)
    (after : List Job) (stage : Stage) : Prop :=
  ∃ schedule shared' result, Pool.run env ⟨shared, before ++ ⟨path, stage⟩ :: after⟩ schedule =
    some ⟨shared', before ++ ⟨path, .finished result⟩ :: after⟩

section Finishes

variable {shared shared' : Shared} {before after : List Job} {path : String}
  {stage following : Stage} {conversion : Conversion}

theorem finishes_finished {result : Except ConversionError String} :
    Finishes env shared before path after (.finished result) :=
  ⟨[], shared, result, rfl⟩

theorem finishes_of_advances
    (h : env.Advances (isLocked ⟨shared, before ++ ⟨path, stage⟩ :: after⟩) shared path stage
      shared' following)
    (hfollowing : Finishes env shared' before path after following) :
    Finishes env shared before path after stage := by
  obtain ⟨schedule, final, result, hrun⟩ := hfollowing
  exact ⟨before.length :: schedule, final, result, run_of_advances before rfl h hrun⟩

theorem finishes_reported : Finishes env shared before path after (.reported conversion) := by
  cases htarget : env.target shared.files path with
  | error error => exact finishes_of_advances (.unwritten htarget) finishes_finished
  | ok location => exact finishes_of_advances (.write htarget) finishes_finished

theorem finishes_reporting (rest : List Diagnostic) :
    Finishes env shared before path after (.reporting conversion rest) := by
  induction rest generalizing shared with
  | nil => exact finishes_of_advances .unlock finishes_reported
  | cons diagnostic rest ih => exact finishes_of_advances .report ih

variable (hothers : ∀ job ∈ before ++ after, job.stage.isReporting = false)
include hothers

theorem finishes_counted : Finishes env shared before path after (.counted conversion) := by
  refine finishes_of_advances (.lock ?_) (finishes_reporting _)
  simpa [isLocked, Stage.isReporting] using List.forall_mem_append.1 hothers

theorem finishes_rendered : Finishes env shared before path after (.rendered conversion) := by
  by_cases hnone : conversion.diagnostics = []
  · exact finishes_of_advances (.pass hnone) finishes_reported
  · exact finishes_of_advances (.count hnone) (finishes_counted hothers)

theorem finishes_cleared : Finishes env shared before path after .cleared := by
  cases hrender : env.render shared.files path with
  | error error => exact finishes_of_advances (.unread hrender) finishes_finished
  | ok conversion => exact finishes_of_advances (.render hrender) (finishes_rendered hothers)

theorem finishes_waiting : Finishes env shared before path after .waiting := by
  cases hclear : env.clear shared.files path with
  | error error => exact finishes_of_advances (.blocked hclear) finishes_finished
  | ok => exact finishes_of_advances (.clear hclear) (finishes_cleared hothers)

omit hothers in
/-- A job comes to its end if no other one writes its diagnostics, or if it writes its own. -/
theorem finishes (h : stage.isReporting = true ∨
      ∀ job ∈ before ++ after, job.stage.isReporting = false) :
    Finishes env shared before path after stage := by
  cases stage with
  | reporting => exact finishes_reporting _
  | reported => exact finishes_reported
  | finished => exact finishes_finished
  | waiting => exact finishes_waiting (h.resolve_left (by simp [Stage.isReporting]))
  | cleared => exact finishes_cleared (h.resolve_left (by simp [Stage.isReporting]))
  | rendered => exact finishes_rendered (h.resolve_left (by simp [Stage.isReporting]))
  | counted => exact finishes_counted (h.resolve_left (by simp [Stage.isReporting]))

end Finishes

/-- A job that can go on to its end, unless all have come to theirs. -/
theorem exists_job_of_not_isFinished (h : ¬pool.isFinished = true) :
    ∃ before path stage after, pool.jobs = before ++ ⟨path, stage⟩ :: after ∧
      stage.result? = none ∧
      (stage.isReporting = true ∨ ∀ job ∈ before ++ after, job.stage.isReporting = false) := by
  by_cases hlocked : pool.isLocked = true
  · obtain ⟨job, hjob, hreporting⟩ := List.any_eq_true.1 hlocked
    obtain ⟨before, after, hjobs⟩ := List.append_of_mem hjob
    refine ⟨before, job.path, job.stage, after, hjobs, ?_, .inl hreporting⟩
    cases hstage : job.stage <;> simp [hstage, Stage.isReporting, Stage.result?] at hreporting ⊢
  · obtain ⟨job, hjob, hunfinished⟩ : ∃ job ∈ pool.jobs, job.stage.result? = none := by
      simpa [isFinished] using h
    obtain ⟨before, after, hjobs⟩ := List.append_of_mem hjob
    refine ⟨before, job.path, job.stage, after, hjobs, hunfinished, .inr fun other hother => ?_⟩
    have hfree := List.any_eq_false.1 (Bool.eq_false_iff.2 hlocked) other
    simp only [hjobs, List.mem_append, List.mem_cons] at hfree hother
    exact Bool.eq_false_iff.2 (hfree (by tauto))

/-- Nothing is ever stuck: every run can go on until all jobs have come to their end. -/
theorem exists_run_isFinished (env : Environment) (pool : Pool) :
    ∃ schedule final, pool.run env schedule = some final ∧ final.isFinished = true := by
  -- One job after the other is taken to its end.
  induction hcount : pool.jobs.countP (fun job => job.stage.result?.isNone) using Nat.strongRecOn
    generalizing pool with
  | ind count ih =>
    by_cases hfinished : pool.isFinished = true
    · exact ⟨[], pool, rfl, hfinished⟩
    · obtain ⟨before, path, stage, after, hjobs, hstage, hfree⟩ :=
        exists_job_of_not_isFinished hfinished
      obtain ⟨first, shared, result, hfirst⟩ :=
        @finishes env pool.shared before after path stage hfree
      rw [← hjobs] at hfirst
      have hless : (before ++ ⟨path, .finished result⟩ :: after).countP
          (fun job => job.stage.result?.isNone) < count := by
        have hresult : (Stage.finished result).result? = some result := rfl
        rw [← hcount, hjobs]
        simp [hstage, hresult]
      obtain ⟨second, final, hsecond, hfinal⟩ := ih _ hless ⟨shared, _⟩ rfl
      exact ⟨first ++ second, final, by rw [run_append, hfirst, Option.bind_some, hsecond], hfinal⟩

/-- Two conversions that go side by side up to where their stubs are written. -/
theorem run_side_by_side {state : RunState} {path other : String} {first second : Conversion}
    {diagnostic diagnostic' : Diagnostic} {rest : List Nat} {final : Pool}
    (hclear : env.clear state.files path = .ok ()) (hclear' : env.clear state.files other = .ok ())
    (hrender : env.render state.files path = .ok first)
    (hrender' : env.render state.files other = .ok second)
    (hfirst : first.diagnostics = [diagnostic]) (hsecond : second.diagnostics = [diagnostic'])
    (hrest : Pool.run env
      { shared := {
          files := state.files
          tally :=
            ((state.tally.countTotal.countTotal).countDiagnostics 1).countDiagnostics 1
          stream := [diagnostic, diagnostic'] }
        jobs := [⟨path, .reported first⟩, ⟨other, .reported second⟩] } rest = some final) :
    (start state [path, other]).run env ([0, 1, 0, 1, 0, 1, 0, 0, 0, 1, 1, 1] ++ rest) =
      some final := by
  refine run_of_advances [] rfl (.clear hclear) ?_
  refine run_of_advances [_] rfl (.clear hclear') ?_
  refine run_of_advances [] rfl (.render hrender) ?_
  refine run_of_advances [_] rfl (.render hrender') ?_
  refine run_of_advances [] rfl (.count (by simp [hfirst])) ?_
  refine run_of_advances [_] rfl (.count (by simp [hsecond])) ?_
  refine run_of_advances [] rfl (.lock rfl) ?_
  rw [hfirst]
  refine run_of_advances [] rfl .report ?_
  refine run_of_advances [] rfl .unlock ?_
  refine run_of_advances [_] rfl (.lock rfl) ?_
  rw [hsecond]
  refine run_of_advances [_] rfl .report ?_
  refine run_of_advances [_] rfl .unlock ?_
  exact hrest

end Pool

end InterfaceStub
