import Mathlib.Tactic.Abel
import InterfaceStub.Proofs.Interleaving
import InterfaceStub.Proofs.LinkFree

/-!
# Calls on a converter

A converter keeps its counters from one call to the next.  A call converts some files, or the files
that some inputs stand for, with workers that run at the same time, so that it can end in as many
ways as there are schedules.

* `Call.Ends` says how a call can end.  It may fail because a directory cannot be walked or because
  there are no workers; otherwise the results are gone through one by one (`settle`), which stops at
  an error that is not about one file.
* `concernsFile_of_run`: no result of a conversion is such an error, so that `settle` never stops
  (`ending_of_run`).
* `Call.ends_ending`: `runAll` and `runInputs`, which convert one file after the other, are one of
  the ways.
* A `History` is a sequence of calls.  The files may change between two calls, the counters go on.
-/

namespace InterfaceStub

/-! ## How calls end -/

/-- What a call gives back. -/
inductive Outcome where
  | report (errors : List ConversionError)
  /-- A directory cannot be walked. -/
  | unwalked (error : ConversionError)
  /-- There are no workers. -/
  | unmanned (reason : String)
  /-- An error that is not about one file came up among the results. -/
  | stopped (error : ConversionError)

/-- What a call leaves behind. -/
structure Ending where
  state : RunState
  outcome : Outcome
  /-- The diagnostics that were written. -/
  diagnostics : List Diagnostic := []

/-- The end of a call that gives a report. -/
def RunReport.ending (run : RunReport) : Ending :=
  ⟨run.state, .report run.errors, run.diagnostics⟩

/-- Counts what became of some files and collects their errors. -/
def settle (tally : Tally) (errors : List ConversionError) :
    List (Except ConversionError String) → Tally × Outcome
  | [] => (tally, .report errors)
  | .ok target :: results => settle (tally.recordResult (.ok target)) errors results
  | .error error :: results =>
    if error.concernsFile then
      settle (tally.recordResult (.error error)) (errors ++ [error]) results
    else (tally, .stopped error)

/-- The end of a call whose conversions have come to theirs. -/
def Pool.ending (pool : Pool) : Ending :=
  let settled := settle pool.shared.tally [] pool.results
  ⟨⟨pool.files, settled.1⟩, settled.2, pool.shared.stream⟩

/-- Counts inputs that are not there. -/
def RunState.countMissing (state : RunState) (missing : List ConversionError) : RunState :=
  { state with tally := missing.foldl (fun tally _ => tally.countTotal.countFailed) state.tally }

/-- Puts the inputs that are not there before the errors of a report. -/
def Ending.withMissing (missing : List ConversionError) (ending : Ending) : Ending :=
  match ending.outcome with
  | .report errors => { ending with outcome := .report (missing ++ errors) }
  | _ => ending

namespace Environment

/-- How the conversion of some files can end. -/
inductive FilesEnd (env : Environment) (state : RunState) (paths : List String) : Ending → Prop
  /-- Workers are started only where their number is limited; otherwise they are there already. -/
  | unmanned {reason : String} (hlimit : env.settings.scan.maxParallelJobs.isSome) :
    FilesEnd env state paths ⟨state, .unmanned reason, []⟩
  | finished {schedule : List Nat} {final : Pool}
    (hrun : (Pool.start state paths).run env schedule = some final)
    (hfinished : final.isFinished = true) : FilesEnd env state paths final.ending

/-- How the conversion of what some inputs stand for can end. -/
inductive InputsEnd (env : Environment) (state : RunState) (inputs : List String) : Ending → Prop
  | unwalked {error : ConversionError} (hsources : env.sources state.files inputs = .error error) :
    InputsEnd env state inputs ⟨state, .unwalked error, []⟩
  | converted {found : List (Except ConversionError String)} {ending : Ending}
    (hsources : env.sources state.files inputs = .ok found)
    (hends : env.FilesEnd (state.countMissing (found.filterMap errorOf?))
      (found.filterMap Except.toOption) ending) :
    InputsEnd env state inputs (ending.withMissing (found.filterMap errorOf?))

end Environment

/-- What can be asked of a converter. -/
inductive Call where
  | inputs (given : List String)
  | files (paths : List String)

namespace Call

/-- How a call can end. -/
def Ends (env : Environment) (state : RunState) : Call → Ending → Prop
  | .inputs given => env.InputsEnd state given
  | .files paths => env.FilesEnd state paths

/-- How a call ends that converts one file after the other. -/
def ending (env : Environment) (state : RunState) : Call → Ending
  | .files paths => (env.runAll state paths).ending
  | .inputs given =>
    match env.runInputs state given with
    | .ok run => run.ending
    | .error error => ⟨state, .unwalked error, []⟩

end Call

/-- A call, with what was there before and what it left behind. -/
structure Exchange where
  before : RunState
  call : Call
  ending : Ending

/-- The calls on a new converter, first to last, and its counters after them. -/
inductive History (env : Environment) : List Exchange → Tally → Prop
  | start : History env [] {}
  | next {history : List Exchange} {tally : Tally} {files : FileSystem} {call : Call}
    {ending : Ending} (h : History env history tally)
    (hends : call.Ends env ⟨files, tally⟩ ending) :
    History env (history ++ [⟨⟨files, tally⟩, call, ending⟩]) ending.state.tally

/-! ## The sources of inputs -/

@[simp] theorem errorOf?_ok {ε α : Type} (value : α) :
    errorOf? (.ok value : Except ε α) = none := rfl

@[simp] theorem errorOf?_error {ε α : Type} (error : ε) :
    errorOf? (.error error : Except ε α) = some error := rfl

namespace Environment

variable {env : Environment} {files : FileSystem} {input : String} {inputs : List String}

/-- An input stands for sources if it is there, and is an error of its own otherwise. -/
theorem sourcesAt_eq_ok {group : List (Except ConversionError String)}
    (h : env.sourcesAt files input = .ok group) :
    (files.pathExists input = true ∧ ∃ paths : List String, group = paths.map .ok) ∨
      (files.pathExists input = false ∧ group = [.error (.read input .missingInput)]) := by
  rw [sourcesAt] at h
  split at h
  · rename_i hdirectory
    obtain ⟨base, hbase⟩ := Option.isSome_iff_exists.1 hdirectory
    have hexists : files.pathExists input = true :=
      FileSystem.pathExists_iff.2 ⟨base, .directory, FileSystem.directoryAt?_eq_some_iff.1 hbase⟩
    cases hcollect : env.walker.collect files env.settings.scan input with
    | error error =>
      rw [hcollect] at h
      cases h
    | ok paths =>
      rw [hcollect] at h
      cases h
      exact .inl ⟨hexists, paths, rfl⟩
  · split at h
    · rename_i hexists
      cases h
      exact .inl ⟨hexists, [input], rfl⟩
    · rename_i hmissing
      cases h
      exact .inr ⟨Bool.eq_false_iff.2 hmissing, rfl⟩

/-- The sources of some inputs are those of each input, one after the other. -/
theorem sources_eq_ok {found : List (Except ConversionError String)}
    (h : env.sources files inputs = .ok found) :
    ∃ groups,
      List.Forall₂ (fun input group => env.sourcesAt files input = .ok group) inputs groups ∧
        found = groups.flatten := by
  induction inputs generalizing found with
  | nil =>
    cases h
    exact ⟨[], .nil, rfl⟩
  | cons input inputs ih =>
    rw [sources, List.mapM_cons] at h
    cases hgroup : env.sourcesAt files input with
    | error error =>
      rw [hgroup] at h
      cases h
    | ok group =>
      cases hrest : inputs.mapM (env.sourcesAt files) with
      | error error =>
        rw [hgroup, hrest] at h
        cases h
      | ok rest =>
        rw [hgroup, hrest] at h
        have hinner : env.sources files inputs = .ok rest.flatten := by
          rw [sources, hrest]
          rfl
        obtain ⟨groups, hgroups, hflatten⟩ := ih hinner
        cases h
        refine ⟨group :: groups, .cons hgroup hgroups, ?_⟩
        rw [List.flatten_cons, List.flatten_cons, hflatten]

/-- Among what inputs stand for, the errors are those of inputs that are not there. -/
theorem eq_read_of_mem_missing {found : List (Except ConversionError String)}
    {error : ConversionError} (h : env.sources files inputs = .ok found)
    (herror : error ∈ found.filterMap errorOf?) :
    ∃ input, error = .read input .missingInput := by
  obtain ⟨groups, hgroups, rfl⟩ := sources_eq_ok h
  clear h
  induction hgroups with
  | nil => cases herror
  | cons hgroup _ ih =>
    rw [List.flatten_cons, List.filterMap_append, List.mem_append] at herror
    obtain herror | herror := herror
    · obtain ⟨-, paths, rfl⟩ | ⟨-, rfl⟩ := sourcesAt_eq_ok hgroup
      · simp at herror
      · exact ⟨_, List.mem_singleton.1 herror⟩
    · exact ih herror

end Environment

/-! ## No result stops a call -/

theorem settle_eq {results : List (Except ConversionError String)}
    (h : ∀ error, .error error ∈ results → error.concernsFile) (tally : Tally)
    (errors : List ConversionError) :
    settle tally errors results =
      (results.foldl Tally.recordResult tally, .report (errors ++ results.filterMap errorOf?)) := by
  induction results generalizing tally errors with
  | nil => simp [settle]
  | cons result results ih =>
    have ih := ih fun error herror => h error (List.mem_cons_of_mem _ herror)
    cases result with
    | ok target => simp [settle, ih, List.filterMap_cons]
    | error error => simp [settle, ih, h error List.mem_cons_self]

namespace Environment

variable {env : Environment} {files : FileSystem} {path : String} {error : ConversionError}

theorem concernsFile_of_clear (h : env.clear files path = .error error) : error.concernsFile := by
  rw [clear] at h
  split at h
  · cases h
    rfl
  · split at h
    · cases h
      rfl
    · cases h

theorem concernsFile_of_render (h : env.render files path = .error error) : error.concernsFile := by
  rw [render] at h
  split at h
  · cases h
    rfl
  · cases hconvert : env.convert path _ with
    | error cause =>
      rw [hconvert] at h
      cases h
      rfl
    | ok conversion =>
      rw [hconvert] at h
      cases h

theorem concernsFile_writeError (target : String) (cause : FileError) :
    (writeError target cause).concernsFile := by
  cases cause <;> rfl

/-- The error that a step ends a conversion with is about its file. -/
theorem Advances.concernsFile {locked : Bool} {shared after : Shared} {stage : Stage}
    (h : env.Advances locked shared path stage after (.finished (.error error))) :
    error.concernsFile := by
  cases h with
  | blocked hclear => exact concernsFile_of_clear hclear
  | unread hrender => exact concernsFile_of_render hrender
  | unwritten => exact concernsFile_writeError _ _

end Environment

namespace Job

/-- The error that a conversion has ended with. -/
def error? (job : Job) : Option ConversionError :=
  job.stage.result?.bind errorOf?

theorem error?_eq_some_iff {job : Job} {error : ConversionError} :
    job.error? = some error ↔ job.stage = .finished (.error error) := by
  obtain ⟨path, stage⟩ := job
  cases stage with
  | finished result => cases result <;> simp [error?, Stage.result?, errorOf?]
  | _ => simp [error?, Stage.result?]

end Job

namespace Pool

variable {env : Environment} {state : RunState} {paths : List String} {schedule : List Nat}
  {pool final : Pool}

theorem filterMap_errorOf?_results (pool : Pool) :
    pool.results.filterMap errorOf? = pool.jobs.filterMap Job.error? := by
  rw [results, List.filterMap_filterMap]
  rfl

/-- Every error that a conversion ends with is about its file. -/
theorem concernsFile_of_run (hrun : (start state paths).run env schedule = some final)
    {error : ConversionError} (h : .error error ∈ final.results) : error.concernsFile := by
  have hjobs : ∀ job ∈ final.jobs, ∀ error, job.error? = some error → error.concernsFile := by
    refine run_invariant (P := fun pool => ∀ job ∈ pool.jobs, ∀ error, job.error? = some error →
      error.concernsFile) ?_ hrun ?_
    · intro pool index next hstep hpool
      obtain ⟨before, path, stage, after, shared, following, hjobs, -, hadvances, rfl⟩ :=
        step_eq_some hstep
      rw [hjobs] at hpool
      simp only [List.forall_mem_append, List.forall_mem_cons] at hpool ⊢
      refine ⟨hpool.1, fun error herror => ?_, hpool.2.2⟩
      obtain rfl := Job.error?_eq_some_iff.1 herror
      exact hadvances.concernsFile
    · simp [start, Job.error?, Stage.result?]
  have hmem : error ∈ final.results.filterMap errorOf? := List.mem_filterMap.2 ⟨_, h, rfl⟩
  rw [filterMap_errorOf?_results] at hmem
  obtain ⟨job, hjob, herror⟩ := List.mem_filterMap.1 hmem
  exact hjobs job hjob error herror

/-- A call whose conversions come to their end gives a report. -/
theorem ending_of_run (hrun : (start state paths).run env schedule = some final) :
    final.ending =
      ⟨final.report.state, .report (final.jobs.filterMap Job.error?), final.shared.stream⟩ := by
  rw [ending, settle_eq fun _ => concernsFile_of_run hrun, filterMap_errorOf?_results]
  rfl

end Pool

/-! ## One file after the other -/

/-- What the conversion of one file adds to what the conversions share. -/
def Shared.afterFile (shared : Shared) (report : FileReport) : Shared where
  files := report.files
  tally := shared.tally + { total := 1, diagnostics := .ofNat report.diagnostics.length }
  stream := shared.stream ++ report.diagnostics

namespace Pool

variable {env : Environment} {state : RunState} {paths : List String} {schedule : List Nat}
  {pool final : Pool}

/-- Some schedule leads from one pool to another. -/
def Reaches (env : Environment) (pool final : Pool) : Prop :=
  ∃ schedule, pool.run env schedule = some final

theorem Reaches.refl (pool : Pool) : Reaches env pool pool :=
  ⟨[], rfl⟩

theorem Reaches.trans {middle : Pool} (hfirst : Reaches env pool middle)
    (hsecond : Reaches env middle final) : Reaches env pool final := by
  obtain ⟨first, hfirst⟩ := hfirst
  obtain ⟨second, hsecond⟩ := hsecond
  exact ⟨first ++ second, by rw [run_append, hfirst, Option.bind_some, hsecond]⟩

section Reaches

variable {shared shared' : Shared} {before after : List Job} {path : String}
  {stage following : Stage} {conversion : Conversion}

theorem reaches_of_advances (shared : Shared)
    (h : env.Advances (isLocked ⟨shared, before ++ ⟨path, stage⟩ :: after⟩) shared path stage
      shared' following) :
    Reaches env ⟨shared, before ++ ⟨path, stage⟩ :: after⟩
      ⟨shared', before ++ ⟨path, following⟩ :: after⟩ :=
  ⟨[before.length], run_of_advances before rfl h rfl⟩

/-- The diagnostics of a conversion are written one by one. -/
theorem reaches_reported_of_reporting (shared : Shared) (rest : List Diagnostic) :
    Reaches env ⟨shared, before ++ ⟨path, .reporting conversion rest⟩ :: after⟩
      ⟨{ shared with stream := shared.stream ++ rest },
        before ++ ⟨path, .reported conversion⟩ :: after⟩ := by
  induction rest generalizing shared with
  | nil => simpa using reaches_of_advances shared .unlock
  | cons diagnostic rest ih =>
    refine (reaches_of_advances shared .report).trans ?_
    simpa using ih { shared with stream := shared.stream ++ [diagnostic] }

theorem reaches_rendered (hclear : env.clear shared.files path = .ok ())
    (hrender : env.render shared.files path = .ok conversion) :
    Reaches env ⟨shared, before ++ ⟨path, .waiting⟩ :: after⟩
      ⟨{ shared with tally := shared.tally.countTotal },
        before ++ ⟨path, .rendered conversion⟩ :: after⟩ :=
  (reaches_of_advances shared (.clear hclear)).trans
    (reaches_of_advances { shared with tally := shared.tally.countTotal } (.render hrender))

variable (hothers : ∀ job ∈ before ++ after, job.stage.isReporting = false)
include hothers

theorem reaches_reported (shared : Shared) :
    Reaches env ⟨shared, before ++ ⟨path, .rendered conversion⟩ :: after⟩
      ⟨{ shared with
          tally := shared.tally + { diagnostics := .ofNat conversion.diagnostics.length }
          stream := shared.stream ++ conversion.diagnostics },
        before ++ ⟨path, .reported conversion⟩ :: after⟩ := by
  by_cases hnone : conversion.diagnostics = []
  · have hzero : ({ diagnostics := .ofNat 0 } : Tally) = 0 := rfl
    rw [hnone, List.length_nil, hzero, add_zero, List.append_nil]
    exact reaches_of_advances shared (.pass hnone)
  · refine (reaches_of_advances shared (.count hnone)).trans ?_
    refine (reaches_of_advances _ (.lock ?_)).trans ?_
    · simpa [isLocked, Stage.isReporting] using List.forall_mem_append.1 hothers
    · rw [Tally.countDiagnostics_eq]
      exact reaches_reported_of_reporting _ _

/-- A file that waits is converted while the others wait. -/
theorem reaches_runFile :
    let report := env.runFile shared.files path
    Reaches env ⟨shared, before ++ ⟨path, .waiting⟩ :: after⟩
      ⟨shared.afterFile report, before ++ ⟨path, .finished report.result⟩ :: after⟩ := by
  intro report
  have hruns : env.RunsTo shared.files path report := env.runsTo_runFile shared.files path
  generalize report = report at hruns
  have htotal : ({ total := 1, diagnostics := .ofNat 0 } : Tally) = { total := 1 } := rfl
  have hsum (count : UInt64) :
      shared.tally + { total := 1 } + { diagnostics := count } =
        shared.tally + { total := 1, diagnostics := count } := by
    rw [add_assoc]
    congr 1
    ext1 <;> simp
  cases hruns with
  | blocked hclear =>
    rw [Shared.afterFile, List.length_nil, htotal, List.append_nil, ← Tally.countTotal_eq]
    exact reaches_of_advances shared (.blocked hclear)
  | unread hclear hrender =>
    rw [Shared.afterFile, List.length_nil, htotal, List.append_nil, ← Tally.countTotal_eq]
    refine (reaches_of_advances shared (.clear hclear)).trans ?_
    exact reaches_of_advances { shared with tally := shared.tally.countTotal } (.unread hrender)
  | unwritten hclear hrender htarget =>
    rw [Shared.afterFile, ← hsum, ← Tally.countTotal_eq]
    refine (reaches_rendered hclear hrender).trans ?_
    refine (reaches_reported hothers _).trans ?_
    exact reaches_of_advances (Shared.mk shared.files _ _) (.unwritten htarget)
  | written hclear hrender htarget =>
    rw [Shared.afterFile, ← hsum, ← Tally.countTotal_eq]
    refine (reaches_rendered hclear hrender).trans ?_
    refine (reaches_reported hothers _).trans ?_
    exact reaches_of_advances (Shared.mk shared.files _ _) (.write htarget)

end Reaches

/-- The jobs of a run that has come to its end, when their reports are these. -/
def finishedJobs (paths : List String) (reports : List FileReport) : List Job :=
  paths.zipWith (fun path report => ⟨path, .finished report.result⟩) reports

theorem isFinished_finishedJobs (shared : Shared) (paths : List String)
    (reports : List FileReport) : isFinished ⟨shared, finishedJobs paths reports⟩ = true := by
  rw [isFinished, List.all_eq_true]
  intro job hjob
  rw [finishedJobs, ← List.map_uncurry_zip_eq_zipWith] at hjob
  obtain ⟨_, -, rfl⟩ := List.mem_map.1 hjob
  rfl

theorem results_finishedJobs (shared : Shared) {paths : List String} {reports : List FileReport}
    (h : reports.length = paths.length) :
    results ⟨shared, finishedJobs paths reports⟩ = reports.map FileReport.result := by
  rw [results, finishedJobs]
  induction paths generalizing reports with
  | nil => simp [List.length_eq_zero_iff.1 h]
  | cons path paths ih =>
    cases reports with
    | nil => cases h
    | cons report reports => simpa [Stage.result?] using ih (Nat.succ.inj h)

/-- Files that wait are converted one after the other. -/
theorem reaches_reports (env : Environment) (shared : Shared) (before : List Job)
    (hbefore : ∀ job ∈ before, job.stage.isReporting = false) (paths : List String) :
    let reports := env.reports shared.files paths
    Reaches env ⟨shared, before ++ paths.map fun path => { path := path }⟩
      ⟨{ files := env.filesAfter shared.files paths
         tally := shared.tally + (reports.map fun report =>
          ({ total := 1, diagnostics := .ofNat report.diagnostics.length } : Tally)).sum
         stream := shared.stream ++ reports.flatMap FileReport.diagnostics },
        before ++ finishedJobs paths reports⟩ := by
  induction paths generalizing shared before with
  | nil => simpa [Environment.reports, Environment.filesAfter, finishedJobs] using Reaches.refl _
  | cons path paths ih =>
    intro reports
    have hothers : ∀ job ∈ before ++ paths.map fun path => ({ path := path } : Job),
        job.stage.isReporting = false := by
      simpa [or_imp, forall_and, Stage.isReporting] using hbefore
    refine (reaches_runFile hothers).trans ?_
    have hrest := ih (shared.afterFile (env.runFile shared.files path))
      (before ++ [⟨path, .finished (env.runFile shared.files path).result⟩])
      (by simpa [or_imp, forall_and, Stage.isReporting] using hbefore)
    simpa [reports, Environment.reports, Environment.filesAfter, finishedJobs, Shared.afterFile,
      add_assoc] using hrest

end Pool

namespace Environment

variable (env : Environment)

/-- Some schedule does what is done one file after the other. -/
theorem exists_run_runAll (state : RunState) (paths : List String) :
    ∃ schedule final, (Pool.start state paths).run env schedule = some final ∧
      final.isFinished = true ∧
      final.jobs = Pool.finishedJobs paths (env.reports state.files paths) ∧
      final.ending = (env.runAll state paths).ending := by
  obtain ⟨schedule, hrun⟩ := Pool.reaches_reports env ⟨state.files, state.tally, []⟩ [] nofun paths
  simp only [List.nil_append] at hrun
  have hstart : (Pool.start state paths).run env schedule = some _ := hrun
  refine ⟨schedule, _, hstart, Pool.isFinished_finishedJobs _ _ _, rfl, ?_⟩
  rw [Pool.ending_of_run hstart, ← Pool.filterMap_errorOf?_results, Pool.report,
    Pool.results_finishedJobs _ (length_reports paths), Tally.foldl_recordResult, add_assoc,
    List.map_map, ← List.sum_map_add, List.filterMap_map, runAll_eq]
  rfl

theorem filesEnd_runAll (state : RunState) (paths : List String) :
    env.FilesEnd state paths (env.runAll state paths).ending := by
  obtain ⟨schedule, final, hrun, hfinished, -, hending⟩ := env.exists_run_runAll state paths
  exact hending ▸ .finished hrun hfinished

end Environment

/-- Converting one file after the other is one of the ways in which a call can end. -/
theorem Call.ends_ending (env : Environment) (state : RunState) (call : Call) :
    call.Ends env state (call.ending env state) := by
  cases call with
  | files paths => exact env.filesEnd_runAll state paths
  | inputs given =>
    rw [Call.ending, Environment.runInputs]
    cases hsources : env.sources state.files given with
    | error error => exact .unwalked hsources
    | ok found => exact .converted hsources (env.filesEnd_runAll _ _)

end InterfaceStub
