import Mathlib.Tactic.Abel
import InterfaceStub.Proofs.Interleaving
import InterfaceStub.Proofs.SeparateFiles

/-!
# Schedules make no difference

Separate files can be converted at the same time or one after the other.

* `Job.Follows` compares a job with the conversion of its file at the start.  `written?`, `batch?`
  and `counted` are what a job that follows this conversion has added to the files, to the stream of
  diagnostics and to the counters.
* `Changes` says what one step adds, in these words (`changes_of_advances`).  `Fits` says that what
  the jobs share is what they have added; every step keeps it (`Fits.step`), and so does a run
  (`fits_of_run`).
* `run_eq_runAll` is the result.
-/

namespace InterfaceStub

open FileSystem

/-! ## What jobs have added -/

namespace Job

variable (env : Environment) (files : FileSystem) (job : Job)

/-- The job has come to what the conversion of its file at the start comes to. -/
def Follows : Prop :=
  match job.stage with
  | .waiting => True
  | .cleared => env.clear files job.path = .ok ()
  | .rendered conversion | .counted conversion | .reporting conversion _ | .reported conversion =>
    env.clear files job.path = .ok () ∧ env.render files job.path = .ok conversion
  | .finished result => result = (env.runFile files job.path).result

/-- What the job has written. -/
def written? : Option (Location × Content) :=
  if job.isConverted then env.output? files job.path else none

/-- The diagnostics of a job that has begun to write them, or never will. -/
def batch? : Option (List Diagnostic) :=
  match job.stage with
  | .waiting | .cleared | .rendered _ | .counted _ => none
  | .reporting .. | .reported _ | .finished _ => some (env.runFile files job.path).diagnostics

/-- What the job has counted. -/
def counted : Tally :=
  match job.stage with
  | .waiting => 0
  | .cleared | .rendered _ => { total := 1 }
  | .counted _ | .reporting .. | .reported _ | .finished _ =>
    { total := 1, diagnostics := .ofNat (env.runFile files job.path).diagnostics.length }

end Job

theorem Environment.diagnostics_runFile {env : Environment} {files : FileSystem} {path : String}
    {conversion : Conversion} (hclear : env.clear files path = .ok ())
    (hrender : env.render files path = .ok conversion) :
    (env.runFile files path).diagnostics = conversion.diagnostics := by
  cases htarget : env.target files path with
  | error => rw [runFile_of_target_error hclear hrender htarget]
  | ok => rw [runFile_of_target hrender htarget]

theorem Stage.unwritten_of_isReporting {stage : Stage} (h : stage.isReporting = false) :
    stage.unwritten = [] := by
  cases stage with
  | reporting => cases h
  | _ => rfl

/-! ## One step -/

/-- What a step of a job adds to what the jobs share. -/
structure Changes (env : Environment) (files : FileSystem) (locked : Bool) (shared : Shared)
    (path : String) (stage : Stage) (shared' : Shared) (following : Stage)
    (more : List (List Diagnostic)) : Prop where
  follows : Job.Follows env files ⟨path, following⟩
  files_eq : shared'.files =
    shared.files.insertAll (Job.written? env files ⟨path, following⟩).toList
  tally : ∃ extra, shared'.tally = shared.tally + extra ∧
    Job.counted env files ⟨path, following⟩ = Job.counted env files ⟨path, stage⟩ + extra
  batches : (Job.batch? env files ⟨path, following⟩).toList =
    (Job.batch? env files ⟨path, stage⟩).toList ++ more
  /-- A job whose diagnostics are not being written leaves the stream as it is. -/
  stream : (stage.isReporting = true ∨ locked = false) ∧
      shared'.stream ++ following.unwritten = shared.stream ++ stage.unwritten ++ more.flatten ∨
    following.isReporting = false ∧ more.flatten = [] ∧
      shared'.stream = shared.stream ∧ following.unwritten = stage.unwritten

theorem changes_of_advances {env : Environment} {files : FileSystem} {locked : Bool}
    {shared shared' : Shared} {path : String} {stage following : Stage}
    (h : env.Advances locked shared path stage shared' following)
    (hagree : files.Agree shared.files path) (hfollows : Job.Follows env files ⟨path, stage⟩) :
    ∃ more, Changes env files locked shared path stage shared' following more := by
  cases h with
  | blocked hclear =>
    rw [Environment.clear_of_agree hagree] at hclear
    have hrun := Environment.runFile_of_clear_error hclear
    refine ⟨[[]], ?_, rfl, ⟨{ total := 1 }, Tally.countTotal_eq, ?_⟩, ?_, .inr ⟨rfl, rfl, rfl, rfl⟩⟩
    · exact (congrArg FileReport.result hrun).symm
    · simp [Job.counted, hrun]
    · simp [Job.batch?, hrun]
  | clear hclear =>
    rw [Environment.clear_of_agree hagree] at hclear
    exact ⟨[], hclear, rfl, ⟨{ total := 1 }, Tally.countTotal_eq, (zero_add _).symm⟩, rfl,
      .inr ⟨rfl, rfl, rfl, rfl⟩⟩
  | unread hrender =>
    rw [Environment.render_of_agree hagree] at hrender
    have hrun := Environment.runFile_of_render_error hfollows hrender
    refine ⟨[[]], ?_, rfl, ⟨0, (add_zero _).symm, ?_⟩, ?_, .inr ⟨rfl, rfl, rfl, rfl⟩⟩
    · exact (congrArg FileReport.result hrun).symm
    · simp [Job.counted, hrun]
    · simp [Job.batch?, hrun]
  | render hrender =>
    rw [Environment.render_of_agree hagree] at hrender
    exact ⟨[], ⟨hfollows, hrender⟩, rfl, ⟨0, (add_zero _).symm, (add_zero _).symm⟩, rfl,
      .inr ⟨rfl, rfl, rfl, rfl⟩⟩
  | pass hnone =>
    have hdiagnostics := Environment.diagnostics_runFile hfollows.1 hfollows.2
    refine ⟨[[]], hfollows, rfl, ⟨0, (add_zero _).symm, ?_⟩, ?_, .inr ⟨rfl, rfl, rfl, rfl⟩⟩
    · simp [Job.counted, hdiagnostics, hnone]
    · simp [Job.batch?, hdiagnostics, hnone]
  | @count conversion hsome =>
    have hdiagnostics := Environment.diagnostics_runFile hfollows.1 hfollows.2
    refine ⟨[], hfollows, rfl, ⟨{ diagnostics := .ofNat conversion.diagnostics.length },
      Tally.countDiagnostics_eq _, ?_⟩, rfl, .inr ⟨rfl, rfl, rfl, rfl⟩⟩
    ext1 <;> simp [Job.counted, hdiagnostics]
  | @lock conversion hfree =>
    have hdiagnostics := Environment.diagnostics_runFile hfollows.1 hfollows.2
    refine ⟨[conversion.diagnostics], hfollows, rfl, ⟨0, (add_zero _).symm, (add_zero _).symm⟩, ?_,
      .inl ⟨.inr hfree, ?_⟩⟩
    · simp [Job.batch?, hdiagnostics]
    · simp [Stage.unwritten]
  | report =>
    refine ⟨[], hfollows, rfl, ⟨0, (add_zero _).symm, (add_zero _).symm⟩, ?_, .inl ⟨.inl rfl, ?_⟩⟩
    · simp [Job.batch?]
    · simp [Stage.unwritten]
  | unlock =>
    refine ⟨[], hfollows, rfl, ⟨0, (add_zero _).symm, (add_zero _).symm⟩, ?_,
      .inr ⟨rfl, rfl, rfl, rfl⟩⟩
    simp [Job.batch?]
  | unwritten htarget =>
    rw [Environment.target_of_agree hagree] at htarget
    have hrun := Environment.runFile_of_target_error hfollows.1 hfollows.2 htarget
    refine ⟨[], ?_, rfl, ⟨0, (add_zero _).symm, (add_zero _).symm⟩, ?_, .inr ⟨rfl, rfl, rfl, rfl⟩⟩
    · exact (congrArg FileReport.result hrun).symm
    · simp [Job.batch?]
  | write htarget =>
    rw [Environment.target_of_agree hagree] at htarget
    have hrun := Environment.runFile_of_target hfollows.2 htarget
    have hwritten := Environment.output?_of_target hfollows.2 htarget
    refine ⟨[], ?_, ?_, ⟨0, (add_zero _).symm, (add_zero _).symm⟩, ?_, .inr ⟨rfl, rfl, rfl, rfl⟩⟩
    · exact (congrArg FileReport.result hrun).symm
    · simp only [Job.written?, Job.isConverted, if_true, hwritten]
      rfl
    · simp [Job.batch?]

/-! ## Any number of steps -/

/-- What the jobs share is what they have added. -/
structure Fits (env : Environment) (state : RunState) (pool : Pool)
    (writes : List (Location × Content)) (batches : List (List Diagnostic)) : Prop where
  follows : ∀ job ∈ pool.jobs, job.Follows env state.files
  files_eq : pool.files = state.files.insertAll writes
  writes_perm : writes.Perm (pool.jobs.filterMap (Job.written? env state.files))
  tally : pool.shared.tally = state.tally + (pool.jobs.map (Job.counted env state.files)).sum
  batches_perm : batches.Perm (pool.jobs.filterMap (Job.batch? env state.files))
  stream : pool.shared.stream ++ pool.jobs.flatMap (fun job => job.stage.unwritten) =
    batches.flatten
  /-- At most one of the jobs writes its diagnostics. -/
  exclusive : pool.jobs.countP (fun job => job.stage.isReporting) ≤ 1

namespace Fits

variable {env : Environment} {state : RunState} {pool next : Pool} {path : String} {stage : Stage}
  {before after : List Job} {writes : List (Location × Content)} {batches : List (List Diagnostic)}

theorem start (env : Environment) (state : RunState) (paths : List String) :
    Fits env state (.start state paths) [] [] where
  follows := by simp [Pool.start, Job.Follows]
  files_eq := rfl
  writes_perm := by simp [Pool.start, Job.written?, Job.isConverted]
  tally := by simp [Pool.start, Function.comp_def, Job.counted]
  batches_perm := by simp [Pool.start, Job.batch?]
  stream := by simp [Pool.start, Stage.unwritten]
  exclusive := by
    rw [List.countP_eq_zero.2]
    · exact Nat.zero_le 1
    · simp [Pool.start, Stage.isReporting]

/-- What one job more adds comes last in time and stands where the job does. -/
theorem perm_filterMap {β : Type} {added more : List β} {view : Job → Option β} {old new : Job}
    (h : added.Perm ((before ++ old :: after).filterMap view))
    (hview : (view new).toList = (view old).toList ++ more) :
    (added ++ more).Perm ((before ++ new :: after).filterMap view) := by
  have hcons (job : Job) : (job :: after).filterMap view =
      (view job).toList ++ after.filterMap view := by
    rw [List.filterMap_cons]
    cases view job <;> rfl
  rw [List.filterMap_append, hcons] at h ⊢
  rw [hview]
  refine (h.append_right more).trans ?_
  simp only [List.append_assoc]
  exact ((List.perm_append_comm.append_left _).append_left _)

/-- What the other jobs have written is not looked up. -/
theorem agree (h : Fits env state pool writes batches)
    (hjobs : pool.jobs = before ++ ⟨path, stage⟩ :: after)
    (hstage : Job.isConverted ⟨path, stage⟩ = false)
    (hapart : ∀ job ∈ before ++ after, env.Apart state.files job.path path) :
    state.files.Agree pool.files path := by
  rw [h.files_eq]
  refine (Agree.refl _ _).insertAll fun write hwrite => ?_
  obtain ⟨job, hjob, hwritten⟩ := List.mem_filterMap.1 (h.writes_perm.mem_iff.1 hwrite)
  rw [Job.written?] at hwritten
  split at hwritten
  · rename_i hconverted
    refine hapart job ?_ _ (Environment.target_of_output? hwritten)
    rw [hjobs, List.mem_append, List.mem_cons] at hjob
    obtain hjob | rfl | hjob := hjob
    · exact List.mem_append_left _ hjob
    · simp [hstage] at hconverted
    · exact List.mem_append_right _ hjob
  · cases hwritten

/-- While one job writes its diagnostics no other one does. -/
theorem isReporting_of_mem (h : Fits env state pool writes batches)
    (hjobs : pool.jobs = before ++ ⟨path, stage⟩ :: after)
    (hstage : stage.isReporting = true ∨ pool.isLocked = false) :
    ∀ job ∈ before ++ after, job.stage.isReporting = false := by
  obtain hstage | hfree := hstage
  · have hcount := h.exclusive
    simp only [hjobs, List.countP_append, List.countP_cons, hstage, if_true] at hcount
    have hzero : (before ++ after).countP (fun job => job.stage.isReporting) = 0 := by
      rw [List.countP_append]
      omega
    simpa only [List.countP_eq_zero, Bool.not_eq_true] using hzero
  · intro job hjob
    rw [Pool.isLocked, hjobs, List.any_eq_false] at hfree
    have hmem : job ∈ before ++ ⟨path, stage⟩ :: after := by
      simp only [List.mem_append, List.mem_cons] at hjob ⊢
      tauto
    exact Bool.eq_false_iff.2 (hfree job hmem)

theorem step_of_changes {shared : Shared} {following : Stage} {more : List (List Diagnostic)}
    (h : Fits env state pool writes batches) (hjobs : pool.jobs = before ++ ⟨path, stage⟩ :: after)
    (hstage : Job.isConverted ⟨path, stage⟩ = false)
    (hchanges : Changes env state.files pool.isLocked pool.shared path stage shared following
      more) :
    Fits env state ⟨shared, before ++ ⟨path, following⟩ :: after⟩
      (writes ++ (Job.written? env state.files ⟨path, following⟩).toList) (batches ++ more) where
  follows := by
    have hfollows := h.follows
    rw [hjobs] at hfollows
    simp only [List.forall_mem_append, List.forall_mem_cons] at hfollows ⊢
    exact ⟨hfollows.1, hchanges.follows, hfollows.2.2⟩
  files_eq := by
    rw [insertAll_append, ← h.files_eq]
    exact hchanges.files_eq
  writes_perm := by
    refine perm_filterMap (hjobs ▸ h.writes_perm) ?_
    simp [Job.written?, hstage]
  tally := by
    obtain ⟨extra, hshared, hcounted⟩ := hchanges.tally
    rw [hshared, h.tally, hjobs]
    simp only [List.map_append, List.map_cons, List.sum_append, List.sum_cons, hcounted]
    abel
  batches_perm := perm_filterMap (hjobs ▸ h.batches_perm) hchanges.batches
  stream := by
    have hstream := h.stream
    rw [hjobs] at hstream
    simp only [List.flatMap_append, List.flatMap_cons] at hstream ⊢
    obtain ⟨hreporting, hloud⟩ | ⟨-, hmore, hshared, hunwritten⟩ := hchanges.stream
    · obtain ⟨hbefore, hafter⟩ := List.forall_mem_append.1 (h.isReporting_of_mem hjobs hreporting)
      have hnone {jobs : List Job} (hjobs : ∀ job ∈ jobs, job.stage.isReporting = false) :
          jobs.flatMap (fun job => job.stage.unwritten) = [] :=
        List.flatMap_eq_nil_iff.2 fun job hjob => Stage.unwritten_of_isReporting (hjobs job hjob)
      rw [hnone hbefore, hnone hafter, List.nil_append, List.append_nil] at hstream ⊢
      rw [hloud, hstream, List.flatten_append]
    · rw [hshared, hunwritten, hstream, List.flatten_append, hmore, List.append_nil]
  exclusive := by
    have hcount := h.exclusive
    simp only [hjobs, List.countP_append, List.countP_cons] at hcount ⊢
    obtain ⟨hreporting, -⟩ | ⟨hsilent, -⟩ := hchanges.stream
    · have hzero : (before ++ after).countP (fun job => job.stage.isReporting) = 0 := by
        simpa only [List.countP_eq_zero, Bool.not_eq_true]
          using h.isReporting_of_mem hjobs hreporting
      rw [List.countP_append] at hzero
      split <;> omega
    · rw [hsilent]
      simp only [Bool.false_eq_true, if_false]
      omega

variable {index : Nat} {paths : List String}

theorem step (hapart : (pool.jobs.map Job.path).Pairwise fun path other =>
      env.Apart state.files path other ∧ env.Apart state.files other path)
    (h : Fits env state pool writes batches) (hstep : pool.step env index = some next) :
    ∃ writes batches, Fits env state next writes batches := by
  obtain ⟨before, path, stage, after, shared, following, hjobs, -, hadvances, rfl⟩ :=
    Pool.step_eq_some hstep
  have hstage : Job.isConverted ⟨path, stage⟩ = false := by cases hadvances <;> rfl
  have hothers : ∀ job ∈ before ++ after, env.Apart state.files job.path path := by
    rw [hjobs, List.map_append, List.map_cons, List.pairwise_append, List.pairwise_cons] at hapart
    obtain ⟨-, ⟨hafter, -⟩, hbefore⟩ := hapart
    refine List.forall_mem_append.2 ⟨fun job hjob => ?_, fun job hjob => ?_⟩
    · exact (hbefore _ (List.mem_map_of_mem hjob) path List.mem_cons_self).1
    · exact (hafter _ (List.mem_map_of_mem hjob)).2
  have hfollows := h.follows ⟨path, stage⟩ (by simp [hjobs])
  obtain ⟨more, hchanges⟩ :=
    changes_of_advances hadvances (h.agree hjobs hstage hothers) hfollows
  exact ⟨_, _, h.step_of_changes hjobs hstage hchanges⟩

end Fits

variable {env : Environment} {state : RunState} {final : Pool} {paths : List String}
  {schedule : List Nat}

theorem fits_of_run (hapart : paths.Pairwise fun path other =>
      env.Apart state.files path other ∧ env.Apart state.files other path)
    (hrun : (Pool.start state paths).run env schedule = some final) :
    final.jobs.map Job.path = paths ∧ ∃ writes batches, Fits env state final writes batches := by
  refine Pool.run_invariant
    (P := fun pool => pool.jobs.map Job.path = paths ∧
      ∃ writes batches, Fits env state pool writes batches)
    ?_ hrun ⟨by simp [Pool.start, Function.comp_def], [], [], .start env state paths⟩
  rintro pool index next hstep ⟨hpaths, writes, batches, hfits⟩
  exact ⟨(Pool.map_path_of_step hstep).trans hpaths, hfits.step (hpaths ▸ hapart) hstep⟩

/-! ## At the end -/

/-- Each job has come to what the conversion of its file at the start comes to. -/
theorem jobs_of_isFinished (hpaths : final.jobs.map Job.path = paths)
    (hfollows : ∀ job ∈ final.jobs, job.Follows env state.files) (h : final.isFinished = true) :
    final.jobs = paths.map fun path => ⟨path, .finished (env.runFile state.files path).result⟩ := by
  rw [← hpaths, List.map_map]
  refine (List.map_id _).symm.trans (List.map_congr_left fun job hjob => ?_)
  obtain ⟨path, stage⟩ := job
  have hfollows := hfollows _ hjob
  cases stage with
  | finished result =>
    have hresult : result = (env.runFile state.files path).result := hfollows
    rw [hresult]
    rfl
  | _ => exact absurd (List.all_eq_true.1 h _ hjob) Bool.false_ne_true

theorem written?_finished (env : Environment) (files : FileSystem) (path : String) :
    Job.written? env files ⟨path, .finished (env.runFile files path).result⟩ =
      env.output? files path := by
  have hconverted := env.isConverted_runFile files path
  rw [FileReport.isConverted] at hconverted
  rw [Job.written?, Job.isConverted]
  cases hresult : (env.runFile files path).result with
  | ok => rfl
  | error =>
    rw [hresult] at hconverted
    exact (Option.not_isSome_iff_eq_none.1 (Bool.eq_false_iff.1 hconverted.symm)).symm

namespace Fits

variable {writes : List (Location × Content)} {batches : List (List Diagnostic)}

section

variable (h : Fits env state final writes batches)
  (hjobs : final.jobs =
    paths.map fun path => ⟨path, .finished (env.runFile state.files path).result⟩)
include h hjobs

theorem files_same (hapart : paths.Pairwise (env.Apart state.files)) :
    final.files.Same (state.files.insertAll (paths.filterMap (env.output? state.files))) := by
  have hperm : writes.Perm (paths.filterMap (env.output? state.files)) := by
    refine (hjobs ▸ h.writes_perm).trans (.of_eq ?_)
    rw [List.filterMap_map]
    exact List.filterMap_congr fun path _ => written?_finished env state.files path
  rw [h.files_eq]
  refine same_insertAll_of_perm hperm ?_ fun write hwrite => ?_
  · exact (hperm.map Prod.fst).nodup_iff.2 (Environment.nodup_outputs hapart)
  · obtain ⟨path, -, houtput⟩ := List.mem_filterMap.1 (hperm.mem_iff.1 hwrite)
    exact Environment.not_prefix_of_target (Environment.target_of_output? houtput)

theorem tally_eq :
    final.report.state.tally =
      state.tally + (paths.map fun path => Tally.ofReport (env.runFile state.files path)).sum := by
  have hresults : final.results = paths.map fun path => (env.runFile state.files path).result := by
    rw [Pool.results, hjobs, List.filterMap_map, ← List.filterMap_eq_map]
    rfl
  rw [Pool.report, Tally.foldl_recordResult, h.tally, hresults, hjobs, add_assoc, List.map_map,
    List.map_map, ← List.sum_map_add]
  rfl

theorem stream_eq : final.shared.stream = batches.flatten := by
  rw [← h.stream, hjobs, List.flatMap_eq_nil_iff.2, List.append_nil]
  simp [Stage.unwritten]

end

end Fits

/-- Every schedule can go on to the end of all conversions.  It then leaves behind what the
conversions leave behind one after the other; only the batches of diagnostics can come in another
order. -/
theorem run_eq_runAll (h : state.files.Separate paths)
    (hrun : (Pool.start state paths).run env schedule = some final) :
    (∃ later last, final.run env later = some last ∧ last.isFinished = true) ∧
    (final.isFinished = true →
      let run := env.runAll state paths
      let reports := env.reports state.files paths
      final.files.Same run.state.files ∧
      final.jobs.map Job.path = paths ∧ final.results = reports.map FileReport.result ∧
      final.report.errors = run.errors ∧ final.report.state.tally = run.state.tally ∧
      ∃ batches : List (List Diagnostic), batches.Perm (reports.map FileReport.diagnostics) ∧
        final.report.diagnostics = batches.flatten) := by
  refine ⟨Pool.exists_run_isFinished env final, fun hfinished => ?_⟩
  intro run reports
  have hpairs := h.pairwise env
  have hapart : paths.Pairwise (env.Apart state.files) := hpairs.imp And.left
  have hagree : ∀ path ∈ paths, state.files.Agree state.files path := fun _ _ => .refl _ _
  obtain ⟨hpaths, writes, batches, hfits⟩ := fits_of_run hpairs hrun
  have hjobs := jobs_of_isFinished hpaths hfits.follows hfinished
  have hview {β : Type} {view : FileReport → β}
      (hview : ∀ report files, view { report with files } = view report) :
      reports.map view = paths.map fun path => view (env.runFile state.files path) :=
    Environment.reports_of_apart hview hagree hapart
  have hresults : final.results = reports.map FileReport.result := by
    rw [hview fun _ _ => rfl, Pool.results, hjobs, List.filterMap_map, ← List.filterMap_eq_map]
    rfl
  have hrun : run = _ := Environment.runAll_eq state paths
  rw [hrun]
  refine ⟨?_, hpaths, hresults, ?_, ?_, batches, ?_, hfits.stream_eq hjobs⟩
  · rw [Environment.filesAfter_of_apart hagree hapart]
    exact hfits.files_same hjobs hapart
  · rw [Pool.report, hresults, List.filterMap_map]
    rfl
  · rw [hfits.tally_eq hjobs, hview fun _ _ => rfl]
  · have hbatches := hfits.batches_perm
    rw [hjobs, List.filterMap_map] at hbatches
    rw [hview fun _ _ => rfl, ← List.filterMap_eq_map]
    exact hbatches

/-! The condition on the ways of stubs cannot be left out.  Here the stub of `a.py` is a link that
leads nowhere, and once the stub of `b.py` is there it does so for another reason. -/

def danglingFiles : FileSystem where
  entries := [
    (["a.py"], .file (.text importText)),
    (["b.py"], .file (.text importText)),
    (["a.pyi"], .link "b.pyi/x")]

theorem target_danglingFiles (text : String) :
    (importEnvironment true).target danglingFiles "a.py" = .error .notFound ∧
    (importEnvironment true).target (danglingFiles.insert ["b.pyi"] (.file (.text text))) "a.py" =
      .error .notDirectory := by
  have hstub : Path.stubOf "a.py" = "a.pyi" := by decide +kernel
  have hsteps : stepsOf "a.pyi" = .ok [.name "a.pyi"] := rfl
  have hlink : stepsOf "b.pyi/x" = .ok [.name "b.pyi", .name "x"] := rfl
  have hfile (text : String) : (danglingFiles.insert ["b.pyi"] (.file (.text text))).get?
      (danglingFiles.start ++ [.text "b.pyi"]) = some (.file (.text text)) := rfl
  constructor
  · refine Environment.target_of_resolve_error ?_
    rw [hstub, resolve_eq_of_stepsOf hsteps, follow_link rfl rfl, hlink]
    exact follow_vacant rfl rfl
  · refine Environment.target_of_resolve_error ?_
    rw [hstub, resolve_eq_of_stepsOf hsteps, follow_link rfl rfl, hlink]
    refine (follow_entry rfl (hfile text) (by simp)).trans (follow_of_ne ?_)
    rw [hfile text]
    simp

/-- The reason why `a.py` is not converted depends on whether `b.py` is. -/
theorem error_depends_on_order :
    Path.stubOf "a.py" = "a.pyi" ∧ Path.stubOf "b.py" = "b.pyi" ∧
    danglingFiles.read "a.py" = .ok importText ∧ danglingFiles.read "b.py" = .ok importText ∧
    ((importEnvironment true).runAll ⟨danglingFiles, {}⟩ ["a.py", "b.py"]).errors =
      [.write "a.pyi" .notFound] ∧
    ((importEnvironment true).runAll ⟨danglingFiles, {}⟩ ["b.py", "a.py"]).errors =
      [.write "a.pyi" .notDirectory] := by
  have hsteps : stepsOf "b.pyi" = .ok [.name "b.pyi"] := rfl
  have hfirst : stepsOf "a.py" = .ok [.name "a.py"] := rfl
  have hsecond : stepsOf "b.py" = .ok [.name "b.py"] := rfl
  have hstub : Path.stubOf "a.py" = "a.pyi" := by decide +kernel
  have hstub' : Path.stubOf "b.py" = "b.pyi" := by decide +kernel
  have hread : danglingFiles.read "a.py" = .ok importText := read_name hfirst rfl
  have hread' : danglingFiles.read "b.py" = .ok importText := read_name hsecond rfl
  obtain ⟨hnotFound, hnotDirectory⟩ := target_danglingFiles (importConversion "b.py").text
  have hwrite : (importEnvironment true).target danglingFiles "b.py" = .ok ["b.pyi"] :=
    target_importEnvironment hstub' hsteps rfl
  have hreadAfter (text : String) :
      (danglingFiles.insert ["b.pyi"] (.file (.text text))).read "a.py" = .ok importText :=
    read_name hfirst rfl
  have hrun := Environment.runFile_of_target (render_importEnvironment hread') hwrite
  have hrunBefore :=
    Environment.runFile_of_target_error rfl (render_importEnvironment hread) hnotFound
  have hrunAfter :=
    Environment.runFile_of_target_error rfl (render_importEnvironment (hreadAfter _)) hnotDirectory
  refine ⟨hstub, hstub', hread, hread', ?_, ?_⟩
  · simp [Environment.runAll_eq, Environment.reports, hrunBefore, hrun, errorOf?,
      Environment.writeError, hstub]
  · simp [Environment.runAll_eq, Environment.reports, hrun, hrunAfter, errorOf?,
      Environment.writeError, hstub]

/-! Two separate files, of which the second is written first. -/

def separateFiles : FileSystem where
  entries := [(["a.py"], .file (.text importText)), (["b.py"], .file (.text importText))]

theorem separate_separateFiles : separateFiles.Separate ["a.py", "b.py"] := by
  have hfirst : stepsOf "a.py" = .ok [.name "a.py"] := rfl
  have hsecond : stepsOf "b.py" = .ok [.name "b.py"] := rfl
  have hstub : Path.stubOf "a.py" = "a.pyi" := by decide +kernel
  have hstub' : Path.stubOf "b.py" = "b.pyi" := by decide +kernel
  have hsteps : stepsOf "a.pyi" = .ok [.name "a.pyi"] := rfl
  have hsteps' : stepsOf "b.pyi" = .ok [.name "b.pyi"] := rfl
  have hsource : separateFiles.resolve "a.py" = .ok (.found ["a.py"] (.file (.text importText))) :=
    resolve_name hfirst rfl
  have hsource' : separateFiles.resolve "b.py" = .ok (.found ["b.py"] (.file (.text importText))) :=
    resolve_name hsecond rfl
  have hplace : separateFiles.resolve "a.pyi" = .ok (.vacant ["a.pyi"]) :=
    resolve_name_vacant hsteps rfl
  have hplace' : separateFiles.resolve "b.pyi" = .ok (.vacant ["b.pyi"]) :=
    resolve_name_vacant hsteps' rfl
  refine ⟨?_, ?_, ?_⟩
  · simp [hsource, hsource']
  · simp [hstub, hstub', hsource, hsource', hplace, hplace', Place.location]
  · have hway : separateFiles.way "a.pyi" = [[], [.text "a.pyi"]] := way_name_vacant hsteps rfl
    have hway' : separateFiles.way "b.pyi" = [[], [.text "b.pyi"]] := way_name_vacant hsteps' rfl
    simp [hstub, hstub', hplace, hplace', hway, hway', Place.location]

def separatePool : Pool where
  shared := {
    files := (separateFiles.insert ["b.pyi"] (.file (.text (importConversion "b.py").text))).insert
      ["a.pyi"] (.file (.text (importConversion "a.py").text))
    tally := { total := 2, diagnostics := 2 }
    stream := (importConversion "a.py").diagnostics ++ (importConversion "b.py").diagnostics }
  jobs := [⟨"a.py", .finished (.ok "a.pyi")⟩, ⟨"b.py", .finished (.ok "b.pyi")⟩]

theorem run_separateFiles :
    (Pool.start ⟨separateFiles, {}⟩ ["a.py", "b.py"]).run (importEnvironment true)
      [0, 1, 0, 1, 0, 1, 0, 0, 0, 1, 1, 1, 1, 0] = some separatePool := by
  have hname : stepsOf "a.py" = .ok [.name "a.py"] := rfl
  have hname' : stepsOf "b.py" = .ok [.name "b.py"] := rfl
  have hsteps : stepsOf "a.pyi" = .ok [.name "a.pyi"] := rfl
  have hsteps' : stepsOf "b.pyi" = .ok [.name "b.pyi"] := rfl
  have hstub : Path.stubOf "a.py" = "a.pyi" := by decide +kernel
  have hstub' : Path.stubOf "b.py" = "b.pyi" := by decide +kernel
  have hrender : (importEnvironment true).render separateFiles "a.py" = _ :=
    render_importEnvironment (read_name hname rfl)
  have hrender' : (importEnvironment true).render separateFiles "b.py" = _ :=
    render_importEnvironment (read_name hname' rfl)
  have hwrite : (importEnvironment true).target separateFiles "b.py" = .ok ["b.pyi"] :=
    target_importEnvironment hstub' hsteps' rfl
  have hlater (text : String) : (importEnvironment true).target
      (separateFiles.insert ["b.pyi"] (.file (.text text))) "a.py" = .ok ["a.pyi"] :=
    target_importEnvironment hstub hsteps rfl
  have hfirst : (importConversion "a.py").diagnostics.length = 1 := by decide +kernel
  have hsecond : (importConversion "b.py").diagnostics.length = 1 := by decide +kernel
  obtain ⟨first, hfirst⟩ := List.length_eq_one_iff.1 hfirst
  obtain ⟨second, hsecond⟩ := List.length_eq_one_iff.1 hsecond
  refine Pool.run_side_by_side rfl rfl hrender hrender' hfirst hsecond ?_
  refine Pool.run_of_advances [_] rfl (.write hwrite) ?_
  refine Pool.run_of_advances [] rfl (.write (hlater _)) ?_
  rw [separatePool, hfirst, hsecond, hstub, hstub']
  rfl

/-- They end as if the first had been written first. -/
theorem run_eq_runAll_separateFiles :
    separateFiles.Separate ["a.py", "b.py"] ∧
    (Pool.start ⟨separateFiles, {}⟩ ["a.py", "b.py"]).run (importEnvironment true)
      [0, 1, 0, 1, 0, 1, 0, 0, 0, 1, 1, 1, 1, 0] = some separatePool ∧
    separatePool.isFinished = true ∧
    separatePool.files.Same
      ((importEnvironment true).runAll ⟨separateFiles, {}⟩ ["a.py", "b.py"]).state.files := by
  obtain ⟨-, hsame⟩ := run_eq_runAll separate_separateFiles run_separateFiles
  exact ⟨separate_separateFiles, run_separateFiles, rfl, (hsame rfl).1⟩

end InterfaceStub
