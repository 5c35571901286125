import InterfaceStub.Proofs.ConverterCalls
import InterfaceStub.Proofs.Rerun

/-!
# Counters that add up

The counters of a converter are raised in three places: for inputs that are not there, by the
workers, and when the results are gone through.  Counters wrap, so all equations here are modulo
2 ^ 64.

* `Stage.begun` is what a conversion has counted and not yet shown in the stream of diagnostics.
  `Advances.counted` says that a step counts what it shows, and `tally_of_run` that a whole run
  does.
* `Tally.ofCall` is what a call adds, told from its report alone, and `Accounted` has one case for
  each way in which a call can end (`Call.Ends.accounted`).
* `counters_conserved` is the result: it takes this to every history of calls.
-/

namespace InterfaceStub

/-! ## What the workers count -/

/-- What a conversion has counted, less the diagnostics that it has written. -/
def Stage.begun : Stage → Tally
  | .waiting => 0
  | .counted conversion => { total := 1, diagnostics := .ofNat conversion.diagnostics.length }
  | .reporting _ rest => { total := 1, diagnostics := .ofNat rest.length }
  | .cleared | .rendered _ | .reported _ | .finished _ => { total := 1 }

/-- What some diagnostics count. -/
def Tally.ofStream (stream : List Diagnostic) : Tally :=
  { diagnostics := .ofNat stream.length }

/-- A step counts what it begins, and a diagnostic that it writes is counted already. -/
theorem Environment.Advances.counted {env : Environment} {locked : Bool} {shared after : Shared}
    {path : String} {stage following : Stage}
    (h : env.Advances locked shared path stage after following) :
    ∃ extra, after.tally = shared.tally + extra ∧
      Tally.ofStream after.stream + following.begun =
        Tally.ofStream shared.stream + stage.begun + extra := by
  cases h with
  | blocked | clear =>
    refine ⟨{ total := 1 }, Tally.countTotal_eq, ?_⟩
    rw [Stage.begun, Stage.begun, add_zero]
  | @count conversion =>
    refine ⟨{ diagnostics := .ofNat conversion.diagnostics.length },
      Tally.countDiagnostics_eq _, ?_⟩
    rw [add_assoc]
    congr 1
    ext1 <;> simp [Stage.begun]
  | @report conversion diagnostic rest =>
    refine ⟨0, (add_zero _).symm, ?_⟩
    have hstream : Tally.ofStream (shared.stream ++ [diagnostic]) =
        Tally.ofStream shared.stream + { diagnostics := 1 } := by
      ext1 <;> simp [Tally.ofStream]
    have hbegun : Stage.begun (.reporting conversion (diagnostic :: rest)) =
        Stage.begun (.reporting conversion rest) + { diagnostics := 1 } := by
      ext1 <;> simp [Stage.begun]
    rw [hstream, hbegun]
    abel
  | unread | render | pass | lock | unlock | unwritten | write =>
    exact ⟨0, (add_zero _).symm, (add_zero _).symm⟩

namespace Pool

variable {env : Environment} {state : RunState} {paths : List String} {schedule : List Nat}
  {final : Pool}

/-- The workers count what they begin and what they write. -/
theorem tally_of_run (hrun : (start state paths).run env schedule = some final) :
    final.shared.tally =
      state.tally + (Tally.ofStream final.shared.stream +
        (final.jobs.map fun job => job.stage.begun).sum) := by
  refine run_invariant (P := fun pool => pool.shared.tally = state.tally +
    (Tally.ofStream pool.shared.stream + (pool.jobs.map fun job => job.stage.begun).sum)) ?_ hrun ?_
  · intro pool index next hstep hpool
    obtain ⟨before, path, stage, after, shared, following, hjobs, -, hadvances, rfl⟩ :=
      step_eq_some hstep
    obtain ⟨extra, htally, hcounted⟩ := hadvances.counted
    rw [hjobs] at hpool
    simp only [List.map_append, List.map_cons, List.sum_append, List.sum_cons] at hpool ⊢
    calc shared.tally
        = pool.shared.tally + extra := htally
      _ = state.tally + ((before.map fun job => job.stage.begun).sum +
            (Tally.ofStream pool.shared.stream + stage.begun + extra) +
            (after.map fun job => job.stage.begun).sum) := by rw [hpool]; abel
      _ = _ := by rw [← hcounted]; abel
  · have hzero : (paths.map fun _ => Stage.begun .waiting).sum = 0 := by
      simp [Stage.begun]
    simp only [start, List.map_map, Function.comp_def, hzero]
    exact (add_zero _).symm

/-- At the end every file is counted once. -/
theorem sum_begun_of_isFinished (h : final.isFinished = true) :
    (final.jobs.map fun job => job.stage.begun).sum = { total := .ofNat final.results.length } := by
  obtain ⟨shared, jobs⟩ := final
  induction jobs with
  | nil => rfl
  | cons job jobs ih =>
    simp only [isFinished, List.all_cons, Bool.and_eq_true] at h
    obtain ⟨path, stage⟩ := job
    cases stage with
    | finished result =>
      have hresults : results ⟨shared, ⟨path, .finished result⟩ :: jobs⟩ =
          result :: results ⟨shared, jobs⟩ := rfl
      rw [List.map_cons, List.sum_cons, ih h.2, hresults, List.length_cons]
      ext1 <;> simp [Stage.begun, UInt64.add_comm]
    | _ => simp [Stage.result?] at h

end Pool

/-! ## What a call counts -/

theorem ConversionError.length_eq_countP_isSkip_add (errors : List ConversionError) :
    errors.length = errors.countP isSkip + errors.countP fun error => !error.isSkip := by
  simpa using errors.length_eq_countP_add_countP isSkip

namespace Tally

/-- What a call adds that writes some stubs and gives a report with these errors. -/
def ofCall (converted : Nat) (errors : List ConversionError) (diagnostics : List Diagnostic) :
    Tally where
  total := .ofNat (converted + errors.length)
  converted := .ofNat converted
  skipped := .ofNat (errors.countP ConversionError.isSkip)
  failed := .ofNat (errors.countP fun error => !error.isSkip)
  diagnostics := .ofNat diagnostics.length

theorem sum_ofResult (results : List (Except ConversionError String)) :
    (results.map ofResult).sum =
      { converted := .ofNat (results.countP Except.isOk)
        skipped := .ofNat ((results.filterMap errorOf?).countP ConversionError.isSkip)
        failed := .ofNat ((results.filterMap errorOf?).countP fun error => !error.isSkip) } := by
  induction results with
  | nil => rfl
  | cons result results ih =>
    rw [List.map_cons, List.sum_cons, ih]
    cases result with
    | ok =>
      rw [List.countP_cons_of_pos rfl, List.filterMap_cons_none (errorOf?_ok _)]
      ext1 <;> simp [ofResult, UInt64.add_comm]
    | error error =>
      rw [List.countP_cons_of_neg Bool.false_ne_true]
      cases h : error.isSkip <;> ext1 <;> simp [ofResult, h, UInt64.add_comm]

theorem length_eq_countP_isOk_add (results : List (Except ConversionError String)) :
    results.length = results.countP Except.isOk + (results.filterMap errorOf?).length := by
  induction results with
  | nil => rfl
  | cons result results ih =>
    cases result with
    | ok =>
      rw [List.countP_cons_of_pos rfl, List.filterMap_cons_none (errorOf?_ok _), List.length_cons]
      omega
    | error =>
      rw [List.countP_cons_of_neg Bool.false_ne_true, List.filterMap_cons_some (errorOf?_error _),
        List.length_cons, List.length_cons]
      omega

/-- Conversions add what a call adds. -/
theorem ofCall_results (results : List (Except ConversionError String))
    (diagnostics : List Diagnostic) :
    ofStream diagnostics + { total := .ofNat results.length } + (results.map ofResult).sum =
      ofCall (results.countP Except.isOk) (results.filterMap errorOf?) diagnostics := by
  rw [sum_ofResult, length_eq_countP_isOk_add results]
  ext1 <;> simp [ofStream, ofCall]

/-- Inputs that are not there add what a call adds that fails on each of them. -/
theorem ofCall_missing {missing : List ConversionError}
    (h : ∀ error ∈ missing, error.isSkip = false) (tally : Tally) :
    missing.foldl (fun tally _ => tally.countTotal.countFailed) tally =
      tally + ofCall 0 missing [] := by
  induction missing generalizing tally with
  | nil => exact (add_zero tally).symm
  | cons error missing ih =>
    rw [List.foldl_cons, ih fun error herror => h error (List.mem_cons_of_mem _ herror)]
    have herror := h error List.mem_cons_self
    ext1 <;> simp [ofCall, countTotal, countFailed, herror, UInt64.add_assoc, UInt64.add_comm]

theorem ofCall_append (converted : Nat) (first second : List ConversionError)
    (diagnostics : List Diagnostic) :
    ofCall 0 first [] + ofCall converted second diagnostics =
      ofCall converted (first ++ second) diagnostics := by
  have htotal : 0 + first.length + (converted + second.length) =
      converted + (first ++ second).length := by
    rw [List.length_append]
    omega
  ext1
  case total => rw [total_add, ofCall, ofCall, ofCall, ← UInt64.ofNat_add, htotal]
  all_goals simp [ofCall]

/-- Every file taken up is converted, left out or failed. -/
def IsBalanced (tally : Tally) : Prop :=
  tally.total = tally.converted + tally.skipped + tally.failed

theorem isBalanced_ofCall (converted : Nat) (errors : List ConversionError)
    (diagnostics : List Diagnostic) : (ofCall converted errors diagnostics).IsBalanced := by
  rw [IsBalanced, ofCall, ConversionError.length_eq_countP_isSkip_add errors]
  simp only [UInt64.ofNat_add]
  ac_rfl

theorem IsBalanced.add {first second : Tally} (hfirst : first.IsBalanced)
    (hsecond : second.IsBalanced) : (first + second).IsBalanced := by
  rw [IsBalanced] at hfirst hsecond ⊢
  simp only [total_add, converted_add, skipped_add, failed_add, hfirst, hsecond]
  ac_rfl

end Tally

/-- What a call leaves behind, for each way in which it can end. -/
inductive Accounted (before : RunState) : Ending → Prop
  | report (converted : Nat) {state : RunState} {errors : List ConversionError}
    {diagnostics : List Diagnostic}
    (htally : state.tally = before.tally + .ofCall converted errors diagnostics) :
    Accounted before ⟨state, .report errors, diagnostics⟩
  | unwalked {error : ConversionError} : Accounted before ⟨before, .unwalked error, []⟩
  | unmanned (missing : List ConversionError) {state : RunState} {reason : String}
    (htally : state.tally = before.tally + .ofCall 0 missing []) :
    Accounted before ⟨state, .unmanned reason, []⟩

namespace Environment

variable {env : Environment} {state : RunState} {paths inputs : List String} {ending : Ending}

/-- The conversion of files gives a report, or does not begin. -/
theorem FilesEnd.report_or_unmanned (h : env.FilesEnd state paths ending) :
    (∃ converted errors, ending.outcome = .report errors ∧
      ending.state.tally = state.tally + .ofCall converted errors ending.diagnostics) ∨
    ∃ reason, ending = ⟨state, .unmanned reason, []⟩ := by
  cases h with
  | unmanned => exact .inr ⟨_, rfl⟩
  | @finished schedule final hrun hfinished =>
    rw [Pool.ending_of_run hrun, ← Pool.filterMap_errorOf?_results]
    refine .inl ⟨final.results.countP Except.isOk, _, rfl, ?_⟩
    rw [Pool.report, Tally.foldl_recordResult, Pool.tally_of_run hrun,
      Pool.sum_begun_of_isFinished hfinished, ← Tally.ofCall_results, add_assoc]

theorem FilesEnd.accounted (h : env.FilesEnd state paths ending) : Accounted state ending := by
  obtain ⟨converted, errors, houtcome, htally⟩ | ⟨reason, rfl⟩ := h.report_or_unmanned
  · obtain ⟨after, outcome, diagnostics⟩ := ending
    obtain rfl := houtcome
    exact .report converted htally
  · exact .unmanned [] (add_zero _).symm

/-- The errors of inputs that are not there come on top. -/
theorem InputsEnd.accounted (h : env.InputsEnd state inputs ending) : Accounted state ending := by
  cases h with
  | unwalked => exact .unwalked
  | @converted found ending hsources hends =>
    have hmissing : ∀ error ∈ found.filterMap errorOf?, error.isSkip = false := by
      intro error herror
      obtain ⟨input, rfl⟩ := eq_read_of_mem_missing hsources herror
      rfl
    have hcount := Tally.ofCall_missing hmissing state.tally
    obtain ⟨converted, errors, houtcome, htally⟩ | ⟨reason, rfl⟩ := hends.report_or_unmanned
    · obtain ⟨after, outcome, diagnostics⟩ := ending
      obtain rfl := houtcome
      refine .report converted ?_
      rw [← Tally.ofCall_append, ← add_assoc, ← hcount]
      exact htally
    · exact .unmanned _ hcount

/-- A walk that fails ends the call before anything is counted. -/
theorem InputsEnd.eq_of_unwalked {error : ConversionError} (h : env.InputsEnd state inputs ending)
    (hsources : env.sources state.files inputs = .error error) :
    ending = ⟨state, .unwalked error, []⟩ := by
  cases h with
  | unwalked hsources' =>
    cases hsources.symm.trans hsources'
    rfl
  | converted hsources' => cases hsources.symm.trans hsources'

end Environment

theorem Call.Ends.accounted {env : Environment} {state : RunState} {call : Call} {ending : Ending}
    (h : call.Ends env state ending) : Accounted state ending := by
  cases call with
  | inputs => exact Environment.InputsEnd.accounted h
  | files => exact Environment.FilesEnd.accounted h

/-! ## Histories -/

theorem Accounted.isBalanced {before : RunState} {ending : Ending} (h : Accounted before ending)
    (hbefore : before.tally.IsBalanced) : ending.state.tally.IsBalanced := by
  cases h with
  | report converted htally =>
    rw [htally]
    exact hbefore.add (Tally.isBalanced_ofCall _ _ _)
  | unwalked => exact hbefore
  | unmanned missing htally =>
    rw [htally]
    exact hbefore.add (Tally.isBalanced_ofCall _ _ _)

/-- What a call adds to the counters is told by its report. -/
theorem Accounted.counters {before : RunState} {ending : Ending} {errors : List ConversionError}
    (h : Accounted before ending) (herrors : ending.outcome = .report errors) :
    let after := ending.state.tally
    after.skipped + after.failed =
      before.tally.skipped + before.tally.failed + .ofNat errors.length ∧
    after.skipped = before.tally.skipped + .ofNat (errors.countP ConversionError.isSkip) ∧
    after.diagnostics = before.tally.diagnostics + .ofNat ending.diagnostics.length := by
  cases h with
  | report converted htally =>
    cases herrors
    simp only [htally, Tally.skipped_add, Tally.failed_add, Tally.diagnostics_add, Tally.ofCall,
      ConversionError.length_eq_countP_isSkip_add errors, UInt64.ofNat_add, and_true]
    ac_rfl
  | unwalked => cases herrors
  | unmanned => cases herrors

/-- Between calls the counters are balanced. -/
theorem History.isBalanced {env : Environment} {history : List Exchange} {tally : Tally}
    (h : History env history tally) :
    tally.IsBalanced ∧ ∀ exchange ∈ history,
      exchange.before.tally.IsBalanced ∧
        exchange.call.Ends env exchange.before exchange.ending := by
  induction h with
  | start => exact ⟨rfl, nofun⟩
  | next _ hends ih =>
    obtain ⟨hbalanced, hearlier⟩ := ih
    refine ⟨hends.accounted.isBalanced hbalanced, ?_⟩
    rw [List.forall_mem_append, List.forall_mem_singleton]
    exact ⟨hearlier, hbalanced, hends⟩

/-- After every call on a converter the files that were taken up are those converted, left out and
failed.  A report has one error for each file that was left out or failed in the call, those left
out being the ones whose stub was there, and the diagnostics counted are those written.  No result
stops a call, and a walk that fails changes neither files nor counters.  Any call can follow, and
may convert one file after the other. -/
theorem counters_conserved {env : Environment} {history : List Exchange} {tally : Tally}
    (h : History env history tally) :
    (∀ exchange ∈ history,
      let before := exchange.before.tally
      let after := exchange.ending.state.tally
      after.total = after.converted + after.skipped + after.failed ∧
      (∀ errors, exchange.ending.outcome = .report errors →
        after.skipped + after.failed = before.skipped + before.failed + .ofNat errors.length ∧
        after.skipped = before.skipped + .ofNat (errors.countP ConversionError.isSkip) ∧
        after.diagnostics = before.diagnostics + .ofNat exchange.ending.diagnostics.length) ∧
      (∀ error, exchange.ending.outcome ≠ .stopped error) ∧
      ∀ given error, exchange.call = .inputs given →
        env.sources exchange.before.files given = .error error →
        exchange.ending = ⟨exchange.before, .unwalked error, []⟩) ∧
    ∀ files call,
      let exchange := ⟨⟨files, tally⟩, call, call.ending env ⟨files, tally⟩⟩
      History env (history ++ [exchange]) exchange.ending.state.tally := by
  refine ⟨fun exchange hexchange => ?_, fun files call => .next h (call.ends_ending env _)⟩
  obtain ⟨hbefore, hends⟩ := h.isBalanced.2 exchange hexchange
  have haccounted := hends.accounted
  refine ⟨haccounted.isBalanced hbefore, fun errors => haccounted.counters, fun error herror => ?_,
    fun given error hcall hsources => ?_⟩
  · generalize exchange.ending = ending at haccounted herror
    cases haccounted <;> cases herror
  · rw [hcall] at hends
    exact Environment.InputsEnd.eq_of_unwalked hends hsources

/-- One source is converted, left out when it comes again, and one input is not there. -/
theorem counters_conserved_singleFile :
    let call : Call := .inputs [".", "/srv/a.py", "missing.py"]
    let ending := call.ending (importEnvironment false) { files := singleFile }
    History (importEnvironment false) [⟨{ files := singleFile }, call, ending⟩] ending.state.tally ∧
    ending.state.tally.converted = 1 ∧ ending.state.tally.skipped = 1 ∧
    ending.state.tally.failed = 1 ∧ ending.state.tally.total = 3 := by
  intro call ending
  have hhistory : History (importEnvironment false) [⟨{ files := singleFile }, call, ending⟩]
      ending.state.tally := .next .start (call.ends_ending _ _)
  obtain ⟨run, hrun, hconverted, hskipped, hfailed⟩ := runInputs_singleFile
  have hending : ending = run.ending := by
    simp only [ending, call, Call.ending, hrun]
  have htotal := ((counters_conserved hhistory).1 _ List.mem_cons_self).1
  simp only [hending, RunReport.ending, hconverted, hskipped, hfailed] at htotal
  rw [hending] at hhistory ⊢
  exact ⟨hhistory, hconverted, hskipped, hfailed, htotal⟩

end InterfaceStub
