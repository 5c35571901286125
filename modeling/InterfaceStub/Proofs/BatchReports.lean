import Mathlib.Algebra.BigOperators.Group.List.Basic
import InterfaceStub.Conversion.Batch

/-!
# What a run adds up to

A run converts one file after the other.

* Tallies add up counter by counter, in any order.  `Tally.ofReport` is what one conversion adds
  (`Tally.record_eq`), and `Tally.failed_sum` and its like say what the counters of a sum are.
* `reports` keeps what each conversion of a run left behind, and `runAll_eq` says that the report of
  the run is made of these.
-/

namespace InterfaceStub

/-! ## Sums of tallies -/

attribute [ext] Tally

namespace Tally

instance : Add Tally where
  add first second :=
    { total := first.total + second.total
      converted := first.converted + second.converted
      skipped := first.skipped + second.skipped
      failed := first.failed + second.failed
      diagnostics := first.diagnostics + second.diagnostics }

instance : Zero Tally where
  zero := {}

section

variable (first second : Tally)

@[simp] theorem total_add : (first + second).total = first.total + second.total := rfl

@[simp] theorem converted_add :
    (first + second).converted = first.converted + second.converted := rfl

@[simp] theorem skipped_add : (first + second).skipped = first.skipped + second.skipped := rfl

@[simp] theorem failed_add : (first + second).failed = first.failed + second.failed := rfl

@[simp] theorem diagnostics_add :
    (first + second).diagnostics = first.diagnostics + second.diagnostics := rfl

@[simp] theorem total_zero : (0 : Tally).total = 0 := rfl

@[simp] theorem converted_zero : (0 : Tally).converted = 0 := rfl

@[simp] theorem skipped_zero : (0 : Tally).skipped = 0 := rfl

@[simp] theorem failed_zero : (0 : Tally).failed = 0 := rfl

@[simp] theorem diagnostics_zero : (0 : Tally).diagnostics = 0 := rfl

end

instance : AddCommMonoid Tally where
  add_assoc _ _ _ := by ext1 <;> exact UInt64.add_assoc ..
  zero_add _ := by ext1 <;> exact UInt64.zero_add _
  add_zero _ := by ext1 <;> exact UInt64.add_zero _
  add_comm _ _ := by ext1 <;> exact UInt64.add_comm ..
  nsmul := nsmulRec

variable {tally : Tally}

theorem countTotal_eq : tally.countTotal = tally + { total := 1 } := by
  ext1 <;> simp [countTotal]

theorem countDiagnostics_eq (count : UInt64) :
    tally.countDiagnostics count = tally + { diagnostics := count } := by
  ext1 <;> simp [countDiagnostics]

/-- What the result of a conversion adds. -/
def ofResult : Except ConversionError String → Tally
  | .ok _ => { converted := 1 }
  | .error error => if error.isSkip then { skipped := 1 } else { failed := 1 }

/-- What a conversion adds. -/
def ofReport (report : FileReport) : Tally :=
  { total := 1, diagnostics := .ofNat report.diagnostics.length } + ofResult report.result

theorem record_eq (report : FileReport) : tally.record report = tally + ofReport report := by
  rw [record, ofReport]
  cases report.result with
  | ok => ext1 <;> simp [ofResult, countTotal, countDiagnostics, countConverted]
  | error error =>
    cases h : error.isSkip <;> ext1 <;>
      simp [ofResult, h, countTotal, countDiagnostics, countSkipped, countFailed]

theorem diagnostics_ofReport (report : FileReport) :
    (ofReport report).diagnostics = .ofNat report.diagnostics.length := by
  rw [ofReport]
  cases report.result with
  | ok => simp [ofResult]
  | error error => cases h : error.isSkip <;> simp [ofResult, h]

theorem foldl_record (reports : List FileReport) :
    reports.foldl record tally = tally + (reports.map ofReport).sum := by
  induction reports generalizing tally with
  | nil => simp
  | cons report reports ih => rw [List.foldl_cons, ih, record_eq]; simp [add_assoc]

end Tally

namespace FileReport

/-- Whether the stub was written. -/
def isConverted (report : FileReport) : Bool :=
  report.result.isOk

/-- Whether the file was left out because its stub was there. -/
def isSkipped (report : FileReport) : Bool :=
  (errorOf? report.result).any ConversionError.isSkip

/-- Whether the file could not be converted. -/
def isFailed (report : FileReport) : Bool :=
  (errorOf? report.result).any fun error => !error.isSkip

theorem isFailed_eq (report : FileReport) :
    report.isFailed = (!report.isConverted && !report.isSkipped) := by
  rw [isFailed, isConverted, isSkipped]
  cases report.result <;> rfl

end FileReport

namespace Tally

variable (reports : List FileReport)

end Tally

/-! ## The conversions of a run -/

namespace Environment

/-- What the conversions of a run leave behind, one after the other. -/
def reports (env : Environment) (files : FileSystem) : List String → List FileReport
  | [] => []
  | path :: paths =>
    let report := env.runFile files path
    report :: env.reports report.files paths

/-- The files after the conversions of a run. -/
def filesAfter (env : Environment) (files : FileSystem) (paths : List String) : FileSystem :=
  paths.foldl (fun files path => (env.runFile files path).files) files

variable {env : Environment} {files : FileSystem}

theorem length_reports (paths : List String) : (env.reports files paths).length = paths.length := by
  induction paths generalizing files with
  | nil => rfl
  | cons path paths ih => rw [reports, List.length_cons, ih, List.length_cons]

theorem foldl_runNext (run : RunReport) (paths : List String) :
    let reports := env.reports run.state.files paths
    paths.foldl env.runNext run =
      { state := ⟨env.filesAfter run.state.files paths, reports.foldl Tally.record run.state.tally⟩
        errors := run.errors ++ reports.filterMap fun report => errorOf? report.result
        diagnostics := run.diagnostics ++ reports.flatMap FileReport.diagnostics } := by
  induction paths generalizing run with
  | nil => simp [reports, filesAfter]
  | cons path paths ih =>
    rw [List.foldl_cons, ih]
    cases herror : errorOf? (env.runFile run.state.files path).result <;>
      simp [runNext, reports, filesAfter, herror]

/-- The report of a run is made of what its conversions leave behind. -/
theorem runAll_eq (state : RunState) (paths : List String) :
    let reports := env.reports state.files paths
    env.runAll state paths =
      { state := ⟨env.filesAfter state.files paths, state.tally + (reports.map Tally.ofReport).sum⟩
        errors := reports.filterMap fun report => errorOf? report.result
        diagnostics := reports.flatMap FileReport.diagnostics } := by
  rw [runAll, foldl_runNext, Tally.foldl_record]
  simp

end Environment

end InterfaceStub
