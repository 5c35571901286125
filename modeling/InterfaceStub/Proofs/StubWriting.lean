import InterfaceStub.Files.Walk
import InterfaceStub.Proofs.BatchReports
import InterfaceStub.Proofs.PathResolution
import InterfaceStub.Proofs.TreeExistence

/-!
# The conversion of one file

What the conversion of a file changes.

* `target` is the location at which the stub of a file would be written, or why it cannot be.
  `write_eq` says that writing a stub is writing there.
* `RunsTo` lists the four ways in which a conversion can end.
* `runNext_atomic` is the result: a conversion that fails changes no file, and one that succeeds
  changes the file that its stub path leads to and no other.
-/

namespace InterfaceStub

open FileSystem

namespace Environment

variable {env : Environment} {files : FileSystem} {path text : String}

/-- Why no stub is written at a place. -/
def refusal? (env : Environment) : Place → Option FileError
  | .vacant _ => none
  | .found _ entry =>
    if env.settings.scan.overwrite then
      match entry with
      | .file _ => none
      | .directory => some .isDirectory
      | .link _ => some .notFound
    else some .exists

/-- Where the stub of a file is written, or why it is not. -/
def target (env : Environment) (files : FileSystem) (path : String) :
    Except FileError Location := do
  let place ← files.resolve (Path.stubOf path) env.settings.scan.overwrite
  match env.refusal? place with
  | some error => .error error
  | none => .ok place.location

theorem write_eq (env : Environment) (files : FileSystem) (path text : String) :
    env.write files path text =
      ((env.target files path).map fun location =>
        files.insert location (.file (.text text))).mapError (writeError (Path.stubOf path)) := by
  rw [write, target]
  cases h : env.settings.scan.overwrite with
  | true =>
    rw [if_pos rfl, FileSystem.overwrite]
    cases files.resolve (Path.stubOf path) true with
    | error => rfl
    | ok place => rcases place with ⟨_, _ | _ | _⟩ | _ <;> simp [refusal?, h] <;> rfl
  | false =>
    rw [if_neg Bool.false_ne_true, FileSystem.create]
    cases files.resolve (Path.stubOf path) false with
    | error => rfl
    | ok place => cases place <;> simp [refusal?, h] <;> rfl

theorem write_of_target {location : Location} (h : env.target files path = .ok location) :
    env.write files path text = .ok (files.insert location (.file (.text text))) := by
  rw [write_eq, h]
  rfl

theorem write_of_target_error {error : FileError} (h : env.target files path = .error error) :
    env.write files path text = .error (writeError (Path.stubOf path) error) := by
  rw [write_eq, h]
  rfl

theorem target_eq_ok_iff {location : Location} :
    env.target files path = .ok location ↔
      ∃ place, files.resolve (Path.stubOf path) env.settings.scan.overwrite = .ok place ∧
        env.refusal? place = none ∧ place.location = location := by
  rw [target]
  cases files.resolve (Path.stubOf path) env.settings.scan.overwrite with
  | error => simp [bind, Except.bind]
  | ok place => cases h : env.refusal? place <;> simp [bind, Except.bind, h]

theorem target_of_resolve_error {error : FileError}
    (h : files.resolve (Path.stubOf path) env.settings.scan.overwrite = .error error) :
    env.target files path = .error error := by
  rw [target, h]
  rfl

theorem refusal?_eq_none_iff {place : Place} :
    env.refusal? place = none ↔
      place.entry? = none ∨
        env.settings.scan.overwrite = true ∧ ∃ content, place.entry? = some (.file content) := by
  cases place with
  | vacant => simp [refusal?, Place.entry?]
  | found _ entry =>
    cases h : env.settings.scan.overwrite <;> cases entry <;> simp [refusal?, Place.entry?, h]

/-- A stub is written where its path leads to, and nothing or a file stands there. -/
theorem resolve_of_target {location : Location} (h : env.target files path = .ok location) :
    ∃ place, files.resolve (Path.stubOf path) = .ok place ∧ place.location = location ∧
      (files.get? location = none ∨ ∃ old, files.get? location = some (.file old)) := by
  obtain ⟨place, hplace, hrefusal, rfl⟩ := target_eq_ok_iff.1 h
  rw [get?_of_resolve hplace]
  obtain hvacant | ⟨hoverwrite, old, hold⟩ := refusal?_eq_none_iff.1 hrefusal
  · refine ⟨place, ?_, rfl, .inl hvacant⟩
    cases hoverwrite : env.settings.scan.overwrite with
    | true => exact hoverwrite ▸ hplace
    | false => exact resolve_of_not_link (hoverwrite ▸ hplace) (by simp [hvacant])
  · exact ⟨place, hoverwrite ▸ hplace, rfl, .inr ⟨old, hold⟩⟩

theorem not_prefix_of_target {location : Location} (h : env.target files path = .ok location) :
    ¬ location <+: files.start := by
  obtain ⟨_, -, -, hbefore⟩ := resolve_of_target h
  refine not_prefix_start fun hdirectory => ?_
  simp [hdirectory] at hbefore

theorem convert_of_none (h : env.parser = none) : env.convert path text = .error .noLanguage := by
  rw [convert, h]
  rfl

theorem convert_of_some {parser : Parser} (h : env.parser = some parser) :
    env.convert path text = parser.convert env.settings path text := by
  rw [convert, h]
  rfl

theorem render_eq_ok {conversion : Conversion} (h : env.render files path = .ok conversion) :
    ∃ source, files.read path = .ok source ∧ env.convert path source = .ok conversion := by
  rw [render] at h
  split at h
  · cases h
  · rename_i source hread
    refine ⟨source, hread, ?_⟩
    cases hconvert : env.convert path source with
    | error error => simp [hconvert, Except.mapError] at h
    | ok => simpa [hconvert, Except.mapError] using h

/-- Only a parser makes a stub. -/
theorem isNone_of_render {conversion : Conversion} (h : env.render files path = .ok conversion) :
    env.parser.isNone = false := by
  obtain ⟨source, -, hconvert⟩ := render_eq_ok h
  cases hparser : env.parser with
  | some => rfl
  | none => simp [convert_of_none hparser] at hconvert

/-- A stub that can be made and written is not in the way. -/
theorem clear_of_target {conversion : Conversion} {location : Location}
    (hrender : env.render files path = .ok conversion) (h : env.target files path = .ok location) :
    env.clear files path = .ok () := by
  rw [clear, isNone_of_render hrender, if_neg Bool.false_ne_true]
  cases hoverwrite : env.settings.scan.overwrite with
  | true => rfl
  | false =>
    obtain ⟨place, hplace, hrefusal, -⟩ := target_eq_ok_iff.1 h
    have hvacant : place.entry? = none := by
      simpa [hoverwrite] using refusal?_eq_none_iff.1 hrefusal
    rw [pathExists, resolve_of_not_link (hoverwrite ▸ hplace) (by simp [hvacant])]
    cases place with
    | found => cases hvacant
    | vacant => rfl

theorem writtenAt_of_target {location : Location} (h : env.target files path = .ok location)
    (content : Content) :
    files.WrittenAt location content (files.insert location (.file content)) := by
  obtain ⟨_, -, -, hold⟩ := resolve_of_target h
  exact .of_insert hold

/-- The ways in which the conversion of a file can end, and what it then leaves behind. -/
inductive RunsTo (env : Environment) (files : FileSystem) (path : String) : FileReport → Prop
  | blocked {error : ConversionError} (hclear : env.clear files path = .error error) :
    RunsTo env files path { files, result := .error error }
  | unread {error : ConversionError} (hclear : env.clear files path = .ok ())
    (hrender : env.render files path = .error error) :
    RunsTo env files path { files, result := .error error }
  | unwritten {conversion : Conversion} {error : FileError}
    (hclear : env.clear files path = .ok ()) (hrender : env.render files path = .ok conversion)
    (htarget : env.target files path = .error error) :
    RunsTo env files path
      { files
        result := .error (writeError (Path.stubOf path) error)
        diagnostics := conversion.diagnostics }
  | written {conversion : Conversion} {location : Location}
    (hclear : env.clear files path = .ok ()) (hrender : env.render files path = .ok conversion)
    (htarget : env.target files path = .ok location) :
    RunsTo env files path
      { files := files.insert location (.file (.text conversion.text))
        result := .ok (Path.stubOf path)
        diagnostics := conversion.diagnostics }

section

variable {error : ConversionError} {conversion : Conversion} {location : Location}

theorem runFile_of_clear_error (h : env.clear files path = .error error) :
    env.runFile files path = { files, result := .error error } := by
  simp only [runFile, h]

theorem runFile_of_render_error (hclear : env.clear files path = .ok ())
    (h : env.render files path = .error error) :
    env.runFile files path = { files, result := .error error } := by
  simp only [runFile, hclear, h]

theorem runFile_of_target_error {cause : FileError} (hclear : env.clear files path = .ok ())
    (hrender : env.render files path = .ok conversion) (h : env.target files path = .error cause) :
    env.runFile files path =
      { files
        result := .error (writeError (Path.stubOf path) cause)
        diagnostics := conversion.diagnostics } := by
  simp only [runFile, hclear, hrender, write_of_target_error h]

theorem runFile_of_target (hrender : env.render files path = .ok conversion)
    (h : env.target files path = .ok location) :
    env.runFile files path =
      { files := files.insert location (.file (.text conversion.text))
        result := .ok (Path.stubOf path)
        diagnostics := conversion.diagnostics } := by
  simp only [runFile, clear_of_target hrender h, hrender, write_of_target h]

end

theorem runsTo_runFile (env : Environment) (files : FileSystem) (path : String) :
    env.RunsTo files path (env.runFile files path) := by
  cases hclear : env.clear files path with
  | error error => exact runFile_of_clear_error hclear ▸ .blocked hclear
  | ok =>
    cases hrender : env.render files path with
    | error error => exact runFile_of_render_error hclear hrender ▸ .unread hclear hrender
    | ok conversion =>
      cases htarget : env.target files path with
      | error error =>
        exact runFile_of_target_error hclear hrender htarget ▸ .unwritten hclear hrender htarget
      | ok location => exact runFile_of_target hrender htarget ▸ .written hclear hrender htarget

variable {error : ConversionError} {stub : String}

/-- A conversion that fails changes no file. -/
theorem files_of_result_error (h : (env.runFile files path).result = .error error) :
    (env.runFile files path).files = files := by
  have hruns := runsTo_runFile env files path
  generalize env.runFile files path = report at h hruns ⊢
  cases hruns with
  | blocked | unread | unwritten => rfl
  | written => cases h

/-- Nothing is reported on a source that was not read or not accepted. -/
theorem diagnostics_of_result_error (h : (env.runFile files path).result = .error error)
    (hearly : env.clear files path = .error error ∨ (∃ cause, error = .read path cause) ∨
      ∃ cause, error = .parse path cause) :
    (env.runFile files path).diagnostics = [] := by
  have hruns := runsTo_runFile env files path
  generalize env.runFile files path = report at h hruns ⊢
  cases hruns with
  | blocked | unread => rfl
  | @unwritten _ cause hclear =>
    cases h
    cases cause <;> simp [hclear, writeError] at hearly
  | written => cases h

/-- A conversion that succeeds writes the stub of the source that it read. -/
theorem writtenAt_of_result_ok (h : (env.runFile files path).result = .ok stub) :
    stub = Path.stubOf path ∧ ∃ source conversion location,
      files.read path = .ok source ∧
      env.convert path source = .ok conversion ∧
      env.target files path = .ok location ∧
      files.WrittenAt location (.text conversion.text) (env.runFile files path).files := by
  have hruns := runsTo_runFile env files path
  generalize env.runFile files path = report at h hruns ⊢
  cases hruns with
  | blocked | unread | unwritten => cases h
  | @written conversion location _ hrender htarget =>
    cases h
    obtain ⟨source, hread, hconvert⟩ := render_eq_ok hrender
    exact ⟨rfl, source, conversion, location, hread, hconvert, htarget,
      writtenAt_of_target htarget _⟩

/-- A file is converted as a whole or not at all.  If its conversion fails, no file is changed; and
if it fails because the stub is found in the way at first, because the source cannot be read or
because it is not accepted, nothing is reported or counted as reported.  If it succeeds, the file
that the path of the stub then leads to holds the stub of the source, every other location holds
what it held, and every path that leads elsewhere leads to where it led. -/
theorem runNext_atomic (env : Environment) (run : RunReport) (path : String) :
    let files := run.state.files
    let result := (env.runFile files path).result
    let after := env.runNext run path
    (∀ error, result = .error error →
      after.state.files = files ∧
      (env.clear files path = .error error ∨ (∃ cause, error = .read path cause) ∨
          (∃ cause, error = .parse path cause) →
        after.diagnostics = run.diagnostics ∧
        after.state.tally.diagnostics = run.state.tally.diagnostics)) ∧
    (∀ stub, result = .ok stub →
      stub = Path.stubOf path ∧
      ∃ source conversion location,
        files.read path = .ok source ∧
        env.convert path source = .ok conversion ∧
        after.state.files.resolve stub = .ok (.found location (.file (.text conversion.text))) ∧
        (∀ other, other ≠ location → after.state.files.get? other = files.get? other) ∧
        ∀ other place, place.location ≠ location →
          (after.state.files.place? other = some place ↔ files.place? other = some place)) := by
  intro files result after
  constructor
  · intro error herror
    refine ⟨files_of_result_error herror, fun hearly => ?_⟩
    have hnone := diagnostics_of_result_error herror hearly
    constructor
    · calc after.diagnostics = run.diagnostics ++ (env.runFile files path).diagnostics := rfl
        _ = run.diagnostics := by rw [hnone, List.append_nil]
    · calc after.state.tally.diagnostics
          = (run.state.tally.record (env.runFile files path)).diagnostics := rfl
        _ = run.state.tally.diagnostics := by
          rw [Tally.record_eq, Tally.diagnostics_add, Tally.diagnostics_ofReport, hnone]
          exact UInt64.add_zero _
  · intro stub hstub
    obtain ⟨rfl, source, conversion, location, hread, hconvert, htarget, hwritten⟩ :=
      writtenAt_of_result_ok hstub
    obtain ⟨place, hplace, hlocation, -⟩ := resolve_of_target htarget
    exact ⟨rfl, source, conversion, location, hread, hconvert,
      hwritten.resolve_eq hplace hlocation, hwritten.kept,
      fun _ _ => hwritten.place?_eq_some_iff_of_ne⟩

end Environment

/-! ## A link in the place of a stub

A source with an import and a call, and its conversion in an environment in which no other source
has a tree. -/

def importText : String := "import os\nf()\n"

def importModule : Syntax.Node :=
  .inner (.other "module") none 0 14 [
    .inner .importStatement none 0 9 [
      .token "import" 0 6,
      .inner .dottedName (some .name) 7 9 [.inner .identifier none 7 9 []]],
    .inner .expressionStatement none 10 13 [
      .inner .call none 10 13 [
        .inner .identifier (some (.other "function")) 10 11 [],
        .inner (.other "argument_list") (some (.other "arguments")) 11 13 [
          .token "(" 11 12,
          .token ")" 12 13]]]]

/-- The text of the stub has the import, and the call is reported. -/
def importConversion (path : String) : Conversion :=
  let extraction := extract {} (.ofText path importText) importModule
  ⟨extraction.render {}, extraction.diagnostics⟩

def importEnvironment (overwrite : Bool) : Environment where
  parser := some fun text => if text = importText then some importModule else none
  walker := Walker.standard
  settings := { scan := { overwrite } }

theorem render_importEnvironment {overwrite : Bool} {files : FileSystem} {path : String}
    (h : files.read path = .ok importText) :
    (importEnvironment overwrite).render files path = .ok (importConversion path) := by
  rw [Environment.render, h]
  rfl

theorem target_importEnvironment {overwrite : Bool} {files : FileSystem} {path stub : String}
    (hstub : Path.stubOf path = stub) (hsteps : stepsOf stub = .ok [.name stub])
    (hnone : files.get? (files.start ++ [.text stub]) = none) :
    (importEnvironment overwrite).target files path = .ok (files.start ++ [.text stub]) := by
  subst hstub
  exact Environment.target_eq_ok_iff.2 ⟨_, resolve_name_vacant hsteps hnone, rfl, rfl⟩

/-- The stub of `a.py` is a link. -/
def linkedFiles : FileSystem where
  entries := [
    (["a.py"], .file (.text importText)),
    (["a.pyi"], .link "shared.pyi"),
    (["shared.pyi"], .file (.text "x: int\n"))]

theorem resolve_linkedFiles :
    linkedFiles.resolve "a.pyi" = .ok (.found ["shared.pyi"] (.file (.text "x: int\n"))) := by
  have hstub : stepsOf "a.pyi" = .ok [.name "a.pyi"] := rfl
  have hlink : stepsOf "shared.pyi" = .ok [.name "shared.pyi"] := rfl
  have hstart : linkedFiles.start = [] := rfl
  have hshared : linkedFiles.get? ["shared.pyi"] = some (.file (.text "x: int\n")) := rfl
  rw [resolve_eq_of_stepsOf hstub, hstart, follow_link rfl rfl, hlink]
  refine (follow_entry rfl hshared (by simp)).trans ?_
  simp [follow, hshared]

theorem runFile_linkedFiles :
    (importEnvironment true).runFile linkedFiles "a.py" =
      { files := linkedFiles.insert ["shared.pyi"] (.file (.text "import os\n"))
        result := .ok "a.pyi"
        diagnostics := (importConversion "a.py").diagnostics } := by
  have hsteps : stepsOf "a.py" = .ok [.name "a.py"] := rfl
  have hstub : Path.stubOf "a.py" = "a.pyi" := by decide +kernel
  have htext : (importConversion "a.py").text = "import os\n" := by decide +kernel
  have hread : linkedFiles.read "a.py" = .ok importText := read_name hsteps rfl
  have htarget : (importEnvironment true).target linkedFiles "a.py" = .ok ["shared.pyi"] :=
    Environment.target_eq_ok_iff.2 ⟨_, hstub ▸ resolve_linkedFiles, rfl, rfl⟩
  rw [Environment.runFile_of_target (render_importEnvironment hread) htarget, hstub, htext]

/-- A conversion that succeeds can change another path than that of its stub. -/
theorem linked_stub_changes_shared_file :
    let after :=
      ((importEnvironment true).runNext { state := ⟨linkedFiles, {}⟩ } "a.py").state.files
    ((importEnvironment true).runFile linkedFiles "a.py").result = .ok "a.pyi" ∧
    linkedFiles.read "shared.pyi" = .ok "x: int\n" ∧
    after.read "shared.pyi" = .ok "import os\n" := by
  intro after
  have hsteps : stepsOf "shared.pyi" = .ok [.name "shared.pyi"] := rfl
  have hafter : after = linkedFiles.insert ["shared.pyi"] (.file (.text "import os\n")) :=
    congrArg FileReport.files runFile_linkedFiles
  exact ⟨congrArg FileReport.result runFile_linkedFiles, read_name hsteps rfl,
    hafter ▸ read_name hsteps rfl⟩

/-- No other file is changed. -/
theorem runNext_atomic_linkedFiles :
    ((importEnvironment true).runFile linkedFiles "a.py").result = .ok "a.pyi" ∧
    ∃ location, ∀ other, other ≠ location →
      ((importEnvironment true).runNext { state := ⟨linkedFiles, {}⟩ } "a.py").state.files.get?
        other = linkedFiles.get? other := by
  have hresult : ((importEnvironment true).runFile linkedFiles "a.py").result = .ok "a.pyi" :=
    congrArg FileReport.result runFile_linkedFiles
  obtain ⟨-, hok⟩ := (importEnvironment true).runNext_atomic { state := ⟨linkedFiles, {}⟩ } "a.py"
  obtain ⟨-, _, _, location, -, -, -, hkept, -⟩ := hok "a.pyi" hresult
  exact ⟨hresult, location, hkept⟩

end InterfaceStub
