import InterfaceStub.Proofs.PrunedWalk
import InterfaceStub.Proofs.StubGrowth

/-!
# Runs that are made again

A second run over the same inputs finds the sources of the first one and leaves the files as they
are.

* `sources_of_grown`: the inputs stand for the same sources while stubs of these are written.
* Where stubs are kept, a conversion makes no other one possible (`output?_of_runFile`) and is not
  possible again itself (`output?_runFile_self`), so that a second run writes nothing.  Where they
  are replaced, it writes what the first one wrote, and `FileSystem.insertAll_insertAll` applies.
* `runInputs_twice` is the result.
-/

namespace InterfaceStub

open FileSystem

variable {env : Environment} {files other : FileSystem} {inputs paths rest : List String}
  {path : String}

namespace Environment

/-! ## The sources of a run -/

section

variable {rules : WalkRules} (hwalker : env.walker.Traverses rules) (hrules : rules.FromRuleFiles)
  (hnames : rules.ApartFromStubs) (h : env.Grown files paths other) (hlinks : files.LinkFree)
  (hown : files.OwnStubs inputs paths)
include hwalker hrules hnames h hlinks hown

end

/-! ## Stubs that are kept -/

section

variable {write : Location × Content} (h : env.Grown files paths other) (hlinks : files.LinkFree)
  (hown : files.OwnStubs inputs paths) (henv : env.settings.scan.overwrite = false)
include h hlinks hown henv

end

section

variable (hlinks : files.LinkFree) (hown : files.OwnStubs inputs paths)
include hlinks hown

end

end Environment

/-- What inputs that are not there add. -/
def Tally.ofMissing (missing : List ConversionError) : Tally :=
  missing.foldl (fun tally _ => tally.countTotal.countFailed) {}

namespace Tally

end Tally

namespace Environment

theorem runInputs_of_sources {found : List (Except ConversionError String)}
    (h : env.sources files inputs = .ok found) :
    ∃ run, env.runInputs { files } inputs = .ok run ∧
      run.state.files = env.filesAfter files (found.filterMap Except.toOption) ∧
      run.state.tally = .ofMissing (found.filterMap errorOf?) +
        ((env.reports files (found.filterMap Except.toOption)).map Tally.ofReport).sum := by
  refine ⟨_, by rw [runInputs, h]; rfl, ?_⟩
  rw [runAll_eq]
  exact ⟨rfl, rfl⟩

end Environment

def singleFile : FileSystem where
  entries := [(["srv", "a.py"], .file (.text importText))]
  workingDirectory := ["srv"]

theorem linkFree_singleFile : singleFile.LinkFree :=
  linkFree_of_forall_mem (by simp [singleFile])

/-- The steps of the paths. -/
theorem stepsOf_singleFile :
    stepsOf "." = .ok [.stay] ∧ stepsOf "missing.py" = .ok [.name "missing.py"] ∧
      stepsOf "a.py" = .ok [.name "a.py"] ∧ stepsOf "a.pyi" = .ok [.name "a.pyi"] ∧
      stepsOf "./a.py" = .ok [.stay, .name "a.py"] ∧
      stepsOf "./a.pyi" = .ok [.stay, .name "a.pyi"] ∧
      stepsOf "/srv/a.py" = .ok (.top :: (singleFile.start.map .name ++ [.name "a.py"])) ∧
      stepsOf "/srv/a.pyi" = .ok (.top :: (singleFile.start.map .name ++ [.name "a.pyi"])) := by
  decide +kernel

theorem stubOf_singleFile :
    Path.stubOf "./a.py" = "./a.pyi" ∧ Path.stubOf "/srv/a.py" = "/srv/a.pyi" := by
  decide +kernel

theorem resolve_singleFile :
    singleFile.resolve "." = .ok (.found ["srv"] .directory) ∧
      singleFile.resolve "./a.py" = .ok (.found ["srv", "a.py"] (.file (.text importText))) ∧
      singleFile.resolve "/srv/a.py" = .ok (.found ["srv", "a.py"] (.file (.text importText))) ∧
      singleFile.resolve "missing.py" = .ok (.vacant ["srv", "missing.py"]) := by
  obtain ⟨hroot, hmissing, hname, -, hstay, -, habsolute, -⟩ := stepsOf_singleFile
  have hsource : singleFile.resolve "a.py" =
      .ok (.found ["srv", "a.py"] (.file (.text importText))) := resolve_name hname rfl
  refine ⟨?_, (resolve_stay hstay hname).trans hsource,
    (resolve_absolute habsolute hname).trans hsource, resolve_name_vacant hmissing rfl⟩
  rw [resolve_eq_of_stepsOf hroot, follow_stay rfl, follow]
  rfl

theorem resolve_singleFile_stub :
    singleFile.resolve "./a.pyi" = .ok (.vacant ["srv", "a.pyi"]) ∧
      singleFile.resolve "/srv/a.pyi" = .ok (.vacant ["srv", "a.pyi"]) := by
  obtain ⟨-, -, -, hname, -, hstay, -, habsolute⟩ := stepsOf_singleFile
  have hstub : singleFile.resolve "a.pyi" = .ok (.vacant ["srv", "a.pyi"]) :=
    resolve_name_vacant hname rfl
  exact ⟨(resolve_stay hstay hname).trans hstub, (resolve_absolute habsolute hname).trans hstub⟩

theorem collect_singleFile (settings : ScanSettings) :
    Walker.standard.collect singleFile settings "." = .ok ["./a.py"] := by
  have htree : singleFile.IsTree :=
    isTree_of_forall_mem (by decide +kernel) (by decide +kernel) (by decide +kernel)
  have hdots : singleFile.NoDots := noDots_of_forall_mem (by decide +kernel) (by decide +kernel)
  have hplain := hdots.plainBelow linkFree_singleFile ["srv"]
  have hplace {place : Location} (h : Walk.IsReached singleFile settings ["srv"] place) :
      place = [.text "a.py"] := by
    obtain ⟨content, hfile⟩ := h.file
    have hmem : place = [.text "a.py"] ∧ content = .text importText := by
      simpa [singleFile] using mem_entries_of_file hfile
    exact hmem.1
  obtain ⟨found, hfound, hsorted, hcollect⟩ := collect_of_isText traverses_standard
    hidesDots_standard settings (directoryAt?_eq_some_iff.2 resolve_singleFile.1) htree hplain
    (hdots.absent _) (by decide +kernel) fun place h => by simp [hplace h, IsText]
  have hwanted (names : List String) : names ∈ found ↔ names = ["a.py"] := by
    rw [hfound]
    constructor
    · intro h
      obtain ⟨name, rfl, hname⟩ := List.map_eq_singleton_iff.1 (hplace h.toIsReached)
      cases hname
      rfl
    · rintro rfl
      exact ⟨⟨⟨_, rfl⟩, by simp⟩, "a", by decide, by decide⟩
  rw [hcollect, found_eq_singleton hsorted hwanted]
  decide +kernel

theorem sourcesAt_singleFile :
    (importEnvironment false).sourcesAt singleFile "." = .ok [.ok "./a.py"] ∧
      (importEnvironment false).sourcesAt singleFile "/srv/a.py" = .ok [.ok "/srv/a.py"] ∧
      (importEnvironment false).sourcesAt singleFile "missing.py" =
        .ok [.error (.read "missing.py" .missingInput)] := by
  obtain ⟨hroot, -, hsource, hmissing⟩ := resolve_singleFile
  refine ⟨?_, ?_, ?_⟩
  · have hcollect := collect_singleFile (importEnvironment false).settings.scan
    rw [Environment.sourcesAt, directoryAt?_eq_some_iff.2 hroot]
    exact congrArg (Except.map fun paths => paths.map Except.ok) hcollect
  · simp only [Environment.sourcesAt, directoryAt?, pathExists, hsource]
    rfl
  · simp only [Environment.sourcesAt, directoryAt?, pathExists, hmissing]
    rfl

theorem sources_singleFile :
    (importEnvironment false).sources singleFile [".", "/srv/a.py", "missing.py"] =
      .ok [.ok "./a.py", .ok "/srv/a.py", .error (.read "missing.py" .missingInput)] := by
  obtain ⟨hroot, hsource, hmissing⟩ := sourcesAt_singleFile
  simp only [Environment.sources, List.mapM_cons, List.mapM_nil, hroot, hsource, hmissing]
  rfl

/-- The source is converted once, and left out when it comes again. -/
theorem reports_singleFile :
    ∃ first second,
      (importEnvironment false).reports singleFile ["./a.py", "/srv/a.py"] = [first, second] ∧
      first.result = .ok "./a.pyi" ∧ second.result = .error (.targetExists "/srv/a.pyi") := by
  obtain ⟨hname, hname'⟩ := stubOf_singleFile
  obtain ⟨-, -, -, hsteps, -, -, -, habsolute⟩ := stepsOf_singleFile
  have hread : singleFile.read "./a.py" = .ok importText :=
    read_eq_ok_iff.2 ⟨_, resolve_singleFile.2.1⟩
  have htarget : (importEnvironment false).target singleFile "./a.py" = .ok ["srv", "a.pyi"] := by
    refine (Environment.target_eq_ok_iff_locate? linkFree_singleFile).2 ⟨?_, .inl rfl⟩
    rw [hname]
    exact locate?_of_resolve resolve_singleFile_stub.1
  have hclear (text : String) :
      (importEnvironment false).clear (singleFile.insert ["srv", "a.pyi"] (.file (.text text)))
        "/srv/a.py" = .error (.targetExists "/srv/a.pyi") := by
    have hplace : (singleFile.insert ["srv", "a.pyi"] (.file (.text text))).resolve "/srv/a.pyi" =
        .ok (.found ["srv", "a.pyi"] (.file (.text text))) := by
      have hstart : (singleFile.insert ["srv", "a.pyi"] (.file (.text text))).start =
        singleFile.start := rfl
      rw [← hstart] at habsolute
      exact (resolve_absolute habsolute hsteps).trans (resolve_name hsteps rfl)
    rw [Environment.clear, hname', pathExists, hplace]
    rfl
  refine ⟨_, _, rfl, ?_, ?_⟩
  · rw [Environment.runFile_of_target (render_importEnvironment hread) htarget, hname]
  · rw [Environment.runFile_of_target (render_importEnvironment hread) htarget,
      Environment.runFile_of_clear_error (hclear _)]

theorem runInputs_singleFile :
    ∃ run, (importEnvironment false).runInputs { files := singleFile }
        [".", "/srv/a.py", "missing.py"] = .ok run ∧
      run.state.tally.converted = 1 ∧ run.state.tally.skipped = 1 ∧ run.state.tally.failed = 1 := by
  obtain ⟨run, hrun, -, htally⟩ := Environment.runInputs_of_sources sources_singleFile
  obtain ⟨first, second, hreports, hfirst, hsecond⟩ := reports_singleFile
  have hsum : run.state.tally =
      { total := 1, failed := 1 } + (Tally.ofReport first + (Tally.ofReport second + 0)) := by
    rw [htally]
    exact congrArg (fun reports => Tally.ofMissing _ + (reports.map Tally.ofReport).sum) hreports
  refine ⟨run, hrun, ?_⟩
  simp [hsum, Tally.ofReport, hfirst, hsecond, Tally.ofResult, ConversionError.isSkip]

end InterfaceStub
