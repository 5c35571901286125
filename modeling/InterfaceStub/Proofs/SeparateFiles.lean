import InterfaceStub.Proofs.FileWrites
import InterfaceStub.Proofs.StubWriting

/-!
# Files that do not meet

A conversion looks up the locations on the way along the path of its source and along that of its
stub, and writes at most one location.  A conversion that writes nowhere on these ways makes no
difference to another one.

* `Agree` says that nothing that a conversion looks up differs, and `runFile_of_agree` that it then
  does the same.
* `Separate` is said of files and their paths alone: no stub is a source, and none is on the way to
  another stub.  `Separate.pairwise` takes it to what conversions write.
* `filesAfter_of_apart` and `reports_of_apart` say what a run does to such files: what each of their
  conversions does at the start of the run.
-/

namespace InterfaceStub

open FileSystem

variable {env : Environment} {files other : FileSystem} {path : String} {paths : List String}

/-- Nothing that the conversion of a file looks up differs. -/
structure FileSystem.Agree (files other : FileSystem) (path : String) : Prop where
  start : other.start = files.start
  get? : ∀ location, location ∈ files.way path ∨ location ∈ files.way (Path.stubOf path) →
    other.get? location = files.get? location

namespace FileSystem.Agree

theorem refl (files : FileSystem) (path : String) : files.Agree files path :=
  ⟨rfl, fun _ _ => rfl⟩

theorem resolve_stub (h : files.Agree other path) (followLast : Bool) :
    other.resolve (Path.stubOf path) followLast = files.resolve (Path.stubOf path) followLast :=
  resolve_congr h.start fun location hmem => h.get? location (.inr hmem)

theorem resolve_source (h : files.Agree other path) : other.resolve path = files.resolve path :=
  resolve_congr h.start fun location hmem => h.get? location (.inl hmem)

/-- What is written off both ways is not looked up. -/
theorem insertAll {writes : List (Location × Content)} (h : files.Agree other path)
    (hwrites : ∀ write ∈ writes,
      write.1 ∉ files.way path ∧ write.1 ∉ files.way (Path.stubOf path)) :
    files.Agree (other.insertAll writes) path := by
  refine ⟨(start_insertAll other writes).trans h.start, fun location hlocation => ?_⟩
  rw [get?_insertAll_of_not_mem, h.get? location hlocation]
  intro hmem
  obtain ⟨write, hwrite, rfl⟩ := List.mem_map.1 hmem
  obtain ⟨hsource, hstub⟩ := hwrites write hwrite
  exact hlocation.elim hsource hstub

end FileSystem.Agree

namespace Environment

/-! ## One conversion -/

/-- What the conversion of a file writes. -/
def output? (env : Environment) (files : FileSystem) (path : String) :
    Option (Location × Content) :=
  match env.render files path, env.target files path with
  | .ok conversion, .ok location => some (location, .text conversion.text)
  | _, _ => none

theorem output?_of_target {conversion : Conversion} {location : Location}
    (hrender : env.render files path = .ok conversion) (h : env.target files path = .ok location) :
    env.output? files path = some (location, .text conversion.text) := by
  rw [output?, hrender, h]

theorem target_of_output? {write : Location × Content} (h : env.output? files path = some write) :
    env.target files path = .ok write.1 := by
  rw [output?] at h
  split at h
  · rename_i hlocation
    cases h
    exact hlocation
  · cases h

/-- A conversion succeeds if it writes. -/
theorem isConverted_runFile (env : Environment) (files : FileSystem) (path : String) :
    (env.runFile files path).isConverted = (env.output? files path).isSome := by
  have hruns := runsTo_runFile env files path
  generalize env.runFile files path = report at hruns
  cases hruns with
  | blocked hclear =>
    cases hrender : env.render files path with
    | error => simp [output?, hrender, FileReport.isConverted, Except.isOk, Except.toBool]
    | ok =>
      cases htarget : env.target files path with
      | error => simp [output?, htarget, FileReport.isConverted, Except.isOk, Except.toBool]
      | ok => simp [clear_of_target hrender htarget] at hclear
  | unread _ hrender => simp [output?, hrender, FileReport.isConverted, Except.isOk, Except.toBool]
  | unwritten _ _ htarget =>
    simp [output?, htarget, FileReport.isConverted, Except.isOk, Except.toBool]
  | written _ hrender htarget => rw [output?_of_target hrender htarget]; rfl

section

variable (h : files.Agree other path)
include h

theorem clear_of_agree : env.clear other path = env.clear files path := by
  rw [clear, clear, pathExists, pathExists, h.resolve_stub]

theorem render_of_agree : env.render other path = env.render files path := by
  rw [render, render, FileSystem.read, FileSystem.read, h.resolve_source]

theorem target_of_agree : env.target other path = env.target files path := by
  rw [target, target, h.resolve_stub]

/-- The conversion of a file does the same wherever nothing that it looks up differs. -/
theorem runFile_of_agree :
    env.runFile other path =
      { env.runFile files path with
        files := other.insertAll (env.output? files path).toList } := by
  cases hclear : env.clear files path with
  | error error =>
    have hnone : env.output? files path = none := by
      simpa [runFile_of_clear_error hclear, FileReport.isConverted, Except.isOk, Except.toBool]
        using isConverted_runFile env files path
    rw [runFile_of_clear_error hclear, runFile_of_clear_error (clear_of_agree h ▸ hclear), hnone]
    rfl
  | ok =>
    have hclear' := clear_of_agree h ▸ hclear
    cases hrender : env.render files path with
    | error error =>
      rw [runFile_of_render_error hclear hrender,
        runFile_of_render_error hclear' (render_of_agree h ▸ hrender), output?, hrender]
      rfl
    | ok conversion =>
      have hrender' := render_of_agree h ▸ hrender
      cases htarget : env.target files path with
      | error error =>
        rw [runFile_of_target_error hclear hrender htarget,
          runFile_of_target_error hclear' hrender' (target_of_agree h ▸ htarget), output?, htarget,
          hrender]
        rfl
      | ok location =>
        rw [runFile_of_target hrender htarget,
          runFile_of_target hrender' (target_of_agree h ▸ htarget),
          output?_of_target hrender htarget]
        rfl

end

/-! ## Conversions one after the other -/

/-- The conversion of a file does not write what that of another looks up. -/
def Apart (env : Environment) (files : FileSystem) (path other : String) : Prop :=
  ∀ location, env.target files path = .ok location →
    location ∉ files.way other ∧ location ∉ files.way (Path.stubOf other)

/-- Conversions that are apart write at different locations. -/
theorem nodup_outputs (h : paths.Pairwise (env.Apart files)) :
    ((paths.filterMap (env.output? files)).map Prod.fst).Nodup := by
  refine List.pairwise_map.2 (List.pairwise_filterMap.2 (h.imp ?_))
  intro path other hapart write hwrite write' hwrite' heq
  obtain ⟨place, hplace, hlocation, -⟩ := resolve_of_target (target_of_output? hwrite')
  refine (hapart _ (target_of_output? hwrite)).2 ?_
  rw [heq, ← hlocation]
  exact location_mem_way hplace

variable {start : FileSystem}

/-- The step of a run. -/
theorem agree_runFile {later : String} (hpath : start.Agree files path)
    (hlater : start.Agree files later) (h : env.Apart start path later) :
    start.Agree (env.runFile files path).files later := by
  rw [runFile_of_agree hpath]
  refine hlater.insertAll fun write hwrite => ?_
  exact h _ (target_of_output? (Option.mem_toList.1 hwrite))

theorem filesAfter_of_apart (hagree : ∀ path ∈ paths, start.Agree files path)
    (h : paths.Pairwise (env.Apart start)) :
    env.filesAfter files paths = files.insertAll (paths.filterMap (env.output? start)) := by
  induction paths generalizing files with
  | nil => rfl
  | cons path paths ih =>
    obtain ⟨hpath, hrest⟩ := List.forall_mem_cons.1 hagree
    obtain ⟨hapart, hpairs⟩ := List.pairwise_cons.1 h
    have hfiles := ih
      (fun later hlater => agree_runFile hpath (hrest later hlater) (hapart later hlater)) hpairs
    calc env.filesAfter files (path :: paths)
        = env.filesAfter (env.runFile files path).files paths := rfl
      _ = (files.insertAll (env.output? start path).toList).insertAll
            (paths.filterMap (env.output? start)) := by rw [hfiles, runFile_of_agree hpath]
      _ = files.insertAll ((path :: paths).filterMap (env.output? start)) :=
          insertAll_filterMap_cons ..

/-- What a part of a report says does not depend on the conversions before, if nothing that they
write is looked up and it says nothing on the files. -/
theorem reports_of_apart {β : Type} {view : FileReport → β}
    (hview : ∀ report files, view { report with files } = view report)
    (hagree : ∀ path ∈ paths, start.Agree files path) (h : paths.Pairwise (env.Apart start)) :
    (env.reports files paths).map view = paths.map fun path => view (env.runFile start path) := by
  induction paths generalizing files with
  | nil => rfl
  | cons path paths ih =>
    obtain ⟨hpath, hrest⟩ := List.forall_mem_cons.1 hagree
    obtain ⟨hapart, hpairs⟩ := List.pairwise_cons.1 h
    have hreports := ih
      (fun later hlater => agree_runFile hpath (hrest later hlater) (hapart later hlater)) hpairs
    rw [reports, List.map_cons, hreports, List.map_cons, runFile_of_agree hpath, hview]

end Environment

/-! ## Separate files -/

/-- Sources whose stubs are no sources, and are not on the way to each other. -/
structure FileSystem.Separate (files : FileSystem) (paths : List String) : Prop where
  source : ∀ path ∈ paths, ∃ location content,
    files.resolve path = .ok (.found location (.file content))
  /-- No stub is a source. -/
  stub_ne : ∀ path ∈ paths, ∀ other ∈ paths, ∀ stub source,
    files.resolve (Path.stubOf path) = .ok stub → files.resolve other = .ok source →
      stub.location ≠ source.location
  /-- No path of a stub comes across the place of another stub, unless this is a directory. -/
  stub_not_mem : paths.Pairwise fun path other =>
    (∀ stub, files.resolve (Path.stubOf path) = .ok stub → stub.entry? ≠ some .directory →
      stub.location ∉ files.way (Path.stubOf other)) ∧
    ∀ stub, files.resolve (Path.stubOf other) = .ok stub → stub.entry? ≠ some .directory →
      stub.location ∉ files.way (Path.stubOf path)

namespace FileSystem.Separate

theorem apart {path other : String} (h : files.Separate paths) (hpath : path ∈ paths)
    (hother : other ∈ paths)
    (hstub : ∀ stub, files.resolve (Path.stubOf path) = .ok stub → stub.entry? ≠ some .directory →
      stub.location ∉ files.way (Path.stubOf other)) : env.Apart files path other := by
  intro location htarget
  obtain ⟨stub, hplace, rfl, hbefore⟩ := Environment.resolve_of_target htarget
  obtain ⟨source, content, hsource⟩ := h.source other hother
  constructor
  · intro hmem
    obtain heq | hdirectory | ⟨link, hlink⟩ := eq_location_of_mem_way hsource hmem
    · exact h.stub_ne path hpath other hother stub _ hplace hsource heq
    · simp [hdirectory] at hbefore
    · simp [hlink] at hbefore
  · refine hstub stub hplace fun hdirectory => ?_
    rw [get?_of_resolve hplace, hdirectory] at hbefore
    simp at hbefore

theorem pairwise (h : files.Separate paths) (env : Environment) :
    paths.Pairwise fun path other => env.Apart files path other ∧ env.Apart files other path :=
  h.stub_not_mem.imp_of_mem fun hpath hother hstubs =>
    ⟨h.apart hpath hother hstubs.1, h.apart hother hpath hstubs.2⟩

end FileSystem.Separate

end InterfaceStub
