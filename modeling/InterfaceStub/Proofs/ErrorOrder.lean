import InterfaceStub.Proofs.ConverterCalls
import InterfaceStub.Proofs.Rerun

/-!
# The order of the errors in a report

Each error of a report is caused by an input: the input is not there, or a file that it stands for
cannot be converted.

* `placed` is what the inputs stand for, each with the place of its input.
* `missingCauses` and `failureCauses` are the errors of either kind, with the places of the inputs
  that cause them.  Each list is in the order of the inputs, whatever order the workers take.
* A report has the one list before the other, so that its errors are in the order of the inputs just
  when every input after one with a failed conversion is there (`inOrder_causes_iff`).
-/

namespace InterfaceStub

/-! ## Things in the places of inputs -/

/-- The places never go down. -/
def InOrder (items : List (Nat × α)) : Prop :=
  (items.map Prod.fst).Pairwise (· ≤ ·)

instance (items : List (Nat × α)) : Decidable (InOrder items) :=
  inferInstanceAs (Decidable (List.Pairwise (· ≤ ·) (items.map Prod.fst)))

/-- What a function makes of each thing, in the same place. -/
def filterMapPlaced (f : α → Option β) (items : List (Nat × α)) : List (Nat × β) :=
  items.filterMap fun item => (f item.2).map (item.1, ·)

theorem map_snd_filterMapPlaced (f : α → Option β) (items : List (Nat × α)) :
    (filterMapPlaced f items).map Prod.snd = (items.map Prod.snd).filterMap f := by
  rw [filterMapPlaced, List.map_filterMap, List.filterMap_map]
  refine List.filterMap_congr fun item _ => ?_
  rw [Option.map_map, Function.comp_apply]
  exact Option.map_id'

theorem mem_filterMapPlaced {f : α → Option β} {items : List (Nat × α)} {place : Nat} {value : β} :
    (place, value) ∈ filterMapPlaced f items ↔
      ∃ item, (place, item) ∈ items ∧ f item = some value := by
  simp [filterMapPlaced]

theorem InOrder.filterMapPlaced {items : List (Nat × α)} (h : InOrder items) (f : α → Option β) :
    InOrder (filterMapPlaced f items) := by
  have hitems : items.Pairwise fun first second => first.1 ≤ second.1 := List.pairwise_map.1 h
  refine List.pairwise_map.2
    (hitems.filterMap _ fun first second hle value hvalue other hother => ?_)
  obtain ⟨_, -, rfl⟩ := Option.map_eq_some_iff.1 hvalue
  obtain ⟨_, -, rfl⟩ := Option.map_eq_some_iff.1 hother
  exact hle

/-! ## The causes of errors -/

/-- What each input stands for, with the place of the input. -/
def placed (groups : List (List (Except ConversionError String))) :
    List (Nat × Except ConversionError String) :=
  groups.zipIdx.flatMap fun group => group.1.map fun source => (group.2, source)

/-- The errors of the inputs that are not there. -/
def missingCauses (groups : List (List (Except ConversionError String))) :
    List (Nat × ConversionError) :=
  filterMapPlaced errorOf? (placed groups)

/-- The files to convert. -/
def placedFiles (groups : List (List (Except ConversionError String))) : List (Nat × String) :=
  filterMapPlaced Except.toOption (placed groups)

/-- The errors of the conversions, which are in the order of the files. -/
def failureCauses (groups : List (List (Except ConversionError String))) (jobs : List Job) :
    List (Nat × ConversionError) :=
  filterMapPlaced Job.error? (((placedFiles groups).map Prod.fst).zip jobs)

section Causes

variable {groups : List (List (Except ConversionError String))} {jobs : List Job}

theorem map_snd_placed (groups : List (List (Except ConversionError String))) :
    (placed groups).map Prod.snd = groups.flatten := by
  have hgroup (group : List (Except ConversionError String) × Nat) :
      (group.1.map fun source => (group.2, source)).map Prod.snd = group.1 := by
    rw [List.map_map]
    exact List.map_id _
  rw [placed, List.map_flatMap, List.flatten_eq_flatMap, ← List.zipIdx_map_fst 0 groups,
    List.flatMap_map]
  simp [hgroup]

theorem mem_placed {place : Nat} {source : Except ConversionError String} :
    (place, source) ∈ placed groups ↔ ∃ group, groups[place]? = some group ∧ source ∈ group := by
  simp [placed, List.mem_zipIdx_iff_getElem?]

theorem inOrder_placed (groups : List (List (Except ConversionError String))) :
    InOrder (placed groups) := by
  have hplaces : (groups.zipIdx.map Prod.snd).Pairwise (· < ·) := by
    rw [List.zipIdx_map_snd]
    exact List.pairwise_lt_range'
  refine List.pairwise_map.2 (List.pairwise_flatMap.2 ⟨fun group _ => ?_, ?_⟩)
  · exact List.pairwise_map.2 (List.pairwise_of_forall fun _ _ => le_rfl)
  · refine (List.pairwise_map.1 hplaces).imp fun hlt first hfirst second hsecond => ?_
    obtain ⟨_, -, rfl⟩ := List.mem_map.1 hfirst
    obtain ⟨_, -, rfl⟩ := List.mem_map.1 hsecond
    exact hlt.le

theorem map_snd_missingCauses (groups : List (List (Except ConversionError String))) :
    (missingCauses groups).map Prod.snd = groups.flatten.filterMap errorOf? := by
  rw [missingCauses, map_snd_filterMapPlaced, map_snd_placed]

theorem map_snd_placedFiles (groups : List (List (Except ConversionError String))) :
    (placedFiles groups).map Prod.snd = groups.flatten.filterMap Except.toOption := by
  rw [placedFiles, map_snd_filterMapPlaced, map_snd_placed]

theorem inOrder_missingCauses (groups : List (List (Except ConversionError String))) :
    InOrder (missingCauses groups) :=
  (inOrder_placed groups).filterMapPlaced _

section Aligned

variable (h : jobs.length = (placedFiles groups).length)
include h

theorem map_snd_failureCauses :
    (failureCauses groups jobs).map Prod.snd = jobs.filterMap Job.error? := by
  rw [failureCauses, map_snd_filterMapPlaced, List.map_snd_zip]
  rw [List.length_map, h]

theorem inOrder_failureCauses : InOrder (failureCauses groups jobs) := by
  apply InOrder.filterMapPlaced
  rw [InOrder, List.map_fst_zip]
  · exact (inOrder_placed groups).filterMapPlaced _
  · rw [List.length_map, h]

end Aligned

end Causes

/-! ## The errors of a report -/

theorem Pool.map_path_of_run {env : Environment} {state : RunState} {paths : List String}
    {schedule : List Nat} {final : Pool}
    (h : (Pool.start state paths).run env schedule = some final) :
    final.jobs.map Job.path = paths := by
  refine Pool.run_invariant (P := fun pool => pool.jobs.map Job.path = paths) ?_ h ?_
  · intro pool index next hstep hpool
    rw [Pool.map_path_of_step hstep, hpool]
  · simp [Pool.start, Function.comp_def]

section Report

variable {env : Environment} {state : RunState} {inputs : List String}
  {groups : List (List (Except ConversionError String))}
  (hgroups :
    List.Forall₂ (fun input group => env.sourcesAt state.files input = .ok group) inputs groups)
include hgroups

theorem Environment.sources_of_forall₂ : env.sources state.files inputs = .ok groups.flatten := by
  have hmap : inputs.mapM (env.sourcesAt state.files) = .ok groups := by
    induction hgroups with
    | nil => rfl
    | cons hgroup _ ih =>
      rw [List.mapM_cons, hgroup, ih]
      rfl
  rw [Environment.sources, hmap]
  rfl

/-- An input that is not there causes its error and no other. -/
theorem mem_missingCauses {place : Nat} {error : ConversionError} :
    (place, error) ∈ missingCauses groups ↔
      ∃ input, inputs[place]? = some input ∧ state.files.pathExists input = false ∧
        error = .read input .missingInput := by
  rw [missingCauses, mem_filterMapPlaced]
  simp only [mem_placed]
  induction hgroups generalizing place with
  | nil => simp
  | cons hgroup _ ih =>
    cases place with
    | zero =>
      obtain ⟨hexists, paths, rfl⟩ | ⟨hmissing, rfl⟩ := Environment.sourcesAt_eq_ok hgroup
      · simp [hexists]
      · simp only [List.getElem?_cons_zero, Option.some.injEq, exists_eq_left', List.mem_singleton,
          exists_eq_left, errorOf?_error, hmissing, true_and]
        exact eq_comm
    | succ place => simpa only [List.getElem?_cons_succ] using ih

/-- Causes are out of order only where an input that is not there comes after one with a failed
conversion. -/
theorem inOrder_causes_iff {jobs : List Job} (hjobs : jobs.length = (placedFiles groups).length) :
    InOrder (missingCauses groups ++ failureCauses groups jobs) ↔
      ∀ cause ∈ failureCauses groups jobs, ∀ later input, cause.1 < later →
        inputs[later]? = some input → state.files.pathExists input = true := by
  have hmissing : ((missingCauses groups).map Prod.fst).Pairwise (· ≤ ·) :=
    inOrder_missingCauses groups
  have hfailures : ((failureCauses groups jobs).map Prod.fst).Pairwise (· ≤ ·) :=
    inOrder_failureCauses hjobs
  rw [InOrder, List.map_append, List.pairwise_append]
  constructor
  · rintro ⟨-, -, hcross⟩ cause hcause later input hlater hinput
    by_contra hexists
    have hmem : (later, ConversionError.read input .missingInput) ∈ missingCauses groups :=
      (mem_missingCauses hgroups).2 ⟨input, hinput, Bool.eq_false_iff.2 hexists, rfl⟩
    have hle := hcross later (List.mem_map_of_mem hmem) cause.1 (List.mem_map_of_mem hcause)
    omega
  · intro hthere
    refine ⟨hmissing, hfailures, fun place hplace other hother => ?_⟩
    obtain ⟨⟨place, error⟩, hmem, rfl⟩ := List.mem_map.1 hplace
    obtain ⟨cause, hcause, rfl⟩ := List.mem_map.1 hother
    obtain ⟨input, hinput, hexists, -⟩ := (mem_missingCauses hgroups).1 hmem
    by_contra hlt
    rw [hthere cause hcause place input (Nat.lt_of_not_le hlt) hinput] at hexists
    cases hexists

/-- However the workers are scheduled, a report has the errors of the inputs that are not there, in
the order of the inputs, and after them the errors of the conversions, in the order of the inputs
and, for one input, of the walk.  The errors as a whole are in the order of the inputs just when
every input that comes after one with a failed conversion is there. -/
theorem report_inOrder_iff {schedule : List Nat} {final : Pool}
    (hrun : (Pool.start (state.countMissing (groups.flatten.filterMap errorOf?))
      (groups.flatten.filterMap Except.toOption)).run env schedule = some final)
    (hfinished : final.isFinished = true) :
    let ending := final.ending.withMissing (groups.flatten.filterMap errorOf?)
    let missing := missingCauses groups
    let failures := failureCauses groups final.jobs
    env.InputsEnd state inputs ending ∧
    ending.outcome = .report ((missing ++ failures).map Prod.snd) ∧
    final.jobs.map Job.path = (placedFiles groups).map Prod.snd ∧
    InOrder missing ∧ InOrder failures ∧
    (InOrder (missing ++ failures) ↔
      ∀ cause ∈ failures, ∀ later input, cause.1 < later → inputs[later]? = some input →
        state.files.pathExists input = true) := by
  intro ending missing failures
  have hpaths : final.jobs.map Job.path = (placedFiles groups).map Prod.snd := by
    rw [map_snd_placedFiles, Pool.map_path_of_run hrun]
  have hlength : final.jobs.length = (placedFiles groups).length := by
    simpa using congrArg List.length hpaths
  refine ⟨.converted (Environment.sources_of_forall₂ hgroups) (.finished hrun hfinished), ?_,
    hpaths, inOrder_missingCauses groups, inOrder_failureCauses hlength,
    inOrder_causes_iff hgroups hlength⟩
  rw [List.map_append, map_snd_missingCauses, map_snd_failureCauses hlength]
  simp only [ending, Pool.ending_of_run hrun, Ending.withMissing]

end Report

/-- The input that is not there comes last, and its error comes before that of the file before
it. -/
theorem report_inOrder_singleFile :
    let env := importEnvironment false
    let inputs := [".", "/srv/a.py", "missing.py"]
    ∃ (groups : List (List (Except ConversionError String))) (final : Pool),
      List.Forall₂ (fun input group => env.sourcesAt singleFile input = .ok group) inputs groups ∧
      final.isFinished = true ∧
      env.InputsEnd { files := singleFile } inputs
        (final.ending.withMissing [.read "missing.py" .missingInput]) ∧
      (final.ending.withMissing [.read "missing.py" .missingInput]).outcome =
        .report [.read "missing.py" .missingInput, .targetExists "/srv/a.pyi"] ∧
      missingCauses groups ++ failureCauses groups final.jobs =
        [(2, .read "missing.py" .missingInput), (1, .targetExists "/srv/a.pyi")] ∧
      ¬InOrder (missingCauses groups ++ failureCauses groups final.jobs) := by
  intro env inputs
  obtain ⟨hroot, hsource, hmissing⟩ := sourcesAt_singleFile
  have hgroups : List.Forall₂ (fun input group => env.sourcesAt singleFile input = .ok group) inputs
      [[.ok "./a.py"], [.ok "/srv/a.py"], [.error (.read "missing.py" .missingInput)]] :=
    .cons hroot (.cons hsource (.cons hmissing .nil))
  obtain ⟨schedule, final, hrun, hfinished, hjobs, -⟩ := env.exists_run_runAll
    (RunState.countMissing { files := singleFile } [.read "missing.py" .missingInput])
    ["./a.py", "/srv/a.py"]
  obtain ⟨first, second, hreports, hfirst, hsecond⟩ := reports_singleFile
  have hcauses : missingCauses
        [[.ok "./a.py"], [.ok "/srv/a.py"], [.error (.read "missing.py" .missingInput)]] ++
      failureCauses [[.ok "./a.py"], [.ok "/srv/a.py"], [.error (.read "missing.py" .missingInput)]]
        final.jobs =
      [(2, .read "missing.py" .missingInput), (1, .targetExists "/srv/a.pyi")] := by
    have hfinal : final.jobs = Pool.finishedJobs ["./a.py", "/srv/a.py"] [first, second] :=
      hjobs.trans (congrArg _ hreports)
    rw [hfinal, Pool.finishedJobs, List.zipWith_cons_cons, List.zipWith_cons_cons, hfirst, hsecond]
    rfl
  obtain ⟨hends, houtcome, -⟩ :=
    @report_inOrder_iff env { files := singleFile } _ _ hgroups _ _ hrun hfinished
  rw [hcauses] at houtcome
  refine ⟨_, final, hgroups, hfinished, hends, houtcome, hcauses, ?_⟩
  rw [hcauses]
  decide

end InterfaceStub
