import InterfaceStub.Proofs.PrunedWalk

/-!
# Where the stubs of a walk go

The stub of a source has the name of the source with another extension.  So the stubs of a walk are
as distinct as its sources, and none of them is taken for a source.  One name is an exception: to
the source `..py`, which a walk finds where an ignore file takes it, belongs the path of the
directory above.

* `Path.components` are the names along a path, and `components_descend` finds the place of a source
  in its path.
* `Path.stubOf_join` is the path of a stub, for any name that a source can have.
* `exists_places_of_collect` describes the paths that a walk finds.
* `stubs_apart_of_collect` is the result.  `dottedFiles` has a source without a stub beside it.
-/

namespace InterfaceStub

open FileSystem

/-! ## Names along a path -/

namespace Path

/-- The names along a path, without the steps that stay in place. -/
def components (path : String) : List String :=
  (Text.split '/' path).filter fun part => part ≠ "" ∧ part ≠ "."

theorem components_slash (before after : String) :
    components (before ++ "/" ++ after) = components before ++ components after := by
  have htext : (before ++ "/" ++ after).toList = before.toList ++ '/' :: after.toList := by simp
  rw [components, Text.split, htext, Text.splitList_append_cons, List.map_append,
    List.filter_append]
  rfl

theorem components_name {name : String} (hempty : name ≠ "") (hstay : name ≠ ".")
    (hslash : '/' ∉ name.toList) : components name = [name] := by
  rw [components, Text.split, Text.splitList_of_not_mem hslash]
  simp [hempty, hstay]

/-- An entry of a directory has one name more than the directory. -/
theorem components_join {name : String} (directory : String) (hempty : name ≠ "")
    (hstay : name ≠ ".") (hslash : '/' ∉ name.toList) :
    components (join directory name) = components directory ++ [name] := by
  rw [← components_name hempty hstay hslash, join]
  split
  · rename_i hlast
    obtain ⟨above, habove⟩ := List.getLast?_eq_some_iff.1 hlast
    obtain rfl : directory = String.ofList above ++ "/" :=
      String.toList_injective (by simpa using habove)
    have hopened : components (String.ofList above ++ "/") = components (String.ofList above) := by
      have hslash := components_slash (String.ofList above) ""
      rwa [String.append_empty, show components "" = [] from rfl, List.append_nil] at hslash
    rw [components_slash, hopened]
  · exact components_slash directory name

theorem components_descend {names : List String} (directory : String)
    (h : ∀ name ∈ names, IsName name) :
    components (descend directory names) = components directory ++ names := by
  induction names generalizing directory with
  | nil => rw [List.append_nil]; rfl
  | cons name names ih =>
    obtain ⟨⟨hempty, hstay, -, hslash⟩, hnames⟩ := List.forall_mem_cons.1 h
    have hdescend := ih (join directory name) hnames
    rw [components_join directory hempty hstay hslash, List.append_assoc] at hdescend
    exact hdescend

/-! ## The path of a stub -/

theorem splitName_join {name : String} (directory : String) (hempty : name ≠ "")
    (hstay : name ≠ ".") (hslash : '/' ∉ name.toList) :
    splitName (join directory name) = (opened directory, name) := by
  simpa using splitName_eq (toList_join directory name) hslash (.inr (toList_opened directory))
    (by simpa) (by simpa)

theorem fileName?_join_up (directory : String) : fileName? (join directory "..") = none := by
  rw [fileName?, splitName_join directory (by decide) (by decide) (by decide)]
  rfl

theorem replaceExtension_join {name : String} (directory : String) (hname : IsName name)
    (ext : String) :
    replaceExtension (join directory name) ext =
      join directory ((splitExtension name).1 ++ "." ++ ext) := by
  rw [replaceExtension, fileName?_join directory hname]
  simp only [splitName_join directory hname.1 hname.2.1 hname.2.2.2]
  simp only [join_eq, String.append_assoc]

/-- A stem with an extension is a name, except for the two dots. -/
theorem isName_append {stem ext : String} (hstem : stem ≠ "") (hslash : '/' ∉ stem.toList)
    (hext : '/' ∉ ext.toList) (hup : stem = "." → ext ≠ "") : IsName (stem ++ "." ++ ext) := by
  have htext : (stem ++ "." ++ ext).toList = stem.toList ++ '.' :: ext.toList := by simp
  obtain ⟨first, rest, hfirst⟩ := List.exists_cons_of_ne_nil (mt String.toList_eq_nil_iff.1 hstem)
  rw [hfirst, List.cons_append] at htext
  refine ⟨fun h => ?_, fun h => ?_, fun h => ?_, by simp [hslash, hext]⟩ <;> rw [h] at htext
  · cases htext
  · have hrest : [] = rest ++ '.' :: ext.toList := (List.cons.inj htext).2
    simp at hrest
  · obtain ⟨rfl, hrest⟩ : '.' = first ∧ ['.'] = rest ++ '.' :: ext.toList := List.cons.inj htext
    obtain ⟨rfl, hnone⟩ : rest = [] ∧ ext.toList = [] := by
      simpa [List.singleton_eq_append_iff] using hrest
    exact hup (String.toList_injective hfirst) (String.toList_eq_nil_iff.1 hnone)

/-- The name of the stub of a source with this stem.  For the stem that is a dot it is no name of a
file. -/
def stubName (stem : String) : String :=
  if stem = "." then ".." else stem ++ ".pyi"

theorem append_stubExtension (stem : String) : stem ++ "." ++ stubExtension = stem ++ ".pyi" := by
  rw [String.append_assoc]
  rfl

theorem stubName_name {stem : String} (hstem : stem ≠ "") (hslash : '/' ∉ stem.toList) :
    stubName stem ≠ "" ∧ stubName stem ≠ "." ∧ '/' ∉ (stubName stem).toList := by
  rw [stubName]
  split
  · decide
  · have hname : IsName (stem ++ "." ++ stubExtension) :=
      isName_append hstem hslash (by decide) fun _ => by decide
    rw [append_stubExtension] at hname
    exact ⟨hname.1, hname.2.1, hname.2.2.2⟩

theorem stubName_injective : Function.Injective stubName := by
  have hup (stem : String) : stem ++ ".pyi" ≠ ".." := fun h => by
    have hlast := congrArg (List.getLast? ∘ String.toList) h
    simp at hlast
  intro first second h
  simp only [stubName] at h
  split at h <;> split at h
  · simp [*]
  · exact absurd h.symm (hup second)
  · exact absurd h (hup first)
  · exact String.append_left_inj _ |>.1 h

theorem stubName_ne (stem other : String) : stubName stem ≠ other ++ ".py" := by
  intro h
  have hlast := congrArg (List.getLast? ∘ String.toList) h
  rw [stubName] at hlast
  split at hlast <;> simp at hlast

/-- The stub of a source is in the directory of the source. -/
theorem stubOf_join {stem : String} (directory : String) (hstem : stem ≠ "")
    (hslash : '/' ∉ stem.toList) :
    stubOf (join directory (stem ++ ".py")) = join directory (stubName stem) := by
  have hsource : extension? (join directory (stem ++ ".py")) = some sourceExtension := by
    have hname : IsName (stem ++ "." ++ sourceExtension) :=
      isName_append hstem hslash (by decide) fun _ => by decide
    rw [append_sourceExtension] at hname
    exact (extension?_join_iff directory hname).2 ⟨stem, hstem, rfl⟩
  have hshortened : String.ofList ((join directory (stem ++ ".py")).toList.take
      ((join directory (stem ++ ".py")).toList.length - sourceExtension.length)) =
        join directory (stem ++ ".") := by
    have htext : (join directory (stem ++ ".py")).toList =
        (join directory (stem ++ ".")).toList ++ sourceExtension.toList := by
      simp [join_eq, sourceExtension]
    have hlength : sourceExtension.length = sourceExtension.toList.length := rfl
    rw [htext, List.length_append, hlength, Nat.add_sub_cancel, List.take_left,
      String.ofList_toList]
  simp only [stubOf, hsource, if_true, hshortened]
  by_cases hdot : stem = "."
  · -- What is left of the name is the step to the directory above.
    subst hdot
    rw [show "." ++ "." = ".." from rfl, replaceExtension, fileName?_join_up]
    rfl
  · have hname : IsName (stem ++ "." ++ "") :=
      isName_append hstem hslash (by decide) fun h => absurd h hdot
    have hsplit : splitExtension (stem ++ "." ++ "") = (stem, some "") :=
      splitExtension_append hstem (by decide)
    rw [String.append_empty] at hname hsplit
    rw [replaceExtension_join directory hname, hsplit, stubName, if_neg hdot,
      append_stubExtension]

/-- The part of the last name of a path before its extension. -/
def fileStem? (path : String) : Option String :=
  (fileName? path).map fun name => (splitExtension name).1

/-- The parts of a path whose last name is a stem with an extension. -/
theorem parts_join {stem ext : String} (directory : String) (hstem : stem ≠ "")
    (hslash : '/' ∉ stem.toList) (hext : ext ≠ "") (hslash' : '/' ∉ ext.toList)
    (hdot : '.' ∉ ext.toList) :
    (splitName (join directory (stem ++ "." ++ ext))).1 = opened directory ∧
      fileStem? (join directory (stem ++ "." ++ ext)) = some stem ∧
      extension? (join directory (stem ++ "." ++ ext)) = some ext := by
  have hname : IsName (stem ++ "." ++ ext) := isName_append hstem hslash hslash' fun _ => hext
  rw [splitName_join directory hname.1 hname.2.1 hname.2.2.2, fileStem?, extension?,
    fileName?_join directory hname]
  have hsplit := splitExtension_append hstem hdot
  exact ⟨rfl, congrArg some (congrArg Prod.fst hsplit), congrArg Prod.snd hsplit⟩

/-- A path leads to a stub in the directory of a source, with the stem of the source. -/
structure IsStubBeside (source path : String) : Prop where
  directory : (splitName path).1 = (splitName source).1
  stem : fileStem? path = fileStem? source
  extension : extension? path = some stubExtension

/-- The stub is beside its source, unless the stem of the source is a dot. -/
theorem isStubBeside_stubOf_iff {stem : String} (directory : String) (hstem : stem ≠ "")
    (hslash : '/' ∉ stem.toList) :
    IsStubBeside (join directory (stem ++ ".py")) (stubOf (join directory (stem ++ ".py"))) ↔
      stem ≠ "." := by
  rw [stubOf_join directory hstem hslash, stubName]
  split
  · rename_i hdot
    refine iff_of_false (fun h => ?_) (fun h => h hdot)
    have hextension := h.extension
    rw [extension?, fileName?_join_up] at hextension
    cases hextension
  · rename_i hdot
    obtain ⟨hdirectory, hsource, -⟩ := parts_join directory hstem hslash
      (show sourceExtension ≠ "" by decide) (by decide) (by decide)
    obtain ⟨hdirectory', hstub, hextension⟩ := parts_join directory hstem hslash
      (show stubExtension ≠ "" by decide) (by decide) (by decide)
    refine iff_of_true ?_ hdot
    rw [← append_sourceExtension, ← append_stubExtension]
    exact ⟨hdirectory'.trans hdirectory.symm, hstub.trans hsource.symm, hextension⟩

end Path

/-! ## The sources of a walk -/

/-- The place of a source: names, of which the last has the extension of sources. -/
structure Walk.IsSourcePlace (place above : List String) (stem : String) : Prop where
  eq : place = above ++ [stem ++ ".py"]
  stem_ne : stem ≠ ""
  isName : ∀ name ∈ place, IsName name

namespace Walk.IsSourcePlace

variable {place above : List String} {stem : String}

theorem slash_notMem (h : IsSourcePlace place above stem) : '/' ∉ stem.toList := by
  have hlast : IsName (stem ++ ".py") := h.isName _ (by simp [h.eq])
  simpa using hlast.2.2.2

theorem descend_eq (h : IsSourcePlace place above stem) (root : String) :
    Path.descend root place = Path.join (Path.descend root above) (stem ++ ".py") := by
  rw [h.eq, Path.descend_concat]

theorem components_stubOf (h : IsSourcePlace place above stem) (root : String) :
    Path.components (Path.stubOf (Path.descend root place)) =
      Path.components root ++ (above ++ [Path.stubName stem]) := by
  have habove : ∀ name ∈ above, IsName name :=
    fun name hname => h.isName name (by simp [h.eq, hname])
  obtain ⟨hempty, hstay, hslash⟩ := Path.stubName_name h.stem_ne h.slash_notMem
  rw [h.descend_eq, Path.stubOf_join _ h.stem_ne h.slash_notMem,
    Path.components_join _ hempty hstay hslash, Path.components_descend _ habove, List.append_assoc]

end Walk.IsSourcePlace

variable {walker : Walker} {rules : WalkRules} {files : FileSystem} {settings : ScanSettings}
  {root : String} {paths : List String}

/-- A walk that follows no links finds sources at distinct places. -/
theorem exists_places_of_collect (hwalker : walker.Traverses rules)
    (hlinks : settings.followLinks = false) (htree : files.IsTree)
    (hcollect : walker.collect files settings root = .ok paths) :
    ∃ found : List (List String), found.Nodup ∧ paths = found.map (Path.descend root) ∧
      ∀ place ∈ found, ∃ above stem, Walk.IsSourcePlace place above stem := by
  obtain ⟨base, hroot⟩ := Walker.exists_directoryAt? hcollect
  cases hinput : Walk.isStandardInput root with
  | true =>
    cases hcollect.symm.trans (hwalker.collect_standardInput hroot hinput)
    exact ⟨[], .nil, rfl, by simp⟩
  | false =>
    obtain ⟨-, entries, hlists, hpaths⟩ :=
      hwalker.exists_lists hroot hinput (by simp [hlinks]) hcollect
    have hbase : files.get? base = some .directory :=
      get?_of_resolve (directoryAt?_eq_some_iff.1 hroot)
    obtain ⟨found, hfound, hsorted, rfl⟩ := exists_found htree hbase hlists hpaths
    refine ⟨found, nodup_of_bytes_lt hsorted, rfl, fun place hplace => ?_⟩
    obtain ⟨hcomes, stem, hstem, hlast⟩ := (hfound place).1 hplace
    obtain ⟨above, habove⟩ := List.getLast?_eq_some_iff.1 hlast
    obtain ⟨content, hfile⟩ := kindAt?_eq_file_iff.1 hcomes.kind_eq
    refine ⟨above, stem, habove, hstem, fun name hname => ?_⟩
    exact htree.isName _ _ hfile _ (by simp [hname])

/-- The stubs of the sources that a walk finds, without following links, are at distinct places, and
none of them is at the place of a source.  Each is in the directory of its source and has the same
stem, but for a source whose stem is a dot. -/
theorem stubs_apart_of_collect (hwalker : walker.Traverses rules)
    (hlinks : settings.followLinks = false) (htree : files.IsTree)
    (hcollect : walker.collect files settings root = .ok paths) :
    (paths.map fun path => Path.components (Path.stubOf path)).Nodup ∧
      (∀ path ∈ paths, ∀ source ∈ paths,
        Path.components (Path.stubOf path) ≠ Path.components source) ∧
      ∀ path ∈ paths,
        Path.IsStubBeside path (Path.stubOf path) ↔ Path.fileName? path ≠ some "..py" := by
  obtain ⟨found, hnodup, rfl, hfound⟩ := exists_places_of_collect hwalker hlinks htree hcollect
  rw [List.map_map]
  refine ⟨hnodup.map_on ?_, ?_, ?_⟩
  · intro first hfirst second hsecond heq
    obtain ⟨above, stem, hplace⟩ := hfound first hfirst
    obtain ⟨above', stem', hplace'⟩ := hfound second hsecond
    rw [Function.comp_apply, Function.comp_apply, hplace.components_stubOf,
      hplace'.components_stubOf, List.append_cancel_left_eq] at heq
    obtain ⟨rfl, hname⟩ := List.append_inj' heq rfl
    obtain rfl := Path.stubName_injective (List.singleton_inj.1 hname)
    rw [hplace.eq, hplace'.eq]
  · intro path hpath source hsource heq
    obtain ⟨first, hfirst, rfl⟩ := List.mem_map.1 hpath
    obtain ⟨second, hsecond, rfl⟩ := List.mem_map.1 hsource
    obtain ⟨above, stem, hplace⟩ := hfound first hfirst
    obtain ⟨above', stem', hplace'⟩ := hfound second hsecond
    rw [hplace.components_stubOf, Path.components_descend _ hplace'.isName, hplace'.eq,
      List.append_cancel_left_eq] at heq
    exact Path.stubName_ne stem stem' (List.singleton_inj.1 (List.append_inj' heq rfl).2)
  · intro path hpath
    obtain ⟨place, hmem, rfl⟩ := List.mem_map.1 hpath
    obtain ⟨above, stem, hplace⟩ := hfound place hmem
    have hlast : IsName (stem ++ ".py") := hplace.isName _ (by simp [hplace.eq])
    have hdot : "..py" = "." ++ ".py" := rfl
    rw [hplace.descend_eq, Path.isStubBeside_stubOf_iff _ hplace.stem_ne hplace.slash_notMem,
      Path.fileName?_join _ hlast, Ne, Ne, Option.some_inj, hdot, String.append_left_inj]

/-- A directory with an ignore file that takes a hidden source whose stem is a dot. -/
def dottedFiles : FileSystem where
  entries := [(["..py"], .file (.text "")), ([".gitignore"], .file (.text "!..py\n")),
    (["a..py"], .file (.text ""))]

/-- What the ignore file says. -/
def dottedRules : IgnoreRules :=
  ⟨[⟨Text.bytes ".", .empty, IgnoreFile.ofContent (.text "!..py\n"), .empty⟩], []⟩

theorem enter_dottedFiles :
    IgnoreRules.enter ⟨[], []⟩ dottedFiles [] (Text.bytes ".") = dottedRules := by
  have hplain : dottedFiles.resolve ".ignore" = .ok (.vacant [".ignore"]) := by
    have hsteps : stepsOf ".ignore" = .ok [.name ".ignore"] := rfl
    rw [resolve_eq_of_stepsOf hsteps]
    exact follow_vacant rfl rfl
  have hgit : dottedFiles.resolve ".gitignore" =
      .ok (.found [".gitignore"] (.file (.text "!..py\n"))) := by
    have hsteps : stepsOf ".gitignore" = .ok [.name ".gitignore"] := rfl
    exact resolve_name hsteps rfl
  have hexclude : dottedFiles.resolve ".git/info/exclude" = .error .notFound := by
    have hsteps : stepsOf ".git/info/exclude" =
        .ok [.name ".git", .name "info", .name "exclude"] := rfl
    rw [resolve_eq_of_stepsOf hsteps]
    exact follow_vacant rfl rfl
  have hbase : IgnoreScope.dropStay (Text.bytes ".") = Text.bytes "." := by decide
  rw [resolve] at hplain hgit hexclude
  have hstart : dottedFiles.start = [] := rfl
  rw [hstart] at hplain hgit hexclude
  simp only [IgnoreRules.enter, IgnoreScope.ofDirectory, IgnoreScope.fileIn, hplain, hgit, hexclude,
    hbase, dottedRules]

theorem isTree_dottedFiles : dottedFiles.IsTree :=
  isTree_of_forall_mem (by decide +kernel) (by decide +kernel) (by decide +kernel)

theorem directoryAt?_dottedFiles : dottedFiles.directoryAt? "." = some [] := by
  have hsteps : stepsOf "." = .ok [.stay] := rfl
  rw [directoryAt?_eq_some_iff, resolve_eq_of_stepsOf hsteps, follow_stay rfl, follow]
  rfl

theorem comes_dottedFiles {name : String}
    (hfile : dottedFiles.get? [.text name] = some (.file (.text "")))
    (hpassed : Walk.isPassedOver dottedRules [] (Text.bytes ".") ⟨[.text name], .file⟩ = false) :
    Walk.Comes dottedFiles (WalkRules.standard.takes dottedFiles (ScanSettings.walkOptions {}) ".")
      [] [] ⟨[.text name], .file⟩ := by
  refine .down rfl rfl (.here (kindAt?_eq_file_iff.2 ⟨_, hfile⟩) ?_)
  simp [WalkRules.takes, WalkRules.standard, directoryAt?_dottedFiles, Walk.rulesIn,
    IgnoreScope.above, enter_dottedFiles, hpassed, ScanSettings.walkOptions, ScanSettings.accepts]

theorem collect_dottedFiles :
    ∃ paths, Walker.standard.collect dottedFiles {} "." = .ok paths ∧
      "./..py" ∈ paths ∧ "./a..py" ∈ paths := by
  have hreadable : WalkRules.standard.unreadable dottedFiles "." = false := by
    simp [WalkRules.standard, directoryAt?_dottedFiles, IgnoreScope.above]
  obtain ⟨entries, hentries, hlists⟩ := traverses_standard.lists dottedFiles
    (ScanSettings.walkOptions {}) "." [] directoryAt?_dottedFiles (by decide +kernel) hreadable
    (by simp [ScanSettings.walkOptions])
  have htext : ∀ entry ∈ dottedFiles.entries, IsText entry.1 := by
    simp [dottedFiles, IsText]
  have hok (entry : WalkEntry) (hentry : entry ∈ entries) :
      ∃ source?, entry.source? "." = .ok source? := by
    refine entry.exists_source? fun hkind => ?_
    obtain ⟨content, hfile⟩ :=
      kindAt?_eq_file_iff.1 (hkind ▸ (hlists.mem_iff.1 hentry).kind_eq)
    exact htext _ (mem_entries_of_file hfile)
  have hmem {name : String} (hfile : dottedFiles.get? [.text name] = some (.file (.text "")))
      (hpassed : Walk.isPassedOver dottedRules [] (Text.bytes ".") ⟨[.text name], .file⟩ = false)
      (hsource : Path.extension? (Path.join "." name) = some Path.sourceExtension) :
      Path.join "." name ∈ entries.filterMap fun entry => entry.found? "." :=
    List.mem_filterMap.2 ⟨_, hlists.mem_iff.2 (comes_dottedFiles hfile hpassed),
      WalkEntry.found?_eq_some_iff.2 ⟨rfl, hsource, [name], rfl, rfl⟩⟩
  refine ⟨entries.filterMap fun entry => entry.found? ".", ?_,
    @hmem "..py" rfl (by decide +kernel) (by decide +kernel),
    @hmem "a..py" rfl (by decide +kernel) (by decide +kernel)⟩
  rw [Walker.collect_eq directoryAt?_dottedFiles, hentries]
  exact Walker.sourcesIn_eq_ok_iff.2 ⟨hok, rfl⟩

/-- A walk finds the hidden source, whose stub would be the directory above. -/
theorem dottedFiles_stubs :
    dottedFiles.IsTree ∧
    ∃ paths, Walker.standard.collect dottedFiles {} "." = .ok paths ∧
      "./..py" ∈ paths ∧ "./a..py" ∈ paths ∧
      (paths.map fun path => Path.components (Path.stubOf path)).Nodup ∧
      Path.stubOf "./..py" = "./.." ∧
      ¬Path.IsStubBeside "./..py" (Path.stubOf "./..py") ∧
      Path.IsStubBeside "./a..py" (Path.stubOf "./a..py") := by
  obtain ⟨paths, hcollect, hhidden, hvisible⟩ := collect_dottedFiles
  obtain ⟨hnodup, -, hbeside⟩ :=
    stubs_apart_of_collect traverses_standard rfl isTree_dottedFiles hcollect
  refine ⟨isTree_dottedFiles, paths, hcollect, hhidden, hvisible, hnodup, by decide +kernel, ?_, ?_⟩
  · exact fun h => (hbeside _ hhidden).1 h (by decide +kernel)
  · exact (hbeside _ hvisible).2 (by decide +kernel)

end InterfaceStub
