import InterfaceStub.Proofs.FileWrites
import InterfaceStub.Proofs.LinkFree
import InterfaceStub.Proofs.WalkerLaws

/-!
# Walks that do not see stubs

A walk finds the same sources after stubs are written.  A new stub is one more entry of its
directory; it must not hide a source, or be taken for one, or hold rules of the walker.

* `Sprouts` says that one file system is the other one with stubs written.
* `Sprouts.comes` and `Sprouts.comes_or_isStub` compare what walks come to: the second one comes to
  all that the first one comes to, and else only to stubs.
* `Sprouts.collect_eq` is the result.
-/

namespace InterfaceStub

open FileSystem

/-! ## Entries that are stubs -/

namespace Path

theorem suffix_join {name : String} (directory : String) :
    name.toList <:+ (join directory name).toList := by
  rw [join]
  split
  · exact ⟨directory.toList, by simp⟩
  · exact ⟨directory.toList ++ ['/'], by simp⟩

end Path

namespace WalkEntry

/-- A file with the name of a stub. -/
def IsStub (entry : WalkEntry) : Prop :=
  entry.kind = .file ∧ ∃ directory name, entry.place = directory ++ [name] ∧ IsStubName name

variable {entry : WalkEntry} {root : String}

/-- A stub is not taken for a source. -/
theorem IsStub.found?_eq (h : entry.IsStub) : entry.found? root = none := by
  refine Option.eq_none_iff_forall_ne_some.2 fun path hpath => ?_
  obtain ⟨-, directory, name, hplace, hname⟩ := h
  obtain ⟨-, hsource, names, hnames, rfl⟩ := found?_eq_some_iff.1 hpath
  obtain ⟨above, last, rfl, -, hlast⟩ := List.map_eq_append_iff.1 (hnames.symm.trans hplace)
  obtain ⟨stub, rfl, rfl⟩ := List.map_eq_singleton_iff.1 hlast
  rw [Path.descend_concat] at hsource
  exact Path.extension?_ne_of_suffix (hname.trans (Path.suffix_join _)) hsource

end WalkEntry

/-- No rule file is a stub, or below what is named like one. -/
def WalkRules.ApartFromStubs (rules : WalkRules) : Prop :=
  ∀ ruleFile ∈ rules.ruleFiles, ruleFile ≠ [] ∧ ∀ name ∈ ruleFile, ¬IsStubName name

/-! ## Stubs that are added -/

/-- A location at which a stub can be written. -/
structure FileSystem.StubPlace (files : FileSystem) (location : Location) : Prop where
  named : ∃ directory name, location = directory ++ [name] ∧ IsStubName name
  isText : IsText location
  ne_directory : files.get? location ≠ some .directory

/-- The other file system has stubs that this one does not have, or that it has with another
content. -/
structure FileSystem.Sprouts (files other : FileSystem) : Prop where
  workingDirectory : other.workingDirectory = files.workingDirectory
  get? : ∀ location, other.get? location = files.get? location ∨
    files.StubPlace location ∧ ∃ content, other.get? location = some (.file content)

namespace FileSystem.Sprouts

variable {files other : FileSystem} {here location base place : Location}

theorem refl (files : FileSystem) : files.Sprouts files :=
  ⟨rfl, fun _ => .inl rfl⟩

theorem start (h : files.Sprouts other) : other.start = files.start :=
  congrArg (List.map RawText.text) h.workingDirectory

theorem insert (h : files.Sprouts other) (hlocation : files.StubPlace location)
    (content : Content) : files.Sprouts (other.insert location (.file content)) := by
  have hbelow : ¬ location <+: other.start := h.start ▸ not_prefix_start hlocation.ne_directory
  refine ⟨h.workingDirectory, fun place => ?_⟩
  rw [get?_insert hbelow]
  split
  · rename_i heq
    exact .inr ⟨heq ▸ hlocation, content, rfl⟩
  · exact h.get? place

theorem get?_directory_iff (h : files.Sprouts other) :
    other.get? location = some .directory ↔ files.get? location = some .directory := by
  obtain heq | ⟨hplace, content, hcontent⟩ := h.get? location
  · rw [heq]
  · simp [hplace.ne_directory, hcontent]

theorem linkFree (h : files.Sprouts other) (hlinks : files.LinkFree) : other.LinkFree := by
  intro location target
  obtain heq | ⟨-, content, hcontent⟩ := h.get? location
  · exact heq ▸ hlinks location target
  · simp [hcontent]

theorem get?_of_not_isStubName (h : files.Sprouts other) {name : Name}
    (hname : ¬IsStubName name) : other.get? (here ++ [name]) = files.get? (here ++ [name]) := by
  obtain heq | ⟨hplace, -⟩ := h.get? (here ++ [name])
  · exact heq
  · obtain ⟨directory, stub, hlocation, hstub⟩ := hplace.named
    cases (List.append_inj' hlocation rfl).2
    exact absurd hstub hname

/-! ### Rules -/

theorem mem_visited_names (hlinks : files.LinkFree) {followLast : Bool} {links : Nat}
    {names : List Name} (h : location ∈ files.visited followLast links here (names.map .name)) :
    location = here ∨ ∃ directory, ∃ name ∈ names, location = directory ++ [name] := by
  induction names generalizing here with
  | nil => exact .inl (by simpa [visited] using h)
  | cons name names ih =>
    rw [List.map_cons, visited] at h
    obtain rfl | h := List.mem_cons.1 h
    · exact .inl rfl
    · split at h
      · cases h
      · obtain rfl | h := List.mem_cons.1 h
        · exact .inr ⟨here, name, List.mem_cons_self, rfl⟩
        · split at h
          · cases h
          · rename_i target hlink
            exact absurd hlink (hlinks _ target)
          · obtain rfl | ⟨directory, other, hother, rfl⟩ := ih h
            · exact .inr ⟨here, name, List.mem_cons_self, rfl⟩
            · exact .inr ⟨directory, other, List.mem_cons_of_mem _ hother, rfl⟩

/-- Names that are none of stubs lead to what they led to. -/
theorem placeBelow_eq (h : files.Sprouts other) (hlinks : files.LinkFree) {names : Location}
    (hne : names ≠ []) (hnames : ∀ name ∈ names, ¬IsStubName name) (directory : Location) :
    other.placeBelow directory names = files.placeBelow directory names := by
  obtain ⟨name, rest, rfl⟩ := List.exists_cons_of_ne_nil hne
  by_cases hdirectory : files.get? directory = some .directory
  · refine follow_congr fun location hmem => ?_
    obtain rfl | ⟨above, last, hlast, rfl⟩ := mem_visited_names hlinks hmem
    · rw [hdirectory, h.get?_directory_iff.2 hdirectory]
    · exact h.get?_of_not_isStubName (hnames last hlast)
  · rw [placeBelow, placeBelow, List.map_cons, follow_of_ne hdirectory,
      follow_of_ne (mt h.get?_directory_iff.1 hdirectory)]

/-! ### Walks -/

section

variable {taken : WalkEntry → Bool} {entry : WalkEntry}

theorem kindAt?_eq_some {kind : EntryKind} (h : files.Sprouts other) (hlinks : files.LinkFree)
    (hkind : files.kindAt? location = some kind) : other.kindAt? location = some kind := by
  obtain heq | ⟨hplace, content, hcontent⟩ := h.get? location
  · rwa [kindAt?, heq]
  · rw [kindAt?, hcontent]
    cases hentry : files.get? location with
    | none => simp [kindAt?, hentry] at hkind
    | some old =>
      cases old with
      | file => simpa [kindAt?, hentry] using hkind
      | directory => exact absurd hentry hplace.ne_directory
      | link target => exact absurd hentry (hlinks location target)

/-- A walk comes to what it came to. -/
theorem comes (h : files.Sprouts other) (hlinks : files.LinkFree)
    (hcomes : Walk.Comes files taken base place entry) :
    Walk.Comes other taken base place entry := by
  induction hcomes with
  | here hkind htaken => exact .here (h.kindAt?_eq_some hlinks hkind) htaken
  | down hkind htaken _ ih => exact .down (h.kindAt?_eq_some hlinks hkind) htaken ih

/-- What a walk comes to now, and did not before, is a stub. -/
theorem comes_or_isStub (h : files.Sprouts other) (hbase : files.get? base = some .directory)
    (hcomes : Walk.Comes other taken base place entry) :
    Walk.Comes files taken base place entry ∨ entry.IsStub ∧ IsText entry.place := by
  induction hcomes with
  | @here place kind hkind htaken =>
    obtain heq | ⟨hplace, content, hcontent⟩ := h.get? (base ++ place)
    · exact .inl (.here (by rwa [kindAt?, ← heq]) htaken)
    · have hfile : kind = .file := by simpa [kindAt?, hcontent] using hkind.symm
      refine .inr ⟨⟨hfile, ?_⟩, fun name hname => hplace.isText name (by simp [hname])⟩
      obtain ⟨directory, name, hlocation, hname⟩ := hplace.named
      -- The root of the walk is a directory, so the stub is below it.
      obtain rfl | ⟨above, last, rfl⟩ := place.eq_nil_or_concat'
      · exact absurd hbase (by simpa using hplace.ne_directory)
      · rw [← List.append_assoc] at hlocation
        cases (List.append_inj' hlocation rfl).2
        exact ⟨above, name, rfl, hname⟩
  | @down place name entry hkind htaken _ ih =>
    refine ih.imp_left fun hinside => .down ?_ htaken hinside
    obtain heq | ⟨-, content, hcontent⟩ := h.get? (base ++ place)
    · rwa [kindAt?, ← heq]
    · simp [kindAt?, hcontent] at hkind

end

variable {root : String} {settings : ScanSettings} {walker : Walker} {rules : WalkRules}
  {paths : List String}

/-- The sources among what is listed are those that were there. -/
theorem sourcesIn_eq (h : files.Sprouts other) (hlinks : files.LinkFree)
    (hbase : files.get? base = some .directory) {taken : WalkEntry → Bool}
    {entries entries' : List WalkEntry} (hlists : Walk.Lists files taken base [] entries)
    (hlists' : Walk.Lists other taken base [] entries')
    (hpaths : Walker.sourcesIn root (entries.map .ok) = .ok paths) :
    Walker.sourcesIn root (entries'.map .ok) = .ok paths := by
  classical
  obtain ⟨hall, rfl⟩ := Walker.sourcesIn_eq_ok_iff.1 hpaths
  have hmem (entry : WalkEntry) (hentry : entry ∈ entries') :
      entry ∈ entries ∨ entry.IsStub ∧ IsText entry.place :=
    (h.comes_or_isStub hbase (hlists'.mem_iff.1 hentry)).imp_left hlists.mem_iff.2
  have hstubs (entries : List WalkEntry) :
      (entries.filter fun entry => ¬entry.IsStub).filterMap (fun entry => entry.found? root) =
        entries.filterMap fun entry => entry.found? root := by
    rw [List.filterMap_filter]
    refine List.filterMap_congr fun entry _ => ?_
    by_cases hstub : entry.IsStub
    · simp [hstub, hstub.found?_eq]
    · simp [hstub]
  have hsame : (entries'.filter fun entry => ¬entry.IsStub) =
      entries.filter fun entry => ¬entry.IsStub := by
    refine Walk.eq_of_mem_iff (hlists'.pairwise.filter _) (hlists.pairwise.filter _) fun entry => ?_
    simp only [List.mem_filter, decide_eq_true_eq]
    refine and_congr_left fun hstub => ⟨fun hentry => ?_, fun hentry => ?_⟩
    · exact (hmem entry hentry).resolve_right fun hnew => hstub hnew.1
    · exact hlists'.mem_iff.2 (h.comes hlinks (hlists.mem_iff.1 hentry))
  refine Walker.sourcesIn_eq_ok_iff.2 ⟨fun entry hentry => ?_, ?_⟩
  · rcases hmem entry hentry with hold | ⟨-, htext⟩
    · exact hall entry hold
    · exact WalkEntry.exists_source? fun _ => htext
  · rw [← hstubs entries', hsame, hstubs]

/-- A walk whose root is where it was finds the sources that it found. -/
theorem collect_eq (h : files.Sprouts other) (hlinks : files.LinkFree)
    (hwalker : walker.Traverses rules) (hrules : rules.FromRuleFiles)
    (hnames : rules.ApartFromStubs)
    (hroot : other.directoryAt? root = files.directoryAt? root)
    (hpaths : walker.collect files settings root = .ok paths) :
    walker.collect other settings root = .ok paths := by
  obtain ⟨base, hbase⟩ := Walker.exists_directoryAt? hpaths
  have hother := hroot.trans hbase
  cases hinput : Walk.isStandardInput root with
  | true =>
    rw [hwalker.collect_standardInput hbase hinput] at hpaths
    rw [hwalker.collect_standardInput hother hinput, hpaths]
  | false =>
    have hlinks' := h.linkFree hlinks
    obtain ⟨hreadable, entries, hlists, hentries⟩ :=
      hwalker.exists_lists hbase hinput (fun _ _ _ => hlinks _ _) hpaths
    obtain ⟨hunreadable, hpasses⟩ := hrules files other root h.workingDirectory hroot
      fun directory names hmem =>
        h.placeBelow_eq hlinks (hnames names hmem).1 (hnames names hmem).2 directory
    obtain ⟨entries', hentries', hlists'⟩ := hwalker.lists other settings.walkOptions root base
      hother hinput (hunreadable.trans hreadable) fun _ _ _ => hlinks' _ _
    have htakes : rules.takes other settings.walkOptions root =
        rules.takes files settings.walkOptions root := by
      funext entry
      rw [WalkRules.takes, WalkRules.takes, hpasses]
    have hdirectory : files.get? base = some .directory :=
      get?_of_resolve (directoryAt?_eq_some_iff.1 hbase)
    rw [Walker.collect_eq hother, hentries']
    exact h.sourcesIn_eq hlinks hdirectory hlists (htakes ▸ hlists') hentries

end FileSystem.Sprouts

end InterfaceStub
