import Mathlib.Data.List.Induction
import InterfaceStub.Proofs.LinkFree
import InterfaceStub.Proofs.StandardWalker

/-!
# Pruned walks

A walk leaves out what is below a directory with a skipped name.  What remains are the sources that
have no such directory above them, up to the root of the walk.

* `Path.extension?_join_iff` says which names are those of sources.
* `Walk.comes_iff`: in a tree of directories a walk comes to an entry if the entry and all
  directories above it are taken.  `exists_found` takes this to the sources that are collected.
* `Walk.IsReached` and `Walk.IsWanted` say which files a walk should come to and which of them it
  should give, without a walk, and `comes_iff_isReached` that it does, where no entry is hidden and
  no rule file has a say.
* `collect_wanted` is the result.  A root that stands for standard input is not walked, even where a
  directory has its name (`dashFiles`), and a file whose path is no text ends a walk.
-/

namespace InterfaceStub

open FileSystem

/-! ## Names and extensions -/

/-- A name that an entry of a directory can have. -/
def FileSystem.IsName : Name → Prop
  | .text name => name ≠ "" ∧ name ≠ "." ∧ name ≠ ".." ∧ '/' ∉ name.toList
  | .binary name _ => Text.slash ∉ name

instance (name : Name) : Decidable (FileSystem.IsName name) :=
  match name with
  | .text name => inferInstanceAs
      (Decidable (name ≠ "" ∧ name ≠ "." ∧ name ≠ ".." ∧ '/' ∉ name.toList))
  | .binary name _ => inferInstanceAs (Decidable (Text.slash ∉ name))

namespace Path

/-- The path of a directory, with a slash at its end. -/
def opened (directory : String) : String :=
  if directory.toList.getLast? = some '/' then directory else directory ++ "/"

theorem join_eq (directory name : String) : join directory name = opened directory ++ name := by
  rw [join, opened]
  split <;> rfl

theorem toList_opened (directory : String) :
    ∃ above, (opened directory).toList = above ++ ['/'] := by
  rw [opened]
  split
  · rename_i hslash
    exact List.getLast?_eq_some_iff.1 hslash
  · exact ⟨directory.toList, by simp⟩

theorem toList_join (directory name : String) :
    (join directory name).toList = (opened directory).toList ++ name.toList := by
  rw [join_eq, String.toList_append]

theorem fileName?_join {name : String} (directory : String) (hname : IsName name) :
    fileName? (join directory name) = some name := by
  obtain ⟨hempty, hstay, hup, hslash⟩ := hname
  simpa using fileName?_eq (toList_join directory name) hslash (.inr (toList_opened directory))
    (by simpa) (by simpa) (by simpa)

/-- A name is divided at its last dot, if something stands in front. -/
theorem splitExtension_append {stem ext : String} (hstem : stem ≠ "") (hext : '.' ∉ ext.toList) :
    splitExtension (stem ++ "." ++ ext) = (stem, some ext) := by
  have hreversed : (stem ++ "." ++ ext).toList.reverse =
      ext.toList.reverse ++ '.' :: stem.toList.reverse := by simp
  have hlast : (ext.toList.reverse ++ '.' :: stem.toList.reverse).takeWhile (· != '.') =
      ext.toList.reverse := by
    rw [List.takeWhile_append_of_pos]
    · simp
    · intro character hmem
      simpa using fun heq : character = '.' => hext (heq ▸ List.mem_reverse.1 hmem)
  rw [splitExtension, hreversed, hlast, List.drop_left]
  split
  · rename_i hnil
    cases hnil
  · rename_i hdot
    exact absurd (by simpa using hdot) hstem
  · rename_i dot rest hcons
    cases hcons
    simp

theorem eq_of_splitExtension {name ext : String} (h : (splitExtension name).2 = some ext) :
    (splitExtension name).1 ≠ "" ∧ name = (splitExtension name).1 ++ "." ++ ext := by
  have hsplit : name.toList.reverse.takeWhile (· != '.') ++
      name.toList.reverse.dropWhile (· != '.') = name.toList.reverse :=
    List.takeWhile_append_dropWhile
  have hdrop : name.toList.reverse.drop (name.toList.reverse.takeWhile (· != '.')).length =
      name.toList.reverse.dropWhile (· != '.') := by
    have hfront := List.prefix_iff_eq_append.1
      (List.takeWhile_prefix (l := name.toList.reverse) (· != '.'))
    exact List.append_cancel_left (hfront.trans hsplit.symm)
  have hfirst := List.head?_dropWhile_not (· != '.') name.toList.reverse
  rw [splitExtension, hdrop] at h ⊢
  split at h
  · cases h
  · cases h
  · rename_i dot rest hne hrest
    cases h
    rw [hrest] at hsplit hfirst
    obtain rfl : dot = '.' := by simpa using hfirst
    have hstem : rest ≠ [] := by
      rintro rfl
      exact hne rfl rfl
    refine ⟨by simpa using hstem, ?_⟩
    apply String.toList_injective
    simpa using congrArg List.reverse hsplit.symm

theorem append_sourceExtension (stem : String) :
    stem ++ "." ++ sourceExtension = stem ++ ".py" := by
  rw [String.append_assoc]
  rfl

/-- The names of sources. -/
theorem extension?_join_iff {name : String} (directory : String) (hname : IsName name) :
    extension? (join directory name) = some sourceExtension ↔
      ∃ stem, stem ≠ "" ∧ name = stem ++ ".py" := by
  have hdot : '.' ∉ sourceExtension.toList := by decide
  rw [extension?, fileName?_join directory hname]
  constructor
  · intro h
    obtain ⟨hstem, heq⟩ := eq_of_splitExtension h
    exact ⟨_, hstem, heq.trans (append_sourceExtension _)⟩
  · rintro ⟨stem, hstem, rfl⟩
    rw [← append_sourceExtension]
    exact congrArg Prod.snd (splitExtension_append hstem hdot)

end Path

/-! ## Directory trees -/

namespace FileSystem

variable {files : FileSystem} {here location place above : Location} {entry : Entry} {name : Name}

/-- What is above an entry is a directory, and all names can be names. -/
structure IsTree (files : FileSystem) : Prop where
  isName : ∀ location entry, files.get? location = some entry → ∀ name ∈ location, IsName name
  parent : ∀ location name entry, files.get? (location ++ [name]) = some entry →
    files.get? location = some .directory

theorem mem_entries_of_get? (h : files.get? location = some entry) :
    location <+: files.start ∨ (location, entry) ∈ files.entries := by
  by_cases habove : location <+: files.start
  · exact .inl habove
  · rw [get?_eq_lookup habove] at h
    obtain ⟨before, after, hentries, -⟩ := List.lookup_eq_some_iff.1 h
    exact .inr (by simp [hentries])

theorem mem_entries_of_file {content : Content} (h : files.get? location = some (.file content)) :
    (location, .file content) ∈ files.entries :=
  (mem_entries_of_get? h).resolve_left (not_prefix_start (by simp [h]))

theorem isTree_of_forall_mem (hstart : ∀ name ∈ files.start, IsName name)
    (hnames : ∀ entry ∈ files.entries, ∀ name ∈ entry.1, IsName name)
    (hparent : ∀ entry ∈ files.entries, files.get? entry.1.dropLast = some .directory) :
    files.IsTree := by
  constructor
  · intro location entry hentry name hname
    obtain habove | hmem := mem_entries_of_get? hentry
    · exact hstart name (habove.subset hname)
    · exact hnames _ hmem name hname
  · intro location name entry hentry
    obtain habove | hmem := mem_entries_of_get? hentry
    · exact get?_above_start ((List.prefix_append _ _).trans habove)
    · simpa using hparent _ hmem

theorem IsTree.rooted (h : files.IsTree) (hget : files.get? (here ++ [name]) = some entry) :
    files.Rooted here := by
  have hparent := h.parent _ _ _ hget
  induction here using List.reverseRecOn generalizing name entry with
  | nil => exact rooted_nil
  | append_singleton above last ih => exact (ih hparent (h.parent _ _ _ hparent)).append hparent

/-- What stands between a directory and an entry below it is a directory. -/
theorem IsTree.get?_above (h : files.IsTree) (hget : files.get? (here ++ place) = some entry)
    (habove : above <+: place) (hne : above ≠ place) :
    files.get? (here ++ above) = some .directory := by
  obtain rfl | ⟨between, last, rfl⟩ := List.eq_nil_or_concat' place
  · exact absurd (List.prefix_nil.1 habove) hne
  · rw [← List.append_assoc] at hget
    have habove' := (List.prefix_concat_iff.1 habove).resolve_left hne
    exact h.rooted hget _ ((List.prefix_append_right_inj here).2 habove')

end FileSystem

/-! ## What a walk comes to -/

namespace Walk

variable {files : FileSystem} {taken : WalkEntry → Bool} {base place : Location} {entry : WalkEntry}

theorem Comes.taken_above (h : Comes files taken base place entry) :
    taken entry = true ∧ ∀ above, above <+: entry.place → above ≠ entry.place → place <+: above →
      taken ⟨above, .directory⟩ = true := by
  induction h with
  | here _ htaken =>
    refine ⟨htaken, fun above habove hne hplace => ?_⟩
    exact absurd (habove.eq_of_length_le hplace.length_le) hne
  | @down place name entry _ htaken hinside ih =>
    refine ⟨ih.1, fun above habove hne hplace => ?_⟩
    by_cases heq : above = place
    · rwa [heq]
    · refine ih.2 above habove hne (List.prefix_of_prefix_length_le hinside.isPrefix habove ?_)
      have hlength := hplace.length_le
      have hne' := mt hplace.eq_of_length (Ne.symm heq)
      rw [List.length_append, List.length_singleton]
      omega

/-- In a tree a walk comes to an entry that is taken, if all directories above it are. -/
theorem comes_iff (htree : files.IsTree) :
    Comes files taken base [] entry ↔
      files.kindAt? (base ++ entry.place) = some entry.kind ∧ taken entry = true ∧
        ∀ above, above <+: entry.place → above ≠ entry.place →
          taken ⟨above, .directory⟩ = true := by
  constructor
  · intro h
    obtain ⟨htaken, habove⟩ := h.taken_above
    exact ⟨h.kind_eq, htaken, fun above hprefix hne => habove above hprefix hne List.nil_prefix⟩
  · rintro ⟨hkind, htaken, habove⟩
    -- The induction is on the names that are left on the way to the entry.
    have hcomes (place rest : Location) (hplace : entry.place = place ++ rest) :
        Comes files taken base place entry := by
      induction rest generalizing place with
      | nil =>
        rw [List.append_nil] at hplace
        cases entry
        cases hplace
        exact .here hkind htaken
      | cons name rest ih =>
        have hprefix : place <+: entry.place := ⟨_, hplace.symm⟩
        have hne : place ≠ entry.place := by simp [hplace]
        obtain ⟨found, hfound, -⟩ := Option.map_eq_some_iff.1 hkind
        have hdirectory : files.kindAt? (base ++ place) = some .directory := by
          rw [kindAt?, htree.get?_above hfound hprefix hne]
          rfl
        exact .down hdirectory (habove place hprefix hne) (ih (place ++ [name]) (by simp [hplace]))
    exact hcomes [] entry.place rfl

end Walk

/-! ## The sources of a walk -/

/-- The names of sources, as places. -/
theorem Path.extension?_descend_iff {names : List String} (root : String) (hne : names ≠ [])
    (hnames : ∀ name ∈ names, IsName name) :
    extension? (descend root names) = some sourceExtension ↔
      ∃ stem, stem ≠ "" ∧ names.getLast? = some (stem ++ ".py") := by
  obtain ⟨above, name, rfl⟩ := (List.eq_nil_or_concat' names).resolve_left hne
  have hname : IsName name := hnames name (by simp)
  rw [descend_concat, extension?_join_iff _ hname]
  simp

namespace WalkEntry

variable {entry : WalkEntry} {root : String} {names : List String}

/-- The names on the way to an entry that is a source. -/
def sourceNames? (entry : WalkEntry) (root : String) : Option (List String) :=
  (entry.found? root).map fun _ => entry.place.filterMap RawText.text?

theorem filterMap_text? (names : List String) :
    (names.map RawText.text).filterMap RawText.text? = names := by
  rw [List.filterMap_map]
  exact List.filterMap_some

theorem sourceNames?_eq_some_iff :
    entry.sourceNames? root = some names ↔ entry = ⟨names.map .text, .file⟩ ∧
      Path.extension? (Path.descend root names) = some Path.sourceExtension := by
  rw [sourceNames?, Option.map_eq_some_iff]
  constructor
  · rintro ⟨path, hfound, hnames⟩
    obtain ⟨hkind, hsource, found, hplace, rfl⟩ := found?_eq_some_iff.1 hfound
    rw [hplace, filterMap_text?] at hnames
    subst hnames
    exact ⟨by rw [← hplace, ← hkind], hsource⟩
  · rintro ⟨rfl, hsource⟩
    exact ⟨_, found?_eq_some_iff.2 ⟨rfl, hsource, names, rfl, rfl⟩, filterMap_text? names⟩

theorem found?_eq_map : entry.found? root = (entry.sourceNames? root).map (Path.descend root) := by
  cases hfound : entry.found? root with
  | none => rw [sourceNames?, hfound]; rfl
  | some path =>
    obtain ⟨hkind, hsource, names, hplace, rfl⟩ := found?_eq_some_iff.1 hfound
    rw [sourceNames?_eq_some_iff.2 ⟨by rw [← hplace, ← hkind], hsource⟩, Option.map_some]

end WalkEntry

section

variable {files : FileSystem} {taken : WalkEntry → Bool} {base : Location} {root : String}
  {entries : List WalkEntry} {paths : List String}

theorem nodup_of_bytes_lt {found : List (List String)}
    (h : found.Pairwise fun first second => first.map Text.bytes < second.map Text.bytes) :
    found.Nodup :=
  h.imp fun {first second} hlt (heq : first = second) => List.lt_irrefl _ (heq ▸ hlt)

/-- The sources among what a walk comes to are known by their names, in increasing order. -/
theorem exists_found (htree : files.IsTree) (hbase : files.get? base = some .directory)
    (hlists : Walk.Lists files taken base [] entries)
    (hpaths : Walker.sourcesIn root (entries.map .ok) = .ok paths) :
    ∃ found : List (List String),
      (∀ names, names ∈ found ↔ Walk.Comes files taken base [] ⟨names.map .text, .file⟩ ∧
        ∃ stem, stem ≠ "" ∧ names.getLast? = some (stem ++ ".py")) ∧
      found.Pairwise (fun first second => first.map Text.bytes < second.map Text.bytes) ∧
      paths = found.map (Path.descend root) := by
  obtain ⟨-, rfl⟩ := Walker.sourcesIn_eq_ok_iff.1 hpaths
  have hsource {names : List String}
      (hcomes : Walk.Comes files taken base [] ⟨names.map .text, .file⟩) :
      Path.extension? (Path.descend root names) = some Path.sourceExtension ↔
        ∃ stem, stem ≠ "" ∧ names.getLast? = some (stem ++ ".py") := by
    obtain ⟨content, hfile⟩ := kindAt?_eq_file_iff.1 hcomes.kind_eq
    refine Path.extension?_descend_iff root ?_ fun name hname => ?_
    · rintro rfl
      simp [hbase] at hfile
    · exact htree.isName _ _ hfile _ (by simp [hname])
  refine ⟨entries.filterMap fun entry => entry.sourceNames? root, fun names => ?_,
    List.pairwise_filterMap.2 (hlists.pairwise.imp ?_), ?_⟩
  · rw [List.mem_filterMap]
    constructor
    · rintro ⟨entry, hentry, hnames⟩
      obtain ⟨rfl, hextension⟩ := WalkEntry.sourceNames?_eq_some_iff.1 hnames
      have hcomes := hlists.mem_iff.1 hentry
      exact ⟨hcomes, (hsource hcomes).1 hextension⟩
    · rintro ⟨hcomes, hstem⟩
      exact ⟨_, hlists.mem_iff.2 hcomes,
        WalkEntry.sourceNames?_eq_some_iff.2 ⟨rfl, (hsource hcomes).2 hstem⟩⟩
  · intro first second hlt names hnames others hothers
    obtain ⟨rfl, -⟩ := WalkEntry.sourceNames?_eq_some_iff.1 hnames
    obtain ⟨rfl, -⟩ := WalkEntry.sourceNames?_eq_some_iff.1 hothers
    rwa [Walk.Precedes, List.map_map, List.map_map] at hlt
  · rw [List.map_filterMap]
    exact List.filterMap_congr fun entry _ => WalkEntry.found?_eq_map

end

/-! ## Without hidden entries, rule files and links -/

/-- No entry below a directory is hidden or a link. -/
structure FileSystem.PlainBelow (files : FileSystem) (directory : Location) : Prop where
  visible : ∀ place name entry, files.get? (directory ++ (place ++ [name])) = some entry →
    name.isDotted = false
  linkless : ∀ place target, files.get? (directory ++ place) ≠ some (.link target)

namespace Walk

/-- A file below a directory, with no skipped directory between them. -/
structure IsReached (files : FileSystem) (settings : ScanSettings) (base place : Location) :
    Prop where
  file : ∃ content, files.get? (base ++ place) = some (.file content)
  above : ∀ name, .text name ∈ place.dropLast → settings.isSkippedName name = false

/-- A source below a directory, with no skipped directory between them. -/
structure IsWanted (files : FileSystem) (settings : ScanSettings) (base : Location)
    (names : List String) : Prop extends IsReached files settings base (names.map .text) where
  source : ∃ stem, stem ≠ "" ∧ names.getLast? = some (stem ++ ".py")

variable {files : FileSystem} {settings : ScanSettings} {base place : Location} {rules : WalkRules}
  {root : String}

/-- All directories above a place are accepted if none of them has a skipped name. -/
theorem accepts_above_iff :
    (∀ above, above <+: place → above ≠ place → settings.accepts ⟨above, .directory⟩ = true) ↔
      ∀ name, .text name ∈ place.dropLast → settings.isSkippedName name = false := by
  obtain rfl | ⟨between, last, rfl⟩ := List.eq_nil_or_concat' place
  · exact iff_of_true (fun above habove hne => absurd (List.prefix_nil.1 habove) hne) (by simp)
  · rw [List.dropLast_concat]
    constructor
    · intro h name hname
      obtain ⟨before, after, rfl⟩ := List.append_of_mem hname
      have haccepts := h (before ++ [.text name]) ⟨after ++ [last], by simp⟩ (by simp)
      simpa [ScanSettings.accepts, RawText.text?] using haccepts
    · intro h above habove hne
      obtain rfl | ⟨before, name, rfl⟩ := List.eq_nil_or_concat' above
      · rfl
      · cases name with
        | binary => simp [ScanSettings.accepts, RawText.text?]
        | text name =>
          have hbetween := (List.prefix_concat_iff.1 habove).resolve_left hne
          have hname := h name (hbetween.subset (by simp))
          simp [ScanSettings.accepts, RawText.text?, hname]

section

variable (hhides : rules.HidesDots) (hroot : files.directoryAt? root = some base)
  (hplain : files.PlainBelow base) (habsent : rules.Absent files base)
include hhides hroot hplain habsent

/-- Where nothing is hidden and no rule file has a say, entries are taken as they are accepted. -/
theorem takes_eq {entry : WalkEntry} {found : Entry}
    (hentry : files.get? (base ++ entry.place) = some found) :
    rules.takes files settings.walkOptions root entry = settings.accepts entry := by
  have hpassed : rules.passesOver files root entry = false := by
    refine Bool.eq_false_iff.2 fun hpassed => ?_
    obtain ⟨name, hlast, hdotted⟩ := (hhides files root base hroot habsent).2 entry hpassed
    obtain ⟨before, hplace⟩ := List.getLast?_eq_some_iff.1 hlast
    rw [hplace] at hentry
    rw [hplain.visible before name found hentry] at hdotted
    cases hdotted
  rw [WalkRules.takes, hpassed, Bool.not_false, Bool.and_true]
  refine Bool.or_eq_right_iff_imp.2 fun hempty => ?_
  simp [ScanSettings.walkOptions, ScanSettings.accepts, hempty]

/-- A walk comes to the files below its root that no skipped directory is above. -/
theorem comes_iff_isReached (htree : files.IsTree) :
    Comes files (rules.takes files settings.walkOptions root) base [] ⟨place, .file⟩ ↔
      IsReached files settings base place := by
  rw [comes_iff htree, kindAt?_eq_file_iff]
  have htakes {entry : WalkEntry} {found : Entry} :=
    @takes_eq files settings base rules root hhides hroot hplain habsent entry found
  constructor
  · rintro ⟨⟨content, hfile⟩, -, habove⟩
    refine ⟨⟨content, hfile⟩, accepts_above_iff.1 fun above hprefix hne => ?_⟩
    rw [← htakes (htree.get?_above hfile hprefix hne)]
    exact habove above hprefix hne
  · rintro ⟨⟨content, hfile⟩, habove⟩
    refine ⟨⟨content, hfile⟩, ?_, fun above hprefix hne => ?_⟩
    · rw [htakes hfile]
      simp [ScanSettings.accepts]
    · rw [htakes (htree.get?_above hfile hprefix hne)]
      exact accepts_above_iff.2 habove above hprefix hne

end

end Walk

/-! ## Collected sources -/

section

variable {walker : Walker} {rules : WalkRules} {files : FileSystem} {root : String}
  {base : Location} (hwalker : walker.Traverses rules) (hhides : rules.HidesDots)
  (settings : ScanSettings) (hroot : files.directoryAt? root = some base) (htree : files.IsTree)
  (hplain : files.PlainBelow base) (habsent : rules.Absent files base)
  (hinput : Walk.isStandardInput root = false)
include hwalker hhides hroot htree hplain habsent hinput

/-- A walk lists the files that it should come to. -/
theorem exists_reached :
    ∃ entries, walker.collect files settings root = Walker.sourcesIn root (entries.map .ok) ∧
      Walk.Lists files (rules.takes files settings.walkOptions root) base [] entries ∧
      ∀ place, ⟨place, .file⟩ ∈ entries ↔ Walk.IsReached files settings base place := by
  have hreadable := (hhides files root base hroot habsent).1
  obtain ⟨entries, hentries, hlists⟩ := hwalker.lists files settings.walkOptions root base hroot
    hinput hreadable fun _ => hplain.linkless
  refine ⟨entries, by rw [Walker.collect_eq hroot, hentries], hlists, fun place => ?_⟩
  rw [hlists.mem_iff, Walk.comes_iff_isReached hhides hroot hplain habsent htree]

/-- The sources are found if the paths of all files that the walk comes to are texts. -/
theorem collect_of_isText
    (htext : ∀ place, Walk.IsReached files settings base place → IsText place) :
    ∃ found : List (List String),
      (∀ names, names ∈ found ↔ Walk.IsWanted files settings base names) ∧
      found.Pairwise (fun first second => first.map Text.bytes < second.map Text.bytes) ∧
      walker.collect files settings root = .ok (found.map (Path.descend root)) := by
  obtain ⟨entries, hcollect, hlists, hreached⟩ :=
    exists_reached hwalker hhides settings hroot htree hplain habsent hinput
  have hok (entry : WalkEntry) (hentry : entry ∈ entries) :
      ∃ source?, entry.source? root = .ok source? :=
    entry.exists_source? fun hkind => htext _ ((hreached _).1 (hkind ▸ hentry))
  have hpaths := Walker.sourcesIn_eq_ok_iff.2 ⟨hok, rfl⟩
  have hbase : files.get? base = some .directory :=
    get?_of_resolve (directoryAt?_eq_some_iff.1 hroot)
  obtain ⟨found, hfound, hsorted, heq⟩ := exists_found htree hbase hlists hpaths
  refine ⟨found, fun names => ?_, hsorted, by rw [hcollect, hpaths, heq]⟩
  rw [hfound, ← hlists.mem_iff, hreached]
  exact ⟨fun h => ⟨h.1, h.2⟩, fun h => ⟨h.1, h.2⟩⟩

/-- The first file whose path is no text ends the walk. -/
theorem collect_of_not_isText {place : Location}
    (hplace : Walk.IsReached files settings base place) (htext : ¬IsText place) :
    ∃ first, Walk.IsReached files settings base first ∧ ¬IsText first ∧
      (∀ other, Walk.IsReached files settings base other → ¬IsText other →
        ¬Walk.Precedes other first) ∧
      walker.collect files settings root =
        .error (.notUnicode (Path.bytesBelow (Text.bytes root) first)) := by
  obtain ⟨entries, hcollect, hlists, hreached⟩ :=
    exists_reached hwalker hhides settings hroot htree hplain habsent hinput
  have herror (place : Location) (htext : ¬IsText place) :
      (WalkEntry.mk place .file).source? root =
        .error (.notUnicode (Path.bytesBelow (Text.bytes root) place)) :=
    WalkEntry.source?_eq_error_iff.2 ⟨rfl, htext, rfl⟩
  obtain ⟨before, first, after, cause, hentries, hbefore, hfirst, hsources⟩ :=
    Walker.exists_sourcesIn_eq_error ((hreached place).2 hplace) (herror place htext)
  obtain ⟨hkind, hnot, rfl⟩ := WalkEntry.source?_eq_error_iff.1 hfirst
  have hmem : first ∈ entries := by simp [hentries]
  refine ⟨first.place, (hreached _).1 (hkind ▸ hmem), hnot, fun other hother hnot' hlt => ?_,
    hcollect.trans hsources⟩
  -- A file before the first one in the order is before it in the list, where all paths are texts.
  have hsorted := hlists.pairwise
  rw [hentries, List.pairwise_append, List.pairwise_cons] at hsorted
  have hmem' := (hreached other).2 hother
  rw [hentries, List.mem_append, List.mem_cons] at hmem'
  obtain hearlier | rfl | hlater := hmem'
  · obtain ⟨source?, hok⟩ := hbefore _ hearlier
    rw [herror other hnot'] at hok
    cases hok
  · exact Walk.Precedes.not_self _ hlt
  · exact List.lt_asymm hlt (hsorted.2.1.1 _ hlater)

end

/-- A walk gives the sources below its root that have no skipped directory between them and the
root, each once and in the order of the bytes of their names, if the paths of all files that have no
skipped directory above them are texts.  Here no entry below the root is hidden or a link, and there
is no rule file.  But a root that stands for standard input is not walked, and else the first file
whose path is no text ends the walk. -/
theorem collect_wanted {walker : Walker} {rules : WalkRules} {files : FileSystem} {root : String}
    {base : Location} (hwalker : walker.Traverses rules) (hhides : rules.HidesDots)
    (settings : ScanSettings) (hroot : files.directoryAt? root = some base) (htree : files.IsTree)
    (hplain : files.PlainBelow base) (habsent : rules.Absent files base) :
    (Walk.isStandardInput root = true → walker.collect files settings root = .ok []) ∧
    (Walk.isStandardInput root = false →
      (∀ place, Walk.IsReached files settings base place → IsText place) →
      ∃ found : List (List String),
        (∀ names, names ∈ found ↔ Walk.IsWanted files settings base names) ∧
        found.Pairwise (fun first second => first.map Text.bytes < second.map Text.bytes) ∧
        walker.collect files settings root = .ok (found.map (Path.descend root))) ∧
    (Walk.isStandardInput root = false →
      (∃ place, Walk.IsReached files settings base place ∧ ¬IsText place) →
      ∃ first, Walk.IsReached files settings base first ∧ ¬IsText first ∧
        (∀ other, Walk.IsReached files settings base other → ¬IsText other →
          ¬Walk.Precedes other first) ∧
        walker.collect files settings root =
          .error (.notUnicode (Path.bytesBelow (Text.bytes root) first))) := by
  refine ⟨fun hinput => hwalker.collect_standardInput hroot hinput, fun hinput htext => ?_, ?_⟩
  · exact collect_of_isText hwalker hhides settings hroot htree hplain habsent hinput htext
  · rintro hinput ⟨place, hplace, hnot⟩
    exact collect_of_not_isText hwalker hhides settings hroot htree hplain habsent hinput hplace
      hnot

namespace FileSystem

variable {files : FileSystem}

/-- No name starts with a dot. -/
def NoDots (files : FileSystem) : Prop :=
  ∀ location entry, files.get? location = some entry → ∀ name ∈ location, name.isDotted = false

theorem noDots_of_forall_mem (hstart : ∀ name ∈ files.start, name.isDotted = false)
    (h : ∀ entry ∈ files.entries, ∀ name ∈ entry.1, name.isDotted = false) : files.NoDots := by
  intro location entry hentry name hname
  obtain habove | hmem := mem_entries_of_get? hentry
  · exact hstart name (habove.subset hname)
  · exact h _ hmem name hname

theorem NoDots.plainBelow (h : files.NoDots) (hlinks : files.LinkFree) (directory : Location) :
    files.PlainBelow directory :=
  ⟨fun _ name _ hentry => h _ _ hentry name (by simp), fun _ target => hlinks _ target⟩

/-- The names of all rule files start with dots. -/
theorem NoDots.absent (h : files.NoDots) (base : Location) :
    WalkRules.standard.Absent files base := by
  intro directory _ ruleFile hruleFile location content hfound
  obtain ⟨name, rest, rfl, hdotted⟩ :
      ∃ name rest, ruleFile = name :: rest ∧ name.isDotted = true := by
    simp only [WalkRules.standard, List.mem_cons, List.not_mem_nil, or_false] at hruleFile
    rcases hruleFile with rfl | rfl | rfl <;> exact ⟨_, _, rfl, by decide +kernel⟩
  have hnone : files.get? (directory ++ [name]) = none := by
    refine Option.eq_none_iff_forall_ne_some.2 fun entry hentry => ?_
    rw [h _ _ hentry name (by simp)] at hdotted
    cases hdotted
  rw [placeBelow, List.map_cons] at hfound
  by_cases hdirectory : files.get? directory = some .directory
  · rw [follow_vacant hdirectory hnone] at hfound
    split at hfound <;> cases hfound
  · rw [follow_of_ne hdirectory] at hfound
    cases hfound

end FileSystem

/-- A directory named like standard input, with sources in and below it, and a directory with a file
whose name is no text. -/
def dashFiles : FileSystem where
  entries := [(["srv", "-"], .directory), (["srv", "-", "venv"], .directory),
    (["srv", "-", "venv", "a.py"], .file (.text "")), (["srv", "-", "venv.py"], .file (.text "")),
    (["srv", "-", "b.txt"], .file (.text "")), (["srv", "raw"], .directory),
    (["srv", "raw", "a.py"], .file (.text "")), (["srv", "raw", .ofBytes [255]], .file (.text ""))]
  workingDirectory := ["srv"]

theorem directoryAt?_dashFiles :
    dashFiles.directoryAt? "-" = some [.text "srv", .text "-"] ∧
      dashFiles.directoryAt? "/srv/-" = some [.text "srv", .text "-"] ∧
      dashFiles.directoryAt? "raw" = some [.text "srv", .text "raw"] := by
  have hname {path : String} {name : Name} (hsteps : stepsOf path = .ok [.name name])
      (hdirectory : dashFiles.get? (dashFiles.start ++ [name]) = some .directory) :
      dashFiles.resolve path = .ok (.found (dashFiles.start ++ [name]) .directory) := by
    rw [resolve_eq_of_stepsOf hsteps, follow_entry (get?_start dashFiles) hdirectory (by simp),
      follow, hdirectory]
  have hdash : stepsOf "-" = .ok [.name "-"] := by decide +kernel
  have habsolute : stepsOf "/srv/-" = .ok (.top :: (dashFiles.start.map .name ++ [.name "-"])) := by
    decide +kernel
  have hraw : stepsOf "raw" = .ok [.name "raw"] := by decide +kernel
  simp only [directoryAt?_eq_some_iff, resolve_absolute habsolute hdash]
  exact ⟨hname hdash (by decide +kernel), hname hdash (by decide +kernel),
    hname hraw (by decide +kernel)⟩

theorem found_eq_singleton {found : List (List String)} {names : List String}
    (hsorted : found.Pairwise fun first second => first.map Text.bytes < second.map Text.bytes)
    (h : ∀ other, other ∈ found ↔ other = names) : found = [names] := by
  have hnodup := nodup_of_bytes_lt hsorted
  refine List.perm_singleton.1 ((List.perm_ext_iff_of_nodup hnodup (List.nodup_singleton _)).2 ?_)
  simpa using h

theorem reached_dashFiles {place : Location}
    (h : Walk.IsReached dashFiles {} [.text "srv", .text "-"] place) :
    place = [.text "venv.py"] ∨ place = [.text "b.txt"] := by
  obtain ⟨content, hfile⟩ := h.file
  have hmem : place = [.text "venv", .text "a.py"] ∧ content = .text "" ∨
      place = [.text "venv.py"] ∧ content = .text "" ∨
      place = [.text "b.txt"] ∧ content = .text "" := by
    simpa [dashFiles] using mem_entries_of_file hfile
  obtain ⟨rfl, -⟩ | ⟨rfl, -⟩ | ⟨rfl, -⟩ := hmem
  · have hskipped := h.above "venv" (by simp)
    exact absurd hskipped (by decide +kernel)
  · exact .inl rfl
  · exact .inr rfl

theorem reached_dashFiles_raw {place : Location}
    (h : Walk.IsReached dashFiles {} [.text "srv", .text "raw"] place) :
    place = [.text "a.py"] ∨ place = [.ofBytes [255]] := by
  obtain ⟨content, hfile⟩ := h.file
  have hmem : place = [.text "a.py"] ∧ content = .text "" ∨
      place = [.ofBytes [255]] ∧ content = .text "" := by
    simpa [dashFiles] using mem_entries_of_file hfile
  exact hmem.imp And.left And.left

theorem isWanted_dashFiles {names : List String} :
    Walk.IsWanted dashFiles {} [.text "srv", .text "-"] names ↔ names = ["venv.py"] := by
  constructor
  · intro h
    obtain heq | heq := reached_dashFiles h.toIsReached
    · obtain ⟨name, rfl, hname⟩ := List.map_eq_singleton_iff.1 heq
      cases hname
      rfl
    · obtain ⟨name, rfl, hname⟩ := List.map_eq_singleton_iff.1 heq
      cases hname
      obtain ⟨stem, -, hlast⟩ := h.source
      have hend := congrArg (fun name => name.toList.getLast?) (Option.some.inj hlast)
      simp at hend
  · rintro rfl
    exact ⟨⟨⟨_, rfl⟩, by simp⟩, "venv", by decide, by decide⟩

theorem not_isText_dashFiles_raw : ¬IsText [RawText.ofBytes [255]] := by
  intro htext
  obtain ⟨text, heq⟩ := htext _ List.mem_cons_self
  have hnone : (RawText.ofBytes [255]).text? = none := by decide +kernel
  rw [heq] at hnone
  cases hnone

/-- The walk of the directory finds its source under one path, and nothing under the other.  The
file whose name is no text ends the walk of the other directory. -/
theorem dashFiles_walk :
    dashFiles.IsTree ∧ dashFiles.NoDots ∧ dashFiles.LinkFree ∧
      Walker.standard.collect dashFiles {} "-" = .ok [] ∧
      Walker.standard.collect dashFiles {} "/srv/-" = .ok ["/srv/-/venv.py"] ∧
      Walker.standard.collect dashFiles {} "raw" =
        .error (.notUnicode (Text.bytes "raw/" ++ [255])) := by
  have htree : dashFiles.IsTree :=
    isTree_of_forall_mem (by decide +kernel) (by decide +kernel) (by decide +kernel)
  have hlinks : dashFiles.LinkFree := linkFree_of_forall_mem (by simp [dashFiles])
  have hdots : dashFiles.NoDots := noDots_of_forall_mem (by decide +kernel) (by decide +kernel)
  obtain ⟨hdash, habsolute, hraw⟩ := directoryAt?_dashFiles
  have hwalk {root : String} {base : Location} (hroot : dashFiles.directoryAt? root = some base) :=
    collect_wanted traverses_standard hidesDots_standard {} hroot htree
      (hdots.plainBelow hlinks base) (hdots.absent base)
  refine ⟨htree, hdots, hlinks, (hwalk hdash).1 (by decide +kernel), ?_, ?_⟩
  · have htext (place : Location)
        (hplace : Walk.IsReached dashFiles {} [.text "srv", .text "-"] place) : IsText place := by
      obtain rfl | rfl := reached_dashFiles hplace <;> simp [IsText]
    obtain ⟨found, hfound, hsorted, hcollect⟩ := (hwalk habsolute).2.1 (by decide +kernel) htext
    have hwanted (names : List String) := (hfound names).trans isWanted_dashFiles
    rw [hcollect, found_eq_singleton hsorted hwanted]
    decide +kernel
  · have hreached : Walk.IsReached dashFiles {} [.text "srv", .text "raw"] [.ofBytes [255]] :=
      ⟨⟨.text "", by decide +kernel⟩, by simp⟩
    obtain ⟨first, hfirst, hnot, -, hcollect⟩ :=
      (hwalk hraw).2.2 (by decide +kernel) ⟨_, hreached, not_isText_dashFiles_raw⟩
    obtain rfl | rfl := reached_dashFiles_raw hfirst
    · exact absurd (by simp [IsText]) hnot
    · rw [hcollect]
      decide +kernel

end InterfaceStub
