import Mathlib.Data.List.Sort
import InterfaceStub.Conversion.Sources
import InterfaceStub.Proofs.LinkFree

/-!
# What is relied on of a walker

A conversion is given its walker.  What the results about walks rely on is stated here as laws of
that walker, each of them a part of how it is documented to behave.

* `Walker.Traverses`: where no link is followed, a directory comes before what is in it, what is in
  it comes in the order of the bytes of the names, and nothing below an entry that is not taken is
  read.  `Walk.Lists` is this traversal as a relation.
* `WalkRules.FromRuleFiles`: whether an entry is passed over is written in certain files alone.
* `WalkRules.HidesDots`: where there are no such files, only entries whose names start with a dot
  are passed over.

Of a traversal two things are needed: what it comes to (`Lists.mem_iff`), and that this is in
increasing order (`Lists.pairwise`).
-/

namespace InterfaceStub

open FileSystem

/-! ## Traversals -/

/-- What stands at a location, to a walk that follows no links. -/
def FileSystem.kindAt? (files : FileSystem) (location : Location) : Option EntryKind :=
  (files.get? location).map fun
    | .file _ => .file
    | .directory => .directory
    | .link _ => .other

theorem FileSystem.kindAt?_eq_file_iff {files : FileSystem} {location : Location} :
    files.kindAt? location = some .file ↔
      ∃ content, files.get? location = some (.file content) := by
  rw [kindAt?]
  rcases files.get? location with _ | (_ | _ | _) <;> simp

namespace Walk

/-- The entries of a walk from a place below its root on.  `taken` says which entries are taken. -/
inductive Lists (files : FileSystem) (taken : WalkEntry → Bool) (base : Location) :
    Location → List WalkEntry → Prop
  | refused {place : Location} {kind : EntryKind}
    (hkind : files.kindAt? (base ++ place) = some kind) (htaken : taken ⟨place, kind⟩ = false) :
    Lists files taken base place []
  | leaf {place : Location} {kind : EntryKind} (hkind : files.kindAt? (base ++ place) = some kind)
    (htaken : taken ⟨place, kind⟩ = true) (hleaf : kind ≠ .directory) :
    Lists files taken base place [⟨place, kind⟩]
  | directory {place : Location} {names : List Name} {inside : Name → List WalkEntry}
    (hkind : files.kindAt? (base ++ place) = some .directory)
    (htaken : taken ⟨place, .directory⟩ = true)
    (hnames : ∀ name, name ∈ names ↔ (files.get? (base ++ (place ++ [name]))).isSome)
    (hsorted : names.Pairwise fun first second => first.bytes < second.bytes)
    (hinside : ∀ name ∈ names, Lists files taken base (place ++ [name]) (inside name)) :
    Lists files taken base place (⟨place, .directory⟩ :: names.flatMap inside)

/-- A walk comes from a place to an entry: all directories on the way are taken, and the entry. -/
inductive Comes (files : FileSystem) (taken : WalkEntry → Bool) (base : Location) :
    Location → WalkEntry → Prop
  | here {place : Location} {kind : EntryKind} (hkind : files.kindAt? (base ++ place) = some kind)
    (htaken : taken ⟨place, kind⟩ = true) : Comes files taken base place ⟨place, kind⟩
  | down {place : Location} {name : Name} {entry : WalkEntry}
    (hkind : files.kindAt? (base ++ place) = some .directory)
    (htaken : taken ⟨place, .directory⟩ = true)
    (hinside : Comes files taken base (place ++ [name]) entry) : Comes files taken base place entry

variable {files : FileSystem} {taken : WalkEntry → Bool} {base place : Location}
  {entry : WalkEntry} {entries : List WalkEntry}

theorem Comes.exists_kind (h : Comes files taken base place entry) :
    ∃ kind, files.kindAt? (base ++ place) = some kind ∧ taken ⟨place, kind⟩ = true := by
  cases h with
  | here hkind htaken => exact ⟨_, hkind, htaken⟩
  | down hkind htaken => exact ⟨_, hkind, htaken⟩

theorem Comes.isPrefix (h : Comes files taken base place entry) : place <+: entry.place := by
  induction h with
  | here => exact List.prefix_refl _
  | down _ _ _ ih => exact (List.prefix_append _ _).trans ih

theorem Comes.kind_eq (h : Comes files taken base place entry) :
    files.kindAt? (base ++ entry.place) = some entry.kind := by
  induction h with
  | here hkind => exact hkind
  | down _ _ _ ih => exact ih

/-- The entries of a walk are those it comes to. -/
theorem Lists.mem_iff (h : Lists files taken base place entries) :
    entry ∈ entries ↔ Comes files taken base place entry := by
  induction h with
  | refused hkind htaken =>
    refine iff_of_false List.not_mem_nil fun hcomes => ?_
    obtain ⟨kind, hkind', htaken'⟩ := hcomes.exists_kind
    cases hkind.symm.trans hkind'
    simp [htaken] at htaken'
  | leaf hkind htaken hleaf =>
    rw [List.mem_singleton]
    constructor
    · rintro rfl
      exact .here hkind htaken
    · intro hcomes
      cases hcomes with
      | here hkind' =>
        cases hkind.symm.trans hkind'
        rfl
      | down hkind' => exact absurd (Option.some.inj (hkind.symm.trans hkind')) hleaf
  | @directory place names inside hkind htaken hnames _ _ ih =>
    rw [List.mem_cons, List.mem_flatMap]
    constructor
    · rintro (rfl | ⟨name, hname, hentry⟩)
      · exact .here hkind htaken
      · exact .down hkind htaken ((ih name hname).1 hentry)
    · intro hcomes
      cases hcomes with
      | here hkind' =>
        cases hkind.symm.trans hkind'
        exact .inl rfl
      | @down _ name _ _ _ hinside =>
        obtain ⟨kind, hkind', -⟩ := hinside.exists_kind
        have hname : name ∈ names := by
          rw [hnames, Option.isSome_iff_ne_none]
          intro hnone
          simp [kindAt?, hnone] at hkind'
        exact .inr ⟨name, hname, (ih name hname).2 hinside⟩

/-- One place comes before another in the order of the bytes of names. -/
def Precedes (first second : Location) : Prop :=
  first.map RawText.bytes < second.map RawText.bytes

theorem precedes_of_lt {first second : Name} {rest others : Location} (place : Location)
    (h : first.bytes < second.bytes) :
    Precedes (place ++ first :: rest) (place ++ second :: others) := by
  rw [Precedes, List.map_append, List.map_append]
  exact List.append_left_lt (List.cons_lt_cons_iff.2 (.inl h))

theorem precedes_append {name : Name} {rest : Location} (place : Location) :
    Precedes place (place ++ name :: rest) := by
  have hlt : place.map RawText.bytes ++ [] <
      place.map RawText.bytes ++ (name :: rest).map RawText.bytes :=
    List.append_left_lt (List.nil_lt_cons _ _)
  rwa [List.append_nil, ← List.map_append] at hlt

theorem Precedes.not_self (place : Location) : ¬ Precedes place place :=
  List.lt_irrefl _

/-- The entries of a walk come in increasing order. -/
theorem Lists.pairwise (h : Lists files taken base place entries) :
    entries.Pairwise fun first second => Precedes first.place second.place := by
  induction h with
  | refused => exact .nil
  | leaf => exact List.pairwise_singleton _ _
  | @directory place names inside _ _ _ hsorted hinside ih =>
    have hbelow {name : Name} (hname : name ∈ names) {entry : WalkEntry}
        (hentry : entry ∈ inside name) : ∃ rest, entry.place = place ++ name :: rest := by
      obtain ⟨rest, hrest⟩ := ((hinside name hname).mem_iff.1 hentry).isPrefix
      exact ⟨rest, by rw [← hrest, List.append_assoc, List.singleton_append]⟩
    refine List.pairwise_cons.2 ⟨fun entry hentry => ?_, List.pairwise_flatMap.2 ⟨ih, ?_⟩⟩
    · obtain ⟨name, hname, hentry⟩ := List.mem_flatMap.1 hentry
      obtain ⟨rest, hrest⟩ := hbelow hname hentry
      rw [hrest]
      exact precedes_append place
    · refine hsorted.imp_of_mem fun hfirst hsecond hlt first hmem second hmem' => ?_
      obtain ⟨rest, hrest⟩ := hbelow hfirst hmem
      obtain ⟨others, hothers⟩ := hbelow hsecond hmem'
      rw [hrest, hothers]
      exact precedes_of_lt place hlt

/-- Entries in increasing order are known by which they are. -/
theorem eq_of_mem_iff {others : List WalkEntry}
    (h : entries.Pairwise fun first second => Precedes first.place second.place)
    (hothers : others.Pairwise fun first second => Precedes first.place second.place)
    (hmem : ∀ entry, entry ∈ entries ↔ entry ∈ others) : entries = others := by
  have hnodup {entries : List WalkEntry}
      (h : entries.Pairwise fun first second => Precedes first.place second.place) :
      entries.Nodup := h.imp fun {first second} hlt (heq : first = second) =>
        Precedes.not_self _ (heq ▸ hlt)
  have hperm := (List.perm_ext_iff_of_nodup (hnodup h) (hnodup hothers)).2 hmem
  refine hperm.eq_of_pairwise (fun first second _ _ hlt hgt => ?_) h hothers
  exact absurd hgt (List.lt_asymm hlt)

end Walk

/-! ## Laws of walkers -/

/-- How a walker filters what it comes to, besides the test that it is given. -/
structure WalkRules where
  /-- Where rules are looked for, as names on the way from a directory.  What applies to the
  directories of one user alone can be given by names from the top. -/
  ruleFiles : List Location
  /-- Whether the rules for a walk from a root cannot be read. -/
  unreadable : FileSystem → String → Bool
  /-- Whether the rules for a walk from a root pass over an entry. -/
  passesOver : FileSystem → String → WalkEntry → Bool

/-- What names lead to from a directory. -/
def FileSystem.placeBelow (files : FileSystem) (directory names : Location) :
    Except FileError Place :=
  files.follow true maxLinks directory (names.map .name)

namespace WalkRules

/-- Whether an entry is taken.  The root of a walk always is. -/
def takes (rules : WalkRules) (files : FileSystem) (options : WalkOptions) (root : String)
    (entry : WalkEntry) : Bool :=
  entry.place.isEmpty || options.accepts entry && !rules.passesOver files root entry

/-- The rules are written in the rule files alone. -/
def FromRuleFiles (rules : WalkRules) : Prop :=
  ∀ files other root, other.workingDirectory = files.workingDirectory →
    other.directoryAt? root = files.directoryAt? root →
    (∀ directory, ∀ ruleFile ∈ rules.ruleFiles,
      other.placeBelow directory ruleFile = files.placeBelow directory ruleFile) →
    rules.unreadable other root = rules.unreadable files root ∧
      rules.passesOver other root = rules.passesOver files root

/-- There is no rule file that applies to a directory or to what is below it. -/
def Absent (rules : WalkRules) (files : FileSystem) (base : Location) : Prop :=
  ∀ directory, directory <+: base ∨ base <+: directory → ∀ ruleFile ∈ rules.ruleFiles,
    ∀ location content, files.placeBelow directory ruleFile ≠ .ok (.found location (.file content))

/-- Without rule files only entries whose names start with a dot are passed over. -/
def HidesDots (rules : WalkRules) : Prop :=
  ∀ files root base, files.directoryAt? root = some base → rules.Absent files base →
    rules.unreadable files root = false ∧
      ∀ entry, rules.passesOver files root entry = true →
        ∃ name, entry.place.getLast? = some name ∧ name.isDotted = true

end WalkRules

/-- The walker goes through directories in order, and filters what it comes to by rules. -/
structure Walker.Traverses (walker : Walker) (rules : WalkRules) : Prop where
  /-- A dash stands for standard input, which is one entry and no file. -/
  standardInput : ∀ files options root, Walk.isStandardInput root = true →
    walker files options root = [.ok ⟨[], .other⟩]
  /-- Rules that cannot be read are an error. -/
  unreadable : ∀ files options root base, files.directoryAt? root = some base →
    Walk.isStandardInput root = false → rules.unreadable files root = true →
    ∃ cause, .error cause ∈ walker files options root
  /-- Where no link is followed, the entries that are taken are listed in preorder. -/
  lists : ∀ files options root base, files.directoryAt? root = some base →
    Walk.isStandardInput root = false → rules.unreadable files root = false →
    (options.followLinks = true →
      ∀ place target, files.get? (base ++ place) ≠ some (.link target)) →
    ∃ entries, walker files options root = entries.map .ok ∧
      Walk.Lists files (rules.takes files options root) base [] entries

/-! ## Sources -/

namespace Path

/-- The path that leads from a directory down to a place. -/
def descend (directory : String) (names : List String) : String :=
  names.foldl join directory

theorem descend_concat (directory : String) (names : List String) (name : String) :
    descend directory (names ++ [name]) = join (descend directory names) name := by
  rw [descend, List.foldl_append]
  rfl

theorem below?_eq_some_iff {directory path : String} {place : Location} :
    below? directory place = some path ↔
      ∃ names : List String, place = names.map .text ∧ path = descend directory names := by
  induction place generalizing directory with
  | nil => simp [below?, descend, eq_comm]
  | cons first place ih =>
    cases first with
    | binary =>
      refine iff_of_false (by simp [below?]) ?_
      rintro ⟨names, hnames, -⟩
      obtain ⟨_, _, -, hname, -⟩ := List.map_eq_cons_iff.1 hnames.symm
      cases hname
    | text first =>
      rw [below?, ih]
      constructor
      · rintro ⟨names, rfl, rfl⟩
        exact ⟨first :: names, rfl, rfl⟩
      · rintro ⟨names, hnames, rfl⟩
        obtain ⟨name, rest, rfl, hname, hrest⟩ := List.map_eq_cons_iff.1 hnames.symm
        cases hname
        exact ⟨rest, hrest.symm, rfl⟩

end Path

namespace WalkEntry

/-- The source that an entry of a walk is, if it is one. -/
def found? (entry : WalkEntry) (root : String) : Option String :=
  (entry.source? root).toOption.join

variable {entry : WalkEntry} {root path : String}

theorem found?_eq_some_iff :
    entry.found? root = some path ↔
      entry.kind = .file ∧ Path.extension? path = some Path.sourceExtension ∧
        ∃ names : List String, entry.place = names.map .text ∧ path = Path.descend root names := by
  rw [found?, source?, ← Path.below?_eq_some_iff]
  by_cases hfile : entry.kind = .file
  · rw [if_neg (not_not_intro hfile)]
    cases Path.below? root entry.place with
    | none => simp [Except.toOption]
    | some below =>
      simp only [Except.toOption, Option.join_some, hfile, true_and, Option.some.injEq,
        Option.ite_none_right_eq_some]
      exact and_congr_left fun heq => by rw [heq]
  · simp [hfile, Except.toOption]

/-- An entry is refused if it is a file and its path is no text. -/
theorem source?_eq_error_iff {error : ConversionError} :
    entry.source? root = .error error ↔
      entry.kind = .file ∧ ¬IsText entry.place ∧
        error = .notUnicode (Path.bytesBelow (Text.bytes root) entry.place) := by
  rw [source?, isText_iff]
  by_cases hfile : entry.kind = .file
  · rw [if_neg (not_not_intro hfile)]
    cases hbelow : Path.below? root entry.place with
    | none =>
      have hnone : ¬∃ names : List String, entry.place = names.map .text := by
        rintro ⟨names, hplace⟩
        simp [Path.below?_eq_some_iff.2 ⟨names, hplace, rfl⟩] at hbelow
      simp [hfile, hnone, eq_comm]
    | some below =>
      obtain ⟨names, hplace, -⟩ := Path.below?_eq_some_iff.1 hbelow
      simp [hplace]
  · simp [hfile]

theorem exists_source? (h : entry.kind = .file → IsText entry.place) :
    ∃ source?, entry.source? root = .ok source? := by
  cases hsource : entry.source? root with
  | ok source? => exact ⟨source?, rfl⟩
  | error error =>
    obtain ⟨hkind, hnot, -⟩ := source?_eq_error_iff.1 hsource
    exact absurd (h hkind) hnot

end WalkEntry

namespace Walker

variable {walker : Walker} {rules : WalkRules} {root : String} {entries : List WalkEntry}
  {files : FileSystem} {settings : ScanSettings} {base : Location} {paths : List String}

theorem sourcesIn_eq_ok_iff :
    sourcesIn root (entries.map .ok) = .ok paths ↔
      (∀ entry ∈ entries, ∃ source?, entry.source? root = .ok source?) ∧
        paths = entries.filterMap fun entry => entry.found? root := by
  induction entries generalizing paths with
  | nil => simp [sourcesIn, eq_comm]
  | cons entry entries ih =>
    rw [List.map_cons, sourcesIn, List.forall_mem_cons]
    cases hsource : entry.source? root with
    | error error => simp
    | ok source? =>
      have hfound : entry.found? root = source? := by rw [WalkEntry.found?, hsource]; rfl
      have hfilterMap : (entry :: entries).filterMap (fun entry => entry.found? root) =
          source?.toList ++ entries.filterMap fun entry => entry.found? root := by
        rw [List.filterMap_cons, hfound]
        cases source? <;> rfl
      rw [hfilterMap]
      cases hrest : sourcesIn root (entries.map .ok) with
      | error error =>
        have hnot : ¬∀ entry ∈ entries, ∃ source?, entry.source? root = .ok source? := by
          intro hall
          have hok := ih.2 ⟨hall, rfl⟩
          rw [hrest] at hok
          cases hok
        simp [Except.map, hnot]
      | ok rest =>
        obtain ⟨hall, rfl⟩ := ih.1 hrest
        simp only [Except.map, Except.ok.injEq]
        exact ⟨fun heq => ⟨⟨⟨source?, rfl⟩, hall⟩, heq.symm⟩, fun heq => heq.2.symm⟩

/-- The first entry whose path is no text ends the search. -/
theorem exists_sourcesIn_eq_error {entry : WalkEntry} {error : ConversionError}
    (hentry : entry ∈ entries) (h : entry.source? root = .error error) :
    ∃ before first after cause, entries = before ++ first :: after ∧
      (∀ earlier ∈ before, ∃ source?, earlier.source? root = .ok source?) ∧
      first.source? root = .error cause ∧ sourcesIn root (entries.map .ok) = .error cause := by
  induction entries with
  | nil => cases hentry
  | cons earlier entries ih =>
    cases hearlier : earlier.source? root with
    | error cause =>
      exact ⟨[], earlier, entries, cause, rfl, by simp, hearlier, by simp [sourcesIn, hearlier]⟩
    | ok source? =>
      have hrest : entry ∈ entries := by
        refine (List.mem_cons.1 hentry).resolve_left fun heq => ?_
        rw [heq, hearlier] at h
        cases h
      obtain ⟨before, first, after, cause, rfl, hbefore, hfirst, hsources⟩ := ih hrest
      refine ⟨earlier :: before, first, after, cause, rfl,
        List.forall_mem_cons.2 ⟨⟨source?, hearlier⟩, hbefore⟩, hfirst, ?_⟩
      rw [List.map_cons, sourcesIn, hearlier, hsources]
      rfl

theorem sourcesIn_ne_ok {cause : WalkError} {found : List (Except WalkError WalkEntry)}
    (h : .error cause ∈ found) : sourcesIn root found ≠ .ok paths := by
  induction found generalizing paths with
  | nil => cases h
  | cons item found ih =>
    cases item with
    | error => simp [sourcesIn]
    | ok entry =>
      have ih {paths : List String} := @ih paths (by simpa using h)
      rw [sourcesIn]
      split
      · simp
      · cases hrest : sourcesIn root found with
        | error => simp [Except.map]
        | ok rest => exact absurd hrest ih

/-- The sources below a directory are those among what the walker lists. -/
theorem collect_eq (hroot : files.directoryAt? root = some base) :
    walker.collect files settings root =
      sourcesIn root (walker files settings.walkOptions root) := by
  have hexists : files.pathExists root = true :=
    pathExists_iff.2 ⟨base, .directory, directoryAt?_eq_some_iff.1 hroot⟩
  rw [collect, hexists, hroot]
  rfl

theorem exists_directoryAt? (h : walker.collect files settings root = .ok paths) :
    ∃ base, files.directoryAt? root = some base := by
  rw [collect] at h
  split at h
  · cases h
  · split at h
    · cases h
    · rename_i hsome
      exact Option.ne_none_iff_exists'.1 fun hnone => hsome (by rw [hnone]; rfl)

namespace Traverses

variable (h : walker.Traverses rules)
include h

theorem collect_standardInput (hroot : files.directoryAt? root = some base)
    (hinput : Walk.isStandardInput root = true) : walker.collect files settings root = .ok [] := by
  rw [collect_eq hroot, h.standardInput files settings.walkOptions root hinput]
  rfl

/-- A walk that succeeds has listed its directory. -/
theorem exists_lists (hroot : files.directoryAt? root = some base)
    (hinput : Walk.isStandardInput root = false)
    (hlinks : settings.followLinks = true →
      ∀ place target, files.get? (base ++ place) ≠ some (.link target))
    (hok : walker.collect files settings root = .ok paths) :
    rules.unreadable files root = false ∧ ∃ entries,
      Walk.Lists files (rules.takes files settings.walkOptions root) base [] entries ∧
        sourcesIn root (entries.map .ok) = .ok paths := by
  rw [collect_eq hroot] at hok
  have hreadable : rules.unreadable files root = false := by
    refine Bool.eq_false_iff.2 fun hunreadable => ?_
    obtain ⟨cause, hcause⟩ :=
      h.unreadable files settings.walkOptions root base hroot hinput hunreadable
    exact sourcesIn_ne_ok hcause hok
  obtain ⟨entries, hentries, hlists⟩ :=
    h.lists files settings.walkOptions root base hroot hinput hreadable hlinks
  exact ⟨hreadable, entries, hlists, hentries ▸ hok⟩

end Traverses

end Walker

end InterfaceStub
