import InterfaceStub.Files.Walk
import InterfaceStub.Proofs.WalkerLaws

/-!
# The laws of the standard walker

The walker that the program runs with keeps the laws that are relied on.

* `pairwise_names` and `mem_names_iff` describe the listing of a directory.
* `Walk.rulesIn` are the ignore files that apply in a directory below the root, read from the root
  down, and `WalkRules.standard` says what they amount to.
* `traverses_standard`, `fromRuleFiles_standard` and `hidesDots_standard` are the laws.
-/

namespace InterfaceStub

open FileSystem

/-! ## Listings -/

theorem RawText.bytes_injective : Function.Injective RawText.bytes := by
  have hvalid (text : String) : (Text.bytes text).toByteArray = text.toByteArray :=
    ByteArray.ext (by rw [List.data_toByteArray]; rfl)
  intro first second h
  cases first with
  | text first =>
    cases second with
    | text second =>
      have hbytes : Text.bytes first = Text.bytes second := h
      have htext : first.toByteArray = second.toByteArray := by rw [← hvalid, hbytes, hvalid]
      rw [String.toByteArray_inj.1 htext]
    | binary second hinvalid =>
      have hbytes : Text.bytes first = second := h
      exact absurd (hbytes ▸ hvalid first ▸ first.isValidUTF8) hinvalid
  | binary first hinvalid =>
    cases second with
    | text second =>
      have hbytes : first = Text.bytes second := h
      exact absurd (hbytes ▸ hvalid second ▸ second.isValidUTF8) hinvalid
    | binary second =>
      cases h
      rfl

theorem nodup_eraseDups {α : Type} [BEq α] [LawfulBEq α] (items : List α) :
    items.eraseDups.Nodup := by
  induction hlength : items.length using Nat.strongRecOn generalizing items with
  | ind length ih =>
    cases items with
    | nil => simp
    | cons item items =>
      rw [List.eraseDups_cons, List.nodup_cons]
      refine ⟨fun hmem => ?_, ih _ ?_ _ rfl⟩
      · simp [List.mem_eraseDups] at hmem
      · rw [← hlength, List.length_cons]
        exact Nat.lt_succ_of_le (List.length_filter_le _ _)

namespace FileSystem

variable {files : FileSystem} {here location : Location} {name : Name}

theorem mem_locations : location ∈ files.locations ↔ (files.get? location).isSome = true := by
  rw [locations, List.mem_append, List.mem_map, List.mem_map]
  by_cases habove : location <+: files.start
  · rw [get?_above_start habove]
    refine iff_of_true (.inl ⟨location.length, ?_, ?_⟩) rfl
    · exact List.mem_range.2 (Nat.lt_succ_of_le habove.length_le)
    · exact (List.prefix_iff_eq_take.1 habove).symm
  · rw [get?_eq_lookup habove, List.lookup_isSome_iff]
    constructor
    · rintro (⟨depth, -, rfl⟩ | ⟨entry, hentry, rfl⟩)
      · exact absurd (List.take_prefix depth _) habove
      · exact ⟨entry, hentry, beq_self_eq_true _⟩
    · rintro ⟨entry, hentry, heq⟩
      exact .inr ⟨entry, hentry, (eq_of_beq heq).symm⟩

theorem nameIn?_eq_some_iff {directory : Location} :
    nameIn? directory location = some name ↔ location = directory ++ [name] := by
  rw [nameIn?]
  split
  · rename_i hdirectory
    rw [← hdirectory, List.getLast?_eq_some_iff]
    constructor
    · rintro ⟨above, rfl⟩
      simp
    · exact fun h => ⟨_, h⟩
  · rename_i hdirectory
    simpa using fun h : location = directory ++ [name] => hdirectory (by simp [h])

/-- The names in a directory are those of its entries. -/
theorem mem_names_iff :
    name ∈ files.names here ↔ (files.get? (here ++ [name])).isSome = true := by
  rw [names, List.mem_mergeSort, List.mem_eraseDups, List.mem_filterMap, ← mem_locations]
  constructor
  · rintro ⟨location, hlocation, hname⟩
    exact nameIn?_eq_some_iff.1 hname ▸ hlocation
  · exact fun hlocation => ⟨_, hlocation, nameIn?_eq_some_iff.2 rfl⟩

theorem pairwise_names (files : FileSystem) (here : Location) :
    (files.names here).Pairwise fun first second => first.bytes < second.bytes := by
  have hsorted : (files.names here).Pairwise fun first second => first.bytes ≤ second.bytes := by
    refine (List.pairwise_mergeSort ?_ ?_ _).imp of_decide_eq_true
    · intro first second third hfirst hsecond
      simpa using List.le_trans (of_decide_eq_true hfirst) (of_decide_eq_true hsecond)
    · intro first second
      simpa using List.le_total first.bytes second.bytes
  have hnodup : (files.names here).Nodup :=
    (List.mergeSort_perm _ _).nodup_iff.2 (nodup_eraseDups _)
  refine (hsorted.and hnodup).imp fun hboth => ?_
  exact Std.lt_of_le_of_ne hboth.1 fun heq => hboth.2 (RawText.bytes_injective heq)

end FileSystem

/-! ## The depth of a walk -/

namespace Walk

variable {files : FileSystem} {options : WalkOptions} {base place : Location}

/-- How many locations are further down than a depth. -/
def below (files : FileSystem) (depth : Nat) : Nat :=
  files.locations.countP fun location => depth < location.length

theorem below_lt {location : Location} (h : location ∈ files.locations) {depth : Nat}
    (hlength : location.length = depth + 1) : below files (depth + 1) < below files depth := by
  obtain ⟨before, after, hlocations⟩ := List.append_of_mem h
  have hmono (locations : List Location) :
      locations.countP (fun location => decide (depth + 1 < location.length)) ≤
        locations.countP fun location => decide (depth < location.length) := by
    refine List.countP_mono_left fun location _ hdeep => ?_
    simp only [decide_eq_true_eq] at hdeep ⊢
    omega
  have hbefore := hmono before
  have hafter := hmono after
  simp only [below, hlocations, List.countP_append, List.countP_cons, hlength]
  simp only [Nat.lt_irrefl, decide_false, Bool.false_eq_true, if_false, Nat.lt_succ_self,
    decide_true, if_true]
  omega

theorem below_lt_maxDepth (depth : Nat) : below files depth < maxDepth files :=
  Nat.lt_of_le_of_lt List.countP_le_length
    (Nat.lt_of_lt_of_le (Nat.lt_succ_self _) (Nat.le_mul_self _))

/-! ## Rules below the root -/

/-- The ignore files that apply in a directory, given its place below another one.  `rules` are
those above that one, and `path` are the bytes of its path. -/
def rulesIn (files : FileSystem) (rules : IgnoreRules) (here : Location) (path : List UInt8) :
    Location → IgnoreRules
  | [] => rules.enter files here path
  | name :: place =>
    rulesIn files (rules.enter files here path) (here ++ [name]) (Path.joinBytes path name.bytes)
      place

theorem rulesIn_append (rules : IgnoreRules) (here : Location) (path : List UInt8)
    (place : Location) (name : Name) :
    rulesIn files rules here path (place ++ [name]) =
      (rulesIn files rules here path place).enter files (here ++ (place ++ [name]))
        (Path.bytesBelow path (place ++ [name])) := by
  induction place generalizing rules here path with
  | nil => rfl
  | cons first place ih =>
    rw [List.cons_append, rulesIn, ih, rulesIn, List.append_assoc]
    rfl

/-- Whether the rules below a root pass over an entry. -/
def isPassedOver (rules : IgnoreRules) (base : Location) (root : List UInt8) (entry : WalkEntry) :
    Bool :=
  match entry.place.getLast? with
  | none => false
  | some name =>
    !(rules.taken? (Path.bytesBelow root entry.place) (base ++ entry.place)
      (entry.kind = .directory)).getD (!isHidden name)

end Walk

/-- The rules of the standard walker. -/
def WalkRules.standard : WalkRules where
  ruleFiles := [[".ignore"], [".gitignore"], [".git", "info", "exclude"]]
  unreadable files root :=
    match files.directoryAt? root with
    | none => false
    | some base => (IgnoreScope.above files base).any IgnoreScope.malformed
  passesOver files root entry :=
    match files.directoryAt? root with
    | none => false
    | some base =>
      let rules := Walk.rulesIn files ⟨[], IgnoreScope.above files base⟩ base (Text.bytes root)
        entry.place.dropLast
      Walk.isPassedOver rules base (Text.bytes root) entry

/-! ## Laws -/

namespace Walk

variable {files : FileSystem} {options : WalkOptions} {base : Location}

/-- Where no link is followed, an entry is what stands in its place. -/
theorem foundAt_eq {here : Location} {name : Name} {kind : EntryKind} {followLinks : Bool}
    (hkind : files.kindAt? (here ++ [name]) = some kind)
    (hlinks : followLinks = true → ∀ target, files.get? (here ++ [name]) ≠ some (.link target))
    (entered : List Location) (path : List UInt8) :
    foundAt files followLinks entered here path name = .ok (kind, here ++ [name]) := by
  rw [foundAt]
  cases hentry : files.get? (here ++ [name]) with
  | none => simp [kindAt?, hentry] at hkind
  | some entry =>
    cases entry with
    | file | directory =>
      simp only [kindAt?, hentry, Option.map_some, Option.some.injEq] at hkind
      rw [← hkind]
    | link target =>
      simp only [kindAt?, hentry, Option.map_some, Option.some.injEq] at hkind
      rw [← hkind, if_neg fun hfollow => hlinks hfollow target hentry]

/-- What a walk lists for one entry of a directory, whose rules are `rules`. -/
def listed (files : FileSystem) (options : WalkOptions) (base : Location) (depth : Nat)
    (rules : IgnoreRules) (entered : List Location) (here place : Location) (path : List UInt8)
    (name : Name) : List (Except WalkError WalkEntry) :=
  match foundAt files options.followLinks entered here (Path.joinBytes path name.bytes) name with
  | .error error => [.error error]
  | .ok (kind, location) =>
    let path := Path.joinBytes path name.bytes
    let taken? := rules.taken? path (base ++ (place ++ [name])) (kind = .directory)
    if !taken?.getD (!isHidden name) || !options.accepts ⟨place ++ [name], kind⟩ then []
    else
      .ok ⟨place ++ [name], kind⟩ ::
        if kind = .directory then
          entriesBelow files options base depth rules (location :: entered) location
            (place ++ [name]) path
        else []

theorem entriesBelow_succ (depth : Nat) (rules : IgnoreRules) (entered : List Location)
    (here place : Location) (path : List UInt8) :
    entriesBelow files options base (depth + 1) rules entered here place path =
      (files.names here).flatMap
        (listed files options base depth (rules.enter files here path) entered here place path) :=
  rfl

/-- What is in the directory at a place below the root is listed entry by entry. -/
def ListsInside (files : FileSystem) (taken : WalkEntry → Bool) (base place : Location)
    (found : List (Except WalkError WalkEntry)) : Prop :=
  ∃ inside : Name → List WalkEntry,
    found = ((files.names (base ++ place)).flatMap inside).map .ok ∧
      ∀ name ∈ files.names (base ++ place), Lists files taken base (place ++ [name]) (inside name)

theorem ListsInside.lists {taken : WalkEntry → Bool} {place : Location}
    {found : List (Except WalkError WalkEntry)} (h : ListsInside files taken base place found)
    (hkind : files.kindAt? (base ++ place) = some .directory)
    (htaken : taken ⟨place, .directory⟩ = true) :
    ∃ entries, .ok ⟨place, .directory⟩ :: found = entries.map Except.ok ∧
      Lists files taken base place entries := by
  obtain ⟨inside, rfl, hinside⟩ := h
  refine ⟨_, rfl, .directory hkind htaken (fun name => ?_) (pairwise_names _ _) hinside⟩
  rw [mem_names_iff, List.append_assoc]

section

variable {above : IgnoreRules} {root : List UInt8} {taken : WalkEntry → Bool}
  (hlinks : options.followLinks = true →
    ∀ place target, files.get? (base ++ place) ≠ some (.link target))
  (htaken : ∀ place name kind, taken ⟨place ++ [name], kind⟩ =
    (options.accepts ⟨place ++ [name], kind⟩ &&
      !isPassedOver (rulesIn files above base root place) base root ⟨place ++ [name], kind⟩))
include hlinks htaken

/-- An entry of a directory is listed if it is taken, and what is below it right after it. -/
theorem listed_eq {place : Location} {name : Name} {kind : EntryKind} (depth : Nat)
    (entered : List Location) (hkind : files.kindAt? (base ++ (place ++ [name])) = some kind) :
    listed files options base depth (rulesIn files above base root place) entered (base ++ place)
        place (Path.bytesBelow root place) name =
      if taken ⟨place ++ [name], kind⟩ then
        .ok ⟨place ++ [name], kind⟩ ::
          if kind = .directory then
            entriesBelow files options base depth (rulesIn files above base root place)
              ((base ++ (place ++ [name])) :: entered) (base ++ (place ++ [name])) (place ++ [name])
              (Path.bytesBelow root (place ++ [name]))
          else []
      else [] := by
  have hpath : Path.joinBytes (Path.bytesBelow root place) name.bytes =
      Path.bytesBelow root (place ++ [name]) := by
    rw [Path.bytesBelow, Path.bytesBelow, List.foldl_append]
    rfl
  have hfound : foundAt files options.followLinks entered (base ++ place)
      (Path.bytesBelow root (place ++ [name])) name = .ok (kind, base ++ (place ++ [name])) := by
    rw [← List.append_assoc]
    refine foundAt_eq (List.append_assoc .. ▸ hkind) (fun hfollow target => ?_) _ _
    rw [List.append_assoc]
    exact hlinks hfollow _ target
  have hrefuses : (!taken ⟨place ++ [name], kind⟩) =
      (!((rulesIn files above base root place).taken? (Path.bytesBelow root (place ++ [name]))
          (base ++ (place ++ [name])) (kind = .directory)).getD (!isHidden name) ||
        !options.accepts ⟨place ++ [name], kind⟩) := by
    rw [htaken, isPassedOver, List.getLast?_concat, Bool.not_and, Bool.not_not, Bool.or_comm]
  rw [listed, hpath, hfound]
  dsimp only
  rw [← hrefuses]
  cases taken ⟨place ++ [name], kind⟩ <;> rfl

/-- One entry of a directory, given what is in directories further down. -/
theorem exists_listed {place : Location} {name : Name} {depth : Nat} {entered : List Location}
    (hname : name ∈ files.names (base ++ place))
    (hinside : ListsInside files taken base (place ++ [name])
      (entriesBelow files options base depth (rulesIn files above base root place)
        ((base ++ (place ++ [name])) :: entered) (base ++ (place ++ [name])) (place ++ [name])
        (Path.bytesBelow root (place ++ [name])))) :
    ∃ entries, listed files options base depth (rulesIn files above base root place) entered
        (base ++ place) place (Path.bytesBelow root place) name = entries.map .ok ∧
      Lists files taken base (place ++ [name]) entries := by
  obtain ⟨kind, hkind⟩ : ∃ kind, files.kindAt? (base ++ (place ++ [name])) = some kind := by
    rw [← Option.isSome_iff_exists, kindAt?, Option.isSome_map, ← List.append_assoc]
    exact mem_names_iff.1 hname
  rw [listed_eq hlinks htaken depth entered hkind]
  cases htakes : taken ⟨place ++ [name], kind⟩ with
  | false => exact ⟨[], rfl, .refused hkind htakes⟩
  | true =>
    by_cases hdirectory : kind = .directory
    · subst hdirectory
      exact hinside.lists hkind htakes
    · rw [if_pos rfl, if_neg hdirectory]
      exact ⟨_, rfl, .leaf hkind htakes hdirectory⟩

/-- The induction is on the depth that is left, which is more than there are locations further
down. -/
theorem listsInside {rules : IgnoreRules} {place : Location}
    (hrules : rules.enter files (base ++ place) (Path.bytesBelow root place) =
      rulesIn files above base root place)
    {depth : Nat} (hdepth : below files (base ++ place).length < depth) (entered : List Location) :
    ListsInside files taken base place
      (entriesBelow files options base depth rules entered (base ++ place) place
        (Path.bytesBelow root place)) := by
  induction depth generalizing rules place entered with
  | zero => exact absurd hdepth (Nat.not_lt_zero _)
  | succ depth ih =>
    have hentries (name : Name) (hname : name ∈ files.names (base ++ place)) :
        ∃ entries, listed files options base depth (rulesIn files above base root place) entered
            (base ++ place) place (Path.bytesBelow root place) name = entries.map .ok ∧
          Lists files taken base (place ++ [name]) entries := by
      refine exists_listed hlinks htaken hname (ih (rulesIn_append ..).symm ?_ _)
      have hlength : (base ++ place ++ [name]).length = (base ++ place).length + 1 :=
        List.length_append
      have hbelow := below_lt (mem_locations.2 (mem_names_iff.1 hname)) hlength
      rw [← List.append_assoc, hlength]
      omega
    choose! inside hinside using hentries
    refine ⟨inside, ?_, fun name hname => (hinside name hname).2⟩
    rw [entriesBelow_succ, hrules, List.map_flatMap]
    exact List.flatMap_congr fun name hname => (hinside name hname).1

end

end Walk

/-- The standard walker goes through directories in order. -/
theorem traverses_standard : Walker.standard.Traverses .standard where
  standardInput files options root hinput := by rw [Walker.standard, if_pos hinput]
  unreadable files options root base hroot hinput hunreadable := by
    simp only [WalkRules.standard, hroot] at hunreadable
    rw [Walker.standard, hinput, directoryAt?_eq_some_iff.1 hroot]
    simp [hunreadable]
  lists files options root base hroot hinput hreadable hlinks := by
    have hresolve := directoryAt?_eq_some_iff.1 hroot
    have hkind : files.kindAt? base = some .directory := by
      have hdirectory : files.get? base = some .directory := get?_of_resolve hresolve
      rw [kindAt?, hdirectory]
      rfl
    have htaken (place : Location) (name : Name) (kind : EntryKind) :
        WalkRules.standard.takes files options root ⟨place ++ [name], kind⟩ =
          (options.accepts ⟨place ++ [name], kind⟩ &&
            !Walk.isPassedOver
              (Walk.rulesIn files ⟨[], IgnoreScope.above files base⟩ base (Text.bytes root) place)
              base (Text.bytes root) ⟨place ++ [name], kind⟩) := by
      simp [WalkRules.takes, WalkRules.standard, hroot]
    have hrules : IgnoreRules.enter ⟨[], IgnoreScope.above files base⟩ files (base ++ [])
          (Path.bytesBelow (Text.bytes root) []) =
        Walk.rulesIn files ⟨[], IgnoreScope.above files base⟩ base (Text.bytes root) [] := by
      rw [List.append_nil]
      rfl
    obtain ⟨entries, hentries, hlists⟩ :=
      (Walk.listsInside hlinks htaken hrules (Walk.below_lt_maxDepth _) [base]).lists
        ((List.append_nil base).symm ▸ hkind) rfl
    simp only [WalkRules.standard, hroot] at hreadable
    refine ⟨entries, ?_, hlists⟩
    rw [← hentries, List.append_nil, Walker.standard, hinput, hresolve]
    simp [hreadable, Path.bytesBelow]

/-! ### Rule files -/

section

variable {files other : FileSystem} {directory : Location}

theorem IgnoreScope.fileIn_eq {path : String} {names : List Name}
    (h : stepsOf path = .ok (names.map .name)) :
    fileIn files directory path =
      match files.placeBelow directory names with
      | .ok (.found _ (.file content)) => IgnoreFile.ofContent content
      | _ => .empty := by
  rw [fileIn, resolveFrom, h]
  rfl

/-- The rule files of the standard walker, as the paths by which they are read. -/
theorem stepsOf_ruleFiles :
    stepsOf ".ignore" = .ok (([".ignore"] : Location).map .name) ∧
      stepsOf ".gitignore" = .ok (([".gitignore"] : Location).map .name) ∧
      stepsOf ".git/info/exclude" =
        .ok (([".git", "info", "exclude"] : Location).map .name) := by
  decide +kernel

/-- An ignore file of which there is none. -/
theorem IgnoreScope.ofDirectory_of_absent
    (h : ∀ ruleFile ∈ WalkRules.standard.ruleFiles, ∀ location content,
      files.placeBelow directory ruleFile ≠ .ok (.found location (.file content)))
    (base : List UInt8) : ofDirectory files directory base = ⟨base, .empty, .empty, .empty⟩ := by
  obtain ⟨hplain, hgit, hexclude⟩ := stepsOf_ruleFiles
  have hempty {path : String} {names : List Name} (hsteps : stepsOf path = .ok (names.map .name))
      (hnames : names ∈ WalkRules.standard.ruleFiles) : fileIn files directory path = .empty := by
    rw [fileIn_eq hsteps]
    split
    · rename_i hfound
      exact absurd hfound (h _ hnames _ _)
    · rfl
  rw [ofDirectory, hempty hplain, hempty hgit, hempty hexclude] <;> simp [WalkRules.standard]

namespace IgnoreRules

/-- There are no patterns in the rules. -/
def Silent (rules : IgnoreRules) : Prop :=
  ∀ scope ∈ rules.inside ++ rules.above, ∃ base, scope = ⟨base, .empty, .empty, .empty⟩

variable {rules : IgnoreRules}

theorem Silent.taken?_eq (h : rules.Silent) (path : List UInt8) (location : Location)
    (isDirectory : Bool) : rules.taken? path location isDirectory = none := by
  have hscope {file : IgnoreScope → IgnoreFile}
      (hfile : ∀ base, file ⟨base, .empty, .empty, .empty⟩ = .empty) (path : List UInt8)
      {scope : IgnoreScope} (hmem : scope ∈ rules.inside ++ rules.above) :
      scope.taken? file path isDirectory = none := by
    obtain ⟨base, rfl⟩ := h scope hmem
    rw [IgnoreScope.taken?, hfile]
    rfl
  have hsay (file : IgnoreScope → IgnoreFile)
      (hfile : ∀ base, file ⟨base, .empty, .empty, .empty⟩ = .empty) (inside above : List UInt8) :
      (rules.inside.findSome? (IgnoreScope.taken? file inside isDirectory)).or
        (rules.above.findSome? (IgnoreScope.taken? file above isDirectory)) = none := by
    refine Option.or_eq_none_iff.2 ⟨?_, ?_⟩ <;>
      exact List.findSome?_eq_none_iff.2 fun scope hmem =>
        hscope hfile _ (List.mem_append.2 (by simp [hmem]))
  simp only [taken?]
  rw [hsay IgnoreScope.plain fun _ => rfl, hsay IgnoreScope.git fun _ => rfl,
    hsay IgnoreScope.exclude fun _ => rfl]
  rfl

theorem Silent.enter {here : Location} (h : rules.Silent)
    (hhere : ∀ ruleFile ∈ WalkRules.standard.ruleFiles,
      ∀ location content, files.placeBelow here ruleFile ≠ .ok (.found location (.file content)))
    (path : List UInt8) : (rules.enter files here path).Silent := by
  intro scope hscope
  rcases List.mem_cons.1 hscope with rfl | hscope
  · exact ⟨_, IgnoreScope.ofDirectory_of_absent hhere _⟩
  · exact h scope hscope

end IgnoreRules

theorem Walk.silent_rulesIn {base : Location} (h : WalkRules.standard.Absent files base)
    {rules : IgnoreRules} (hrules : rules.Silent) {here : Location} (hhere : base <+: here)
    (path : List UInt8) (place : Location) : (rulesIn files rules here path place).Silent := by
  induction place generalizing rules here path with
  | nil => exact hrules.enter (h here (.inr hhere)) path
  | cons name place ih =>
    exact ih (hrules.enter (h here (.inr hhere)) path) (hhere.trans (List.prefix_append _ _)) _

/-- Without ignore files the standard walker passes over hidden entries alone. -/
theorem hidesDots_standard : WalkRules.standard.HidesDots := by
  intro files root base hroot habsent
  have habove : ∀ scope ∈ IgnoreScope.above files base,
      ∃ path, scope = ⟨path, .empty, .empty, .empty⟩ := by
    intro scope hscope
    obtain ⟨depth, -, rfl⟩ := List.mem_map.1 hscope
    exact ⟨_, IgnoreScope.ofDirectory_of_absent (habsent _ (.inl (List.take_prefix depth base))) _⟩
  simp only [WalkRules.standard, hroot]
  refine ⟨List.any_eq_false.2 fun scope hscope => ?_, fun entry hpassed => ?_⟩
  · obtain ⟨path, rfl⟩ := habove scope hscope
    exact Bool.false_ne_true
  · have hrules : IgnoreRules.Silent ⟨[], IgnoreScope.above files base⟩ := habove
    have hsilent := Walk.silent_rulesIn habsent hrules (List.prefix_refl base) (Text.bytes root)
      entry.place.dropLast
    rw [Walk.isPassedOver] at hpassed
    split at hpassed
    · cases hpassed
    · rename_i name hname
      refine ⟨name, hname, ?_⟩
      rw [hsilent.taken?_eq, Option.getD_none, Bool.not_not, Walk.isHidden] at hpassed
      exact (Bool.and_eq_true_iff.1 hpassed).1

end

end InterfaceStub
