import InterfaceStub.Proofs.SeparateFiles
import InterfaceStub.Proofs.WalkStability

/-!
# What a run leaves behind

Without links the conversion of a file depends on three things: whether its source can be read and
accepted, where the path of its stub leads to, and what stands there (`output?_eq_some_iff`,
`isSkipped_runFile`).

* `OwnStubs` says that the stubs of a run are neither inputs nor sources, and that sources with one
  stub are one file.
* `Grown` relates the file system before a run to one in the middle of it: stubs of its sources were
  written, and nothing else.  `Grown.runFile` is the step, and `Grown.filesAfter` the run.
* `Grown.output?_eq` and `Grown.isFailed_eq` say that the conversions before a conversion do not
  decide what becomes of it.
-/

namespace InterfaceStub

open FileSystem

variable {env : Environment} {files other : FileSystem} {path : String} {location : Location}

/-! ## One conversion without links -/

theorem Parser.exists_convert_eq_ok_iff {parser : Parser} {settings : Settings} {id text : String} :
    (∃ conversion, parser.convert settings id text = .ok conversion) ↔
      ∃ root, parser text = some root ∧ root.rejection? = none := by
  rw [Parser.convert, Parser.extract, Parser.accept]
  cases parser text with
  | none => simp [Except.map]
  | some root =>
    cases h : root.rejection? <;> simp [Syntax.Source.check, Except.map, h]

namespace FileSystem

theorem stepsOf_ne_exists {path : RawText} : stepsOf path ≠ .error .exists := by
  have hsteps {α : Type} [DecidableEq α] (slash nul : α) (nameOf : List α → Name) (path : List α) :
      stepsIn slash nul nameOf path ≠ .error .exists := by
    rw [stepsIn]
    split
    · simp
    · split <;> simp
  cases path with
  | text path => exact hsteps '/' _ _ path.toList
  | binary path => exact hsteps Text.slash _ _ path

theorem follow_ne_exists {followLast : Bool} {links : Nat} {here : Location} {steps : List Step} :
    files.follow followLast links here steps ≠ .error .exists := by
  fun_induction follow files followLast links here steps with
  | case11 _ _ _ _ _ _ _ _ _ hsteps =>
    rintro ⟨⟩
    exact stepsOf_ne_exists hsteps
  | case4 _ _ _ _ ih | case5 _ _ _ _ ih | case6 _ _ _ _ ih => exact ih
  | case12 _ _ _ _ _ _ _ _ _ _ ih | case13 _ _ _ _ _ _ _ _ ih => exact ih
  | _ => simp

/-- A path that leads nowhere does not do so because something is there. -/
theorem resolve_ne_exists {followLast : Bool} : files.resolve path followLast ≠ .error .exists := by
  cases hsteps : stepsOf path with
  | error error =>
    rw [resolve_eq_of_error hsteps]
    rintro ⟨⟩
    exact stepsOf_ne_exists hsteps
  | ok steps =>
    rw [resolve_eq_of_stepsOf hsteps]
    exact follow_ne_exists

end FileSystem

namespace Environment

/-- The source can be read and is accepted. -/
def Renders (env : Environment) (files : FileSystem) (path : String) : Prop :=
  ∃ conversion, env.render files path = .ok conversion

theorem renders_iff :
    env.Renders files path ↔
      ∃ parser location source root, env.parser = some parser ∧
        files.place? path = some (.found location (.file (.text source))) ∧
        parser source = some root ∧ root.rejection? = none := by
  constructor
  · rintro ⟨conversion, hrender⟩
    obtain ⟨source, hread, hconvert⟩ := render_eq_ok hrender
    obtain ⟨location, hplace⟩ := read_eq_ok_iff.1 hread
    obtain ⟨parser, hparser⟩ : ∃ parser, env.parser = some parser :=
      Option.isSome_iff_exists.1 (by simpa using isNone_of_render hrender)
    rw [convert_of_some hparser] at hconvert
    obtain ⟨root, hroot⟩ := Parser.exists_convert_eq_ok_iff.1 ⟨conversion, hconvert⟩
    exact ⟨parser, location, source, root, hparser, place?_eq_some_iff.2 hplace, hroot⟩
  · rintro ⟨parser, location, source, root, hparser, hplace, hroot⟩
    have hread := read_eq_ok_iff.2 ⟨location, place?_eq_some_iff.1 hplace⟩
    obtain ⟨conversion, hconvert⟩ :
        ∃ conversion, parser.convert env.settings path source = .ok conversion :=
      Parser.exists_convert_eq_ok_iff.2 ⟨root, hroot⟩
    refine ⟨conversion, ?_⟩
    simp only [render, hread, convert_of_some hparser, hconvert, Except.mapError]

theorem render_of_place? {conversion : Conversion} (h : other.place? path = files.place? path)
    (hrender : env.render files path = .ok conversion) :
    env.render other path = .ok conversion := by
  obtain ⟨source, hread, -⟩ := render_eq_ok hrender
  obtain ⟨location, hplace⟩ := read_eq_ok_iff.1 hread
  have hother : other.read path = .ok source :=
    read_eq_ok_iff.2 ⟨location, place?_eq_some_iff.1 (h.trans (place?_eq_some_iff.2 hplace))⟩
  rw [← hrender, render, render, hread, hother]

theorem target_eq_ok_iff_locate? (hlinks : files.LinkFree) :
    env.target files path = .ok location ↔
      files.locate? (Path.stubOf path) = some location ∧
        (files.get? location = none ∨
          env.settings.scan.overwrite = true ∧ files.get? location ≠ some .directory) := by
  rw [target_eq_ok_iff, hlinks.resolve_eq, locate?, Option.map_eq_some_iff]
  constructor
  · rintro ⟨place, hplace, hrefusal, rfl⟩
    rw [get?_of_resolve hplace]
    refine ⟨⟨place, place?_eq_some_iff.2 hplace, rfl⟩, ?_⟩
    obtain hvacant | ⟨hoverwrite, content, hcontent⟩ := refusal?_eq_none_iff.1 hrefusal
    · exact .inl hvacant
    · exact .inr ⟨hoverwrite, by simp [hcontent]⟩
  · rintro ⟨⟨place, hplace, rfl⟩, hentry⟩
    rw [place?_eq_some_iff] at hplace
    rw [get?_of_resolve hplace] at hentry
    refine ⟨place, hplace, refusal?_eq_none_iff.2 ?_, rfl⟩
    rcases place with ⟨location, content | _ | target⟩ | location
    · exact .inr ⟨by simpa [Place.entry?] using hentry, content, rfl⟩
    · simp [Place.entry?] at hentry
    · exact absurd (get?_of_resolve hplace) (hlinks location target)
    · exact .inl rfl

theorem clear_eq_ok_iff :
    env.clear files path = .ok () ↔ env.parser.isSome = true ∧
      (!env.settings.scan.overwrite && files.pathExists (Path.stubOf path)) = false := by
  rw [clear, ← Option.not_isSome]
  cases env.parser.isSome <;>
    cases !env.settings.scan.overwrite && files.pathExists (Path.stubOf path) <;> simp

/-- A stub that is not found in the way is not found there when it is written. -/
theorem target_ne_exists (hlinks : files.LinkFree) (hclear : env.clear files path = .ok ()) :
    env.target files path ≠ .error .exists := by
  intro htarget
  cases hplace : files.resolve (Path.stubOf path) with
  | error error =>
    have hresolve := (hlinks.resolve_eq env.settings.scan.overwrite).trans hplace
    cases (target_of_resolve_error hresolve).symm.trans htarget
    exact resolve_ne_exists hplace
  | ok place =>
    rw [target, hlinks.resolve_eq, hplace] at htarget
    have hfree := (clear_eq_ok_iff.1 hclear).2
    rw [pathExists, hplace] at hfree
    cases hoverwrite : env.settings.scan.overwrite <;> rcases place with ⟨_, _ | _ | _⟩ | _ <;>
      simp [bind, Except.bind, refusal?, hoverwrite] at htarget hfree

theorem isSkip_writeError {target : String} {error : FileError} (h : error ≠ .exists) :
    (writeError target error).isSkip = false := by
  cases error with
  | «exists» => exact absurd rfl h
  | _ => rfl

theorem isSkip_of_render {error : ConversionError} (h : env.render files path = .error error) :
    error.isSkip = false := by
  rw [render] at h
  split at h
  · cases h
    rfl
  · rename_i source hread
    cases hconvert : env.convert path source with
    | error =>
      rw [hconvert] at h
      cases h
      rfl
    | ok =>
      rw [hconvert] at h
      cases h

theorem isSkip_of_clear {error : ConversionError} (h : env.clear files path = .error error) :
    error.isSkip = (env.parser.isSome &&
      (!env.settings.scan.overwrite && files.pathExists (Path.stubOf path))) := by
  rw [clear, ← Option.not_isSome] at h
  cases hparser : env.parser.isSome with
  | false =>
    rw [hparser] at h
    cases h
    rfl
  | true =>
    cases hblocked : !env.settings.scan.overwrite && files.pathExists (Path.stubOf path) with
    | false => simp [hparser, hblocked] at h
    | true =>
      rw [hparser, hblocked] at h
      cases h
      rfl

/-- A file is left out if its stub is in the way at the start of its conversion. -/
theorem isSkipped_runFile (hlinks : files.LinkFree) :
    (env.runFile files path).isSkipped = (env.parser.isSome &&
      (!env.settings.scan.overwrite && files.pathExists (Path.stubOf path))) := by
  have hruns := runsTo_runFile env files path
  generalize env.runFile files path = report at hruns
  have hfree (hclear : env.clear files path = .ok ()) : (env.parser.isSome &&
      (!env.settings.scan.overwrite && files.pathExists (Path.stubOf path))) = false := by
    rw [(clear_eq_ok_iff.1 hclear).2, Bool.and_false]
  cases hruns with
  | blocked hclear => exact isSkip_of_clear hclear
  | unread hclear hrender =>
    rw [hfree hclear]
    exact isSkip_of_render hrender
  | unwritten hclear _ htarget =>
    rw [hfree hclear]
    exact isSkip_writeError fun heq => target_ne_exists hlinks hclear (heq ▸ htarget)
  | written hclear =>
    rw [hfree hclear]
    rfl

theorem output?_eq_some_iff {write : Location × Content} :
    env.output? files path = some write ↔
      ∃ conversion, env.render files path = .ok conversion ∧
        env.target files path = .ok write.1 ∧ write.2 = .text conversion.text := by
  constructor
  · intro h
    rw [output?] at h
    split at h
    · rename_i conversion _ hrender htarget
      cases h
      exact ⟨conversion, hrender, htarget, rfl⟩
    · cases h
  · rintro ⟨conversion, hrender, htarget, htext⟩
    rw [output?_of_target hrender htarget, ← htext]

theorem isSome_output?_iff :
    (env.output? files path).isSome = true ↔
      env.Renders files path ∧ ∃ location, env.target files path = .ok location := by
  rw [Option.isSome_iff_exists]
  constructor
  · rintro ⟨write, hwrite⟩
    obtain ⟨conversion, hrender, htarget, -⟩ := output?_eq_some_iff.1 hwrite
    exact ⟨⟨conversion, hrender⟩, write.1, htarget⟩
  · rintro ⟨⟨conversion, hrender⟩, location, htarget⟩
    exact ⟨_, output?_of_target hrender htarget⟩

theorem isFailed_runFile (hlinks : files.LinkFree) (henv : env.settings.scan.overwrite = false) :
    (env.runFile files path).isFailed = false ↔
      env.parser.isSome = true ∧ files.pathExists (Path.stubOf path) = true ∨
        env.Renders files path ∧ ∃ location, files.locate? (Path.stubOf path) = some location := by
  rw [FileReport.isFailed_eq, isConverted_runFile, isSkipped_runFile hlinks, henv, Bool.not_false,
    Bool.true_and, ← Bool.not_or, Bool.not_eq_false', Bool.or_eq_true, isSome_output?_iff,
    Bool.and_eq_true]
  constructor
  · rintro (⟨hrenders, location, htarget⟩ | hexists)
    · exact .inr ⟨hrenders, location, ((target_eq_ok_iff_locate? hlinks).1 htarget).1⟩
    · exact .inl hexists
  · rintro (hexists | ⟨hrenders, location, hlocation⟩)
    · exact .inr hexists
    · cases hentry : files.get? location with
      | none =>
        have htarget : env.target files path = .ok location :=
          (target_eq_ok_iff_locate? hlinks).2 ⟨hlocation, .inl hentry⟩
        exact .inl ⟨hrenders, location, htarget⟩
      | some =>
        obtain ⟨conversion, hrender⟩ := hrenders
        refine .inr ⟨by simpa using isNone_of_render hrender, ?_⟩
        rw [pathExists_eq, hlocation, Option.bind_some, hentry]
        rfl

end Environment

/-! ## Stubs of their own -/

namespace FileSystem

/-- Two paths lead to one place. -/
def Meets (files : FileSystem) (path other : String) : Prop :=
  ∃ location, files.locate? path = some location ∧ files.locate? other = some location

/-- No stub is an input or a source, and sources with one stub are one file. -/
structure OwnStubs (files : FileSystem) (inputs paths : List String) : Prop where
  not_meets : ∀ source ∈ paths, ∀ path ∈ inputs ++ paths, ¬files.Meets path (Path.stubOf source)
  eq_or_meets : ∀ source ∈ paths, ∀ other ∈ paths,
    files.Meets (Path.stubOf source) (Path.stubOf other) → source = other ∨ files.Meets source other

end FileSystem

namespace Environment

/-- One file can be read along all paths that lead to it. -/
theorem Renders.of_meets {path' : String} (h : env.Renders files path)
    (hmeets : files.Meets path path') : env.Renders files path' := by
  obtain ⟨parser, location, source, root, hparser, hplace, hroot⟩ := renders_iff.1 h
  obtain ⟨common, hcommon, hcommon'⟩ := hmeets
  have hsame : files.place? path' = files.place? path := by
    rw [place?_eq_map, place?_eq_map, hcommon, hcommon']
  exact renders_iff.2 ⟨parser, location, source, root, hparser, hsame.trans hplace, hroot⟩

/-- Stubs of some sources were written since, and nothing else. -/
structure Grown (env : Environment) (files : FileSystem) (paths : List String)
    (other : FileSystem) : Prop where
  locate? : ∀ path, other.locate? path = files.locate? path
  sprouts : files.Sprouts other
  get? : ∀ location, other.get? location = files.get? location ∨
    ∃ path ∈ paths, files.locate? (Path.stubOf path) = some location ∧ env.Renders files path ∧
      (env.settings.scan.overwrite = true ∨ files.get? location = none)

namespace Grown

variable {inputs paths : List String}

theorem refl (env : Environment) (files : FileSystem) (paths : List String) :
    env.Grown files paths files :=
  ⟨fun _ => rfl, .refl files, fun _ => .inl rfl⟩

theorem place?_eq (h : env.Grown files paths other) (hown : files.OwnStubs inputs paths)
    (hpath : path ∈ inputs ++ paths) : other.place? path = files.place? path := by
  rw [place?_eq_map, place?_eq_map, h.locate?]
  cases hlocation : files.locate? path with
  | none => rfl
  | some location =>
    obtain heq | ⟨source, hsource, hstub, -⟩ := h.get? location
    · simp only [Option.map_some, placeAt, heq]
    · exact absurd ⟨location, hlocation, hstub⟩ (hown.not_meets source hsource path hpath)

theorem render_eq_ok_iff {conversion : Conversion} (h : env.Grown files paths other)
    (hown : files.OwnStubs inputs paths) (hpath : path ∈ paths) :
    env.render other path = .ok conversion ↔ env.render files path = .ok conversion :=
  have hplace := h.place?_eq hown (List.mem_append_right inputs hpath)
  ⟨render_of_place? hplace.symm, render_of_place? hplace⟩

/-- A conversion writes its own stub. -/
theorem runFile (h : env.Grown files paths other) (hlinks : files.LinkFree)
    (hown : files.OwnStubs inputs paths) (hpath : path ∈ paths) :
    env.Grown files paths (env.runFile other path).files := by
  have hruns := runsTo_runFile env other path
  generalize env.runFile other path = report at hruns
  cases hruns with
  | blocked | unread | unwritten => exact h
  | @written conversion location _ hrender htarget =>
    have hwritten := writtenAt_of_target htarget (.text conversion.text)
    obtain ⟨hlocation, hentry⟩ := (target_eq_ok_iff_locate? (h.sprouts.linkFree hlinks)).1 htarget
    rw [h.locate?] at hlocation
    have hplain : files.get? location ≠ some .directory := by
      rw [Ne, ← h.sprouts.get?_directory_iff]
      exact hentry.elim (fun hnone => by simp [hnone]) And.right
    have hplace : files.StubPlace location :=
      ⟨exists_isStubName_of_locate? hlinks hlocation hplain, isText_of_locate? hlinks hlocation,
        hplain⟩
    refine ⟨fun path => hwritten.locate?_eq.trans (h.locate? path), h.sprouts.insert hplace _,
      fun changed => ?_⟩
    by_cases heq : changed = location
    · subst heq
      have hrenders : env.Renders files path := ⟨_, (h.render_eq_ok_iff hown hpath).1 hrender⟩
      refine .inr ⟨path, hpath, hlocation, hrenders, ?_⟩
      -- Nothing stood here at the start either: a stub of the run would be there now.
      obtain hvacant | ⟨hoverwrite, -⟩ := hentry
      · obtain hsame | ⟨_, -, -, -, hbefore⟩ := h.get? changed
        · exact .inr (hsame.symm.trans hvacant)
        · exact hbefore
      · exact .inl hoverwrite
    · rw [hwritten.kept changed heq]
      exact h.get? changed

/-- Where stubs are replaced, a conversion writes what it would have written before. -/
theorem output?_eq (h : env.Grown files paths other) (hlinks : files.LinkFree)
    (hown : files.OwnStubs inputs paths) (henv : env.settings.scan.overwrite = true)
    (hpath : path ∈ paths) : env.output? other path = env.output? files path := by
  have htarget (location : Location) :
      env.target other path = .ok location ↔ env.target files path = .ok location := by
    rw [target_eq_ok_iff_locate? hlinks, target_eq_ok_iff_locate? (h.sprouts.linkFree hlinks),
      h.locate?]
    refine and_congr_right fun _ => ?_
    rw [henv, or_iff_right_of_imp fun hnone => ⟨rfl, by simp [hnone]⟩,
      or_iff_right_of_imp fun hnone => ⟨rfl, by simp [hnone]⟩, Ne, Ne, h.sprouts.get?_directory_iff]
  refine Option.ext fun write => ?_
  simp only [output?_eq_some_iff, h.render_eq_ok_iff hown hpath, htarget]

/-- A stub that is found was there before, or its source can be read. -/
theorem pathExists_stub (h : env.Grown files paths other)
    (hown : files.OwnStubs inputs paths) (hpath : path ∈ paths)
    (hexists : other.pathExists (Path.stubOf path) = true) :
    files.pathExists (Path.stubOf path) = true ∨
      env.Renders files path ∧ ∃ location, files.locate? (Path.stubOf path) = some location := by
  rw [pathExists_eq, h.locate?] at hexists
  rw [pathExists_eq]
  cases hlocation : files.locate? (Path.stubOf path) with
  | none => simp [hlocation] at hexists
  | some location =>
    rw [hlocation, Option.bind_some] at hexists
    obtain heq | ⟨source, hsource, hstub, hrenders, -⟩ := h.get? location
    · exact .inl (by rwa [Option.bind_some, ← heq])
    · refine .inr ⟨?_, location, rfl⟩
      -- The conversion that wrote the stub was one of the same file.
      obtain rfl | hmeets := hown.eq_or_meets source hsource path hpath ⟨location, hstub, hlocation⟩
      · exact hrenders
      · exact hrenders.of_meets hmeets

theorem pathExists_of_pathExists (h : env.Grown files paths other)
    (hexists : files.pathExists path = true) : other.pathExists path = true := by
  rw [pathExists_eq] at hexists ⊢
  rw [h.locate?]
  cases hlocation : files.locate? path with
  | none => simp [hlocation] at hexists
  | some location =>
    rw [hlocation, Option.bind_some] at hexists
    obtain heq | ⟨-, content, hcontent⟩ := h.sprouts.get? location
    · rwa [Option.bind_some, heq]
    · rw [Option.bind_some, hcontent]
      rfl

/-- Whether a file can be converted does not depend on the conversions before. -/
theorem isFailed_eq (h : env.Grown files paths other) (hlinks : files.LinkFree)
    (hown : files.OwnStubs inputs paths) (hpath : path ∈ paths) :
    (env.runFile other path).isFailed = (env.runFile files path).isFailed := by
  have hlinks' := h.sprouts.linkFree hlinks
  cases henv : env.settings.scan.overwrite with
  | true =>
    rw [FileReport.isFailed_eq, FileReport.isFailed_eq, isConverted_runFile, isConverted_runFile,
      h.output?_eq hlinks hown henv hpath, isSkipped_runFile hlinks, isSkipped_runFile hlinks',
      henv]
    rfl
  | false =>
    have hrenders : env.Renders other path ↔ env.Renders files path :=
      exists_congr fun _ => h.render_eq_ok_iff hown hpath
    rw [Bool.eq_iff_iff, ← not_iff_not, Bool.not_eq_true, Bool.not_eq_true,
      isFailed_runFile hlinks henv, isFailed_runFile hlinks' henv, hrenders, h.locate?]
    constructor
    · rintro (⟨hparser, hexists⟩ | hready)
      · exact (h.pathExists_stub hown hpath hexists).imp_left fun hbefore => ⟨hparser, hbefore⟩
      · exact .inr hready
    · exact Or.imp_left (And.imp_right h.pathExists_of_pathExists)

/-! ### Conversions one after the other -/

variable {rest : List String}

theorem filesAfter (h : env.Grown files paths other) (hlinks : files.LinkFree)
    (hown : files.OwnStubs inputs paths) (hrest : ∀ path ∈ rest, path ∈ paths) :
    env.Grown files paths (env.filesAfter other rest) := by
  induction rest generalizing other with
  | nil => exact h
  | cons path rest ih =>
    obtain ⟨hpath, hrest⟩ := List.forall_mem_cons.1 hrest
    exact ih (h.runFile hlinks hown hpath) hrest

end Grown

end Environment

end InterfaceStub
