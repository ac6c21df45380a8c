import DocSearch.Proofs.Settings.Loading

namespace DocSearch

/-! A file of settings on its own. It comes to the same whether it is asked for by its path or named
by the environment, as long as no other source says anything. Only a path that leads to no such file,
or to none that can be opened, makes a difference: it is an error for one, and no source for the
other. -/

namespace Files

variable {files : Files} {directory name : String}

/-- A file in one of the formats is there under its full name. -/
structure Holds (files : Files) (path content : String) : Prop where
  isName : endsInDirectory path = false
  there : files.file? (files.fullSteps path) = some (.ok content)
  inFormat : ∃ format ∈ files.formats,
    endingOf ((files.fullSteps path).getLastD "") ∈ format.endings

theorem Holds.resolve {path content : String} (holds : files.Holds path content) :
    ∃ found, files.resolve path = .ok found ∧ found.content = content := by
  have known : (files.formats.find? fun format =>
      format.endings.contains (endingOf ((files.fullSteps path).getLastD ""))).isSome := by
    simpa using holds.inFormat
  obtain ⟨format, known⟩ := Option.isSome_iff_exists.mp known
  simp only [Files.resolve, holds.isName, Bool.false_eq_true, if_false, holds.there, known]
  exact ⟨_, rfl, rfl⟩

/-- There is no file of this name with an ending of a format, in this directory below the working
directory. -/
def Lacks (files : Files) (directory name : String) : Prop :=
  ∀ format ∈ files.formats, ∀ ending ∈ format.endings,
    files.file? (files.workingDirectory ++ [directory, name ++ "." ++ ending]) = none

theorem withEnding?_below (place : List String) (named : name ≠ "..") (ending : String) :
    withEnding? (place ++ [directory, name]) ending =
      some (place ++ [directory, name ++ "." ++ ending]) := by
  have last : (place ++ [directory, name]).getLast? = some name := by simp
  have before : (place ++ [directory, name]).dropLast = place ++ [directory] := by
    rw [List.append_cons, List.dropLast_concat]
  simp [withEnding?, last, before, named]

theorem find?_unnamed (formats : List FileFormat) :
    formats.find? (fun format => format.endings.contains "") = none := by
  refine List.find?_eq_none.mpr fun format _ => ?_
  simpa using format.named

theorem optional_of_lacks (lacks : files.Lacks directory name) {path : String}
    (leads : files.fullSteps path = files.workingDirectory ++ [directory, name])
    (named : name ≠ "..") (bare : endingOf name = "") : files.optional path = .ok [] := by
  have formatless : files.formats.findSome? (files.inFormat? (files.fullSteps path)) = none := by
    rw [leads]
    refine List.findSome?_eq_none_iff.mpr fun format listed => ?_
    refine List.findSome?_eq_none_iff.mpr fun ending member => ?_
    simp [withEnding?_below _ named, lacks format listed ending member]
  have last : (files.fullSteps path).getLastD "" = name := by
    rw [leads, List.getLastD_eq_getLast?]
    simp
  -- A file of exactly this name would be of no known format, so it does not count either.
  have unresolved : ∃ e, files.resolve path = .error e := by
    simp only [resolve, last, bare, find?_unnamed, formatless]
    split <;> exact ⟨_, rfl⟩
  obtain ⟨e, unresolved⟩ := unresolved
  rw [optional, unresolved]

end Files

namespace Environment

/-- None of the variables belongs to the settings, however its name is spelled. -/
def Unset (environment : Environment) : Prop :=
  ∀ assigned ∈ environment,
    ¬ (applicationName ++ "__").toList <+: (Text.lowercase assigned.1).toList

theorem entries_of_unset {environment : Environment} (unset : environment.Unset) :
    environment.entries = [] := by
  refine List.filterMap_eq_nil_iff.mpr fun assigned listed => ?_
  have foreign : key? assigned.1 = none := by
    rw [key?, if_neg (mt List.isPrefixOf_iff_prefix.mp (unset assigned listed))]
  simp only [foreign, Option.map_none]

end Environment

namespace Settings

variable {files : Files} {environment : Environment} {path : String}

theorem ofSources_alone (file : List (String × Entry)) :
    ofSources [[], file, []] = ofSources [file] := rfl

theorem ofSources_silent : ofSources [[], [], []] = .ok default := by decide +kernel

theorem isConfig_of_ofSources {sources : List (List (String × Entry))} {e : Error}
    (failed : ofSources sources = .error e) : ∃ reason, e = .config reason := by
  unfold ofSources at failed
  split at failed
  · cases failed
    exact ⟨_, rfl⟩
  · next settings _ =>
      cases flaw : settings.flaw? with
      | none => simp [validate, flaw, Except.map] at failed
      | some flawed =>
          simp only [validate, flaw, Except.map, Except.error.injEq] at failed
          exact ⟨_, failed.symm⟩

theorem isConfig_of_fromFile {e : Error} (failed : fromFile files path = .error e) :
    ∃ reason, e = .config reason := by
  unfold fromFile at failed
  split at failed
  · cases failed
    exact ⟨_, rfl⟩
  · exact isConfig_of_ofSources failed

section Alone

variable (lacks : files.Lacks "config" "osorm") (unset : environment.Unset)
  (named : environment.lookup "OSORM_CONFIG" = some path)
include lacks unset named

theorem sources_of_named :
    sources files environment = (files.optional path).map fun file => [[], file, []] := by
  have shared : files.optional ("./config/" ++ applicationName) = .ok [] :=
    Files.optional_of_lacks lacks rfl (by decide) (by decide)
  have spelled : applicationName.map Char.toUpper ++ "_CONFIG" = "OSORM_CONFIG" := by decide +kernel
  rw [sources, shared, spelled, named, Environment.entries_of_unset unset]
  show (do let file ← files.optional path; pure [[], file, []]) = _
  cases files.optional path <;> rfl

theorem value_load_of_named :
    (load files environment).value =
      match files.optional path with
      | .error e => .error e.toError
      | .ok file => ofSources [file] := by
  have parsed := sources_of_named lacks unset named
  cases read : files.optional path with
  | error e =>
      rw [read] at parsed
      simp only [load, parsed, Except.map]
      rfl
  | ok file =>
      rw [read] at parsed
      exact (value_load parsed).trans (ofSources_alone file)

end Alone

end Settings

end DocSearch
