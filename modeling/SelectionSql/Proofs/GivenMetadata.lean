import SelectionSql.CommandLine.Run
import SelectionSql.Proofs.Outcome

/-!
# Given metadata - Commands that leave the settings aside

Settings say where metadata is, unless the arguments do, and how much is logged.  They come from
one of several files and variables, each of which may be missing or broken.  A command that is
given a metadata file reads nothing but the files that its arguments name, so that whatever the
settings are it ends in the same way and prints the same, up to a warning about the log level and
to what it logs, which an `Outcome` does not hold.  Without a metadata file the settings decide how
it ends.

Main results:

- `Environment.runLevels_congr`, `Environment.runCompile_congr`: commands read the files that
  they are given.
- `Invocation.sameResult_run`: where the metadata file is given, only these files matter.
- `Invocation.exists_error_ne`: where it is not, settings do.
- `Invocation.leavesMetadata_eq_false_iff`: which arguments give a metadata file.
- `runArguments_independent_iff`: command lines that do not depend on settings.
-/

namespace SelectionSql

/-! ## Environments and outcomes -/

/-- Environments agree on some paths when the same is found behind each of them. -/
def Environment.AgreeOn (paths : List String) (first second : Environment) : Prop :=
  ∀ path ∈ paths, first.files path = second.files path

/-- Outcomes have the same result when they differ in their printed warnings at most. -/
structure Outcome.SameResult (first second : Outcome) : Prop where
  exitCode_eq : first.exitCode = second.exitCode
  output_eq : first.output = second.output
  error_eq : first.error = second.error

/-- Warnings are no part of a result. -/
theorem sameResult_outcomeOf (warnings others : List String)
    (printed : Except CommandFault String) :
    (outcomeOf warnings printed).SameResult (outcomeOf others printed) := by
  cases printed <;> exact ⟨rfl, rfl, rfl⟩

/-- An outcome has the warnings that it is given. -/
theorem warnings_outcomeOf (warnings : List String) (printed : Except CommandFault String) :
    (outcomeOf warnings printed).warnings = warnings := by
  cases printed <;> rfl

/-- A warning is printed only about settings that can be read and have no valid log level. -/
theorem mem_settingsWarnings {settings : Except SettingsFault Settings} {warning : String} :
    warning ∈ settingsWarnings settings ↔ ∃ read, settings = .ok read ∧
      read.level = .error (.invalidLogLevel read.logLevel) ∧
      warning = "Warning: Invalid log level: " ++ read.logLevel ++ "; using warn" := by
  cases settings with
  | error fault => simp [settingsWarnings]
  | ok read =>
      have hmessage : (SettingsFault.invalidLogLevel read.logLevel).message =
        "Invalid log level: " ++ read.logLevel := rfl
      have hlevel : (∃ level, read.level = .ok level) ∨
          read.level = .error (.invalidLogLevel read.logLevel) := by
        simp only [Settings.level, LogLevel.parse]
        split
        next level _ => exact Or.inl ⟨level, rfl⟩
        next => exact Or.inr rfl
      rcases hlevel with ⟨level, hlevel⟩ | hlevel
      · simp [settingsWarnings, hlevel]
      · simp [settingsWarnings, hlevel, hmessage, ← String.append_assoc]

namespace Environment

variable {first second : Environment} {path root request query : String} {format : OutputFormat}

/-- A catalog is read from the metadata file that is given. -/
theorem catalog_congr (h : first.files path = second.files path) :
    first.catalog (some path) = second.catalog (some path) := by
  show (Catalog.ofFile first.files path).mapError _ = (Catalog.ofFile second.files path).mapError _
  rw [Catalog.ofFile, Catalog.ofFile, h]

/-- A document is read from its file. -/
theorem readDocument_congr {α : Type} {ofDocument? : Document → Option α}
    (h : first.files path = second.files path) :
    first.readDocument ofDocument? path = second.readDocument ofDocument? path := by
  rw [readDocument, readDocument, h]

/-- Levels are listed from the metadata file that is given. -/
theorem runLevels_congr (h : first.files path = second.files path) :
    runLevels first root (some path) = runLevels second root (some path) := by
  rw [runLevels, runLevels, catalog_congr h]

/-- Queries are compiled from the metadata file that is given, the request and the query. -/
theorem runCompile_congr (hmetadata : first.files path = second.files path)
    (hrequest : first.files request = second.files request)
    (hquery : first.files query = second.files query) :
    runCompile first request query (some path) format =
      runCompile second request query (some path) format := by
  rw [runCompile, runCompile, catalog_congr hmetadata, readDocument_congr hrequest,
    readDocument_congr hquery]

/-- Nothing to read, and one variable at most: the one that names a settings file. -/
def bare (named : Option String) : Environment where
  files := fun _ => .error .missing
  valueOf? := fun name => if name = settingsVariable then named else none

/-- Where there is nothing, settings have their defaults and name no metadata file. -/
theorem metadataPath_bare_none : (bare none).metadataPath none = .error .noMetadata := rfl

/-- A settings file that is named must be there. -/
theorem metadataPath_bare_some (path : String) :
    (bare (some path)).metadataPath none = .error (.settings (.missingFile path)) := rfl

end Environment

/-! ## Invocations -/

namespace Invocation

open Environment

variable {invocation : Invocation} {environment first second : Environment}

/-- Whether it is left to the settings to name the metadata file. -/
def leavesMetadata : Invocation → Bool
  | levels _ none => true
  | compile _ _ none _ => true
  | _ => false

/-- Where the metadata file is not left to the settings, the result depends on the files that
are named. -/
theorem sameResult_run (h : invocation.leavesMetadata = false)
    (hagree : AgreeOn invocation.paths first second) :
    (invocation.run first).SameResult (invocation.run second) := by
  cases invocation with
  | version => exact ⟨rfl, rfl, rfl⟩
  | help => exact ⟨rfl, rfl, rfl⟩
  | levels root metadata =>
      cases metadata with
      | none => cases h
      | some path =>
          have hprinted : runLevels first root (some path) = runLevels second root (some path) :=
            runLevels_congr (hagree path (by simp [paths]))
          rw [run, run, hprinted]
          exact sameResult_outcomeOf _ _ _
  | compile request query metadata format =>
      cases metadata with
      | none => cases h
      | some path =>
          have hprinted : runCompile first request query (some path) format =
              runCompile second request query (some path) format :=
            runCompile_congr (hagree path (by simp [paths])) (hagree request (by simp [paths]))
              (hagree query (by simp [paths]))
          rw [run, run, hprinted]
          exact sameResult_outcomeOf _ _ _

/-- Where the metadata file is left to the settings, it is an error if these do not name it. -/
theorem error_run {fault : CommandFault} (h : invocation.leavesMetadata = true)
    (hpath : environment.metadataPath none = .error fault) :
    (invocation.run environment).error = some ("Error: " ++ fault.message) := by
  have hcatalog : environment.catalog none = .error fault := by
    rw [catalog, hpath]
    rfl
  cases invocation with
  | version => cases h
  | help => cases h
  | levels root metadata =>
      cases metadata with
      | none => rw [run, runLevels, hcatalog]; rfl
      | some path => cases h
  | compile request query metadata format =>
      cases metadata with
      | none => rw [run, runCompile, hcatalog]; rfl
      | some path => cases h

/-- Where the metadata file is left to the settings, the error depends on these, even if there
are no files at all. -/
theorem exists_error_ne (h : invocation.leavesMetadata = true) :
    ∃ first second : Environment, first.files = second.files ∧
      (invocation.run first).error ≠ (invocation.run second).error := by
  refine ⟨bare none, bare (some localSettings), rfl, ?_⟩
  rw [error_run h metadataPath_bare_none, error_run h (metadataPath_bare_some localSettings)]
  decide

/-- Of settings, only those without a valid log level have a warning printed about them. -/
theorem mem_warnings_run {warning : String} (h : warning ∈ (invocation.run environment).warnings) :
    ∃ read, environment.settings = .ok read ∧
      read.level = .error (.invalidLogLevel read.logLevel) ∧
      warning = "Warning: Invalid log level: " ++ read.logLevel ++ "; using warn" := by
  cases invocation with
  | version => exact absurd h List.not_mem_nil
  | help => exact absurd h List.not_mem_nil
  | levels root metadata =>
      rw [run, warnings_outcomeOf] at h
      exact mem_settingsWarnings.mp h
  | compile request query metadata format =>
      rw [run, warnings_outcomeOf] at h
      exact mem_settingsWarnings.mp h

/-! ## Arguments -/

/-- The options of `levels` and `compile`. -/
def optionsOf (command : String) : List OptionName :=
  if command = "levels" then levelsOptions else compileOptions

/-- The arguments of `levels` or `compile` give the option for the metadata file. -/
def GivesMetadata (command : String) (arguments : List String) : Prop :=
  ∃ given, Options.read (optionsOf command) arguments = .ok given ∧
    Options.values given metadataOption.long ≠ []

variable {command name : String} {arguments : List String}
variable {given : List GivenOption} {value : Option String}

/-- An option that may be given once has the value that is given for it, if there is one. -/
theorem values_of_single? (h : Options.single? given name = .ok value) :
    Options.values given name = value.toList := by
  unfold Options.single? at h
  split at h
  next hvalues => cases Except.ok.inj h; exact hvalues
  next hvalues => cases Except.ok.inj h; exact hvalues
  next => cases h

/-- A path is given exactly when there is a value for its option. -/
theorem values_of_givenPath (h : givenPath given name = .ok value) :
    Options.values given name = value.toList := by
  obtain ⟨found, hfound, h⟩ := Outcome.bind_eq_ok.mp h
  have hvalues := values_of_single? hfound
  cases found with
  | none =>
      cases Except.ok.inj h
      exact hvalues
  | some path =>
      obtain ⟨required, hrequired, rfl⟩ := Outcome.map_eq_ok.mp h
      unfold Options.requirePath at hrequired
      split at hrequired
      next => cases hrequired
      next =>
          cases Except.ok.inj hrequired
          exact hvalues

/-- Levels are listed by the metadata file that is given, unless help is asked for. -/
theorem of_levelsOf (h : levelsOf arguments = .ok invocation) :
    ∃ (given : List GivenOption) (value : Option String),
      Options.read levelsOptions arguments = .ok given ∧
      givenPath given metadataOption.long = .ok value ∧
      (invocation = .help ∨ ∃ root, invocation = .levels root value) := by
  obtain ⟨given, hgiven, h⟩ := Outcome.bind_eq_ok.mp h
  obtain ⟨root?, -, h⟩ := Outcome.bind_eq_ok.mp h
  obtain ⟨value, hvalue, h⟩ := Outcome.bind_eq_ok.mp h
  refine ⟨given, value, hgiven, hvalue, ?_⟩
  split at h
  next => exact Or.inl (Except.ok.inj h).symm
  next =>
      obtain ⟨root, -, h⟩ := Outcome.bind_eq_ok.mp h
      exact Or.inr ⟨root, (Except.ok.inj h).symm⟩

/-- Queries are compiled by the metadata file that is given, unless help is asked for. -/
theorem of_compileOf (h : compileOf arguments = .ok invocation) :
    ∃ (given : List GivenOption) (value : Option String),
      Options.read compileOptions arguments = .ok given ∧
      givenPath given metadataOption.long = .ok value ∧
      (invocation = .help ∨ ∃ request query format,
        invocation = .compile request query value format) := by
  obtain ⟨given, hgiven, h⟩ := Outcome.bind_eq_ok.mp h
  obtain ⟨request?, -, h⟩ := Outcome.bind_eq_ok.mp h
  obtain ⟨query?, -, h⟩ := Outcome.bind_eq_ok.mp h
  obtain ⟨value, hvalue, h⟩ := Outcome.bind_eq_ok.mp h
  obtain ⟨format, -, h⟩ := Outcome.bind_eq_ok.mp h
  refine ⟨given, value, hgiven, hvalue, ?_⟩
  split at h
  next => exact Or.inl (Except.ok.inj h).symm
  next =>
      obtain ⟨request, -, h⟩ := Outcome.bind_eq_ok.mp h
      obtain ⟨query, -, h⟩ := Outcome.bind_eq_ok.mp h
      exact Or.inr ⟨request, query, format, (Except.ok.inj h).symm⟩

/-- Arguments of `levels` and `compile` ask for help, or else they name the metadata file or
leave it to the settings. -/
theorem of_ofArguments (hcommand : command = "levels" ∨ command = "compile")
    (h : ofArguments (command :: arguments) = .ok invocation) :
    ∃ (given : List GivenOption) (value : Option String),
      Options.read (optionsOf command) arguments = .ok given ∧
      Options.values given metadataOption.long = value.toList ∧
      (invocation = .help ∨ invocation.leavesMetadata = value.isNone) := by
  rcases hcommand with rfl | rfl
  · obtain ⟨given, value, hgiven, hvalue, hinvocation⟩ := of_levelsOf h
    refine ⟨given, value, hgiven, values_of_givenPath hvalue, hinvocation.imp_right ?_⟩
    rintro ⟨root, rfl⟩
    cases value <;> rfl
  · obtain ⟨given, value, hgiven, hvalue, hinvocation⟩ := of_compileOf h
    refine ⟨given, value, hgiven, values_of_givenPath hvalue, hinvocation.imp_right ?_⟩
    rintro ⟨request, query, format, rfl⟩
    cases value <;> rfl

/-- The metadata file is not left to the settings exactly when its option is given, or help is
asked for. -/
theorem leavesMetadata_eq_false_iff (hcommand : command = "levels" ∨ command = "compile")
    (h : ofArguments (command :: arguments) = .ok invocation) :
    invocation.leavesMetadata = false ↔
      GivesMetadata command arguments ∨ invocation = .help := by
  obtain ⟨given, value, hgiven, hvalues, hinvocation⟩ := of_ofArguments hcommand h
  have hgives : GivesMetadata command arguments ↔ value.isNone = false := by
    unfold GivesMetadata
    simp only [hgiven, Except.ok.injEq, exists_eq_left', hvalues]
    cases value <;> simp
  rcases hinvocation with rfl | hleaves
  · exact iff_of_true rfl (Or.inr rfl)
  · rw [hgives, hleaves]
    constructor
    · exact Or.inl
    · rintro (hsome | rfl)
      · exact hsome
      · exact hleaves.symm

end Invocation

/-- A valid command line of `levels` or `compile` ends in the same way and prints the same in
any two environments that agree on the files that it names, exactly when it gives a metadata
file or asks for help.  Warnings may differ, and one is printed only about settings that can be
read and have no valid log level.  What is logged is not compared. -/
theorem runArguments_independent_iff {command : String} {arguments : List String}
    {invocation : Invocation} (hcommand : command = "levels" ∨ command = "compile")
    (hvalid : Invocation.ofArguments (command :: arguments) = .ok invocation) :
    ((∀ first second, Environment.AgreeOn invocation.paths first second →
        (runArguments first (command :: arguments)).SameResult
          (runArguments second (command :: arguments))) ↔
      Invocation.GivesMetadata command arguments ∨ invocation = .help) ∧
    ∀ environment, ∀ warning ∈ (runArguments environment (command :: arguments)).warnings,
      ∃ read, environment.settings = .ok read ∧
        read.level = .error (.invalidLogLevel read.logLevel) ∧
        warning = "Warning: Invalid log level: " ++ read.logLevel ++ "; using warn" := by
  have hrun : ∀ environment, runArguments environment (command :: arguments) =
      invocation.run environment := by
    intro environment
    rw [runArguments, hvalid]
  simp only [hrun]
  refine ⟨?_, fun environment warning => Invocation.mem_warnings_run⟩
  rw [← Invocation.leavesMetadata_eq_false_iff hcommand hvalid]
  constructor
  · intro hsame
    refine Bool.eq_false_iff.mpr fun hleaves => ?_
    obtain ⟨first, second, hfiles, hne⟩ := Invocation.exists_error_ne hleaves
    exact hne (hsame first second fun path _ => congrFun hfiles path).error_eq
  · intro hleaves first second
    exact Invocation.sameResult_run hleaves

namespace Hospital

/-- A metadata file with one entity. -/
def clinicFile : String :=
  "[[entities]]\nname = \"Clinic\"\ntable = \"clinic_tbl\"\nroot = true\n"

/-- Settings without a valid log level. -/
def loudSettings : String := "[logging]\nlevel = \"loud\"\n"

/-- An environment with that metadata file, and with something or nothing as the settings file of
the working directory. -/
def clinicEnvironment (settings : Except FileFault String) : Environment where
  files := fun path =>
    if path = "clinic.toml" then .ok clinicFile
    else if path = Environment.localSettings then settings
    else .error .missing
  valueOf? := fun _ => none

/-- Arguments that ask for the levels in that metadata file. -/
def clinicArguments : List String := ["--metadata", "clinic.toml", "-r", "Clinic"]

/-- The listing of these levels. -/
def clinicListing : String :=
  "Graph levels for Clinic:\n  rootObject                       Clinic\n"

/-- The levels are listed with settings that have no valid log level, which is warned about, and
in the same way whatever the fault with which reading the settings file ends. -/
theorem clinic_listed_anyhow :
    Invocation.ofArguments ("levels" :: clinicArguments) =
      .ok (.levels "Clinic" (some "clinic.toml")) ∧
    Invocation.GivesMetadata "levels" clinicArguments ∧
    runArguments (clinicEnvironment (.ok loudSettings)) ("levels" :: clinicArguments) =
      { exitCode := 0
        output := clinicListing
        warnings := ["Warning: Invalid log level: loud; using warn"] } ∧
    ∀ fault, (runArguments (clinicEnvironment (.error fault))
      ("levels" :: clinicArguments)).SameResult { exitCode := 0, output := clinicListing } := by
  have hvalid : Invocation.ofArguments ("levels" :: clinicArguments) =
      .ok (.levels "Clinic" (some "clinic.toml")) := rfl
  have hgives : Invocation.GivesMetadata "levels" clinicArguments := ⟨_, rfl, by decide⟩
  have hlisted : runArguments (clinicEnvironment (.ok loudSettings))
        ("levels" :: clinicArguments) =
      { exitCode := 0
        output := clinicListing
        warnings := ["Warning: Invalid log level: loud; using warn"] } := by
    decide +kernel
  refine ⟨hvalid, hgives, hlisted, fun fault => ?_⟩
  have hagree : (clinicEnvironment (.error fault)).AgreeOn ["clinic.toml"]
      (clinicEnvironment (.ok loudSettings)) := by
    simp [Environment.AgreeOn, clinicEnvironment]
  have hsame :=
    (runArguments_independent_iff (Or.inl rfl) hvalid).1.mpr (Or.inl hgives) _ _ hagree
  rw [hlisted] at hsame
  exact ⟨hsame.exitCode_eq, hsame.output_eq, hsame.error_eq⟩

end Hospital

end SelectionSql
