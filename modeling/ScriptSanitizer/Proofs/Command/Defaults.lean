import ScriptSanitizer.Command.Configuration
import ScriptSanitizer.Proofs.Toml.Lines

/-!
# What an empty table stands for

Where the table of the sanitizer is missing, the environment is asked; where it is there, what is
missing in it takes its default.  So an empty table is not the same as none: it sets back whatever
the environment sets.
-/

namespace ScriptSanitizer

namespace Command

open Toml

/-- The line that opens the table of the sanitizer. -/
def sanitizerHeader : Text := "[sanitizer]\n".toList

theorem readLines_sanitizerHeader (document : Document) :
    Document.readLines (sanitizerHeader.length + 1) document sanitizerHeader =
      (document.entries.openTable ["sanitizer".toList]).map fun entries =>
        ⟨entries, ["sanitizer".toList]⟩ := by
  have line : document.readLine sanitizerHeader =
      (document.entries.openTable ["sanitizer".toList]).bind fun entries =>
        some (⟨entries, ["sanitizer".toList]⟩, ['\n']) := rfl
  rw [Document.readLines, line]
  cases document.entries.openTable ["sanitizer".toList] <;> rfl

theorem openTable_of_lookup_eq_none {entries : Entries} {key : Text}
    (missing : entries.lookup key = none) :
    entries.openTable [key] = some (entries ++ [(key, .table .header [])]) := by
  simp only [Entries.openTable, Entries.changeAt, missing]

/-- A header behind a document without this table adds the table and nothing else. -/
theorem ofText?_append_sanitizerHeader {text : Text} {entries : Entries}
    (read : Document.ofText? text = some entries)
    (missing : entries.lookup "sanitizer".toList = none) :
    Document.ofText? (text ++ '\n' :: sanitizerHeader) =
      some (entries ++ [("sanitizer".toList, .table .header [])]) := by
  obtain ⟨document, rfl, more⟩ := Document.ofText?_append read
  rw [more, readLines_sanitizerHeader, openTable_of_lookup_eq_none missing]
  rfl

namespace Configuration

/-- The settings of the sanitizer that the entries of a document write. -/
def settingsIn (environment : Environment) (entries : Entries) :
    Except ConfigurationError Settings :=
  match entries.lookup "sanitizer".toList with
  | some value => readSettings value
  | none => .ok (Settings.ofEnvironment environment).value

/-- The settings of the log that the entries of a document write. -/
def logSettingsIn (entries : Entries) : Except ConfigurationError LogSettings :=
  match entries.lookup "log".toList with
  | some value => readLogSettings value
  | none => .ok {}

variable {environment : Environment} {text : Text} {entries : Entries}
  {configuration : Configuration}

theorem ofText?_eq_ok_iff (read : Document.ofText? text = some entries) :
    ofText? environment text = .ok configuration ↔
      settingsIn environment entries = .ok configuration.sanitizer ∧
        logSettingsIn entries = .ok configuration.log := by
  have parts : ofText? environment text =
      (settingsIn environment entries).bind fun sanitizer =>
        (logSettingsIn entries).bind fun log => .ok ⟨sanitizer, log⟩ := by
    simp only [ofText?, read, settingsIn, logSettingsIn]
    cases entries.lookup "sanitizer".toList <;> cases entries.lookup "log".toList <;> rfl
  rw [parts]
  cases settingsIn environment entries with
  | error failure => simp [Except.bind]
  | ok sanitizer =>
    cases logSettingsIn entries with
    | error failure => simp [Except.bind]
    | ok log =>
      obtain ⟨_, _⟩ := configuration
      simp [Except.bind]

theorem logSettingsIn_append_table (table : Value) :
    logSettingsIn (entries ++ [("sanitizer".toList, table)]) = logSettingsIn entries := by
  have other : List.lookup "log".toList [("sanitizer".toList, table)] = none := rfl
  rw [logSettingsIn, List.lookup_append, other, Option.or_none]
  rfl

theorem settingsIn_append_table (missing : entries.lookup "sanitizer".toList = none)
    (table : Value) :
    settingsIn environment (entries ++ [("sanitizer".toList, table)]) = readSettings table := by
  have found : List.lookup "sanitizer".toList [("sanitizer".toList, table)] = some table := rfl
  rw [settingsIn, List.lookup_append, missing, found]
  rfl

/-- An empty table behind a document without one replaces what the environment sets by the
defaults, and nothing else. -/
theorem ofText?_append_emptyTable (read : Document.ofText? text = some entries)
    (missing : entries.lookup "sanitizer".toList = none)
    (accepted : ofText? environment text = .ok configuration) :
    configuration.sanitizer = (Settings.ofEnvironment environment).value ∧
      ofText? environment (text ++ '\n' :: sanitizerHeader) =
        .ok { configuration with sanitizer := {} } ∧
      (ofText? environment (text ++ '\n' :: sanitizerHeader) = ofText? environment text ↔
        (Settings.ofEnvironment environment).value = {}) := by
  obtain ⟨settings, log⟩ := (ofText?_eq_ok_iff read).mp accepted
  have from_environment : configuration.sanitizer = (Settings.ofEnvironment environment).value := by
    rw [settingsIn, missing] at settings
    exact (Except.ok.inj settings).symm
  have emptied : ofText? environment (text ++ '\n' :: sanitizerHeader) =
      .ok { configuration with sanitizer := {} } := by
    refine (ofText?_eq_ok_iff (ofText?_append_sanitizerHeader read missing)).mpr ⟨?_, ?_⟩
    · exact settingsIn_append_table missing _
    · exact (logSettingsIn_append_table _).trans log
  refine ⟨from_environment, emptied, ?_⟩
  rw [emptied, accepted, ← from_environment, Except.ok.injEq]
  constructor
  · intro same
    rw [← same]
  · intro defaults
    rw [← defaults]

theorem eq_ok_of_toOption_eq_some {Failure Result : Type} {outcome : Except Failure Result}
    {result : Result} (succeeds : outcome.toOption = some result) : outcome = .ok result := by
  cases outcome with
  | error failure => cases succeeds
  | ok result => exact congrArg Except.ok (Option.some.inj succeeds)

/-- With a bound on passes in the environment, an empty table changes the settings but not the
log. -/
theorem ofText?_append_emptyTable_log :
    ∃ entries, Document.ofText? "[log]\nlevel = \"debug\"".toList = some entries ∧
      entries.lookup "sanitizer".toList = none ∧
      ofText? [(Settings.maxPassesKey, ['3'])] "[log]\nlevel = \"debug\"".toList =
        .ok ⟨{ maxPasses := 3 }, { level := .atLeast .debug }⟩ ∧
      ofText? [(Settings.maxPassesKey, ['3'])]
          ("[log]\nlevel = \"debug\"".toList ++ '\n' :: sanitizerHeader) =
        .ok ⟨{}, { level := .atLeast .debug }⟩ := by
  have missing : (Document.ofText? "[log]\nlevel = \"debug\"".toList).map
      (fun entries => (entries.lookup "sanitizer".toList).isNone) = some true := by
    decide +kernel
  obtain ⟨entries, read, missing⟩ := Option.map_eq_some_iff.mp missing
  rw [Option.isNone_iff_eq_none] at missing
  have accepted : (ofText? [(Settings.maxPassesKey, ['3'])]
      "[log]\nlevel = \"debug\"".toList).toOption =
        some ⟨{ maxPasses := 3 }, { level := .atLeast .debug }⟩ := by
    decide +kernel
  have accepted := eq_ok_of_toOption_eq_some accepted
  exact ⟨entries, read, missing, accepted, (ofText?_append_emptyTable read missing accepted).2.1⟩

/-- An empty text takes its bound on passes from the environment, and an empty table does not. -/
theorem ofText?_emptyTable_ne_ofText?_nil :
    Document.ofText? [] = some [] ∧
      ofText? [(Settings.maxPassesKey, ['3'])] [] = .ok ⟨{ maxPasses := 3 }, {}⟩ ∧
      ofText? [(Settings.maxPassesKey, ['3'])] ([] ++ '\n' :: sanitizerHeader) = .ok ⟨{}, {}⟩ ∧
      ofText? [(Settings.maxPassesKey, ['3'])] ([] ++ '\n' :: sanitizerHeader) ≠
        ofText? [(Settings.maxPassesKey, ['3'])] [] := by
  have taken : ofText? [(Settings.maxPassesKey, ['3'])] [] = .ok ⟨{ maxPasses := 3 }, {}⟩ := rfl
  have replaced : ofText? [(Settings.maxPassesKey, ['3'])] ([] ++ '\n' :: sanitizerHeader) =
      .ok ⟨{}, {}⟩ := rfl
  refine ⟨rfl, taken, replaced, fun same => ?_⟩
  rw [taken, replaced] at same
  cases same

end Configuration

end Command

end ScriptSanitizer
