import ScriptSanitizer.Proofs.Command.Arguments
import ScriptSanitizer.Proofs.Command.Lines

/-!
# What the exit status tells

A run that was asked for something either fails, and then writes one line about the error and no
output, or gives a report.  Only a check of values that sanitizing changes makes a report with a
finding, and the output of a check is the one that sanitizing gives without it.
-/

namespace ScriptSanitizer

namespace Command

/-- The sanitizer that a request sets up. -/
def Request.sanitizer? (surroundings : Surroundings) (request : Request) :
    Except RunError Sanitizer := do
  let configuration ← loadConfiguration surroundings request.options.config
  (Sanitizer.ofSettings? (request.options.settings configuration.sanitizer)).mapError .settings

/-- The report that a request gives. -/
def Request.report? (surroundings : Surroundings) (request : Request) : Except RunError Report := do
  let sanitizer ← request.sanitizer? surroundings
  (request.task.perform surroundings sanitizer).value

/-- What a run writes and its status, for the report that it gives. -/
def Outcome.Shows (outcome : Outcome) : Except RunError Report → Prop
  | .error error => outcome.code = 2 ∧ outcome.output = [] ∧ outcome.messages = [errorLine error]
  | .ok report =>
    outcome.output = report.output ∧
      match report.finding with
      | none => outcome.code = 0 ∧ outcome.messages = []
      | some (changed, total) =>
        outcome.code = 1 ∧ outcome.messages = [findingLine changed total]

theorem errorLine_isError (error : RunError) : "Error:".toList <+: errorLine error :=
  ⟨' ' :: error.message, rfl⟩

theorem findingLine_not_error (changed total : Nat) :
    ¬ "Error:".toList <+: findingLine changed total := by
  rintro ⟨rest, same⟩
  cases (List.cons.inj same).1

namespace Outcome.Shows

variable {outcome : Outcome} {report? : Except RunError Report}

theorem code_eq_two_iff (shown : outcome.Shows report?) :
    outcome.code = 2 ↔ ∃ error, report? = .error error := by
  cases report? with
  | error error => exact iff_of_true shown.1 ⟨error, rfl⟩
  | ok report =>
      obtain ⟨output, _ | ⟨changed, total⟩⟩ := report
      · simp [shown.2.1]
      · simp [shown.2.1]

theorem error_message_iff (shown : outcome.Shows report?) :
    (∃ message ∈ outcome.messages, "Error:".toList <+: message) ↔
      ∃ error, report? = .error error := by
  cases report? with
  | error error =>
      refine iff_of_true ⟨errorLine error, ?_, errorLine_isError error⟩ ⟨error, rfl⟩
      rw [shown.2.2]
      exact List.mem_singleton_self _
  | ok report =>
      refine iff_of_false ?_ (fun ⟨_, missing⟩ => nomatch missing)
      obtain ⟨output, _ | ⟨changed, total⟩⟩ := report
      · rw [shown.2.2]
        exact fun ⟨_, member, _⟩ => absurd member List.not_mem_nil
      · rw [shown.2.2]
        rintro ⟨message, member, isError⟩
        cases List.mem_singleton.mp member
        exact findingLine_not_error changed total isError

theorem output_eq_nil (shown : outcome.Shows report?) (failed : outcome.code = 2) :
    outcome.output = [] := by
  obtain ⟨error, rfl⟩ := shown.code_eq_two_iff.mp failed
  exact shown.2.1

theorem code_eq_one_iff (shown : outcome.Shows report?) :
    outcome.code = 1 ↔ ∃ report, report? = .ok report ∧ report.finding ≠ none := by
  cases report? with
  | error error =>
      rw [shown.1]
      exact iff_of_false (by decide) (fun ⟨_, missing, _⟩ => nomatch missing)
  | ok report =>
      obtain ⟨output, _ | ⟨changed, total⟩⟩ := report
      · rw [shown.2.1]
        refine iff_of_false (by decide) ?_
        rintro ⟨_, ⟨⟩, found⟩
        exact found rfl
      · exact iff_of_true shown.2.1 ⟨_, rfl, Option.some_ne_none _⟩

theorem code_eq_zero (shown : outcome.Shows report?) (succeeded : outcome.code ≠ 2)
    (clean : outcome.code ≠ 1) : outcome.code = 0 := by
  cases report? with
  | error error => exact absurd shown.1 succeeded
  | ok report =>
      obtain ⟨output, _ | ⟨changed, total⟩⟩ := report
      · exact shown.2.1
      · exact absurd shown.2.1 clean

end Outcome.Shows

theorem Outcome.ofReport_shows (environment : Environment) (log : LogSettings)
    (logged : Logged (Except RunError Report)) :
    (Outcome.ofReport environment log logged).Shows logged.value := by
  unfold Outcome.ofReport
  cases logged.value with
  | error error => exact ⟨rfl, rfl, rfl⟩
  | ok report =>
      obtain ⟨output, _ | ⟨changed, total⟩⟩ := report
      · exact ⟨rfl, rfl, rfl⟩
      · exact ⟨rfl, rfl, rfl⟩

theorem value_perform (surroundings : Surroundings) (settings : Settings) (task : Task) :
    (perform surroundings settings task).value =
      (Sanitizer.ofSettings? settings).mapError .settings >>= fun sanitizer =>
        (task.perform surroundings sanitizer).value := by
  unfold perform
  cases Sanitizer.ofSettings? settings <;> rfl

/-- The outcome of a request shows its report. -/
theorem Request.outcome_shows (surroundings : Surroundings) (request : Request) :
    (request.outcome surroundings).Shows (request.report? surroundings) := by
  unfold Request.outcome Request.report? Request.sanitizer?
  cases loadConfiguration surroundings request.options.config with
  | error error => exact ⟨rfl, rfl, rfl⟩
  | ok configuration =>
      have shown := Outcome.ofReport_shows surroundings.environment
        (request.options.logSettings configuration.log)
        (perform surroundings (request.options.settings configuration.sanitizer) request.task)
      rwa [value_perform] at shown

theorem Request.run_shows {surroundings : Surroundings} {arguments : List Text} {request : Request}
    (accepted : Request.ofArguments? (surroundings.environment.lookup configKey) arguments =
      .ok request) :
    (run surroundings arguments).Shows (request.report? surroundings) := by
  rw [run, accepted]
  exact request.outcome_shows surroundings

/-! ## Checks -/

/-- A request for a check looks at values with a sanitizer. -/
structure Request.ChecksValues (request : Request) (surroundings : Surroundings)
    (sanitizer : Sanitizer) (values : List Text) : Prop where
  /-- The values are those given or read. -/
  task : ∃ given, request.task = .sanitize given true ∧
    valuesOrLines given surroundings.input = .ok values
  /-- The sanitizer is set up. -/
  ready : request.sanitizer? surroundings = .ok sanitizer

theorem changedCount_ne_zero_iff {sanitizer : Sanitizer} {values : List Text} :
    changedCount sanitizer values ≠ 0 ↔
      ∃ value ∈ values, (sanitizer.sanitize value).value ≠ value := by
  rw [← Nat.pos_iff_ne_zero, changedCount, List.countP_pos_iff]
  simp [bne_iff_ne, ne_comm]

theorem Request.report?_of_task {surroundings : Surroundings} {request : Request}
    {sanitizer : Sanitizer} {given values : List Text} {check : Bool}
    (ready : request.sanitizer? surroundings = .ok sanitizer)
    (task : request.task = .sanitize given check)
    (read : valuesOrLines given surroundings.input = .ok values) :
    request.report? surroundings =
      .ok
        { output := (sanitizedForms sanitizer values).flatMap line
          finding :=
            if check && changedCount sanitizer values != 0 then
              some (changedCount sanitizer values, values.length)
            else none } := by
  rw [report?, ready, task]
  exact value_perform_sanitize read sanitizer check

/-- The tasks other than sanitizing find nothing. -/
theorem Task.exists_sanitize_of_finding {surroundings : Surroundings} {sanitizer : Sanitizer}
    {task : Task} {report : Report}
    (performed : (task.perform surroundings sanitizer).value = .ok report)
    (found : report.finding ≠ none) : ∃ given check, task = .sanitize given check := by
  cases task with
  | sanitize given check => exact ⟨given, check, rfl⟩
  | query text =>
      cases performed
      exact absurd rfl found
  | json path pretty =>
      rw [Task.perform] at performed
      split at performed
      · cases performed
      · split at performed
        · cases performed
        · cases performed
          exact absurd rfl found
  | detect given =>
      rw [Task.perform] at performed
      split at performed
      · cases performed
      · cases performed
        exact absurd rfl found

theorem Request.ChecksValues.changes_of_finding {surroundings : Surroundings} {request : Request}
    {sanitizer : Sanitizer} {values : List Text} {report : Report}
    (checks : request.ChecksValues surroundings sanitizer values)
    (reported : request.report? surroundings = .ok report) (found : report.finding ≠ none) :
    changedCount sanitizer values ≠ 0 := by
  obtain ⟨⟨given, task, read⟩, ready⟩ := checks
  cases reported.symm.trans (Request.report?_of_task ready task read)
  intro unchanged
  rw [unchanged] at found
  exact found rfl

/-- Only a check of values that sanitizing changes finds something. -/
theorem Request.checksValues_of_finding {surroundings : Surroundings} {request : Request}
    {report : Report} (reported : request.report? surroundings = .ok report)
    (found : report.finding ≠ none) :
    ∃ sanitizer values, request.ChecksValues surroundings sanitizer values ∧
      changedCount sanitizer values ≠ 0 := by
  obtain ⟨sanitizer, ready, performed⟩ := exists_of_bind_eq_ok reported
  obtain ⟨given, check, task⟩ := Task.exists_sanitize_of_finding performed found
  cases read : valuesOrLines given surroundings.input with
  | error cause =>
      rw [task, Task.perform, read] at performed
      cases performed
  | ok values =>
      cases check with
      | false =>
          cases reported.symm.trans (report?_of_task ready task read)
          exact absurd rfl found
      | true =>
          have checks : request.ChecksValues surroundings sanitizer values :=
            ⟨⟨given, task, read⟩, ready⟩
          exact ⟨sanitizer, values, checks, checks.changes_of_finding reported found⟩

theorem Request.ChecksValues.report?_eq {surroundings : Surroundings} {request : Request}
    {sanitizer : Sanitizer} {values : List Text}
    (checks : request.ChecksValues surroundings sanitizer values)
    (changes : changedCount sanitizer values ≠ 0) :
    request.report? surroundings =
      .ok
        { output := (sanitizedForms sanitizer values).flatMap line
          finding := some (changedCount sanitizer values, values.length) } := by
  obtain ⟨⟨given, task, read⟩, ready⟩ := checks
  rw [Request.report?_of_task ready task read, if_pos (by simpa using changes)]

/-- A check writes what sanitizing writes without it. -/
theorem Request.ChecksValues.output_erase_check {surroundings : Surroundings}
    {arguments : List Text} {request : Request}
    (accepted : Request.ofArguments? (surroundings.environment.lookup configKey) arguments =
      .ok request) {sanitizer : Sanitizer} {values : List Text}
    (checks : request.ChecksValues surroundings sanitizer values) :
    (run surroundings (arguments.erase checkArgument)).output =
      (sanitizedForms sanitizer values).flatMap line := by
  obtain ⟨⟨given, task, read⟩, ready⟩ := checks
  obtain ⟨switches, erased⟩ := ofArguments?_erase_check accepted task
  have shown := Request.run_shows erased
  have ready_erased : Request.sanitizer? surroundings
      ⟨{ request.options with switches }, .sanitize given false⟩ = .ok sanitizer := ready
  rw [Request.report?_of_task ready_erased rfl read] at shown
  exact shown.1

/-! ## The exit status -/

/-- The status is two exactly if an error is written, and nothing else is; it is one exactly if a
check was asked for and sanitizing changes a value, and then the output is the one without the
check; and else it is zero. -/
theorem run_exit_status {surroundings : Surroundings} {arguments : List Text} {request : Request}
    (accepted : Request.ofArguments? (surroundings.environment.lookup configKey) arguments =
      .ok request) {outcome : Outcome} (ran : run surroundings arguments = outcome) :
    (outcome.code = 2 ↔ ∃ message ∈ outcome.messages, "Error:".toList <+: message) ∧
      (outcome.code = 2 → outcome.output = []) ∧
      (outcome.code = 1 ↔
        ∃ sanitizer values, request.ChecksValues surroundings sanitizer values ∧
          ∃ value ∈ values, (sanitizer.sanitize value).value ≠ value) ∧
      (outcome.code = 1 → ∀ sanitizer values, request.ChecksValues surroundings sanitizer values →
        outcome.output = (run surroundings (arguments.erase checkArgument)).output ∧
          outcome.messages = [findingLine (changedCount sanitizer values) values.length]) ∧
      (outcome.code ≠ 2 → outcome.code ≠ 1 → outcome.code = 0) := by
  have shown := Request.run_shows accepted
  rw [ran] at shown
  have one_iff : outcome.code = 1 ↔
      ∃ sanitizer values, request.ChecksValues surroundings sanitizer values ∧
        ∃ value ∈ values, (sanitizer.sanitize value).value ≠ value := by
    simp only [← changedCount_ne_zero_iff]
    rw [shown.code_eq_one_iff]
    constructor
    · rintro ⟨report, reported, found⟩
      exact Request.checksValues_of_finding reported found
    · rintro ⟨sanitizer, values, checks, changes⟩
      exact ⟨_, checks.report?_eq changes, Option.some_ne_none _⟩
  refine ⟨shown.code_eq_two_iff.trans shown.error_message_iff.symm, shown.output_eq_nil, one_iff,
    fun checked sanitizer values checks => ?_, shown.code_eq_zero⟩
  obtain ⟨report, reported, found⟩ := shown.code_eq_one_iff.mp checked
  rw [checks.report?_eq (checks.changes_of_finding reported found)] at shown
  exact ⟨shown.1.trans (checks.output_erase_check accepted).symm, shown.2.2⟩

/-- Arguments that ask for a check of a script and of a word. -/
def scriptCheck : List Text :=
  ["sanitize".toList, "--check".toList, "<script>".toList, "plain".toList]

theorem run_exit_status_script :
    ∃ request, Request.ofArguments? ((Surroundings.ofInput []).environment.lookup configKey)
        scriptCheck = .ok request ∧
      (run (.ofInput []) scriptCheck).code = 1 ∧
      (run (.ofInput []) scriptCheck).output =
        (run (.ofInput []) (scriptCheck.erase checkArgument)).output ∧
      (run (.ofInput []) scriptCheck).messages = ["  ⚠ 1 of 2 values changed".toList] := by
  let values := ["<script>".toList, "plain".toList]
  let request : Request :=
    { options := { switches := [.check] }
      task := .sanitize values true }
  have accepted : Request.ofArguments?
      ((Surroundings.ofInput []).environment.lookup configKey) scriptCheck = .ok request := rfl
  have checks : request.ChecksValues (.ofInput []) Sanitizer.default values :=
    ⟨⟨values, rfl, rfl⟩, rfl⟩
  have count : changedCount Sanitizer.default values = 1 := by decide +kernel
  have changes : changedCount Sanitizer.default values ≠ 0 := by
    rw [count]
    decide
  obtain ⟨-, -, one_iff, finding, -⟩ := run_exit_status accepted rfl
  have code := one_iff.mpr ⟨_, values, checks, changedCount_ne_zero_iff.mp changes⟩
  obtain ⟨output, messages⟩ := finding code _ values checks
  have written : findingLine 1 values.length = "  ⚠ 1 of 2 values changed".toList := by decide
  rw [count, written] at messages
  exact ⟨request, accepted, code, output, messages⟩

end Command

end ScriptSanitizer
