import ScriptSanitizer.Proofs.Nesting
import ScriptSanitizer.Proofs.Reports

/-!
# The conclusion of a run

A run of passes closes with one report on the value it was given, or with none where its first pass
is stable; whatever else it reports comes before, and concludes runs inside payloads.  The report
depends on nothing but the number of passes that changed the value, and a value that was changed is
never given back as it was, so each alteration is reported, and is reported once.
-/

namespace ScriptSanitizer

/-! ## Passes that change a value -/

/-- How many passes change a value, of `remaining` that may be made until one is stable. -/
def changedPasses (pass : Text → Pass) : (remaining : Nat) → Text → Nat
  | 0, _ => 0
  | remaining + 1, text =>
    match pass text with
    | .stable => 0
    | .changed next => changedPasses pass remaining (stripNul next) + 1

theorem changedPasses_le (pass : Text → Pass) (remaining : Nat) (text : Text) :
    changedPasses pass remaining text ≤ remaining := by
  induction remaining generalizing text with
  | zero => exact Nat.le_refl 0
  | succ remaining ih =>
      rw [changedPasses]
      cases pass text with
      | stable => exact Nat.zero_le _
      | changed next => exact Nat.succ_le_succ (ih (stripNul next))

theorem changedPasses_eq_zero_iff {pass : Text → Pass} {remaining : Nat} {text : Text}
    (positive : 0 < remaining) :
    changedPasses pass remaining text = 0 ↔ pass text = .stable := by
  obtain ⟨further, rfl⟩ := Nat.exists_eq_add_of_le' positive
  rw [changedPasses]
  cases pass text with
  | stable => simp
  | changed next => simp

/-- Not all passes change a value exactly if it comes to rest before they are used up. -/
theorem changedPasses_lt_iff {pass : Text → Pass} {remaining : Nat} {text : Text} :
    changedPasses pass remaining text < remaining ↔
      ∃ count < remaining, ∃ last, ChangesIn pass count text last ∧ pass last = .stable := by
  constructor
  · intro fewer
    induction remaining generalizing text with
    | zero => exact absurd fewer (Nat.not_lt_zero _)
    | succ remaining ih =>
        cases verdict : pass text with
        | stable => exact ⟨0, Nat.succ_pos remaining, text, .none text, verdict⟩
        | changed next =>
            simp only [changedPasses, verdict, Nat.add_lt_add_iff_right] at fewer
            obtain ⟨count, enough, last, changes, settled⟩ := ih fewer
            exact ⟨count + 1, Nat.succ_lt_succ enough, last, .cons verdict changes, settled⟩
  · rintro ⟨count, enough, last, changes, settled⟩
    induction changes generalizing remaining with
    | none text =>
        have resting := (changedPasses_eq_zero_iff (Nat.zero_lt_of_lt enough)).mpr settled
        rwa [resting]
    | @cons count _ _ _ changed _ ih =>
        obtain ⟨further, rfl⟩ := Nat.exists_eq_add_of_lt enough
        have fewer := @ih (count + 1 + further) (by omega) settled
        rw [changedPasses, changed]
        exact Nat.succ_lt_succ fewer

/-! ## Reports at the end of a run -/

/-- What a run reports at its end, after so many passes that changed the value. -/
def conclusion (maxPasses depth changes : Nat) : List Event :=
  if changes = maxPasses then [.passLimit maxPasses depth]
  else if changes = 0 then []
  else [.sanitized (changes + 1) depth]

section Runs

variable {maxPasses depth changes : Nat}

theorem conclusion_self : conclusion maxPasses depth maxPasses = [.passLimit maxPasses depth] :=
  if_pos rfl

theorem conclusion_zero (positive : 0 < maxPasses) : conclusion maxPasses depth 0 = [] := by
  rw [conclusion, if_neg (Nat.ne_of_lt positive), if_pos rfl]

theorem conclusion_of_lt (some_change : 0 < changes) (fewer : changes < maxPasses) :
    conclusion maxPasses depth changes = [.sanitized (changes + 1) depth] := by
  rw [conclusion, if_neg (Nat.ne_of_lt fewer), if_neg (Nat.ne_of_gt some_change)]

theorem concludes_of_mem_conclusion {event : Event}
    (member : event ∈ conclusion maxPasses depth changes) : event.Concludes depth := by
  rw [Event.concludes_iff]
  unfold conclusion at member
  split at member
  · exact ⟨_, .inr (List.mem_singleton.mp member)⟩
  · split at member
    · exact absurd member List.not_mem_nil
    · exact ⟨_, .inl (List.mem_singleton.mp member)⟩

variable {patterns : PatternSet} {judge : Text → Logged Bool}

/-- A run with some passes left closes with the conclusion, and with no other at its depth. -/
theorem events_runPasses (judged : ∀ hidden, ConcludeDeeper depth (judge hidden).events)
    {remaining : Nat} (left : remaining ≤ maxPasses) (text : Text) :
    ∃ earlier, ConcludeDeeper depth earlier ∧
      (runPasses patterns judge maxPasses depth remaining text).events =
        earlier ++ conclusion maxPasses depth (maxPasses - remaining +
          changedPasses (fun text => (Pass.run patterns judge text).value) remaining text) := by
  induction remaining generalizing text with
  | zero =>
      refine ⟨[], List.forall_mem_nil _, ?_⟩
      simp [runPasses, Logged.report, changedPasses, conclusion]
  | succ remaining ih =>
      have passed := @Pass.run_concludeDeeper patterns judge depth judged text
      cases verdict : (Pass.run patterns judge text).value with
      | stable =>
          refine ⟨_, passed, ?_⟩
          have resting : changedPasses (fun text => (Pass.run patterns judge text).value)
              (remaining + 1) text = 0 :=
            (changedPasses_eq_zero_iff (Nat.succ_pos remaining)).mpr verdict
          rw [runPasses, Logged.events_bind, verdict, resting, Nat.add_zero]
          congr 1
          by_cases further : remaining + 1 < maxPasses
          · have changes : maxPasses - (remaining + 1) + 1 = maxPasses - remaining := by omega
            rw [conclusion_of_lt (by omega) (by omega), changes]
            simp [further, Logged.report]
          · have none_before : maxPasses - (remaining + 1) = 0 := by omega
            rw [none_before, conclusion_zero (by omega)]
            simp [further]
      | changed next =>
          obtain ⟨earlier, deeper, events_eq⟩ := ih (Nat.le_of_succ_le left) (stripNul next)
          refine ⟨_, passed.append deeper, ?_⟩
          have counted : maxPasses - (remaining + 1) + (changedPasses
              (fun text => (Pass.run patterns judge text).value) remaining (stripNul next) + 1) =
            maxPasses - remaining + changedPasses
              (fun text => (Pass.run patterns judge text).value) remaining (stripNul next) := by
            omega
          rw [runPasses, Logged.events_bind, verdict, events_eq, changedPasses, verdict,
            List.append_assoc, counted]

end Runs

namespace Sanitizer

variable {sanitizer : Sanitizer} {value : Text}

/-- How many passes change a value when it is sanitized. -/
def changes (sanitizer : Sanitizer) (value : Text) : Nat :=
  changedPasses sanitizer.pass sanitizer.maxPasses (stripNul value)

theorem changes_le (sanitizer : Sanitizer) (value : Text) :
    sanitizer.changes value ≤ sanitizer.maxPasses :=
  changedPasses_le sanitizer.pass sanitizer.maxPasses (stripNul value)

theorem changes_eq_zero_iff (positive : 0 < sanitizer.maxPasses) :
    sanitizer.changes value = 0 ↔ (sanitizer.sanitize value).value = stripNul value := by
  rw [changes, changedPasses_eq_zero_iff positive, pass_eq_stable_iff positive,
    value_sanitize_eq_stripNul_iff positive]

theorem events_sanitize (sanitizer : Sanitizer) (value : Text) :
    ∃ earlier, ConcludeDeeper 0 earlier ∧
      (sanitizer.sanitize value).events =
        earlier ++ conclusion sanitizer.maxPasses 0 (sanitizer.changes value) := by
  have run := @events_runPasses sanitizer.maxPasses 0 sanitizer.patterns _
    (sanitizer.hidesAttack_concludeDeeper sanitizer.maxNesting 0) _ (Nat.le_refl _) (stripNul value)
  rw [Nat.sub_self, Nat.zero_add] at run
  exact run

/-- The events that conclude the run on a value are its conclusion. -/
theorem filter_concludes_sanitize (sanitizer : Sanitizer) (value : Text) :
    (sanitizer.sanitize value).events.filter (·.Concludes 0) =
      conclusion sanitizer.maxPasses 0 (sanitizer.changes value) := by
  obtain ⟨earlier, deeper, events_eq⟩ := sanitizer.events_sanitize value
  rw [events_eq, List.filter_append, List.filter_eq_nil_iff.mpr, List.filter_eq_self.mpr,
    List.nil_append]
  · exact fun event member => decide_eq_true (concludes_of_mem_conclusion member)
  · exact fun event reported => by simpa using deeper.not_concludes reported

theorem passLimit_mem_sanitize_iff {bound : Nat} :
    Event.passLimit bound 0 ∈ (sanitizer.sanitize value).events ↔
      bound = sanitizer.maxPasses ∧ sanitizer.changes value = sanitizer.maxPasses := by
  have concludes : (Event.passLimit bound 0).Concludes 0 :=
    Event.concludes_iff.mpr ⟨bound, .inr rfl⟩
  have listed : Event.passLimit bound 0 ∈ (sanitizer.sanitize value).events ↔
      Event.passLimit bound 0 ∈ conclusion sanitizer.maxPasses 0 (sanitizer.changes value) := by
    rw [← filter_concludes_sanitize, List.mem_filter, decide_eq_true_iff, and_iff_left concludes]
  rw [listed, conclusion]
  split
  case isTrue all => simp [all]
  case isFalse fewer =>
    have never : ¬ (bound = sanitizer.maxPasses ∧ sanitizer.changes value = sanitizer.maxPasses) :=
      fun both => fewer both.2
    split <;> simp [never]

/-- If sanitizing alters a value, more than to strike out its NUL characters, exactly one event says
how the passes over it came to their end, and it is the last one; otherwise no event does.  It is
the limit exactly if all passes allowed have changed the value, and else names the pass behind
those. -/
theorem sanitize_concludes_once {compile : Compiler} {settings : Settings}
    (accepted : Sanitizer.compiled? compile settings = .ok sanitizer) (value : Text) :
    ((sanitizer.sanitize value).value ≠ stripNul value →
        ∃ event, (sanitizer.sanitize value).events.filter (·.Concludes 0) = [event] ∧
          (sanitizer.sanitize value).events.getLast? = some event ∧
          (event = .passLimit sanitizer.maxPasses 0 ↔
            sanitizer.changes value = sanitizer.maxPasses) ∧
          (event ≠ .passLimit sanitizer.maxPasses 0 →
            event = .sanitized (sanitizer.changes value + 1) 0 ∧
              sanitizer.changes value + 1 ≤ sanitizer.maxPasses)) ∧
      ((sanitizer.sanitize value).value = stripNul value →
        ∀ event ∈ (sanitizer.sanitize value).events, ¬ event.Concludes 0) := by
  have positive := maxPasses_pos_of_compiled? accepted
  obtain ⟨earlier, deeper, events_eq⟩ := sanitizer.events_sanitize value
  have concluding := sanitizer.filter_concludes_sanitize value
  rw [ne_eq, ← changes_eq_zero_iff positive]
  constructor
  · intro altered
    rcases Nat.lt_or_eq_of_le (sanitizer.changes_le value) with fewer | all
    · rw [conclusion_of_lt (Nat.pos_of_ne_zero altered) fewer] at events_eq concluding
      refine ⟨_, concluding, ?_, ?_, fun _ => ⟨rfl, fewer⟩⟩
      · rw [events_eq, List.getLast?_concat]
      · exact iff_of_false Event.noConfusion (Nat.ne_of_lt fewer)
    · rw [all, conclusion_self] at events_eq concluding
      refine ⟨_, concluding, ?_, iff_of_true rfl all, fun other => absurd rfl other⟩
      rw [events_eq, List.getLast?_concat]
  · intro unaltered
    rw [unaltered, conclusion_zero positive, List.append_nil] at events_eq
    rw [events_eq]
    exact fun event reported => deeper.not_concludes reported

/-- Two passes remove a script protocol inside another, which the third one tells; where one pass
alone is allowed the limit is the conclusion. -/
theorem sanitize_concludes_once_javascript :
    (Sanitizer.default.sanitize "javajavascript:script:go".toList).events.filter (·.Concludes 0) =
        [.sanitized 3 0] ∧
      ∃ sanitizer, Sanitizer.ofSettings? { maxPasses := 1 } = .ok sanitizer ∧
        (sanitizer.sanitize "javajavascript:script:go".toList).events.filter (·.Concludes 0) =
          [.passLimit 1 0] := by
  let single : Sanitizer := ⟨.builtin, 1, 4⟩
  have accepted : Sanitizer.ofSettings? { maxPasses := 1 } = .ok single :=
    @compiled?_of_patterns _ { maxPasses := 1 } _ (by decide) (PatternSet.compiled?_nil _)
  have altered : (Sanitizer.default.sanitize "javajavascript:script:go".toList).value ≠
      stripNul "javajavascript:script:go".toList := by decide +kernel
  have altered_once : (single.sanitize "javajavascript:script:go".toList).value ≠
      stripNul "javajavascript:script:go".toList := by decide +kernel
  have twice : Sanitizer.default.changes "javajavascript:script:go".toList = 2 := by
    decide +kernel
  have once : single.changes "javajavascript:script:go".toList = 1 := by decide +kernel
  constructor
  · obtain ⟨event, concluding, _, limit, further⟩ :=
      (sanitize_concludes_once ofSettings?_default "javajavascript:script:go".toList).1 altered
    rw [twice] at limit further
    have fewer : ¬ 2 = Sanitizer.default.maxPasses := by decide
    rw [concluding, (further (mt limit.mp fewer)).1]
  · obtain ⟨event, concluding, _, limit, _⟩ :=
      (sanitize_concludes_once accepted "javajavascript:script:go".toList).1 altered_once
    refine ⟨single, accepted, ?_⟩
    rw [concluding, limit.mpr once]

end Sanitizer

end ScriptSanitizer
