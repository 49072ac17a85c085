import ScriptSanitizer.Proofs.Idempotence

/-!
# Resuming a run

A run that was cut off at its bound on passes can be taken up again.  What it left is what a longer
run has at that point, and a pass does not depend on how many there may be, so sanitizing it once
more with another bound gives what the sum of the two bounds gives at once.
-/

namespace ScriptSanitizer

/-- What so many passes leave of a text; a stable pass ends them. -/
def leftAfter (pass : Text → Pass) : Nat → Text → Text
  | 0, text => text
  | count + 1, text =>
    match pass text with
    | .stable => text
    | .changed next => leftAfter pass count (stripNul next)

section Passes

variable {pass : Text → Pass} {text : Text}

theorem leftAfter_of_stable (stable : pass text = .stable) (count : Nat) :
    leftAfter pass count text = text := by
  cases count with
  | zero => rfl
  | succ count => rw [leftAfter, stable]

theorem leftAfter_of_changed {next : Text} (changed : pass text = .changed next) (count : Nat) :
    leftAfter pass (count + 1) text = leftAfter pass count (stripNul next) := by
  rw [leftAfter, changed]

/-- Passes go on from what earlier ones have left. -/
theorem leftAfter_add (pass : Text → Pass) (first second : Nat) (text : Text) :
    leftAfter pass (first + second) text = leftAfter pass second (leftAfter pass first text) := by
  induction first generalizing text with
  | zero => rw [Nat.zero_add, leftAfter]
  | succ first ih =>
      cases verdict : pass text with
      | stable =>
          rw [leftAfter_of_stable verdict, leftAfter_of_stable verdict,
            leftAfter_of_stable verdict]
      | changed next =>
          rw [Nat.succ_add, leftAfter_of_changed verdict, leftAfter_of_changed verdict, ih]

end Passes

theorem value_runPasses_eq_leftAfter {patterns : PatternSet} {judge : Text → Logged Bool}
    (maxPasses depth remaining : Nat) (text : Text) :
    (runPasses patterns judge maxPasses depth remaining text).value =
      leftAfter (fun text => (Pass.run patterns judge text).value) remaining text := by
  induction remaining generalizing text with
  | zero => rfl
  | succ remaining ih =>
      rw [value_runPasses_succ, leftAfter]
      cases (Pass.run patterns judge text).value with
      | stable => rfl
      | changed next => exact ih (stripNul next)

namespace Sanitizer

theorem value_sanitize_eq_leftAfter (sanitizer : Sanitizer) (value : Text) :
    (sanitizer.sanitize value).value =
      leftAfter sanitizer.pass sanitizer.maxPasses (stripNul value) :=
  value_runPasses_eq_leftAfter sanitizer.maxPasses 0 sanitizer.maxPasses (stripNul value)

/-- Sanitizing what another bound on passes has left goes on where that bound was reached: it gives
what both bounds together give. -/
theorem sanitize_resumes {compile : Compiler} {settings : Settings} {first : Sanitizer}
    (accepted : Sanitizer.compiled? compile settings = .ok first) {further : Nat}
    (positive : 1 ≤ further) :
    ∃ second whole,
      Sanitizer.compiled? compile { settings with maxPasses := further } = .ok second ∧
        Sanitizer.compiled? compile { settings with maxPasses := settings.maxPasses + further } =
          .ok whole ∧
        ∀ value, (whole.sanitize value).value =
          (second.sanitize (first.sanitize value).value).value := by
  obtain ⟨first_positive, maxPasses_eq, maxNesting_eq, read⟩ := compiled?_eq_ok accepted
  let second : Sanitizer := ⟨first.patterns, further, settings.maxNesting⟩
  let whole : Sanitizer := ⟨first.patterns, settings.maxPasses + further, settings.maxNesting⟩
  have whole_positive : 0 < whole.maxPasses := Nat.add_pos_left first_positive further
  refine ⟨second, whole,
    @compiled?_of_patterns _ { settings with maxPasses := further } _ positive read,
    @compiled?_of_patterns _ { settings with maxPasses := settings.maxPasses + further } _
      whole_positive read, fun value => ?_⟩
  have first_positive : 0 < first.maxPasses := maxPasses_pos_of_compiled? accepted
  have second_pass : second.pass = first.pass :=
    pass_congr first_positive positive rfl maxNesting_eq.symm
  have whole_pass : whole.pass = first.pass :=
    pass_congr first_positive whole_positive rfl maxNesting_eq.symm
  have unstruck := stripNul_eq_self_iff.mpr (first.nul_not_mem_sanitize value)
  calc
    (whole.sanitize value).value =
        leftAfter first.pass (first.maxPasses + further) (stripNul value) := by
      rw [value_sanitize_eq_leftAfter, whole_pass, maxPasses_eq]
    _ = leftAfter first.pass further (first.sanitize value).value := by
      rw [leftAfter_add, value_sanitize_eq_leftAfter]
    _ = (second.sanitize (first.sanitize value).value).value := by
      rw [value_sanitize_eq_leftAfter second, second_pass, unstruck]

/-- Three protocols, one inside another: one pass leaves two of them, and two passes more leave
none. -/
theorem sanitize_resumes_javascript :
    ∃ first whole, Sanitizer.ofSettings? { maxPasses := 1 } = .ok first ∧
      Sanitizer.ofSettings? { maxPasses := 3 } = .ok whole ∧
      (first.sanitize "javajavajavascript:script:script:go".toList).value =
        "javajavascript:script:go".toList ∧
      (whole.sanitize "javajavajavascript:script:script:go".toList).value = "go".toList := by
  let first : Sanitizer := ⟨.builtin, 1, 4⟩
  let second : Sanitizer := ⟨.builtin, 2, 4⟩
  have first_accepted : Sanitizer.ofSettings? { maxPasses := 1 } = .ok first :=
    @compiled?_of_patterns _ { maxPasses := 1 } _ (by decide) (PatternSet.compiled?_nil _)
  have second_accepted : Sanitizer.ofSettings? { maxPasses := 2 } = .ok second :=
    @compiled?_of_patterns _ { maxPasses := 2 } _ (by decide) (PatternSet.compiled?_nil _)
  have once : (first.sanitize "javajavajavascript:script:script:go".toList).value =
      "javajavascript:script:go".toList := by decide +kernel
  have again : (second.sanitize "javajavascript:script:go".toList).value = "go".toList := by
    decide +kernel
  obtain ⟨other, whole, other_accepted, whole_accepted, resumed⟩ :=
    sanitize_resumes first_accepted (show 1 ≤ 2 by decide)
  obtain rfl : other = second := Except.ok.inj (other_accepted.symm.trans second_accepted)
  refine ⟨first, whole, first_accepted, whole_accepted, once, ?_⟩
  rw [resumed, once, again]

end Sanitizer

end ScriptSanitizer
