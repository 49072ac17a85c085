import ScriptSanitizer.Proofs.Convergence

/-!
# Sanitizing twice

What a value comes to rest at is left alone when it is sanitized again.  A value that is still
changed by the last pass allowed comes back half done, with a report, and what comes back may be
changed further: eleven protocols, one inside another, are one more than ten passes remove.
-/

namespace ScriptSanitizer

namespace Sanitizer

variable {sanitizer : Sanitizer}

theorem nul_not_mem_sanitize (sanitizer : Sanitizer) (value : Text) :
    '\x00' ∉ (sanitizer.sanitize value).value := by
  obtain ⟨_, _, changes, _⟩ := @exists_changesIn_runPasses sanitizer.patterns
    (sanitizer.hidesAttack sanitizer.maxNesting 0) sanitizer.maxPasses 0 sanitizer.maxPasses
    (stripNul value)
  exact changes.nul_not_mem (nul_not_mem_stripNul value)

/-- What comes back is left alone exactly if a pass over it removes nothing. -/
theorem sanitize_sanitize_eq_iff (positive : 0 < sanitizer.maxPasses) (value : Text) :
    (sanitizer.sanitize (sanitizer.sanitize value).value).value =
        (sanitizer.sanitize value).value ↔
      sanitizer.pass (sanitizer.sanitize value).value = .stable := by
  have unstruck := stripNul_eq_self_iff.mpr (sanitizer.nul_not_mem_sanitize value)
  have untouched := @value_sanitize_eq_stripNul_iff sanitizer positive
    (sanitizer.sanitize value).value
  rw [unstruck] at untouched
  rw [untouched, pass_eq_stable_iff positive]

/-- Eleven protocols, each inside the name of another one. -/
def nestedProtocols : Text :=
  (List.replicate 10 "java".toList).flatten ++ "javascript:".toList ++
    (List.replicate 10 "script:".toList).flatten

/-- Ten passes leave one of eleven nested protocols, which is removed when sanitizing again. -/
theorem sanitize_sanitize_nestedProtocols_ne :
    (Sanitizer.default.sanitize (Sanitizer.default.sanitize nestedProtocols).value).value ≠
      (Sanitizer.default.sanitize nestedProtocols).value := by
  have innermost : (Sanitizer.default.sanitize nestedProtocols).value = "javascript:".toList := by
    decide +kernel
  have emptied : (Sanitizer.default.sanitize "javascript:".toList).value = [] := by
    decide +kernel
  rw [innermost, emptied]
  exact (List.cons_ne_nil _ _).symm

/-- Sanitizing again changes nothing if the bound on passes was not reached, and in any case exactly
if one pass more would have removed nothing. -/
theorem sanitize_idempotent (value : Text) :
    (Event.passLimit Sanitizer.default.maxPasses 0 ∉ (Sanitizer.default.sanitize value).events →
        (Sanitizer.default.sanitize (Sanitizer.default.sanitize value).value).value =
          (Sanitizer.default.sanitize value).value) ∧
      ((Sanitizer.default.sanitize (Sanitizer.default.sanitize value).value).value =
          (Sanitizer.default.sanitize value).value ↔
        Sanitizer.default.pass (Sanitizer.default.sanitize value).value = .stable) := by
  have again := @sanitize_sanitize_eq_iff Sanitizer.default (by decide) value
  refine ⟨fun unreported => ?_, again⟩
  obtain ⟨_, _, _, stable⟩ := settles_iff.mpr unreported
  exact again.mpr stable

/-- A protocol inside another one, whose colon is written as a reference. -/
theorem sanitize_idempotent_javascript :
    Event.passLimit 10 0 ∉
        (Sanitizer.default.sanitize "javajavascript:script&colon;go &amp; see".toList).events ∧
      (Sanitizer.default.sanitize (Sanitizer.default.sanitize
          "javajavascript:script&colon;go &amp; see".toList).value).value =
        (Sanitizer.default.sanitize "javajavascript:script&colon;go &amp; see".toList).value := by
  have unreported : Event.passLimit 10 0 ∉
      (Sanitizer.default.sanitize "javajavascript:script&colon;go &amp; see".toList).events := by
    decide +kernel
  exact ⟨unreported, (sanitize_idempotent _).1 unreported⟩

end Sanitizer

end ScriptSanitizer
