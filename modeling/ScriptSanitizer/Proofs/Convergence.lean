import ScriptSanitizer.Proofs.Conclusion

/-!
# Convergence

Every pass that changes a value takes something away, so a value that is short for the bound on
passes comes to rest before they are used up.  What it comes to rest at is left alone by every
further pass, and no larger bound could change it.
-/

namespace ScriptSanitizer

/-- Custom patterns may match a single character, and without them six bytes are the least. -/
theorem PatternSet.removesAtLeast_of_compiled? {compile : Compiler} {sources : List Text}
    {set : PatternSet} (read : compiled? compile sources = .ok set) :
    set.RemovesAtLeast (if sources = [] then 6 else 1) := by
  by_cases none_written : sources = []
  · subst none_written
    rw [compiled?_nil] at read
    obtain rfl := Except.ok.inj read
    exact builtin_removesAtLeast
  · rw [if_neg none_written]
    exact set.removesAtLeast_one

namespace Sanitizer

variable {sanitizer : Sanitizer} {value last : Text}

/-- The passes over a value come to rest at `last` before they are used up. -/
def Settles (sanitizer : Sanitizer) (value last : Text) : Prop :=
  ∃ count < sanitizer.maxPasses,
    ChangesIn sanitizer.pass count (stripNul value) last ∧ sanitizer.pass last = .stable

theorem changes_lt_iff :
    sanitizer.changes value < sanitizer.maxPasses ↔ ∃ last, sanitizer.Settles value last := by
  rw [changes, changedPasses_lt_iff]
  constructor
  · rintro ⟨count, enough, last, settled⟩
    exact ⟨last, count, enough, settled⟩
  · rintro ⟨last, count, enough, settled⟩
    exact ⟨count, enough, last, settled⟩

theorem settles_of_byteLength_lt {least : Nat} (bound : sanitizer.patterns.RemovesAtLeast least)
    (short : Utf8.byteLength value < least * sanitizer.maxPasses) :
    sanitizer.Settles value (sanitizer.sanitize value).value := by
  obtain ⟨count, _, changes, settled⟩ := @exists_changesIn_runPasses sanitizer.patterns
    (sanitizer.hidesAttack sanitizer.maxNesting 0) sanitizer.maxPasses 0 sanitizer.maxPasses
    (stripNul value)
  have removed := changes.byteLength_le bound
  have stripped := byteLength_stripNul_le value
  have fewer : least * count < least * sanitizer.maxPasses := by omega
  have enough := Nat.lt_of_mul_lt_mul_left fewer
  exact ⟨count, enough, changes, settled enough⟩

namespace Settles

theorem value_sanitize (settles : sanitizer.Settles value last) :
    (sanitizer.sanitize value).value = last := by
  obtain ⟨count, enough, changes, settled⟩ := settles
  exact value_runPasses_of_changesIn changes settled enough

theorem nul_not_mem (settles : sanitizer.Settles value last) : '\x00' ∉ last := by
  obtain ⟨count, _, changes, _⟩ := settles
  exact changes.nul_not_mem (nul_not_mem_stripNul value)

/-- What a value comes to rest at is at rest. -/
theorem last_settles (settles : sanitizer.Settles value last) : sanitizer.Settles last last := by
  have unstruck := stripNul_eq_self_iff.mpr settles.nul_not_mem
  obtain ⟨count, enough, _, settled⟩ := settles
  refine ⟨0, by omega, ?_, settled⟩
  rw [unstruck]
  exact .none last

/-- The bound is not reached at the top, however deep it may be reached in payloads. -/
theorem passLimit_not_mem (settles : sanitizer.Settles value last) (bound : Nat) :
    Event.passLimit bound 0 ∉ (sanitizer.sanitize value).events := by
  have fewer := changes_lt_iff.mpr ⟨last, settles⟩
  rw [passLimit_mem_sanitize_iff]
  rintro ⟨_, all⟩
  exact Nat.ne_of_lt fewer all

end Settles

/-- A value comes to rest exactly if sanitizing it does not report that the bound is reached. -/
theorem settles_iff {value : Text} :
    sanitizer.Settles value (sanitizer.sanitize value).value ↔
      Event.passLimit sanitizer.maxPasses 0 ∉ (sanitizer.sanitize value).events := by
  constructor
  · intro settles
    exact settles.passLimit_not_mem sanitizer.maxPasses
  · intro unreported
    rw [passLimit_mem_sanitize_iff, not_and] at unreported
    have fewer := Nat.lt_of_le_of_ne (sanitizer.changes_le value) (unreported rfl)
    obtain ⟨last, settles⟩ := changes_lt_iff.mp fewer
    rw [settles.value_sanitize]
    exact settles

/-- A pass does not depend on how many there may be, although the verdicts on payloads come from
passes themselves. -/
theorem pass_congr {other : Sanitizer} (positive : 0 < sanitizer.maxPasses)
    (other_positive : 0 < other.maxPasses) (patterns_eq : other.patterns = sanitizer.patterns)
    (maxNesting_eq : other.maxNesting = sanitizer.maxNesting) : other.pass = sanitizer.pass := by
  funext text
  rw [pass, pass, patterns_eq]
  refine Pass.value_run_congr (fun hidden => ?_) text
  rw [Bool.eq_iff_iff, hidesAttack_iff other_positive, hidesAttack_iff positive, patterns_eq,
    maxNesting_eq]

/-- A value that is shorter than what the passes can take away comes to rest before they are used
up.  What it comes to rest at has no NUL, is left alone by another run, and is what every larger
bound gives. -/
theorem sanitize_converges {compile : Compiler} {settings : Settings}
    (accepted : Sanitizer.compiled? compile settings = .ok sanitizer)
    (short : Utf8.byteLength value <
      (if settings.extraPatterns = [] then 6 else 1) * settings.maxPasses) :
    (sanitizer.Settles value (sanitizer.sanitize value).value ∧
        ∀ bound, Event.passLimit bound 0 ∉ (sanitizer.sanitize value).events) ∧
      '\x00' ∉ (sanitizer.sanitize value).value ∧
      (sanitizer.sanitize (sanitizer.sanitize value).value).value =
        (sanitizer.sanitize value).value ∧
      ∀ larger, settings.maxPasses ≤ larger →
        ∃ other, Sanitizer.compiled? compile { settings with maxPasses := larger } = .ok other ∧
          (other.sanitize value).value = (sanitizer.sanitize value).value := by
  obtain ⟨positive, maxPasses_eq, maxNesting_eq, read⟩ := compiled?_eq_ok accepted
  rw [← maxPasses_eq] at short positive
  have settles := settles_of_byteLength_lt (PatternSet.removesAtLeast_of_compiled? read) short
  refine ⟨⟨settles, settles.passLimit_not_mem⟩, settles.nul_not_mem,
    settles.last_settles.value_sanitize, ?_⟩
  intro larger order
  rw [← maxPasses_eq] at order
  let settings' : Settings := { settings with maxPasses := larger }
  let other : Sanitizer := ⟨sanitizer.patterns, larger, settings.maxNesting⟩
  have other_positive : 0 < other.maxPasses := Nat.lt_of_lt_of_le positive order
  refine ⟨other, @compiled?_of_patterns compile settings' _ other_positive read, ?_⟩
  have same : other.pass = sanitizer.pass :=
    pass_congr positive other_positive rfl maxNesting_eq.symm
  obtain ⟨count, enough, changes, settled⟩ := settles
  refine Settles.value_sanitize ⟨count, Nat.lt_of_lt_of_le enough order, ?_, ?_⟩
  · rw [same]
    exact changes
  · rw [same]
    exact settled

/-- A script protocol inside another, with a NUL, comes to rest after two passes. -/
theorem sanitize_converges_javascript :
    Sanitizer.default.Settles "java\x00javascript:script:alert(1)".toList "alert(1)".toList ∧
      ∀ larger, 10 ≤ larger →
        ∃ other, Sanitizer.ofSettings? { maxPasses := larger } = .ok other ∧
          (other.sanitize "java\x00javascript:script:alert(1)".toList).value =
            "alert(1)".toList := by
  have last : (Sanitizer.default.sanitize "java\x00javascript:script:alert(1)".toList).value =
      "alert(1)".toList := by decide +kernel
  have short : Utf8.byteLength "java\x00javascript:script:alert(1)".toList < 6 * 10 := by
    decide +kernel
  obtain ⟨⟨settles, _⟩, _, _, larger⟩ := sanitize_converges ofSettings?_default short
  rw [last] at settles larger
  exact ⟨settles, larger⟩

end Sanitizer

end ScriptSanitizer
