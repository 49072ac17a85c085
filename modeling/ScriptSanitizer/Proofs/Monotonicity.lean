import ScriptSanitizer.Proofs.Agreement

/-!
# Stricter settings

A sanitizer with more patterns that looks less deep into payloads finds an attack wherever another
one does.  More patterns match more, a pass with them removes something wherever a pass without them
does, and so no payload is judged more leniently at any level, although what the passes leave may be
quite another text.
-/

namespace ScriptSanitizer

namespace PatternSet

variable {set larger : PatternSet} {text : Text}

/-- Every pattern of one set is in the other. -/
def Includes (larger set : PatternSet) : Prop :=
  ∀ pattern ∈ set.patterns, pattern ∈ larger.patterns

theorem Includes.firstMatch?_ne_none (includes : larger.Includes set)
    (found : set.firstMatch? text ≠ none) : larger.firstMatch? text ≠ none := by
  intro absent
  refine found ?_
  rw [firstMatch?, List.find?_eq_none] at absent ⊢
  intro pattern member
  exact absent pattern (includes pattern member)

theorem Includes.strike_ne_self (includes : larger.Includes set)
    (strikes : set.strike text ≠ text) : larger.strike text ≠ text := by
  intro kept
  refine strikes (strike_eq_self_iff.mpr fun pattern member => ?_)
  exact strike_eq_self_iff.mp kept pattern (includes pattern member)

/-- A pass with more patterns and a stricter judge removes something where another one does. -/
theorem Removes.of_includes {judge wider : Text → Prop} (includes : larger.Includes set)
    (weaker : ∀ hidden, judge hidden → wider hidden) (removes : set.Removes judge text) :
    larger.Removes wider text := by
  rcases removes.mono weaker with block | strikes
  · exact .inl block
  · exact .inr (includes.strike_ne_self strikes)

theorem Hides.of_includes {levels : Nat} (includes : larger.Includes set)
    (hides : set.Hides levels text) : larger.Hides levels text := by
  induction levels generalizing text with
  | zero => trivial
  | succ levels ih =>
      rcases hides with nul | removes
      · exact .inl nul
      · exact .inr (removes.of_includes includes fun _ => ih)

/-- The patterns that some sources write are among those that more of them write. -/
theorem includes_of_compiled? {compile : Compiler} {sources further : List Text}
    (read : compiled? compile sources = .ok set)
    (read_more : compiled? compile (sources ++ further) = .ok larger) : larger.Includes set := by
  intro pattern member
  rw [mem_patterns_iff read_more]
  rcases (mem_patterns_iff read).mp member with built_in | ⟨source, present, written⟩
  · exact .inl built_in
  · exact .inr ⟨source, List.mem_append_left further present, written⟩

end PatternSet

namespace Sanitizer

/-- A text that is malicious to one sanitizer is malicious to another one that has all its patterns
and looks no deeper into payloads, whatever the bounds on passes are. -/
theorem isMalicious_mono {compile : Compiler} {settings stricter : Settings}
    {sanitizer other : Sanitizer}
    (accepted : Sanitizer.compiled? compile settings = .ok sanitizer)
    (other_accepted : Sanitizer.compiled? compile stricter = .ok other)
    (shallower : stricter.maxNesting ≤ settings.maxNesting) {further : List Text}
    (extended : stricter.extraPatterns = settings.extraPatterns ++ further) {text : Text}
    (malicious : sanitizer.isMalicious text = true) : other.isMalicious text = true := by
  obtain ⟨_, _, maxNesting_eq, read⟩ := compiled?_eq_ok accepted
  obtain ⟨_, _, other_maxNesting_eq, other_read⟩ := compiled?_eq_ok other_accepted
  rw [extended] at other_read
  have includes := PatternSet.includes_of_compiled? read other_read
  have stricter_judge (hidden : Text)
      (judged : (sanitizer.hidesAttack sanitizer.maxNesting 0 hidden).value = true) :
      (other.hidesAttack other.maxNesting 0 hidden).value = true := by
    rw [hidesAttack_iff (maxPasses_pos_of_compiled? accepted)] at judged
    rw [hidesAttack_iff (maxPasses_pos_of_compiled? other_accepted)]
    exact (judged.of_includes includes).of_le (by omega)
  rw [isMalicious_iff] at malicious ⊢
  rcases malicious with found | ⟨payload, member, hidden, decoded, judged⟩
  · exact .inl (includes.firstMatch?_ne_none found)
  · exact .inr ⟨payload, member, hidden, decoded, stricter_judge hidden judged⟩

/-- A frame inside a block, once the pattern for frames is followed by one for objects. -/
theorem isMalicious_mono_iframe :
    ∃ sanitizer other,
      Sanitizer.ofSettings? { extraPatterns := ["<iframe".toList] } = .ok sanitizer ∧
      Sanitizer.ofSettings?
          { maxPasses := 1, maxNesting := 1,
            extraPatterns := ["<iframe".toList, "<object".toList] } = .ok other ∧
      sanitizer.isMalicious "base64,PGlmcmFtZT4=".toList = true ∧
      other.isMalicious "base64,PGlmcmFtZT4=".toList = true := by
  have verdict : (Sanitizer.ofSettings? { extraPatterns := ["<iframe".toList] }).toOption.map
      (fun sanitizer => sanitizer.isMalicious "base64,PGlmcmFtZT4=".toList) = some true := by
    decide +kernel
  have readable : (Sanitizer.ofSettings?
      { maxPasses := 1, maxNesting := 1,
        extraPatterns := ["<iframe".toList, "<object".toList] }).toOption.isSome = true := by
    decide +kernel
  cases accepted : Sanitizer.ofSettings? { extraPatterns := ["<iframe".toList] } with
  | error cause =>
      rw [accepted] at verdict
      exact absurd verdict (Option.some_ne_none true).symm
  | ok sanitizer =>
      cases other_accepted : Sanitizer.ofSettings?
          { maxPasses := 1, maxNesting := 1,
            extraPatterns := ["<iframe".toList, "<object".toList] } with
      | error cause =>
          rw [other_accepted] at readable
          exact absurd readable Bool.false_ne_true
      | ok other =>
          rw [accepted] at verdict
          have malicious : sanitizer.isMalicious "base64,PGlmcmFtZT4=".toList = true :=
            Option.some.inj verdict
          refine ⟨sanitizer, other, rfl, rfl, malicious, ?_⟩
          exact isMalicious_mono accepted other_accepted (by decide) (by rfl) malicious

end Sanitizer

end ScriptSanitizer
