import ScriptSanitizer.Proofs.Nesting

/-!
# The verdict by lengths

A payload is judged by comparing lengths alone: it hides an attack if it is shorter once it is
sanitized.  No text becomes longer when it is sanitized, and one that keeps its length keeps its
characters too, so nothing is missed.  The verdict is that of the first pass over the payload,
however many may follow.
-/

namespace ScriptSanitizer

namespace Sanitizer

variable {sanitizer : Sanitizer} {depth : Nat}

/-- One pass over a text that lies `depth` payloads deep. -/
def passAt (sanitizer : Sanitizer) (depth : Nat) (text : Text) : Pass :=
  (Pass.run sanitizer.patterns
    (sanitizer.hidesAttack (sanitizer.maxNesting - depth) depth) text).value

/-! ## Lengths -/

theorem byteLength_sanitizeAt_le (sanitizer : Sanitizer) (depth : Nat) (text : Text) :
    Utf8.byteLength (sanitizer.sanitizeAt depth text).value ≤ Utf8.byteLength text := by
  have run := @byteLength_runPasses_le sanitizer.patterns
    (sanitizer.hidesAttack (sanitizer.maxNesting - depth) depth) sanitizer.maxPasses depth
    sanitizer.maxPasses (stripNul text)
  exact Nat.le_trans run (byteLength_stripNul_le text)

/-- A text that keeps its length when it is sanitized is not changed. -/
theorem value_sanitizeAt_eq_self (positive : 0 < sanitizer.maxPasses) {text : Text}
    (same : Utf8.byteLength (sanitizer.sanitizeAt depth text).value = Utf8.byteLength text) :
    (sanitizer.sanitizeAt depth text).value = text := by
  have stripped := byteLength_stripNul_le text
  by_cases removes : sanitizer.patterns.Removes (fun hidden =>
      (sanitizer.hidesAttack (sanitizer.maxNesting - depth) depth hidden).value = true)
      (stripNul text)
  · have shorter : Utf8.byteLength (sanitizer.sanitizeAt depth text).value <
        Utf8.byteLength (stripNul text) := byteLength_runPasses_lt positive removes
    omega
  · have kept : (sanitizer.sanitizeAt depth text).value = stripNul text :=
      value_runPasses_eq_self positive removes
    rw [kept] at same ⊢
    exact stripNul_eq_self_iff.mpr (byteLength_stripNul_eq_iff.mp same)

/-- Where a payload is inspected, a level is left for the payloads inside. -/
theorem exists_levels (inside : depth < sanitizer.maxNesting) :
    ∃ levels, sanitizer.maxNesting - depth = levels + 1 ∧
      sanitizer.maxNesting - (depth + 1) = levels := by
  obtain ⟨levels, levels_eq⟩ := Nat.exists_eq_add_of_lt inside
  exact ⟨levels, by omega, by omega⟩

/-- With a level left, a text hides an attack if its length changes one level deeper. -/
theorem value_hidesAttack (inside : depth < sanitizer.maxNesting) (text : Text) :
    (sanitizer.hidesAttack (sanitizer.maxNesting - depth) depth text).value =
      (Utf8.byteLength (sanitizer.sanitizeAt (depth + 1) text).value != Utf8.byteLength text) := by
  obtain ⟨levels, here, deeper⟩ := exists_levels inside
  rw [sanitizeAt, here, deeper]
  rfl

/-! ## Verdicts -/

theorem passAt_eq_changed_iff (positive : 0 < sanitizer.maxPasses) {text : Text} :
    (∃ next, sanitizer.passAt depth text = .changed next) ↔
      sanitizer.patterns.Removes (sanitizer.patterns.Hides (sanitizer.maxNesting - depth))
        text := by
  have judged : (fun hidden =>
      (sanitizer.hidesAttack (sanitizer.maxNesting - depth) depth hidden).value = true) =
      sanitizer.patterns.Hides (sanitizer.maxNesting - depth) :=
    funext fun _ => propext (hidesAttack_iff positive)
  have stable := @Pass.run_eq_stable_iff sanitizer.patterns
    (sanitizer.hidesAttack (sanitizer.maxNesting - depth) depth) text
  rw [judged] at stable
  constructor
  · rintro ⟨next, changed⟩
    refine Classical.byContradiction fun harmless => ?_
    rw [passAt, stable.mpr harmless] at changed
    exact Pass.noConfusion changed
  · intro removes
    cases verdict : sanitizer.passAt depth text with
    | stable => exact absurd removes (stable.mp verdict)
    | changed next => exact ⟨next, rfl⟩

/-- Sanitizing a payload makes it shorter or leaves it alone.  So with a level left the comparison
of lengths finds an attack in a payload exactly if there is a NUL in it or the first pass over it
changes it, and this does not depend on the bound on passes. -/
theorem hidesAttack_exact {compile : Compiler} {settings : Settings}
    (accepted : Sanitizer.compiled? compile settings = .ok sanitizer)
    (inside : depth < sanitizer.maxNesting) (text : Text) :
    Utf8.byteLength (sanitizer.sanitizeAt (depth + 1) text).value ≤ Utf8.byteLength text ∧
      (Utf8.byteLength (sanitizer.sanitizeAt (depth + 1) text).value = Utf8.byteLength text →
        (sanitizer.sanitizeAt (depth + 1) text).value = text) ∧
      (sanitizer.hidesAttack (sanitizer.maxNesting - depth) depth text).value =
        (Utf8.byteLength (sanitizer.sanitizeAt (depth + 1) text).value !=
          Utf8.byteLength text) ∧
      ∀ passes, 1 ≤ passes →
        (({ sanitizer with maxPasses := passes }.hidesAttack (sanitizer.maxNesting - depth) depth
            text).value = true ↔
          '\x00' ∈ text ∨ ∃ next, sanitizer.passAt (depth + 1) text = .changed next) := by
  have positive := maxPasses_pos_of_compiled? accepted
  refine ⟨byteLength_sanitizeAt_le sanitizer (depth + 1) text, value_sanitizeAt_eq_self positive,
    value_hidesAttack inside text, fun passes passes_positive => ?_⟩
  have verdict := @hidesAttack_iff { sanitizer with maxPasses := passes } passes_positive
    (sanitizer.maxNesting - depth) depth text
  obtain ⟨levels, here, deeper⟩ := exists_levels inside
  rw [verdict, passAt_eq_changed_iff positive, here, deeper, PatternSet.Hides]
  by_cases nul : '\x00' ∈ text
  · exact ⟨fun _ => .inl nul, fun _ => .inl nul⟩
  · rw [stripNul_eq_self_iff.mpr nul]

/-- A protocol with an encoded letter, at the deepest level that is inspected and with a single
pass. -/
theorem hidesAttack_exact_javascript :
    3 < Sanitizer.default.maxNesting ∧
      Sanitizer.default.passAt 4 "java&#115;cript:go".toList = .changed "go".toList ∧
      ({ Sanitizer.default with maxPasses := 1 }.hidesAttack 1 3
        "java&#115;cript:go".toList).value = true := by
  have inside : 3 < Sanitizer.default.maxNesting := by decide
  have changed : Sanitizer.default.passAt 4 "java&#115;cript:go".toList =
      .changed "go".toList := by decide +kernel
  obtain ⟨_, _, _, verdict⟩ :=
    hidesAttack_exact ofSettings?_default inside "java&#115;cript:go".toList
  exact ⟨inside, changed, (verdict 1 (Nat.le_refl 1)).mpr (.inr ⟨_, changed⟩)⟩

end Sanitizer

end ScriptSanitizer
