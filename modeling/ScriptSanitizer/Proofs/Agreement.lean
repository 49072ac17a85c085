import ScriptSanitizer.Detection
import ScriptSanitizer.Proofs.Nesting

/-!
# Detection agrees with sanitizing

Detection asks the patterns about the decoded text as it is, and the payloads of all its blocks;
sanitizing removes blocks first and strikes out one pattern after another, again and again.  Both
come to the same verdict where no custom pattern matches the empty text: a text is malicious if and
only if sanitizing it does more than to strike out its NUL characters.
-/

namespace ScriptSanitizer

namespace Sanitizer

variable {sanitizer : Sanitizer}

theorem anyPayloadHides_iff (sanitizer : Sanitizer) (payloads : List Text) :
    (sanitizer.anyPayloadHides payloads).value = true ↔
      ∃ payload ∈ payloads, Base64.Hides (fun hidden =>
        (sanitizer.hidesAttack sanitizer.maxNesting 0 hidden).value = true) payload := by
  induction payloads with
  | nil => simp [anyPayloadHides]
  | cons payload payloads ih =>
      rw [anyPayloadHides]
      simp only [List.mem_cons, exists_eq_or_imp]
      rw [← ih, Base64.Hides]
      cases decoded : Base64.decodePayload payload with
      | error cause => simp
      | ok hidden =>
          cases verdict : (sanitizer.hidesAttack sanitizer.maxNesting 0 hidden).value <;>
            simp [verdict]

/-- A text is malicious if a pattern matches its decoded form or a block in it hides an attack. -/
theorem isMalicious_iff {text : Text} :
    sanitizer.isMalicious text = true ↔
      sanitizer.patterns.firstMatch? (decodeLayers (stripNul text)).value ≠ none ∨
        Base64.HasHidingBlock (fun hidden =>
          (sanitizer.hidesAttack sanitizer.maxNesting 0 hidden).value = true)
          (decodeLayers (stripNul text)).value := by
  have hides := anyPayloadHides_iff sanitizer (Base64.payloads (decodeLayers (stripNul text)).value)
  rw [Base64.HasHidingBlock, ← hides, isMalicious, detect, Logged.value_bind]
  cases sanitizer.patterns.firstMatch? (decodeLayers (stripNul text)).value with
  | some pattern => simp
  | none =>
      cases verdict : (sanitizer.anyPayloadHides
        (Base64.payloads (decodeLayers (stripNul text)).value)).value <;> simp [verdict]

theorem isMalicious_iff_alters (positive : 0 < sanitizer.maxPasses)
    (neverEmpty : sanitizer.patterns.NeverEmpty) {text : Text} :
    sanitizer.isMalicious text = true ↔ sanitizer.Alters (stripNul text) := by
  rw [isMalicious_iff, ← removes_iff_alters positive, PatternSet.Removes, or_comm, ne_eq, ne_eq,
    PatternSet.firstMatch?_eq_none_iff neverEmpty]

/-- A text is malicious if and only if sanitizing it does more than to strike out its NUL
characters; a text that is not comes back as it is written without them. -/
theorem isMalicious_iff_sanitize_ne {compile : Compiler} {settings : Settings}
    (accepted : Sanitizer.compiled? compile settings = .ok sanitizer)
    (neverEmpty : ∀ source ∈ settings.extraPatterns, ∀ finder,
      compile source = .ok finder → finder.NeverEmpty)
    (text : Text) :
    (sanitizer.isMalicious text = true ↔ (sanitizer.sanitize text).value ≠ stripNul text) ∧
      (sanitizer.isMalicious text = false → (sanitizer.sanitize text).value = stripNul text) := by
  obtain ⟨_, _, _, read⟩ := compiled?_eq_ok accepted
  have positive := maxPasses_pos_of_compiled? accepted
  have verdict : sanitizer.isMalicious text = true ↔ sanitizer.Alters (stripNul text) :=
    isMalicious_iff_alters positive (PatternSet.neverEmpty_of_compiled? read neverEmpty)
  constructor
  · rw [verdict, ne_eq, value_sanitize_eq_stripNul_iff positive, Classical.not_not]
  · intro harmless
    refine value_sanitize_eq_stripNul positive fun alters => ?_
    rw [verdict.mpr alters] at harmless
    exact Bool.noConfusion harmless

/-- A custom pattern that is met although a NUL stands inside its match. -/
theorem isMalicious_iff_sanitize_ne_iframe :
    ∃ sanitizer, Sanitizer.ofSettings? { extraPatterns := ["<iframe[^>]*>".toList] } =
        .ok sanitizer ∧
      sanitizer.isMalicious "a<ifr\x00ame src=x>b".toList = true ∧
      (sanitizer.sanitize "a<ifr\x00ame src=x>b".toList).value ≠
        stripNul "a<ifr\x00ame src=x>b".toList := by
  have verdict : (Sanitizer.ofSettings? { extraPatterns := ["<iframe[^>]*>".toList] }).toOption.map
      (fun sanitizer => sanitizer.isMalicious "a<ifr\x00ame src=x>b".toList) = some true := by
    decide +kernel
  have least : (Regex.ofText? Regex.customFlags "<iframe[^>]*>".toList).toOption.map
      (·.minLength) = some 8 := by decide +kernel
  cases accepted : Sanitizer.ofSettings? { extraPatterns := ["<iframe[^>]*>".toList] } with
  | error cause =>
      rw [accepted] at verdict
      exact absurd verdict (Option.some_ne_none true).symm
  | ok sanitizer =>
      rw [accepted] at verdict
      have malicious : sanitizer.isMalicious "a<ifr\x00ame src=x>b".toList = true :=
        Option.some.inj verdict
      refine ⟨sanitizer, rfl, malicious, ?_⟩
      refine (isMalicious_iff_sanitize_ne accepted ?_ _).1.mp malicious
      intro source member finder compiled
      obtain rfl := List.mem_singleton.mp member
      obtain ⟨expression, written, rfl⟩ := Regex.compile?_eq_ok_iff.mp compiled
      rw [written] at least
      have long : expression.minLength = 8 := Option.some.inj least
      exact Regex.neverEmpty_of_minLength_pos (by omega)

end Sanitizer

end ScriptSanitizer
