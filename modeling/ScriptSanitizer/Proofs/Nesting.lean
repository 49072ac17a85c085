import ScriptSanitizer.Proofs.Passes

/-!
# Verdicts on payloads

A payload hides an attack if it has a NUL or if a pass over it removes something, where the payloads
inside are judged with one level less; with no level left every payload hides one.  The verdict of
the sanitizer, which compares the length of the payload with its length after all passes, is this
verdict, whatever the bound on passes.  It can only become stricter with fewer levels.
-/

namespace ScriptSanitizer

theorem byteLength_stripNul_eq_iff {text : Text} :
    Utf8.byteLength (stripNul text) = Utf8.byteLength text ↔ '\x00' ∉ text := by
  rw [← stripNul_eq_self_iff]
  constructor
  · intro same
    exact Utf8.eq_of_sublist_of_byteLength_le (stripNul_sublist text) (Nat.le_of_eq same.symm)
  · intro same
    rw [same]

namespace PatternSet

/-- A text hides an attack, with so many levels left to look into its payloads. -/
def Hides (patterns : PatternSet) : Nat → Text → Prop
  | 0, _ => True
  | levels + 1, text => '\x00' ∈ text ∨ patterns.Removes (patterns.Hides levels) (stripNul text)

theorem Hides.of_succ {patterns : PatternSet} {levels : Nat} {text : Text}
    (hides : patterns.Hides (levels + 1) text) : patterns.Hides levels text := by
  induction levels generalizing text with
  | zero => trivial
  | succ levels ih =>
      rcases hides with nul | removes
      · exact .inl nul
      · exact .inr (removes.mono fun _ => ih)

/-- With fewer levels a verdict can only become stricter. -/
theorem Hides.of_le {patterns : PatternSet} {levels more : Nat} {text : Text}
    (fewer : levels ≤ more) (hides : patterns.Hides more text) : patterns.Hides levels text := by
  induction fewer with
  | refl => exact hides
  | step _ ih => exact ih hides.of_succ

end PatternSet

namespace Sanitizer

variable {sanitizer : Sanitizer}

/-- The verdict on a payload is exact, and does not depend on the bound on passes. -/
theorem hidesAttack_iff (positive : 0 < sanitizer.maxPasses) {levels depth : Nat} {text : Text} :
    (sanitizer.hidesAttack levels depth text).value = true ↔
      sanitizer.patterns.Hides levels text := by
  induction levels generalizing depth text with
  | zero => exact ⟨fun _ => trivial, fun _ => rfl⟩
  | succ levels ih =>
      have judged : (fun hidden =>
          (sanitizer.hidesAttack levels (depth + 1) hidden).value = true) =
          sanitizer.patterns.Hides levels := funext fun _ => propext ih
      have stripped := byteLength_stripNul_le text
      have unequal : (sanitizer.hidesAttack (levels + 1) depth text).value = true ↔
          Utf8.byteLength (runPasses sanitizer.patterns (sanitizer.hidesAttack levels (depth + 1))
            sanitizer.maxPasses (depth + 1) sanitizer.maxPasses (stripNul text)).value ≠
            Utf8.byteLength text := bne_iff_ne
      rw [unequal, PatternSet.Hides, ← judged]
      by_cases removes : sanitizer.patterns.Removes (fun hidden =>
          (sanitizer.hidesAttack levels (depth + 1) hidden).value = true) (stripNul text)
      · have shorter :=
          @byteLength_runPasses_lt _ _ sanitizer.maxPasses (depth + 1) _ _ positive removes
        exact ⟨fun _ => .inr removes, fun _ => by omega⟩
      · rw [value_runPasses_eq_self positive removes, ne_eq, byteLength_stripNul_eq_iff]
        constructor
        · intro nul
          exact .inl (Classical.not_not.mp nul)
        · rintro (nul | removes')
          · exact fun absent => absent nul
          · exact absurd removes' removes

/-! ## Values -/

/-- One pass over a value. -/
def pass (sanitizer : Sanitizer) (text : Text) : Pass :=
  (Pass.run sanitizer.patterns (sanitizer.hidesAttack sanitizer.maxNesting 0) text).value

/-- A pass over a value removes something. -/
def Alters (sanitizer : Sanitizer) (text : Text) : Prop :=
  sanitizer.patterns.Removes (sanitizer.patterns.Hides sanitizer.maxNesting) text

theorem removes_iff_alters (positive : 0 < sanitizer.maxPasses) {text : Text} :
    sanitizer.patterns.Removes (fun hidden =>
        (sanitizer.hidesAttack sanitizer.maxNesting 0 hidden).value = true) text ↔
      sanitizer.Alters text := by
  have judged : (fun hidden =>
      (sanitizer.hidesAttack sanitizer.maxNesting 0 hidden).value = true) =
      sanitizer.patterns.Hides sanitizer.maxNesting :=
    funext fun _ => propext (hidesAttack_iff positive)
  rw [judged, Alters]

theorem pass_eq_stable_iff (positive : 0 < sanitizer.maxPasses) {text : Text} :
    sanitizer.pass text = .stable ↔ ¬ sanitizer.Alters text := by
  rw [← removes_iff_alters positive]
  exact Pass.run_eq_stable_iff

/-- The first pass decides whether a value comes back or further passes follow. -/
theorem value_sanitize_succ {further : Nat} (maxPasses_eq : sanitizer.maxPasses = further + 1)
    (text : Text) :
    (sanitizer.sanitize text).value =
      match sanitizer.pass (stripNul text) with
      | .stable => stripNul text
      | .changed next =>
        (runPasses sanitizer.patterns (sanitizer.hidesAttack sanitizer.maxNesting 0)
          sanitizer.maxPasses 0 further (stripNul next)).value := by
  have run := @value_runPasses_succ sanitizer.patterns
    (sanitizer.hidesAttack sanitizer.maxNesting 0) sanitizer.maxPasses 0 further (stripNul text)
  rw [← maxPasses_eq] at run
  exact run

/-- Sanitizing gives back a value without its NUL characters if a pass removes nothing from it. -/
theorem value_sanitize_eq_stripNul (positive : 0 < sanitizer.maxPasses) {text : Text}
    (harmless : ¬ sanitizer.Alters (stripNul text)) :
    (sanitizer.sanitize text).value = stripNul text := by
  rw [← removes_iff_alters positive] at harmless
  exact value_runPasses_eq_self positive harmless

/-- Sanitizing makes a value shorter if a pass removes something from it. -/
theorem byteLength_sanitize_lt (positive : 0 < sanitizer.maxPasses) {text : Text}
    (alters : sanitizer.Alters (stripNul text)) :
    Utf8.byteLength (sanitizer.sanitize text).value < Utf8.byteLength (stripNul text) := by
  rw [← removes_iff_alters positive] at alters
  exact byteLength_runPasses_lt positive alters

theorem value_sanitize_eq_stripNul_iff (positive : 0 < sanitizer.maxPasses) {text : Text} :
    (sanitizer.sanitize text).value = stripNul text ↔ ¬ sanitizer.Alters (stripNul text) := by
  constructor
  · intro same alters
    have shorter := byteLength_sanitize_lt positive alters
    rw [same] at shorter
    exact Nat.lt_irrefl _ shorter
  · exact value_sanitize_eq_stripNul positive

/-! ## Accepted settings -/

section Accepted

variable {compile : Compiler} {settings : Settings}

/-- Settings are accepted if they allow a pass and the library compiles their patterns. -/
theorem compiled?_eq_ok (accepted : Sanitizer.compiled? compile settings = .ok sanitizer) :
    0 < settings.maxPasses ∧ sanitizer.maxPasses = settings.maxPasses ∧
      sanitizer.maxNesting = settings.maxNesting ∧
      PatternSet.compiled? compile settings.extraPatterns = .ok sanitizer.patterns := by
  unfold compiled? Settings.validate at accepted
  by_cases none_allowed : settings.maxPasses = 0
  · simp [none_allowed, bind, Except.bind] at accepted
  · cases read : PatternSet.compiled? compile settings.extraPatterns with
    | error cause => simp [none_allowed, read, bind, Except.bind] at accepted
    | ok patterns =>
        simp only [none_allowed, ↓reduceIte, read, bind, Except.bind, Except.ok.injEq] at accepted
        subst accepted
        exact ⟨Nat.pos_of_ne_zero none_allowed, rfl, rfl, rfl⟩

theorem compiled?_of_patterns {patterns : PatternSet} (positive : 0 < settings.maxPasses)
    (read : PatternSet.compiled? compile settings.extraPatterns = .ok patterns) :
    Sanitizer.compiled? compile settings =
      .ok ⟨patterns, settings.maxPasses, settings.maxNesting⟩ := by
  have allowed : settings.maxPasses ≠ 0 := Nat.ne_of_gt positive
  simp only [compiled?, Settings.validate, allowed, ↓reduceIte, read, bind, Except.bind]

theorem maxPasses_pos_of_compiled?
    (accepted : Sanitizer.compiled? compile settings = .ok sanitizer) :
    0 < sanitizer.maxPasses := by
  obtain ⟨positive, same, _⟩ := compiled?_eq_ok accepted
  rw [same]
  exact positive

end Accepted

/-- The default sanitizer is the one that the default settings make. -/
theorem ofSettings?_default : Sanitizer.ofSettings? {} = .ok Sanitizer.default :=
  @compiled?_of_patterns Regex.compile? {} _ (by decide) (PatternSet.compiled?_nil _)

end Sanitizer

end ScriptSanitizer
