import ScriptSanitizer.Proofs.Content
import ScriptSanitizer.Proofs.Joining

/-!
# Plain text

Whatever the sanitizer reacts to is written with one of a few characters: an angle bracket, a
parenthesis, a colon or an equals sign in every match of a built-in pattern, a comma in every block,
an ampersand or a backslash in every code.  A text without them is plain: no pass over it removes
anything, however many letters of an attack stand in it, and nothing is reported.
-/

namespace ScriptSanitizer

namespace Base64

/-- Without blocks nothing is judged, and nothing is removed or reported. -/
theorem strikeBlocks_eq_pure {text : Text} (no_block : payloads text = [])
    (judge : Text → Logged Bool) : strikeBlocks judge text = pure text := by
  have lawful := Logged.lawfulMonad
  have characters : strikePieces judge (pieces text) =
      pure ((pieces text).flatMap Piece.text) := by
    rw [payloads, List.filterMap_eq_nil_iff] at no_block
    generalize pieces text = list at no_block
    induction list with
    | nil => rfl
    | cons piece list ih =>
        have behind := ih fun other member => no_block other (List.mem_cons_of_mem piece member)
        cases piece with
        | plain character => rw [strikePieces, behind, pure_bind, List.flatMap_cons]; rfl
        | block block => exact absurd (no_block _ List.mem_cons_self) (Option.some_ne_none _)
  rw [strikeBlocks, characters, flatMap_text_pieces]

end Base64

/-! ## Passes without a report -/

section Passes

variable {patterns : PatternSet} {judge : Text → Logged Bool} {text : Text}

theorem Pass.run_eq_pure_stable (decoded : decodeLayers text = pure text)
    (no_block : Base64.payloads text = []) (unstruck : patterns.strike text = text) :
    Pass.run patterns judge text = pure .stable := by
  have lawful := Logged.lawfulMonad
  rw [Pass.run, decoded, pure_bind, Base64.strikeBlocks_eq_pure no_block, pure_bind, unstruck,
    if_pos ⟨rfl, rfl⟩]

theorem runPasses_eq_pure {maxPasses : Nat} (positive : 0 < maxPasses)
    (stable : Pass.run patterns judge text = pure .stable) (depth : Nat) :
    runPasses patterns judge maxPasses depth maxPasses text = pure text := by
  have lawful := Logged.lawfulMonad
  obtain ⟨further, rfl⟩ := Nat.exists_eq_add_of_le' positive
  rw [runPasses, stable, pure_bind]
  simp only [Nat.lt_irrefl, ↓reduceIte]

end Passes

namespace Sanitizer

variable {sanitizer : Sanitizer} {text : Text}

/-- Every block, every code and every match of a built-in pattern has one of these characters, and
the NUL is struck out wherever it stands. -/
def tellingSigns : List Char := ['<', '(', ':', '=', ',', '&', '\\', '\x00']

/-- In a text without telling signs no attack is found, and it comes back as it is; neither
inspecting nor sanitizing it reports anything. -/
theorem plain_text_unaltered {settings : Settings}
    (accepted : Sanitizer.ofSettings? settings = .ok sanitizer)
    (no_custom : settings.extraPatterns = []) (plain : ∀ sign ∈ tellingSigns, sign ∉ text) :
    sanitizer.detect text = pure none ∧ sanitizer.sanitize text = pure text := by
  simp only [tellingSigns, List.forall_mem_cons] at plain
  obtain ⟨no_less, no_opening, no_colon, no_equals, no_comma, no_ampersand, no_backslash, no_nul,
    _⟩ := plain
  have lawful := Logged.lawfulMonad
  have unstripped := stripNul_eq_self_iff.mpr no_nul
  have decoded := decodeLayers_eq_pure no_backslash no_ampersand
  have no_block : Base64.payloads text = [] :=
    Base64.payloads_eq_nil fun member => no_comma (List.mem_of_mem_drop member)
  have unmatched : sanitizer.patterns.firstMatch? text = none := by
    rw [patterns_of_no_custom accepted no_custom]
    exact PatternSet.firstMatch?_builtin_eq_none no_less no_opening no_colon no_equals
  constructor
  · rw [detect, unstripped, decoded, pure_bind, unmatched, no_block, anyPayloadHides]
    rfl
  · have stable := @Pass.run_eq_pure_stable _
      (sanitizer.hidesAttack (sanitizer.maxNesting - 0) 0) _ decoded no_block
      (PatternSet.strike_eq_self_of_firstMatch?_eq_none unmatched)
    rw [sanitize, sanitizeAt, unstripped]
    exact runPasses_eq_pure (maxPasses_pos_of_compiled? accepted) stable 0

/-- The words of attacks alone, one in long letters, with the strictest bounds. -/
theorem plain_text_unaltered_words :
    ∃ sanitizer, Sanitizer.ofSettings? { maxPasses := 1, maxNesting := 0 } = .ok sanitizer ∧
      sanitizer.detect "onclick; javaſcript eval atob base64 PHNjcmlwdD4".toList = pure none ∧
      sanitizer.sanitize "onclick; javaſcript eval atob base64 PHNjcmlwdD4".toList =
        pure "onclick; javaſcript eval atob base64 PHNjcmlwdD4".toList := by
  have accepted : Sanitizer.ofSettings? { maxPasses := 1, maxNesting := 0 } =
      .ok ⟨.builtin, 1, 0⟩ :=
    @compiled?_of_patterns _ { maxPasses := 1, maxNesting := 0 } _ (by decide)
      (PatternSet.compiled?_nil _)
  have absent : tellingSigns.all (fun sign =>
      sign ∉ "onclick; javaſcript eval atob base64 PHNjcmlwdD4".toList) = true := by decide +kernel
  simp only [List.all_eq_true, decide_eq_true_eq] at absent
  exact ⟨_, accepted, plain_text_unaltered accepted rfl absent⟩

end Sanitizer

end ScriptSanitizer
