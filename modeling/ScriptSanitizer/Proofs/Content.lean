import ScriptSanitizer.Proofs.Regex.Occurrence
import ScriptSanitizer.Proofs.Verdict
import ScriptSanitizer.Proofs.Wrapping

/-!
# Payloads judged by their content

Where no block stands in a text, the comparison of lengths finds an attack in it exactly if
detection does, but for NUL characters: a text that has one is shorter once it is sanitized, while
detection only passes over it.  So a harmless text is kept inside a block.  The patterns are asked
about the symbols of the block as well, and one of them can match there, that of event handlers,
whose equals sign is the padding.
-/

namespace ScriptSanitizer

/-! ## What the built-in patterns read -/

/-- `on`, the stem of an event, characters of words and an equals sign are an event handler. -/
theorem Pattern.matches_eventHandler {stem word : Text} (listed : stem ∈ Pattern.eventStems)
    (each : ∀ character ∈ word, isWordChar character = true) (before : Option Char) (after : Text) :
    Regex.Matches Pattern.eventHandlerRegex before ("on".toList ++ (stem ++ (word ++ ['='])))
      after := by
  have no_blank (before : Option Char) (after : Text) :
      Regex.Matches (.star (.char .blank) true) before [] after := .starNone
  have letters := @Regex.matches_star_char .word word each true
  have equals := fun before => Regex.matches_text before ['='] after
  refine .concat (Regex.matches_text _ _ _) (.concat ?_ ?_)
  · exact Regex.matches_oneOf (List.mem_map_of_mem listed) (Regex.matches_text _ _ _)
  · have last (before : Option Char) := Regex.Matches.concat (no_blank before _) (equals _)
    have behind (before : Option Char) := Regex.Matches.concat (letters before _) (last _)
    exact (Regex.Matches.concat (no_blank _ _) (behind _) :)

/-- Every pattern but that of event handlers reads a bracket or a colon. -/
theorem Pattern.eq_eventHandler_or_mustRead :
    ∀ pattern ∈ Pattern.builtin, pattern = Pattern.eventHandler ∨
      ∃ expression : Regex, pattern.finder = expression.finder ∧
        expression.mustRead (fun character => ['<', '(', ':'].contains character) = true := by
  have less : Unicode.Uncased '<'.toNat := Unicode.uncased_of_lt (by decide)
  have opening : Unicode.Uncased '('.toNat := Unicode.uncased_of_lt (by decide)
  have colon : Unicode.Uncased ':'.toNat := Unicode.uncased_of_lt (by decide)
  simp only [Pattern.builtin, List.forall_mem_cons]
  refine ⟨.inr ⟨_, rfl, ?_⟩, .inr ⟨_, rfl, ?_⟩, .inr ⟨_, rfl, ?_⟩, .inr ⟨_, rfl, ?_⟩,
    .inr ⟨_, rfl, ?_⟩, .inr ⟨_, rfl, ?_⟩, .inr ⟨_, rfl, ?_⟩, .inr ⟨_, rfl, ?_⟩,
    .inr ⟨_, rfl, ?_⟩, .inl trivial, List.forall_mem_nil _⟩
  · exact Regex.mustRead_sequence_of_text less rfl List.mem_cons_self List.mem_cons_self
  · exact Regex.mustRead_text less rfl List.mem_cons_self
  · exact Regex.mustRead_text less rfl List.mem_cons_self
  · exact Regex.mustRead_sequence_of_text less rfl List.mem_cons_self List.mem_cons_self
  · exact Regex.mustRead_sequence_of_text opening rfl (by decide) List.mem_cons_self
  · exact Regex.mustRead_sequence_of_text opening rfl (by decide) List.mem_cons_self
  · exact Regex.mustRead_sequence_of_text opening rfl (by decide) List.mem_cons_self
  · exact Regex.mustRead_text colon rfl (by decide)
  · exact Regex.mustRead_text colon rfl (by decide)

/-- Where there are neither brackets nor colons, only the pattern of event handlers can match. -/
theorem Pattern.eq_eventHandler_of_occursIn {pattern : Pattern} (member : pattern ∈ Pattern.builtin)
    {text : Text} (no_less : '<' ∉ text) (no_opening : '(' ∉ text) (no_colon : ':' ∉ text)
    (occurs : pattern.occursIn text = true) : pattern = Pattern.eventHandler := by
  refine (Pattern.eq_eventHandler_or_mustRead pattern member).resolve_right ?_
  rintro ⟨expression, finder_eq, must⟩
  have absent : expression.occursIn text = false := by
    refine Regex.occursIn_eq_false_of_mustRead must fun character present => ?_
    refine eq_false_of_ne_true fun bracket => ?_
    have listed := List.contains_iff_mem.mp bracket
    simp only [List.mem_cons, List.not_mem_nil, or_false] at listed
    rcases listed with rfl | rfl | rfl
    · exact no_less present
    · exact no_opening present
    · exact no_colon present
  have found : expression.occursIn text = true := by
    rwa [Pattern.occursIn, finder_eq] at occurs
  rw [absent] at found
  exact Bool.noConfusion found

/-- An event handler has an equals sign. -/
theorem Pattern.not_occursIn_eventHandler {text : Text} (no_equals : '=' ∉ text) :
    Pattern.eventHandler.occursIn text = false := by
  have must : Pattern.eventHandlerRegex.mustRead (fun character => character == '=') = true :=
    Regex.mustRead_sequence_of_text (Unicode.uncased_of_lt (by decide)) rfl
      (List.mem_singleton_self '=') (by simp)
  refine Regex.occursIn_eq_false_of_mustRead must fun character present => ?_
  rw [beq_eq_false_iff_ne]
  rintro rfl
  exact no_equals present

/-- No built-in pattern matches where there are neither brackets, colons nor equals signs. -/
theorem PatternSet.firstMatch?_builtin_eq_none {text : Text} (no_less : '<' ∉ text)
    (no_opening : '(' ∉ text) (no_colon : ':' ∉ text) (no_equals : '=' ∉ text) :
    PatternSet.builtin.firstMatch? text = none := by
  rw [PatternSet.firstMatch?, List.find?_eq_none]
  intro pattern member occurs
  obtain rfl := Pattern.eq_eventHandler_of_occursIn member no_less no_opening no_colon occurs
  rw [Pattern.not_occursIn_eventHandler no_equals] at occurs
  exact Bool.noConfusion occurs

namespace Sanitizer

variable {sanitizer : Sanitizer} {text : Text}

/-! ## Texts without blocks -/

theorem not_hasHidingBlock (no_block : Base64.payloads text = []) (judge : Text → Prop) :
    ¬ Base64.HasHidingBlock judge text := by
  rintro ⟨payload, member, _⟩
  rw [no_block] at member
  exact List.not_mem_nil member

/-- Detection finds nothing where nothing is found in the decoded text. -/
theorem isMalicious_eq_false
    (no_block : Base64.payloads (decodeLayers (stripNul text)).value = [])
    (unmatched : sanitizer.patterns.firstMatch? (decodeLayers (stripNul text)).value = none) :
    sanitizer.isMalicious text = false := by
  refine eq_false_of_ne_true fun malicious => ?_
  rcases isMalicious_iff.mp malicious with matched | hidden
  · exact matched unmatched
  · exact not_hasHidingBlock no_block _ hidden

/-- A text without blocks hides an attack if it has a NUL or carries an attack. -/
theorem hides_succ_iff (neverEmpty : sanitizer.patterns.NeverEmpty)
    (no_block : Base64.payloads (decodeLayers (stripNul text)).value = []) (levels : Nat) :
    sanitizer.patterns.Hides (levels + 1) text ↔
      '\x00' ∈ text ∨ sanitizer.isMalicious text = true := by
  have none_hiding := not_hasHidingBlock no_block
  rw [PatternSet.Hides, PatternSet.Removes, isMalicious_iff, or_iff_right (none_hiding _),
    or_iff_left (none_hiding _), ne_eq, ne_eq, PatternSet.firstMatch?_eq_none_iff neverEmpty]

theorem patterns_of_no_custom {settings : Settings}
    (accepted : Sanitizer.ofSettings? settings = .ok sanitizer)
    (no_custom : settings.extraPatterns = []) : sanitizer.patterns = .builtin := by
  obtain ⟨_, _, _, read⟩ := compiled?_eq_ok accepted
  rw [no_custom, (PatternSet.compiled?_nil _)] at read
  exact (Except.ok.inj read).symm

/-- With a level left, a payload without blocks hides an attack exactly if there is a NUL in it or
detection finds an attack in it, at every depth. -/
theorem value_hidesAttack_eq_isMalicious {settings : Settings} {depth : Nat}
    (accepted : Sanitizer.ofSettings? settings = .ok sanitizer)
    (no_custom : settings.extraPatterns = []) (inside : depth < sanitizer.maxNesting)
    (no_block : Base64.payloads (decodeLayers (stripNul text)).value = []) :
    (sanitizer.hidesAttack (sanitizer.maxNesting - depth) depth text).value =
      (text.contains '\x00' || sanitizer.isMalicious text) := by
  have positive := maxPasses_pos_of_compiled? accepted
  have neverEmpty : sanitizer.patterns.NeverEmpty := by
    rw [patterns_of_no_custom accepted no_custom]
    exact PatternSet.builtin_neverEmpty
  obtain ⟨levels, here, _⟩ := exists_levels inside
  rw [Bool.eq_iff_iff, hidesAttack_iff positive, here, hides_succ_iff neverEmpty no_block,
    Bool.or_eq_true, List.contains_iff_mem]

/-- The signature of an image is harmless at the deepest level that is inspected. -/
theorem value_hidesAttack_eq_isMalicious_image :
    3 < Sanitizer.default.maxNesting ∧
      Base64.payloads (decodeLayers (stripNul "\uFFFDPNG\r\n\x1A\n".toList)).value = [] ∧
      (Sanitizer.default.hidesAttack (Sanitizer.default.maxNesting - 3) 3
        "\uFFFDPNG\r\n\x1A\n".toList).value = false := by
  have inside : 3 < Sanitizer.default.maxNesting := by decide
  have decoded : (decodeLayers (stripNul "\uFFFDPNG\r\n\x1A\n".toList)).value =
      "\uFFFDPNG\r\n\x1A\n".toList := by decide
  have no_block : Base64.payloads
      (decodeLayers (stripNul "\uFFFDPNG\r\n\x1A\n".toList)).value = [] := by decide
  have harmless : Sanitizer.default.isMalicious "\uFFFDPNG\r\n\x1A\n".toList = false := by
    refine isMalicious_eq_false no_block ?_
    rw [decoded]
    exact PatternSet.firstMatch?_builtin_eq_none (by decide) (by decide) (by decide) (by decide)
  refine ⟨inside, no_block, ?_⟩
  rw [value_hidesAttack_eq_isMalicious ofSettings?_default rfl inside no_block, harmless]
  decide

/-- A payload that is a single NUL hides an attack, although detection finds none. -/
theorem value_hidesAttack_nul_ne_isMalicious :
    Sanitizer.ofSettings? {} = .ok Sanitizer.default ∧ 0 < Sanitizer.default.maxNesting ∧
      Base64.payloads (decodeLayers (stripNul ['\x00'])).value = [] ∧
      (Sanitizer.default.hidesAttack Sanitizer.default.maxNesting 0 ['\x00']).value = true ∧
      Sanitizer.default.isMalicious ['\x00'] = false := by
  have unmatched : PatternSet.builtin.firstMatch? [] = none :=
    PatternSet.firstMatch?_builtin_eq_none (by decide) (by decide) (by decide) (by decide)
  refine ⟨ofSettings?_default, by decide, by decide, ?_, isMalicious_eq_false (by decide) unmatched⟩
  exact (hidesAttack_iff (by decide)).mpr (.inl (List.mem_singleton_self '\x00'))

end Sanitizer

/-! ## The symbols of a block -/

namespace Base64

/-- Of the built-in patterns only that of event handlers can match a block. -/
theorem strike_wrap_eq_self_iff (text : Text) :
    PatternSet.builtin.strike (wrap text) = wrap text ↔
      Pattern.eventHandler.occursIn (wrap text) = false := by
  rw [← PatternSet.firstMatch?_eq_none_iff PatternSet.builtin_neverEmpty, PatternSet.firstMatch?,
    List.find?_eq_none]
  constructor
  · intro unmatched
    exact eq_false_of_ne_true (unmatched _ (by simp [PatternSet.builtin, Pattern.builtin]))
  · intro no_handler pattern member occurs
    have no_less : '<' ∉ wrap text := not_mem_wrap text (by decide) (by decide) (by decide)
    have no_opening : '(' ∉ wrap text := not_mem_wrap text (by decide) (by decide) (by decide)
    have no_colon : ':' ∉ wrap text := not_mem_wrap text (by decide) (by decide) (by decide)
    obtain rfl := Pattern.eq_eventHandler_of_occursIn member no_less no_opening no_colon occurs
    rw [no_handler] at occurs
    exact Bool.noConfusion occurs

theorem equals_not_mem_wrap {text : Text} (complete : Utf8.byteLength text % 3 = 0) :
    '=' ∉ wrap text := by
  intro member
  rcases List.mem_append.mp member with marker | payload
  · exact absurd marker (by decide)
  · exact absurd ((encodeText_of_complete complete).1 _ payload) (by decide)

end Base64

namespace Sanitizer

variable {text : Text}

theorem not_hides_of_harmless (no_nul : '\x00' ∉ text)
    (no_block : Base64.payloads (decodeLayers text).value = [])
    (harmless : Sanitizer.default.isMalicious text = false) :
    ¬ Sanitizer.default.patterns.Hides Sanitizer.default.maxNesting text := by
  rw [← stripNul_eq_self_iff.mpr no_nul] at no_block
  have verdict := @hides_succ_iff Sanitizer.default text PatternSet.builtin_neverEmpty no_block 3
  rw [harmless] at verdict
  exact fun hides => (verdict.mp hides).elim no_nul Bool.false_ne_true

/-- The block of a text that hides nothing is kept if no event handler is read in it. -/
theorem value_sanitize_wrap_eq_self_iff
    (unhidden : ¬ Sanitizer.default.patterns.Hides Sanitizer.default.maxNesting text) :
    (Sanitizer.default.sanitize (Base64.wrap text)).value = Base64.wrap text ↔
      Pattern.eventHandler.occursIn (Base64.wrap text) = false := by
  have unstruck := stripNul_eq_self_iff.mpr (Base64.nul_not_mem_wrap text)
  have verdict := @value_sanitize_eq_stripNul_iff Sanitizer.default (by decide) (Base64.wrap text)
  rw [unstruck, Alters, PatternSet.Removes, Base64.value_decodeLayers_wrap,
    Base64.hasHidingBlock_wrap_iff, or_iff_right unhidden, ne_eq, Classical.not_not] at verdict
  exact verdict.trans (Base64.strike_wrap_eq_self_iff text)

/-- The base64 of a harmless text is kept in a block exactly if its symbols and padding do not read
as an event handler, and so whenever it is written without padding. -/
theorem sanitize_wrap_eq_self_iff (no_nul : '\x00' ∉ text)
    (no_block : Base64.payloads (decodeLayers text).value = [])
    (harmless : Sanitizer.default.isMalicious text = false) :
    ((Sanitizer.default.sanitize (Base64.wrap text)).value = Base64.wrap text ↔
        Pattern.eventHandler.occursIn (Base64.wrap text) = false) ∧
      (Utf8.byteLength text % 3 = 0 →
        (Sanitizer.default.sanitize (Base64.wrap text)).value = Base64.wrap text) := by
  have kept := value_sanitize_wrap_eq_self_iff (not_hides_of_harmless no_nul no_block harmless)
  exact ⟨kept, fun complete =>
    kept.mpr (Pattern.not_occursIn_eventHandler (Base64.equals_not_mem_wrap complete))⟩

/-- A harmless text whose base64 has no padding. -/
theorem sanitize_wrap_eq_self_iff_hello :
    '\x00' ∉ "hello world!".toList ∧
      Base64.payloads (decodeLayers "hello world!".toList).value = [] ∧
      Sanitizer.default.isMalicious "hello world!".toList = false ∧
      (Sanitizer.default.sanitize (Base64.wrap "hello world!".toList)).value =
        Base64.wrap "hello world!".toList := by
  have no_nul : '\x00' ∉ "hello world!".toList := by decide
  have no_block : Base64.payloads (decodeLayers "hello world!".toList).value = [] := by decide
  have unmatched : PatternSet.builtin.firstMatch? "hello world!".toList = none :=
    PatternSet.firstMatch?_builtin_eq_none (by decide) (by decide) (by decide) (by decide)
  have harmless : Sanitizer.default.isMalicious "hello world!".toList = false :=
    isMalicious_eq_false no_block unmatched
  exact ⟨no_nul, no_block, harmless,
    (sanitize_wrap_eq_self_iff no_nul no_block harmless).2 (by decide)⟩

/-- A harmless text whose base64, `SEonendAQQ==`, reads as an event handler. -/
theorem sanitize_wrap_handler_ne :
    '\x00' ∉ "HJ'zw@A".toList ∧
      Base64.payloads (decodeLayers "HJ'zw@A".toList).value = [] ∧
      Sanitizer.default.isMalicious "HJ'zw@A".toList = false ∧
      (Sanitizer.default.sanitize (Base64.wrap "HJ'zw@A".toList)).value ≠
        Base64.wrap "HJ'zw@A".toList := by
  have no_nul : '\x00' ∉ "HJ'zw@A".toList := by decide
  have no_block : Base64.payloads (decodeLayers "HJ'zw@A".toList).value = [] := by decide
  have unmatched : PatternSet.builtin.firstMatch? "HJ'zw@A".toList = none :=
    PatternSet.firstMatch?_builtin_eq_none (by decide) (by decide) (by decide) (by decide)
  have harmless : Sanitizer.default.isMalicious "HJ'zw@A".toList = false :=
    isMalicious_eq_false no_block unmatched
  have encoded : Base64.wrap "HJ'zw@A".toList = "base64,SE".toList ++
      (("on".toList ++ ("end".toList ++ ("AQQ".toList ++ ['=']))) ++ ['=']) := by decide
  have listed : "end".toList ∈ Pattern.eventStems := by decide
  have letters : "AQQ".toList.all isWordChar = true := by decide
  have handler : Pattern.eventHandler.occursIn (Base64.wrap "HJ'zw@A".toList) = true := by
    rw [encoded]
    exact Regex.occursIn_iff.mpr ⟨_, _, _, rfl,
      Pattern.matches_eventHandler listed (List.all_eq_true.mp letters) _ _⟩
  refine ⟨no_nul, no_block, harmless, fun kept => ?_⟩
  have unread := (value_sanitize_wrap_eq_self_iff
    (not_hides_of_harmless no_nul no_block harmless)).mp kept
  rw [handler] at unread
  exact Bool.noConfusion unread

end Sanitizer

end ScriptSanitizer
