import ScriptSanitizer.Proofs.Convergence
import ScriptSanitizer.Proofs.Locality
import ScriptSanitizer.Proofs.Regex.Occurrence

/-!
# What survives decoding

A value comes to rest where nothing is found in its decoded form, but it is returned as it is
written.  Decoding may break what stands there: in `&#x1eval(1)` the reference takes the first
letter of a call.  It cannot break tags, schemes and handlers.  These start with characters that no
escape and no reference reads, and have neither a backslash nor an ampersand in them, so that they
come out of the decoders as they are written; whatever the decoders make of the attributes of a tag,
its beginning and its end stay.  So none of these is in a value that has come to rest.
-/

namespace ScriptSanitizer

/-- No escape and no reference reads the character, unless as a letter of a name. -/
def startsApart (character : Char) : Bool :=
  !isHexDigit character && !(['\\', 'u', '#', 'x', 'X'].contains character)

/-- A stretch that has more than letters and digits in it, but no semicolon, closes no name. -/
theorem head?_dropWhile_isAlphanum_ne {stretch : Text} (no_semicolon : ';' ∉ stretch)
    (mark : ∃ character ∈ stretch, character.isAlphanum = false) (after : Text) :
    ((stretch ++ after).dropWhile Char.isAlphanum).head? ≠ some ';' := by
  obtain ⟨character, member, no_letter⟩ := mark
  cases behind : stretch.dropWhile Char.isAlphanum with
  | nil =>
      have split : stretch.takeWhile Char.isAlphanum ++ stretch.dropWhile Char.isAlphanum =
          stretch := List.takeWhile_append_dropWhile
      rw [behind, List.append_nil] at split
      have letters := @List.all_takeWhile _ Char.isAlphanum stretch
      rw [split, List.all_eq_true] at letters
      rw [letters character member] at no_letter
      exact Bool.noConfusion no_letter
  | cons head more =>
      have present : head ∈ stretch := by
        refine (List.dropWhile_suffix Char.isAlphanum).subset ?_
        rw [behind]
        exact List.mem_cons_self
      rw [List.dropWhile_append, behind, List.isEmpty_cons, if_neg Bool.false_ne_true]
      intro closes
      obtain rfl := Option.some.inj closes
      exact no_semicolon present

/-- A stretch that decoding leaves as it is written, whatever stands around it. -/
structure KeptByDecoding (stretch : Text) : Prop where
  /-- It goes on with no escape and no number. -/
  start : ∀ character, stretch.head? = some character → startsApart character = true
  /-- It has no escape in it. -/
  no_backslash : '\\' ∉ stretch
  /-- It has no reference in it. -/
  no_ampersand : '&' ∉ stretch
  /-- It closes no name. -/
  no_semicolon : ';' ∉ stretch
  /-- It is no part of a name. -/
  mark : ∃ character ∈ stretch, character.isAlphanum = false

namespace KeptByDecoding

variable {stretch : Text}

theorem head?_append (kept : KeptByDecoding stretch) (after : Text) :
    (stretch ++ after).head? = stretch.head? := by
  obtain ⟨character, member, _⟩ := kept.mark
  obtain ⟨head, more, rfl⟩ := List.exists_cons_of_ne_nil (List.ne_nil_of_mem member)
  rfl

theorem start_append (kept : KeptByDecoding stretch) (after : Text) {character : Char}
    (head : (stretch ++ after).head? = some character) :
    isHexDigit character = false ∧ character ∉ ['\\', 'u', '#', 'x', 'X'] := by
  rw [kept.head?_append] at head
  have start := kept.start character head
  simpa only [startsApart, Bool.and_eq_true, Bool.not_eq_true', List.contains_eq_mem,
    decide_eq_false_iff_not] using start

theorem unicodeEscape_standsApart (kept : KeptByDecoding stretch) (after : Text) :
    UnicodeEscape.StandsApart (stretch ++ after) := by
  intro character head
  obtain ⟨no_digit, no_sign⟩ := kept.start_append after head
  simp only [List.mem_cons, not_or] at no_sign
  exact ⟨no_sign.1, no_sign.2.1, no_digit⟩

theorem entity_standsApart (kept : KeptByDecoding stretch) (after : Text) :
    Entity.StandsApart (stretch ++ after) where
  number := by
    intro character head
    obtain ⟨no_digit, no_sign⟩ := kept.start_append after head
    simp only [List.mem_cons, not_or] at no_sign
    obtain ⟨_, _, no_hash, no_lower, no_upper, _⟩ := no_sign
    exact ⟨no_hash, no_lower, no_upper, no_digit⟩
  name := head?_dropWhile_isAlphanum_ne kept.no_semicolon kept.mark after

theorem value_decodeLayers (kept : KeptByDecoding stretch) (front after : Text) :
    (decodeLayers (front ++ (stretch ++ after))).value =
      (decodeLayers front).value ++ (stretch ++ (decodeLayers after).value) := by
  simp only [ScriptSanitizer.value_decodeLayers]
  rw [UnicodeEscape.decode_append_of_standsApart (kept.unicodeEscape_standsApart after),
    UnicodeEscape.decode_append kept.no_backslash,
    Entity.decode_append_of_standsApart (kept.entity_standsApart _),
    Entity.decode_append kept.no_ampersand]

end KeptByDecoding

/-! ## Expressions whose matches are kept -/

namespace Regex

/-- Whatever the expression matches starts with one of the characters chosen, is no part of a name,
and has nothing in it that begins a code or closes one, as far as the expression shows. -/
def isKeptFrom (start : Char → Bool) (expression : Regex) : Bool :=
  expression.unconditional && expression.startsAmong start &&
    expression.mustRead (fun character => !character.isAlphanum) &&
    ['\\', '&', ';'].all fun character => !expression.mayRead character

/-- Whatever the expression matches is kept by decoding, as far as the expression shows. -/
def isKeptByDecoding (expression : Regex) : Bool :=
  expression.unconditional && expression.startsAmong startsApart &&
    expression.mustRead (fun character => !character.isAlphanum) &&
    ['\\', '&', ';'].all fun character => !expression.mayRead character

variable {expression : Regex} {start : Char → Bool}

theorem unconditional_of_isKeptFrom (kept : expression.isKeptFrom start = true) :
    expression.unconditional = true := by
  simp only [isKeptFrom, Bool.and_eq_true] at kept
  exact kept.1.1.1

theorem start_and_signs_of_matches {before : Option Char} {stretch after : Text}
    (kept : expression.isKeptFrom start = true)
    (found : Matches expression before stretch after) :
    (∀ character, stretch.head? = some character → start character = true) ∧
      (∀ sign ∈ ['\\', '&', ';'], sign ∉ stretch) ∧
      ∃ character ∈ stretch, character.isAlphanum = false := by
  simp only [isKeptFrom, Bool.and_eq_true, List.all_eq_true, Bool.not_eq_true'] at kept
  obtain ⟨⟨⟨_, starts⟩, must⟩, never⟩ := kept
  refine ⟨fun character head => chosen_of_startsAmong starts found head, ?_, ?_⟩
  · intro sign listed member
    have reads := mayRead_of_mem found member
    rw [never sign listed] at reads
    exact Bool.noConfusion reads
  · obtain ⟨character, member, chosen⟩ := exists_mem_of_mustRead must found
    exact ⟨character, member, (Bool.not_eq_true' _).mp chosen⟩

theorem unconditional_of_isKeptByDecoding (kept : expression.isKeptByDecoding = true) :
    expression.unconditional = true :=
  @unconditional_of_isKeptFrom expression startsApart kept

theorem keptByDecoding_of_matches {before : Option Char} {stretch after : Text}
    (kept : expression.isKeptByDecoding = true)
    (found : Matches expression before stretch after) : KeptByDecoding stretch := by
  obtain ⟨starts, absent, mark⟩ :=
    @start_and_signs_of_matches expression startsApart _ _ _ kept found
  exact ⟨starts, absent '\\' (by decide), absent '&' (by decide), absent ';' (by decide), mark⟩

/-- An expression whose matches are kept occurs in the decoded text if it occurs in the text. -/
theorem occursIn_decodeLayers (kept : expression.isKeptByDecoding = true) {text : Text}
    (occurs : expression.occursIn text = true) :
    expression.occursIn (decodeLayers text).value = true := by
  obtain ⟨front, stretch, after, rfl, found⟩ := occursIn_iff.mp occurs
  rw [(keptByDecoding_of_matches kept found).value_decodeLayers]
  refine occursIn_iff.mpr ⟨_, stretch, _, rfl, ?_⟩
  exact matches_elsewhere (unconditional_of_isKeptByDecoding kept) found _ _

/-- The first part of a concatenation occurs where the whole does. -/
theorem occursIn_of_concat {second : Regex} {text : Text}
    (occurs : (concat expression second).occursIn text = true) :
    expression.occursIn text = true := by
  obtain ⟨front, stretch, after, rfl, found⟩ := occursIn_iff.mp occurs
  cases found with
  | @concat _ _ _ left right _ matchesFirst _ =>
      refine occursIn_iff.mpr ⟨front, left, right ++ after, ?_, matchesFirst⟩
      rw [List.append_assoc]

/-- An expression with anything between its first and its last part occurs in the decoded text if it
occurs in the text and the matches of both parts are kept. -/
theorem occursIn_decodeLayers_of_ends {last : Regex}
    (first_kept : expression.isKeptByDecoding = true)
    (last_kept : last.isKeptByDecoding = true) {text : Text}
    (occurs : (concat expression (concat (Pattern.anything .any) last)).occursIn text = true) :
    (concat expression (concat (Pattern.anything .any) last)).occursIn
      (decodeLayers text).value = true := by
  obtain ⟨front, stretch, after, rfl, found⟩ := occursIn_iff.mp occurs
  cases found with
  | @concat _ _ _ left _ _ matchesFirst matchesBehind =>
      cases matchesBehind with
      | @concat _ _ _ between right _ _ matchesLast =>
          have parts : front ++ (left ++ (between ++ right) ++ after) =
              front ++ (left ++ (between ++ (right ++ after))) := by
            simp only [List.append_assoc]
          rw [parts, (keptByDecoding_of_matches first_kept matchesFirst).value_decodeLayers,
            (keptByDecoding_of_matches last_kept matchesLast).value_decodeLayers]
          refine occursIn_iff.mpr ⟨(decodeLayers front).value,
            left ++ ((decodeLayers between).value ++ right), (decodeLayers after).value, ?_, ?_⟩
          · simp only [List.append_assoc]
          · have first_fixed := unconditional_of_isKeptByDecoding first_kept
            have last_fixed := unconditional_of_isKeptByDecoding last_kept
            refine .concat ?_ (.concat (matches_star_char (fun _ _ => rfl) _ _ _) ?_)
            · exact matches_elsewhere first_fixed matchesFirst _ _
            · exact matches_elsewhere last_fixed matchesLast _ _

end Regex

/-! ## Tags, schemes and handlers -/

namespace Pattern

/-- Of the characters without case a handler reads those of its texts, blanks and those of words. -/
theorem mayRead_eventHandler_eq_false {character : Char}
    (uncased : Unicode.Uncased character.toNat) (no_text : character ∉ ['o', 'n', '='])
    (no_stem : ∀ stem ∈ eventStems, character ∉ stem) (no_blank : isBlank character = false)
    (no_word : isWordChar character = false) :
    eventHandlerRegex.mayRead character = false := by
  simp only [List.mem_cons, List.not_mem_nil, or_false, not_or] at no_text
  have text_reads (letters : Text) (absent : character ∉ letters) :
      (Regex.text letters).mayRead character = false := by
    rw [Regex.mayRead_text uncased, List.contains_eq_mem, decide_eq_false_iff_not]
    exact absent
  have on_text := text_reads "on".toList (by simp [no_text])
  have equals_text := text_reads ['='] (by simp [no_text])
  have stems : (eventStems.map Regex.text).any (fun expression => expression.mayRead character) =
      false := by
    rw [List.any_map, List.any_eq_false]
    intro stem member
    rw [Function.comp_apply, text_reads stem (no_stem stem member)]
    exact Bool.false_ne_true
  rw [eventHandlerRegex, Regex.mayRead_sequence]
  simp only [List.any_cons, List.any_nil, on_text, equals_text, Regex.mayRead_oneOf, stems,
    Regex.mayRead, CharClass.contains, no_blank, no_word, Bool.or_self]

theorem isKeptByDecoding_eventHandler : eventHandlerRegex.isKeptByDecoding = true := by
  have unconditional : eventHandlerRegex.unconditional = true := by decide +kernel
  have starts : eventHandlerRegex.startsAmong startsApart = true := by decide +kernel
  have must : eventHandlerRegex.mustRead (fun character => !character.isAlphanum) = true := by
    decide +kernel
  have never : ∀ sign ∈ ['\\', '&', ';'], eventHandlerRegex.mayRead sign = false := by
    simp only [List.forall_mem_cons]
    refine ⟨?_, ?_, ?_, List.forall_mem_nil _⟩
    all_goals
      exact mayRead_eventHandler_eq_false (by decide +kernel) (by decide) (by decide +kernel)
        rfl rfl
  simp only [Regex.isKeptByDecoding, unconditional, starts, must, Bool.true_and, List.all_eq_true,
    Bool.not_eq_true']
  exact never

/-- If a tag, a scheme or a handler stands in a text as it is written, then a pattern matches what
the text decodes to. -/
theorem exists_occursIn_decodeLayers {pattern : Pattern} (member : pattern ∈ builtin)
    (markup : pattern.attack ∈
      [.scriptInjection, .javascriptProtocol, .vbscriptProtocol, .eventHandler])
    {text : Text} (occurs : pattern.occursIn text = true) :
    ∃ other ∈ builtin, other.occursIn (decodeLayers text).value = true := by
  have opening : (Regex.text "<script>".toList).isKeptByDecoding = true := by decide +kernel
  have closing : (Regex.text "</script>".toList).isKeptByDecoding = true := by decide +kernel
  have tagStart : (Regex.text "<script".toList).isKeptByDecoding = true := by decide +kernel
  have tagEnd : (Regex.text ['>']).isKeptByDecoding = true := by decide +kernel
  have javascript : (Regex.text "javascript:".toList).isKeptByDecoding = true := by decide +kernel
  have vbscript : (Regex.text "vbscript:".toList).isKeptByDecoding = true := by decide +kernel
  have member' := member
  simp only [builtin, List.mem_cons, List.not_mem_nil, or_false] at member
  rcases member with rfl | rfl | rfl | rfl | rfl | rfl | rfl | rfl | rfl | rfl
  · -- The element starts with the tag, which is a pattern of its own.
    refine ⟨word .scriptInjection "<script>".toList, by simp [builtin], ?_⟩
    exact Regex.occursIn_decodeLayers opening (Regex.occursIn_of_concat occurs)
  · exact ⟨_, member', Regex.occursIn_decodeLayers opening occurs⟩
  · exact ⟨_, member', Regex.occursIn_decodeLayers closing occurs⟩
  · exact ⟨_, member', Regex.occursIn_decodeLayers_of_ends tagStart tagEnd occurs⟩
  · exact absurd markup (by decide)
  · exact absurd markup (by decide)
  · exact absurd markup (by decide)
  · exact ⟨_, member', Regex.occursIn_decodeLayers javascript occurs⟩
  · exact ⟨_, member', Regex.occursIn_decodeLayers vbscript occurs⟩
  · exact ⟨_, member', Regex.occursIn_decodeLayers isKeptByDecoding_eventHandler occurs⟩

end Pattern

/-! ## Values at rest -/

namespace Sanitizer

variable {sanitizer : Sanitizer}

/-- Nothing that a pass leaves alone matches a built-in pattern once it is decoded. -/
theorem not_occursIn_decodeLayers_of_stable {compile : Compiler} {settings : Settings}
    (accepted : Sanitizer.compiled? compile settings = .ok sanitizer) {text : Text}
    (stable : sanitizer.pass text = .stable) {pattern : Pattern}
    (member : pattern ∈ Pattern.builtin) :
    pattern.occursIn (decodeLayers text).value = false := by
  obtain ⟨_, _, _, read⟩ := compiled?_eq_ok accepted
  have harmless := (pass_eq_stable_iff (maxPasses_pos_of_compiled? accepted)).mp stable
  have unstruck := Classical.not_not.mp (not_or.mp harmless).2
  have present := (PatternSet.mem_patterns_iff read).mpr (.inl member)
  exact Finder.not_occurs_of_strikeFrom_eq_self (PatternSet.builtin_neverEmpty pattern member)
    (PatternSet.strike_eq_self_iff.mp unstruck pattern present)

/-- No tag, scheme or handler stands in what a value comes to rest at, as it is written. -/
theorem not_occursIn_sanitize {compile : Compiler} {settings : Settings}
    (accepted : Sanitizer.compiled? compile settings = .ok sanitizer) {value : Text}
    (unreported : Event.passLimit sanitizer.maxPasses 0 ∉ (sanitizer.sanitize value).events) :
    ∀ pattern ∈ Pattern.builtin,
      pattern.attack ∈ [.scriptInjection, .javascriptProtocol, .vbscriptProtocol, .eventHandler] →
        pattern.occursIn (sanitizer.sanitize value).value = false := by
  intro pattern member markup
  obtain ⟨_, _, _, stable⟩ := settles_iff.mpr unreported
  refine eq_false_of_ne_true fun occurs => ?_
  obtain ⟨other, other_member, found⟩ :=
    Pattern.exists_occursIn_decodeLayers member markup occurs
  rw [not_occursIn_decodeLayers_of_stable accepted stable other_member] at found
  exact Bool.noConfusion found

/-- A tag that the removal of another one puts together. -/
theorem not_occursIn_sanitize_reassembled_tag :
    Event.passLimit 10 0 ∉ (Sanitizer.default.sanitize "<scr<script>ipt src=x>hi".toList).events ∧
      ∀ pattern ∈ Pattern.builtin,
        pattern.attack ∈
            [.scriptInjection, .javascriptProtocol, .vbscriptProtocol, .eventHandler] →
          pattern.occursIn
            (Sanitizer.default.sanitize "<scr<script>ipt src=x>hi".toList).value = false := by
  have unreported : Event.passLimit 10 0 ∉
      (Sanitizer.default.sanitize "<scr<script>ipt src=x>hi".toList).events := by decide +kernel
  exact ⟨unreported, not_occursIn_sanitize ofSettings?_default unreported⟩

end Sanitizer

end ScriptSanitizer
