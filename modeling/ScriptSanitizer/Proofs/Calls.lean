import ScriptSanitizer.Proofs.Survival

/-!
# Calls in values at rest

The names of the calls start with letters that are hexadecimal digits, so what stands in front of a
call may read its first letter: in `&#x1eval(1)` the `e` is the last digit of a reference, and what
is decoded is no call.  This is the only way in which a call can stand in a value that has come to
rest.  Behind its first letter a call goes on with a letter that is no digit, and up to its
parenthesis it has nothing in it that a decoder reads; so if the first letter is kept, the decoded
text has the call too.
-/

namespace ScriptSanitizer

/-! ## Texts that end in a code -/

/-- The last character of the text belongs to an escape that is decoded. -/
def UnicodeEscape.EndsDecoded (text : Text) : Prop :=
  ∃ before character, pieces text = before ++ [.decoded character]

/-- The last character of the text belongs to a reference that is decoded. -/
def Entity.EndsDecoded (text : Text) : Prop :=
  ∃ before character, pieces text = before ++ [.decoded character]

/-- The last character of the text belongs to an escape, or to a reference that is found once the
escapes are decoded. -/
def EndsInCode (text : Text) : Prop :=
  UnicodeEscape.EndsDecoded text ∨ Entity.EndsDecoded (UnicodeEscape.decode text)

theorem UnicodeEscape.endsDecoded_or_kept (text : Text) (last : Char) :
    EndsDecoded (text ++ [last]) ∨ ∃ kept, decode (text ++ [last]) = kept ++ [last] := by
  rcases Scan.exists_last_piece_or_kept decoded_or_kept_step text last with
    ⟨before, _, found, character, rfl⟩ | kept
  · exact .inl ⟨before, character, found⟩
  · exact .inr kept

theorem Entity.endsDecoded_or_kept (text : Text) (last : Char) :
    EndsDecoded (text ++ [last]) ∨ ∃ kept, decode (text ++ [last]) = kept ++ [last] := by
  rcases Scan.exists_last_piece_or_kept decoded_or_kept_step text last with
    ⟨before, _, found, character, rfl⟩ | kept
  · exact .inl ⟨before, character, found⟩
  · exact .inr kept

/-! ## What goes on behind a letter -/

/-- No escape goes on with the character, and no number. -/
def goesOnApart (character : Char) : Bool :=
  !isHexDigit character && !(['\\', 'u'].contains character)

/-- A stretch that decoding leaves as it is written if it leaves the letter in front of it. -/
structure KeptBehindLetter (stretch : Text) : Prop where
  /-- It goes on with no escape and no number. -/
  start : ∀ character, stretch.head? = some character → goesOnApart character = true
  /-- It has no escape in it. -/
  no_backslash : '\\' ∉ stretch
  /-- It has no reference in it. -/
  no_ampersand : '&' ∉ stretch
  /-- It closes no name. -/
  no_semicolon : ';' ∉ stretch
  /-- It is no part of a name. -/
  mark : ∃ character ∈ stretch, character.isAlphanum = false

namespace KeptBehindLetter

variable {stretch : Text}

theorem start_append (kept : KeptBehindLetter stretch) (after : Text) {character : Char}
    (head : (stretch ++ after).head? = some character) :
    character ≠ '\\' ∧ character ≠ 'u' ∧ isHexDigit character = false := by
  obtain ⟨sign, member, _⟩ := kept.mark
  obtain ⟨front, more, rfl⟩ := List.exists_cons_of_ne_nil (List.ne_nil_of_mem member)
  have start := kept.start character head
  simp only [goesOnApart, Bool.and_eq_true, Bool.not_eq_true', List.contains_eq_mem,
    decide_eq_false_iff_not, List.mem_cons, List.not_mem_nil, or_false, not_or] at start
  exact ⟨start.2.1, start.2.2, start.1⟩

theorem unicodeEscape_standsApart (kept : KeptBehindLetter stretch) (after : Text) :
    UnicodeEscape.StandsApart (stretch ++ after) :=
  fun _ head => kept.start_append after head

theorem entity_endsBefore (kept : KeptBehindLetter stretch) (after : Text) :
    Entity.EndsBefore (stretch ++ after) where
  digits _ head := (kept.start_append after head).2.2
  name := head?_dropWhile_isAlphanum_ne kept.no_semicolon kept.mark after

/-- A code takes the letter in front of the stretch, or decoding keeps both. -/
theorem endsInCode_or_kept (kept : KeptBehindLetter stretch) {letter : Char}
    (no_ampersand : letter ≠ '&') (no_hash : letter ≠ '#') (front after : Text) :
    EndsInCode (front ++ [letter]) ∨
      ∃ before, (decodeLayers (front ++ (letter :: stretch ++ after))).value =
        before ++ (letter :: stretch ++ (decodeLayers after).value) := by
  rcases UnicodeEscape.endsDecoded_or_kept front letter with escape | ⟨halfway, unescaped⟩
  · exact .inl (.inl escape)
  rcases Entity.endsDecoded_or_kept halfway letter with reference | ⟨before, resolved⟩
  · rw [← unescaped] at reference
    exact .inl (.inr reference)
  right
  have parts : front ++ (letter :: stretch ++ after) = front ++ [letter] ++ (stretch ++ after) := by
    simp only [List.append_assoc, List.cons_append, List.nil_append]
  refine ⟨before, ?_⟩
  simp only [ScriptSanitizer.value_decodeLayers]
  rw [parts, UnicodeEscape.decode_append_of_standsApart (kept.unicodeEscape_standsApart after),
    unescaped, UnicodeEscape.decode_append kept.no_backslash,
    Entity.decode_append_of_endsBefore (kept.entity_endsBefore _) no_ampersand no_hash, resolved,
    Entity.decode_append kept.no_ampersand]
  simp only [List.append_assoc, List.cons_append, List.nil_append]

end KeptBehindLetter

/-! ## Calls -/

namespace Regex

variable {first : CharClass} {rest last : Regex}

theorem keptBehindLetter_of_matches {before : Option Char} {stretch after : Text}
    (kept : rest.isKeptFrom goesOnApart = true) (found : Matches rest before stretch after) :
    KeptBehindLetter stretch := by
  obtain ⟨starts, absent, mark⟩ := start_and_signs_of_matches kept found
  exact ⟨starts, absent '\\' (by decide), absent '&' (by decide), absent ';' (by decide), mark⟩

theorem endsInCode_or_occursIn_of_parts
    (letters : first.listsOnly (fun letter => !(['&', '#'].contains letter)) = true)
    (rest_kept : rest.isKeptFrom goesOnApart = true) (last_kept : last.isKeptByDecoding = true)
    {letter : Char} {front name arguments closing after : Text}
    {before_name before_closing : Option Char} {behind_name behind_closing : Text}
    (admitted : first.contains letter = true)
    (matchesRest : Matches rest before_name name behind_name)
    (matchesLast : Matches last before_closing closing behind_closing) :
    EndsInCode (front ++ [letter]) ∨
      (concat (concat (char first) rest) (concat (Pattern.anything .any) last)).occursIn
        (decodeLayers (front ++ (letter :: (name ++ (arguments ++ closing)) ++ after))).value =
          true := by
  have sign := CharClass.chosen_of_listsOnly letters admitted
  simp only [List.contains_eq_mem, List.mem_cons, List.not_mem_nil, or_false, not_or,
    Bool.not_eq_true', decide_eq_false_iff_not] at sign
  have name_kept := keptBehindLetter_of_matches rest_kept matchesRest
  have closing_kept := keptByDecoding_of_matches last_kept matchesLast
  rcases name_kept.endsInCode_or_kept sign.1 sign.2 front (arguments ++ (closing ++ after)) with
    code | ⟨before, decoded⟩
  · exact .inl code
  right
  rw [closing_kept.value_decodeLayers] at decoded
  have parts : front ++ (letter :: (name ++ (arguments ++ closing)) ++ after) =
      front ++ (letter :: name ++ (arguments ++ (closing ++ after))) := by
    simp only [List.append_assoc, List.cons_append]
  rw [parts, decoded]
  refine occursIn_iff.mpr ⟨before, [letter] ++ name ++ ((decodeLayers arguments).value ++ closing),
    (decodeLayers after).value, by simp only [List.append_assoc, List.cons_append,
      List.nil_append], ?_⟩
  refine .concat (.concat (.char admitted) ?_)
    (.concat (matches_star_char (fun _ _ => rfl) _ _ _) ?_)
  · exact matches_elsewhere (unconditional_of_isKeptFrom rest_kept) matchesRest _ _
  · exact matches_elsewhere (unconditional_of_isKeptByDecoding last_kept) matchesLast _ _

/-- An expression of a letter, of what is kept behind it, and of a last part with anything in
between, occurs in the decoded text wherever it matches the text, unless a code takes the letter. -/
theorem endsInCode_or_occursIn_decodeLayers
    (letters : first.listsOnly (fun letter => !(['&', '#'].contains letter)) = true)
    (rest_kept : rest.isKeptFrom goesOnApart = true) (last_kept : last.isKeptByDecoding = true)
    {before : Option Char} {front text : Text}
    (starts : ((concat (concat (char first) rest)
      (concat (Pattern.anything .any) last)).leadingMatch? before text).isSome = true) :
    ∃ letter others, text = letter :: others ∧
      (EndsInCode (front ++ [letter]) ∨
        (concat (concat (char first) rest) (concat (Pattern.anything .any) last)).occursIn
          (decodeLayers (front ++ text)).value = true) := by
  obtain ⟨stretch, after, rfl, found⟩ := leadingMatch?_isSome_iff.mp starts
  cases found with
  | @concat _ _ _ _ _ _ matchesName matchesBehind =>
      cases matchesBehind with
      | @concat _ _ _ arguments closing _ _ matchesLast =>
          cases matchesName with
          | @concat _ _ _ _ name _ matchesFirst matchesRest =>
              cases matchesFirst with
              | @char _ letter _ _ admitted =>
                  exact ⟨letter, name ++ (arguments ++ closing) ++ after, rfl,
                    endsInCode_or_occursIn_of_parts letters rest_kept last_kept admitted
                      matchesRest matchesLast⟩

end Regex

namespace Pattern

/-- A call in the decoded text for every call in the text, unless a code takes its first letter. -/
theorem endsInCode_or_occursIn_decodeLayers {pattern : Pattern} (member : pattern ∈ builtin)
    (call : pattern.attack ∈ [.evalCall, .cssExpression, .base64DecodeCall])
    {before : Option Char} {front text : Text}
    (starts : (pattern.finder.leadingMatch? before text).isSome = true) :
    ∃ letter others, text = letter :: others ∧
      (EndsInCode (front ++ [letter]) ∨
        pattern.occursIn (decodeLayers (front ++ text)).value = true) := by
  have closing : (Regex.text [')']).isKeptByDecoding = true := by decide +kernel
  have letter_e : (CharClass.letter 'e').listsOnly (fun letter => !(['&', '#'].contains letter)) =
      true := by decide +kernel
  have letter_a : (CharClass.letter 'a').listsOnly (fun letter => !(['&', '#'].contains letter)) =
      true := by decide +kernel
  have eval : (Regex.text "val(".toList).isKeptFrom goesOnApart = true := by decide +kernel
  have expression : (Regex.text "xpression(".toList).isKeptFrom goesOnApart = true := by
    decide +kernel
  have atob : (Regex.text "tob(".toList).isKeptFrom goesOnApart = true := by decide +kernel
  simp only [builtin, List.mem_cons, List.not_mem_nil, or_false] at member
  rcases member with rfl | rfl | rfl | rfl | rfl | rfl | rfl | rfl | rfl | rfl
  · exact absurd call (by decide)
  · exact absurd call (by decide)
  · exact absurd call (by decide)
  · exact absurd call (by decide)
  · exact Regex.endsInCode_or_occursIn_decodeLayers letter_e eval closing starts
  · exact Regex.endsInCode_or_occursIn_decodeLayers letter_e expression closing starts
  · exact Regex.endsInCode_or_occursIn_decodeLayers letter_a atob closing starts
  · exact absurd call (by decide)
  · exact absurd call (by decide)
  · exact absurd call (by decide)

end Pattern

/-! ## Values at rest -/

namespace Sanitizer

variable {sanitizer : Sanitizer}

/-- What a value comes to rest at decodes to a text without calls.  As it is written a call can
stand in it only where its first letter is the end of an escape or a reference that decoding
replaces. -/
theorem endsInCode_of_matches_sanitize {compile : Compiler} {settings : Settings}
    (accepted : Sanitizer.compiled? compile settings = .ok sanitizer) {value : Text}
    (unreported : Event.passLimit sanitizer.maxPasses 0 ∉ (sanitizer.sanitize value).events) :
    ∀ pattern ∈ Pattern.builtin,
      pattern.attack ∈ [.evalCall, .cssExpression, .base64DecodeCall] →
        pattern.occursIn (decodeLayers (sanitizer.sanitize value).value).value = false ∧
          ∀ front text, (sanitizer.sanitize value).value = front ++ text →
            (pattern.finder.leadingMatch? (lastOf none front) text).isSome = true →
              ∃ letter others, text = letter :: others ∧ EndsInCode (front ++ [letter]) := by
  intro pattern member call
  obtain ⟨_, _, _, stable⟩ := settles_iff.mpr unreported
  have harmless := not_occursIn_decodeLayers_of_stable accepted stable member
  refine ⟨harmless, fun front text split starts => ?_⟩
  obtain ⟨letter, others, text_eq, code | occurs⟩ :=
    @Pattern.endsInCode_or_occursIn_decodeLayers pattern member call _ front _ starts
  · exact ⟨letter, others, text_eq, code⟩
  · rw [← split, harmless] at occurs
    exact Bool.noConfusion occurs

/-- The call behind the reference to a control character. -/
theorem endsInCode_of_matches_sanitize_eval :
    Event.passLimit 10 0 ∉ (Sanitizer.default.sanitize "&#x1eval(1)".toList).events ∧
      (Pattern.call .evalCall "eval".toList).occursIn
        (decodeLayers (Sanitizer.default.sanitize "&#x1eval(1)".toList).value).value = false ∧
      ∃ front letter after, "&#x1eval(1)".toList = front ++ letter :: after ∧
        EndsInCode (front ++ [letter]) := by
  have unreported : Event.passLimit 10 0 ∉
      (Sanitizer.default.sanitize "&#x1eval(1)".toList).events := by decide +kernel
  have kept : (Sanitizer.default.sanitize "&#x1eval(1)".toList).value = "&#x1eval(1)".toList := by
    decide +kernel
  have occurs : (Pattern.call .evalCall "eval".toList).occursIn "&#x1eval(1)".toList = true := by
    decide +kernel
  obtain ⟨front, text, split, starts⟩ := Finder.occursFrom_iff.mp occurs
  obtain ⟨harmless, behind_code⟩ := endsInCode_of_matches_sanitize ofSettings?_default unreported
    (Pattern.call .evalCall "eval".toList) (by simp [Pattern.builtin]) (by decide)
  obtain ⟨letter, others, rfl, code⟩ := behind_code front text (kept.trans split) starts
  exact ⟨unreported, harmless, front, letter, others, split, code⟩

/-- The call stands in the value as it is returned. -/
theorem occursIn_sanitize_eval_behind_reference :
    Sanitizer.ofSettings? {} = .ok Sanitizer.default ∧
      Event.passLimit 10 0 ∉ (Sanitizer.default.sanitize "&#x1eval(1)".toList).events ∧
      ∃ pattern ∈ Pattern.builtin,
        pattern.attack ∈ [.evalCall, .cssExpression, .base64DecodeCall] ∧
          pattern.occursIn (Sanitizer.default.sanitize "&#x1eval(1)".toList).value = true :=
  ⟨ofSettings?_default, by decide +kernel, Pattern.call .evalCall "eval".toList,
    by simp [Pattern.builtin], by decide, by decide +kernel⟩

end Sanitizer

end ScriptSanitizer
