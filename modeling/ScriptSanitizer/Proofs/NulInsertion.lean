import ScriptSanitizer.Proofs.Agreement
import ScriptSanitizer.Proofs.Base64.Payload
import ScriptSanitizer.Proofs.Regex.Occurrence
import ScriptSanitizer.Proofs.Spelling

/-!
# NUL characters between the characters of an attack

NUL characters are struck out of a text before its escapes and references are decoded.  So those
that stand in it as they are make no difference to the verdict, and those that are coded stand in
the text that the verdict is on.  There they end blocks and interrupt words, so that an attack is
met where none of them stands inside it, and can be missed otherwise.
-/

namespace ScriptSanitizer

theorem stripNul_append (left right : Text) :
    stripNul (left ++ right) = stripNul left ++ stripNul right :=
  List.filter_append left right

theorem stripNul_cons_of_ne {character : Char} (other : character ≠ '\x00') (text : Text) :
    stripNul (character :: text) = character :: stripNul text := by
  rw [stripNul, strikeOut, List.filter_cons_of_pos (by simpa using other)]
  rfl

namespace Base64

/-! ## Blocks with NUL characters around them -/

/-- The text of some pieces, with NUL characters anywhere but inside a block. -/
inductive NulsBetween : List Piece → Text → Prop where
  | nil : NulsBetween [] []
  | nul {list : List Piece} {text : Text} (others : NulsBetween list text) :
      NulsBetween list ('\x00' :: text)
  | plain {character : Char} {list : List Piece} {text : Text} (others : NulsBetween list text) :
      NulsBetween (.plain character :: list) (character :: text)
  | block {block : Block} {list : List Piece} {text : Text} (others : NulsBetween list text) :
      NulsBetween (.block block :: list) (block.text ++ text)

theorem NulsBetween.stripNul_eq {list : List Piece} {text : Text}
    (between : NulsBetween list text) :
    '\x00' ∉ list.flatMap Piece.text → stripNul text = list.flatMap Piece.text := by
  induction between with
  | nil => exact fun _ => rfl
  | nul _ ih => exact ih
  | plain _ ih =>
      intro no_nul
      rw [List.flatMap_cons, Piece.text, List.singleton_append] at no_nul ⊢
      rw [stripNul_cons_of_ne (List.ne_of_not_mem_cons no_nul).symm,
        ih (List.not_mem_of_not_mem_cons no_nul)]
  | block _ ih =>
      intro no_nul
      rw [List.flatMap_cons, Piece.text, List.mem_append, not_or] at no_nul
      rw [List.flatMap_cons, Piece.text, stripNul_append, stripNul_eq_self_iff.mpr no_nul.1,
        ih no_nul.2]

theorem isPrefix_of_isPrefix_append_cons {part front behind : Text} {character : Char}
    (inside : part <+: front ++ character :: behind) (absent : character ∉ part) :
    part <+: front := by
  rcases List.prefix_or_prefix_of_prefix inside (List.prefix_append front _) with shorter | longer
  · exact shorter
  · obtain ⟨more, rfl⟩ := longer
    cases more with
    | nil => exact (List.append_nil front).symm ▸ List.prefix_refl front
    | cons first more =>
        rw [List.prefix_append_right_inj, List.cons_prefix_cons] at inside
        rw [inside.1] at absent
        exact absurd (List.mem_append_right front List.mem_cons_self) absent

/-- A NUL ends whatever block stands in front of it. -/
theorem leadingBlock?_append_nul (text behind : Text) :
    leadingBlock? (text ++ '\x00' :: behind) = leadingBlock? text := by
  cases found : leadingBlock? (text ++ '\x00' :: behind) with
  | some block =>
      have inside := isPrefix_of_isPrefix_append_cons (leadingBlock?_eq_some found).1
        (nul_not_mem_leadingBlock? found)
      exact (leadingBlock?_of_isPrefix found inside).symm
  | none =>
      cases alone : leadingBlock? text with
      | none => rfl
      | some block =>
          have longer := leadingBlock?_append_isSome alone ('\x00' :: behind)
          rw [found] at longer
          exact absurd longer Bool.false_ne_true

/-- Up to its first NUL a text is the same without its NUL characters. -/
theorem exists_front_of_stripNul (text : Text) :
    ∃ front more, stripNul text = front ++ more ∧
      ∀ before, leadingBlock? (before ++ text) = leadingBlock? (before ++ front) := by
  induction text with
  | nil => exact ⟨[], [], rfl, fun _ => rfl⟩
  | cons character text ih =>
      by_cases nul : character = '\x00'
      · subst nul
        refine ⟨[], stripNul text, rfl, fun before => ?_⟩
        rw [leadingBlock?_append_nul, List.append_nil]
      · obtain ⟨front, more, stripped, same⟩ := ih
        refine ⟨character :: front, more, ?_, fun before => ?_⟩
        · rw [stripNul_cons_of_ne nul, stripped, List.cons_append]
        · rw [List.append_cons, same, ← List.append_cons]

/-- NUL characters behind a block, or where none starts, do not change what is found in front. -/
theorem leadingBlock?_append_eq_of_stripNul {before text : Text}
    (inside : ∀ block, leadingBlock? (before ++ stripNul text) = some block →
      block.text <+: before) :
    leadingBlock? (before ++ text) = leadingBlock? (before ++ stripNul text) := by
  obtain ⟨front, more, stripped, same⟩ := exists_front_of_stripNul text
  rw [stripped, ← List.append_assoc] at inside ⊢
  rw [same]
  cases found : leadingBlock? (before ++ front ++ more) with
  | some block =>
      exact leadingBlock?_of_isPrefix found
        ((inside block found).trans (List.prefix_append before front))
  | none =>
      cases alone : leadingBlock? (before ++ front) with
      | none => rfl
      | some block =>
          have longer := leadingBlock?_append_isSome alone more
          rw [found] at longer
          exact absurd longer Bool.false_ne_true

/-! ## Payloads -/

theorem payloads_cons_of_leadingBlock?_eq_none {front : Char} {rest : Text}
    (absent : leadingBlock? (front :: rest) = none) :
    payloads (front :: rest) = payloads rest := by
  have plain : step front rest = (.plain front, 0) := by rw [step, absent]
  rw [payloads, pieces, Scan.pieces_cons, plain, List.filterMap_cons]
  rfl

theorem payloads_append_of_leadingBlock? {block : Block} {behind : Text}
    (found : leadingBlock? (block.text ++ behind) = some block) :
    payloads (block.text ++ behind) = block.payload :: payloads behind := by
  rw [payloads, pieces_append_of_leadingBlock? found, List.filterMap_cons]
  rfl

theorem pieces_eq_plain_cons {text : Text} {character : Char} {list : List Piece}
    (scanned : pieces text = .plain character :: list) :
    ∃ rest, text = character :: rest ∧ leadingBlock? (character :: rest) = none ∧
      pieces rest = list := by
  cases text with
  | nil => exact absurd scanned.symm (List.cons_ne_nil _ _)
  | cons front rest =>
      rw [pieces, Scan.pieces_cons, step] at scanned
      cases found : leadingBlock? (front :: rest) with
      | some block =>
          rw [found] at scanned
          exact Piece.noConfusion (List.cons.inj scanned).1
      | none =>
          rw [found] at scanned
          obtain ⟨same, behind⟩ := List.cons.inj scanned
          obtain rfl := Piece.plain.inj same
          exact ⟨rest, rfl, found, behind⟩

theorem pieces_eq_block_cons {text : Text} {block : Block} {list : List Piece}
    (scanned : pieces text = .block block :: list) :
    ∃ rest, text = block.text ++ rest ∧ leadingBlock? (block.text ++ rest) = some block ∧
      pieces rest = list := by
  cases text with
  | nil => exact absurd scanned.symm (List.cons_ne_nil _ _)
  | cons front rest =>
      cases found : leadingBlock? (front :: rest) with
      | none =>
          rw [pieces, Scan.pieces_cons, step, found] at scanned
          exact Piece.noConfusion (List.cons.inj scanned).1
      | some other =>
          obtain ⟨behind, whole⟩ := (leadingBlock?_eq_some found).1
          rw [← whole] at found scanned ⊢
          rw [pieces_append_of_leadingBlock? found] at scanned
          obtain ⟨same, list_eq⟩ := List.cons.inj scanned
          obtain rfl := Piece.block.inj same
          exact ⟨behind, rfl, found, list_eq⟩

/-- NUL characters around the blocks of a text leave its payloads as they are. -/
theorem NulsBetween.payloads_eq {list : List Piece} {shown : Text}
    (between : NulsBetween list shown) :
    ∀ {text}, pieces text = list → '\x00' ∉ text → payloads shown = payloads text := by
  have stripped {list : List Piece} {shown text : Text} (between : NulsBetween list shown)
      (scanned : pieces text = list) (no_nul : '\x00' ∉ text) : stripNul shown = text := by
    have whole := flatMap_text_pieces text
    rw [scanned] at whole
    have same := between.stripNul_eq
    rw [whole] at same
    exact same no_nul
  induction between with
  | nil =>
      intro text scanned _
      rw [payloads, payloads, scanned]
      rfl
  | nul _ ih =>
      intro text scanned no_nul
      rw [payloads_cons_of_leadingBlock?_eq_none (leadingBlock?_append_nul [] _)]
      exact ih scanned no_nul
  | @plain character list shown others ih =>
      intro text scanned no_nul
      obtain ⟨rest, rfl, absent, scanned_rest⟩ := pieces_eq_plain_cons scanned
      have no_nul_rest := List.not_mem_of_not_mem_cons no_nul
      have same := @leadingBlock?_append_eq_of_stripNul [character] shown
      rw [stripped others scanned_rest no_nul_rest, List.singleton_append, List.singleton_append,
        absent] at same
      rw [payloads_cons_of_leadingBlock?_eq_none absent,
        payloads_cons_of_leadingBlock?_eq_none (same (by simp))]
      exact ih scanned_rest no_nul_rest
  | @block block list shown others ih =>
      intro text scanned no_nul
      obtain ⟨rest, rfl, found, scanned_rest⟩ := pieces_eq_block_cons scanned
      have no_nul_rest : '\x00' ∉ rest := fun member =>
        no_nul (List.mem_append_right block.text member)
      have same := @leadingBlock?_append_eq_of_stripNul block.text shown
      rw [stripped others scanned_rest no_nul_rest, found] at same
      have inside : ∀ other, some block = some other → other.text <+: block.text := by
        intro other equal
        rw [Option.some.inj equal]
      rw [payloads_append_of_leadingBlock? found, payloads_append_of_leadingBlock? (same inside),
        ih scanned_rest no_nul_rest]

end Base64

/-! ## Insertion -/

/-- The ways of coding a NUL. -/
def nulSpellings : List Text := ["&#0;", "&#x0;", "\\u0000"].map String.toList

/-- A text with NUL characters put between its characters.  Some of them stand in `written` as they
are; the others are coded there, and `shown` is the text with those in it. -/
inductive NulsInserted : (text shown written : Text) → Prop where
  | nil : NulsInserted [] [] []
  | keep {character : Char} {text shown written : Text} (others : NulsInserted text shown written) :
      NulsInserted (character :: text) (character :: shown) (character :: written)
  | bare {text shown written : Text} (others : NulsInserted text shown written) :
      NulsInserted text shown ('\x00' :: written)
  | coded {spelling text shown written : Text} (spelled : spelling ∈ nulSpellings)
      (others : NulsInserted text shown written) :
      NulsInserted text ('\x00' :: shown) (spelling ++ written)

theorem spellsCharacter_of_mem_nulSpellings {spelling : Text} (spelled : spelling ∈ nulSpellings) :
    SpellsCharacter '\x00' spelling := by
  have listed : nulSpellings = ['&' :: (['#', '0'] ++ [';']), '&' :: (['#', 'x', '0'] ++ [';']),
      ['\\', 'u', '0', '0', '0', '0']] := rfl
  rw [listed] at spelled
  simp only [List.mem_cons, List.not_mem_nil, or_false] at spelled
  rcases spelled with rfl | rfl | rfl
  · exact .reference (.decimal (List.cons_ne_nil _ _) (List.all_eq_true.mp rfl) rfl)
  · exact .reference (.hexadecimal (.inl rfl) (List.cons_ne_nil _ _) (List.all_eq_true.mp rfl) rfl)
  · exact .escape rfl rfl

namespace NulsInserted

variable {text shown written : Text}

theorem keep_append (front : Text) (inserted : NulsInserted text shown written) :
    NulsInserted (front ++ text) (front ++ shown) (front ++ written) := by
  induction front with
  | nil => exact inserted
  | cons _ _ ih => exact ih.keep

theorem mem_shown {character : Char} (inserted : NulsInserted text shown written)
    (member : character ∈ shown) : character ∈ text ∨ character = '\x00' := by
  induction inserted with
  | nil => exact absurd member List.not_mem_nil
  | keep _ ih =>
      rcases List.mem_cons.mp member with rfl | behind
      · exact .inl List.mem_cons_self
      · exact (ih behind).imp_left (List.mem_cons_of_mem _)
  | bare _ ih => exact ih member
  | coded _ _ ih =>
      rcases List.mem_cons.mp member with rfl | behind
      · exact .inr rfl
      · exact ih behind

/-- Striking out the NUL characters leaves those that are coded. -/
theorem spells (inserted : NulsInserted text shown written) :
    '\x00' ∉ text → Spells shown (stripNul written) := by
  induction inserted with
  | nil => exact fun _ => .nil
  | keep _ ih =>
      intro no_nul
      rw [stripNul_cons_of_ne (List.ne_of_not_mem_cons no_nul).symm]
      exact .cons .literal (ih (List.not_mem_of_not_mem_cons no_nul))
  | bare _ ih => exact ih
  | @coded spelling _ _ _ spelled _ ih =>
      intro no_nul
      have unstruck : ∀ spelling ∈ nulSpellings, '\x00' ∉ spelling := by decide
      rw [stripNul_append, stripNul_eq_self_iff.mpr (unstruck spelling spelled)]
      exact .cons (spellsCharacter_of_mem_nulSpellings spelled) (ih no_nul)

/-- The verdict is on the text in which the coded NUL characters stand. -/
theorem value_decodeLayers (inserted : NulsInserted text shown written) (no_nul : '\x00' ∉ text)
    (no_ampersand : '&' ∉ text) (no_backslash : '\\' ∉ text) :
    (decodeLayers (stripNul written)).value = shown := by
  refine (inserted.spells no_nul).value_decodeLayers ?_ ?_
  · intro member
    exact no_backslash ((inserted.mem_shown member).resolve_right (by decide))
  · intro member
    exact no_ampersand ((inserted.mem_shown member).resolve_right (by decide))

end NulsInserted

/-! ## Verdicts -/

theorem builtin_unconditional :
    ∀ expression ∈ Pattern.builtinRegexes, expression.unconditional = true := by
  decide

namespace Sanitizer

/-- A payload hides an attack from the default sanitizer. -/
def HiddenAttack (hidden : Text) : Prop :=
  (Sanitizer.default.hidesAttack Sanitizer.default.maxNesting 0 hidden).value = true

/-- An attack in a text is left whole in what is shown: the match of a pattern stands there in one
stretch, or no NUL stands inside a block, and one of the blocks hides an attack. -/
def LeftWhole (text shown : Text) : Prop :=
  (∃ expression ∈ Pattern.builtinRegexes,
      ∃ front stretch after, text = front ++ (stretch ++ after) ∧
        Regex.Matches expression (lastOf none front) stretch after ∧ stretch <:+: shown) ∨
    Base64.NulsBetween (Base64.pieces text) shown ∧ Base64.HasHidingBlock HiddenAttack text

variable {text shown written : Text}

theorem shows_of_leftWhole (no_nul : '\x00' ∉ text) (whole : LeftWhole text shown) :
    (∃ pattern ∈ Pattern.builtin, pattern.occursIn shown = true) ∨
      Base64.HasHidingBlock HiddenAttack shown := by
  rcases whole with ⟨expression, listed, _, stretch, _, _, matching, front, after, rfl⟩ |
    ⟨between, attack⟩
  · obtain ⟨pattern, member, finder_eq⟩ := Pattern.exists_pattern_of_mem_builtinRegexes listed
    refine .inl ⟨pattern, member, ?_⟩
    rw [Pattern.occursIn, finder_eq]
    refine Regex.occursIn_iff.mpr ⟨front, stretch, after, List.append_assoc front stretch after, ?_⟩
    exact Regex.matches_elsewhere (builtin_unconditional expression listed) matching _ _
  · rw [Base64.HasHidingBlock, ← between.payloads_eq rfl no_nul] at attack
    exact .inr attack

/-- The verdict on an attack with NUL characters between its characters is the verdict on the text
in which those that are coded stand.  So the attack is still met if none of them is coded, or if
they leave it whole. -/
theorem isMalicious_of_nulsInserted (no_nul : '\x00' ∉ text) (no_ampersand : '&' ∉ text)
    (no_backslash : '\\' ∉ text) (malicious : Sanitizer.default.isMalicious text = true)
    (inserted : NulsInserted text shown written) :
    (Sanitizer.default.isMalicious written = true ↔
        (∃ pattern ∈ Pattern.builtin, pattern.occursIn shown = true) ∨
          Base64.HasHidingBlock HiddenAttack shown) ∧
      (shown = text ∨ LeftWhole text shown → Sanitizer.default.isMalicious written = true) := by
  have decoded := inserted.value_decodeLayers no_nul no_ampersand no_backslash
  have verdict : Sanitizer.default.isMalicious written = true ↔
      (∃ pattern ∈ Pattern.builtin, pattern.occursIn shown = true) ∨
        Base64.HasHidingBlock HiddenAttack shown := by
    rw [isMalicious_iff, decoded, PatternSet.firstMatch?_ne_none_iff]
    rfl
  refine ⟨verdict, ?_⟩
  rintro (rfl | whole)
  · have decoded_text : (decodeLayers (stripNul shown)).value = shown := by
      rw [stripNul_eq_self_iff.mpr no_nul, value_decodeLayers_eq_self no_backslash no_ampersand]
    rw [isMalicious, value_detect_of_decodeLayers (decoded.trans decoded_text.symm)]
    exact malicious
  · exact verdict.mpr (shows_of_leftWhole no_nul whole)

/-- A scheme with a bare NUL inside it and a coded one behind it. -/
theorem isMalicious_of_nulsInserted_javascript :
    NulsInserted "javascript:x".toList "javascript:\x00x".toList
        "java\x00script:&#x0;x".toList ∧
      Sanitizer.default.isMalicious "java\x00script:&#x0;x".toList = true := by
  have inserted : NulsInserted "javascript:x".toList "javascript:\x00x".toList
      "java\x00script:&#x0;x".toList := by
    have spelled : "&#x0;".toList ∈ nulSpellings := by decide
    have behind : NulsInserted "script:x".toList "script:\x00x".toList "script:&#x0;x".toList :=
      .keep_append "script:".toList (.coded spelled (.keep .nil))
    exact .keep_append "java".toList (.bare behind)
  have scheme (after : Text) : ∃ pattern ∈ Pattern.builtin,
      pattern.occursIn ("javascript:".toList ++ after) = true :=
    ⟨.word .javascriptProtocol "javascript:".toList, by simp [Pattern.builtin],
      Regex.occursIn_iff.mpr ⟨[], _, after, rfl, Regex.matches_text _ _ _⟩⟩
  have malicious : Sanitizer.default.isMalicious "javascript:x".toList = true := by
    have decoded : (decodeLayers (stripNul "javascript:x".toList)).value =
        "javascript:".toList ++ ['x'] := by decide
    rw [isMalicious_iff, decoded, PatternSet.firstMatch?_ne_none_iff]
    exact .inl (scheme ['x'])
  exact ⟨inserted, (isMalicious_of_nulsInserted (by decide) (by decide) (by decide) malicious
    inserted).1.mpr (.inl (scheme ['\x00', 'x']))⟩

/-- A coded NUL inside a scheme keeps it from being met. -/
theorem isMalicious_coded_nul_javascript_eq_false :
    NulsInserted "javascript:".toList "java\x00script:".toList "java&#0;script:".toList ∧
      '\x00' ∉ "javascript:".toList ∧ '&' ∉ "javascript:".toList ∧
      '\\' ∉ "javascript:".toList ∧
      Sanitizer.default.isMalicious "javascript:".toList = true ∧
      Sanitizer.default.isMalicious "java&#0;script:".toList = false := by
  have inserted : NulsInserted "javascript:".toList "java\x00script:".toList
      "java&#0;script:".toList := by
    have spelled : "&#0;".toList ∈ nulSpellings := by decide
    have behind : NulsInserted "script:".toList "script:".toList "script:".toList :=
      .keep_append "script:".toList .nil
    exact .keep_append "java".toList (.coded spelled behind)
  exact ⟨inserted, by decide +kernel⟩

end Sanitizer

end ScriptSanitizer
