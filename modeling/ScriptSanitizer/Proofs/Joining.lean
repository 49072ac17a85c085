import ScriptSanitizer.Proofs.Wrapping

/-!
# Blocks behind other text

A payload goes on for as long as symbols and spaces follow, and the letters of the word `base64` are
symbols.  So a block that still stands open at the end of a text takes letters of the marker behind
the text into its payload, and the block that this marker announces is never read.  Nothing else in
front can hide a block: where none stands open, a text and the block behind it are scanned apart.
-/

namespace ScriptSanitizer

namespace Base64

/-- A character that does not end a payload. -/
def isPayloadPart (character : Char) : Bool := isSymbol character || character == ' '

/-- A block starts in front of the text, and nothing up to the end of the text ends its payload. -/
def opensAt (text : Text) : Bool :=
  match leadingMarker? text with
  | some marker => (text.drop marker.length).all isPayloadPart
  | none => false

/-- A block that is found in the text stands open at the end of it. -/
def endsOpen (text : Text) : Bool :=
  (Scan.pieces (fun front rest => (opensAt (front :: rest), (step front rest).2)) text).any id

theorem endsOpen_cons (front : Char) (rest : Text) :
    endsOpen (front :: rest) =
      (opensAt (front :: rest) || endsOpen (rest.drop (step front rest).2)) := by
  rw [endsOpen, Scan.pieces_cons, List.any_cons]
  rfl

/-! ## Markers -/

theorem takeWhile_isBlank_append (text more : Text) :
    (text ++ 'b' :: more).takeWhile isBlank = text.takeWhile isBlank := by
  induction text with
  | nil => rfl
  | cons character text ih =>
      rw [List.cons_append, List.takeWhile_cons, List.takeWhile_cons, ih]

/-- A marker in front of a text does not read the letter behind the text. -/
theorem leadingMarker?_append {text : Text} (written : text ≠ []) (more : Text) :
    leadingMarker? (text ++ 'b' :: more) = leadingMarker? text := by
  by_cases long : 6 ≤ text.length
  · have blanks_inside : ((text.drop 6).takeWhile isBlank).length ≤ (text.drop 6).length :=
      (List.takeWhile_sublist isBlank).length_le
    simp only [leadingMarker?, List.take_append_of_le_length long,
      List.drop_append_of_le_length long, takeWhile_isBlank_append,
      List.drop_append_of_le_length blanks_inside]
    cases behind : (text.drop 6).drop ((text.drop 6).takeWhile isBlank).length with
    | nil => rfl
    | cons separator tail =>
        by_cases comma : separator = ','
        · subst comma
          simp only [List.cons_append, takeWhile_isBlank_append]
        · simp [comma]
  · -- The `b` would stand where the word has another letter.
    have others : writesLetter 'a' 'b' = false ∧ writesLetter 's' 'b' = false ∧
        writesLetter 'e' 'b' = false ∧ writesLetter '6' 'b' = false ∧
        writesLetter '4' 'b' = false := by decide
    rcases text with _ | ⟨_, _ | ⟨_, _ | ⟨_, _ | ⟨_, _ | ⟨_, _ | ⟨_, rest⟩⟩⟩⟩⟩⟩
    case nil => exact absurd rfl written
    case cons.cons.cons.cons.cons.cons => simp at long
    all_goals simp [leadingMarker?, others]

/-! ## Payloads that end -/

theorem symbolsFrom_end {character : Char} (ends : isPayloadPart character = false)
    (no_backslash : character ≠ '\\') (blanks rest : Text) :
    symbolsFrom blanks (character :: rest) = ([], blanks ++ character :: rest) := by
  rw [isPayloadPart, Bool.or_eq_false_iff, beq_eq_false_iff_ne] at ends
  rw [symbolsFrom, ends.1]
  · rfl
  · exact ends.2
  · intro letter rest same
    exact absurd same no_backslash

/-- Symbols are read up to the character that ends the payload, whatever is behind it. -/
theorem symbolsFrom_append {text : Text} (no_backslash : '\\' ∉ text)
    (ends : text.all isPayloadPart = false) (blanks behind : Text) :
    symbolsFrom blanks (text ++ behind) =
        ((symbolsFrom blanks text).1, (symbolsFrom blanks text).2 ++ behind) ∧
      (symbolsFrom blanks text).2 ≠ [] := by
  induction text generalizing blanks with
  | nil => simp at ends
  | cons character text ih =>
      have not_backslash := (List.ne_of_not_mem_cons no_backslash).symm
      have further := ih (List.not_mem_of_not_mem_cons no_backslash)
      rw [List.cons_append]
      cases part : isPayloadPart character with
      | false =>
          rw [symbolsFrom_end part not_backslash, symbolsFrom_end part not_backslash]
          simp
      | true =>
          have later : text.all isPayloadPart = false := by simpa [part] using ends
          rw [isPayloadPart, Bool.or_eq_true, beq_iff_eq] at part
          rcases part with symbol | rfl
          · obtain ⟨same, left⟩ := further later []
            rw [symbolsFrom_symbol symbol, symbolsFrom_symbol symbol, same]
            exact ⟨rfl, left⟩
          · exact further later (blanks ++ [' '])

theorem leadingPayload_append {text : Text} (no_backslash : '\\' ∉ text)
    (ends : text.all isPayloadPart = false) (more : Text) :
    leadingPayload (text ++ 'b' :: more) = leadingPayload text := by
  obtain ⟨same, left⟩ := symbolsFrom_append no_backslash ends [] ('b' :: more)
  rw [leadingPayload, leadingPayload, same]
  generalize symbolsFrom [] text = found at left
  obtain ⟨symbols, rest⟩ := found
  -- The padding is not completed by the letter behind the text.
  rcases rest with _ | ⟨first, _ | ⟨second, rest⟩⟩
  · exact absurd rfl left
  · grind
  · grind

/-! ## Texts in which no block stands open -/

theorem leadingBlock?_append {text : Text} (written : text ≠ [])
    (closed : opensAt text = false) (no_backslash : '\\' ∉ text) (more : Text) :
    leadingBlock? (text ++ 'b' :: more) = leadingBlock? text := by
  rw [leadingBlock?, leadingBlock?, leadingMarker?_append written]
  cases found : leadingMarker? text with
  | none => rfl
  | some marker =>
      obtain ⟨⟨tail, rfl⟩, _⟩ := leadingMarker?_eq_some found
      simp only [opensAt, found, List.drop_left] at closed
      have not_in_tail : '\\' ∉ tail := fun member =>
        no_backslash (List.mem_append_right marker member)
      rw [Option.map_some, Option.map_some, List.append_assoc, List.drop_left, List.drop_left,
        leadingPayload_append not_in_tail closed]

theorem step_append {front : Char} {rest : Text} (closed : opensAt (front :: rest) = false)
    (no_backslash : '\\' ∉ front :: rest) (more : Text) :
    step front (rest ++ 'b' :: more) = step front rest ∧ (step front rest).2 ≤ rest.length := by
  have same := leadingBlock?_append (List.cons_ne_nil front rest) closed no_backslash more
  rw [List.cons_append] at same
  rw [step, step, same]
  cases found : leadingBlock? (front :: rest) with
  | none => exact ⟨rfl, Nat.zero_le _⟩
  | some block =>
      have inside := (leadingBlock?_eq_some found).1.length_le
      rw [List.length_cons] at inside
      exact ⟨rfl, Nat.sub_le_of_le_add inside⟩

/-- Where no block stands open at the end, a text and what is behind it are scanned apart. -/
theorem pieces_append_of_not_endsOpen {text : Text} (closed : endsOpen text = false)
    (no_backslash : '\\' ∉ text) (more : Text) :
    pieces (text ++ 'b' :: more) = pieces text ++ pieces ('b' :: more) := by
  refine Scan.pieces_append (fun text => endsOpen text = false ∧ '\\' ∉ text) ?_
    ⟨closed, no_backslash⟩
  rintro front rest ⟨closed, no_backslash⟩
  rw [endsOpen_cons, Bool.or_eq_false_iff] at closed
  obtain ⟨same, inside⟩ := step_append closed.1 no_backslash more
  refine ⟨same, inside, closed.2, fun member => no_backslash ?_⟩
  exact List.mem_cons_of_mem front (List.mem_of_mem_drop member)

theorem hasHidingBlock_append_wrap {judge : Text → Prop} {front text : Text}
    (closed : endsOpen front = false) (no_backslash : '\\' ∉ front) (judged : judge text) :
    HasHidingBlock judge (front ++ wrap text) := by
  have apart : pieces (front ++ wrap text) = pieces front ++ pieces (wrap text) :=
    pieces_append_of_not_endsOpen closed no_backslash _
  have member : .block ⟨plainMarker, encodeText text⟩ ∈ pieces (front ++ wrap text) := by
    rw [apart, pieces_wrap]
    exact List.mem_append_right _ (List.mem_singleton_self _)
  exact ⟨encodeText text, mem_payloads.mpr ⟨_, member, rfl⟩, text, decodePayload_encodeText text,
    judged⟩

/-! ## Texts in which a block stands open -/

/-- An open payload takes the letters of the next marker for symbols, up to the comma. -/
theorem exists_symbolsFrom_append_plainMarker {text : Text}
    (parts : text.all isPayloadPart = true) (blanks : Text) :
    ∃ symbols, ∀ behind, symbolsFrom blanks (text ++ (plainMarker ++ behind)) =
      (symbols ++ [['e'], ['6'], ['4']], ',' :: behind) := by
  induction text generalizing blanks with
  | nil => exact ⟨[blanks ++ ['b'], ['a'], ['s']], fun behind => rfl⟩
  | cons character text ih =>
      rw [List.all_cons, Bool.and_eq_true, isPayloadPart, Bool.or_eq_true, beq_iff_eq] at parts
      obtain ⟨symbol | rfl, parts⟩ := parts
      · obtain ⟨symbols, read⟩ := ih parts []
        refine ⟨(blanks ++ [character]) :: symbols, fun behind => ?_⟩
        rw [List.cons_append, symbolsFrom_symbol symbol, read]
        rfl
      · exact ih parts (blanks ++ [' '])

/-- Of the marker behind an open payload, three letters at most are left in front of the comma. -/
theorem exists_leadingPayload_append_plainMarker {text : Text}
    (parts : text.all isPayloadPart = true) :
    ∃ payload left : Text, left.length ≤ 3 ∧ ∀ behind,
      leadingPayload (text ++ (plainMarker ++ behind)) = payload ∧
        text ++ (plainMarker ++ behind) = payload ++ (left ++ ',' :: behind) := by
  obtain ⟨symbols, read⟩ := exists_symbolsFrom_append_plainMarker parts []
  generalize whole : symbols ++ [['e'], ['6'], ['4']] = found at read
  refine ⟨(found.take (found.length / 4 * 4)).flatten,
    (found.drop (found.length / 4 * 4)).flatten, ?_, fun behind => ⟨?_, ?_⟩⟩
  · have late : symbols.length ≤ found.length / 4 * 4 := by
      rw [← whole, List.length_append]
      simp only [List.length_cons, List.length_nil]
      omega
    obtain ⟨further, groups⟩ := Nat.exists_eq_add_of_le late
    rw [groups, ← whole, List.drop_length_add_append]
    match further with
    | 0 | 1 | 2 => decide
    | further + 3 => simp
  · rw [leadingPayload, read]
    grind
  · have parts := symbolsFrom_flatten [] (text ++ (plainMarker ++ behind))
    rw [read] at parts
    rw [← List.append_assoc (List.flatten _), ← List.flatten_append, List.take_append_drop]
    exact parts.symm

/-- An open block takes all but three letters at most of the marker behind it. -/
theorem exists_leadingBlock?_append_plainMarker {text : Text} (opens : opensAt text = true) :
    ∃ (block : Block) (left : Text), left.length ≤ 3 ∧ ∀ behind,
      leadingBlock? (text ++ (plainMarker ++ behind)) = some block ∧
        text ++ (plainMarker ++ behind) = block.text ++ (left ++ ',' :: behind) := by
  unfold opensAt at opens
  split at opens
  case h_2 => exact absurd opens Bool.false_ne_true
  case h_1 marker marked =>
    obtain ⟨⟨tail, rfl⟩, long⟩ := leadingMarker?_eq_some marked
    rw [List.drop_left] at opens
    obtain ⟨payload, left, few, read⟩ := exists_leadingPayload_append_plainMarker opens
    refine ⟨⟨marker, payload⟩, left, few, fun behind => ?_⟩
    obtain ⟨payload_read, split⟩ := read behind
    have written : marker ++ tail ≠ [] := by
      rw [← List.length_pos_iff, List.length_append]
      omega
    have marked_again : leadingMarker? (marker ++ tail ++ (plainMarker ++ behind)) =
        some marker := (leadingMarker?_append written _).trans marked
    constructor
    · rw [leadingBlock?, marked_again, Option.map_some, List.append_assoc, List.drop_left,
        payload_read]
    · rw [List.append_assoc, split, Block.text, List.append_assoc]

theorem comma_mem_of_leadingMarker? {text marker : Text}
    (found : leadingMarker? text = some marker) : ',' ∈ text.drop 6 := by
  simp only [leadingMarker?] at found
  split at found
  case isFalse => simp at found
  case isTrue =>
    split at found
    case h_2 => simp at found
    case h_1 tail comma =>
      refine List.mem_of_mem_drop (i := ((text.drop 6).takeWhile isBlank).length) ?_
      rw [comma]
      exact List.mem_cons_self

/-- There is no block without a comma behind the word. -/
theorem payloads_eq_nil {text : Text} : ',' ∉ text.drop 6 → payloads text = [] := by
  refine @Scan.pieces_induction _ step (fun text _ => ',' ∉ text.drop 6 → payloads text = [])
    (fun _ => rfl) (fun front rest behind no_comma => ?_) text
  have unmarked : leadingBlock? (front :: rest) = none := by
    cases found : leadingMarker? (front :: rest) with
    | none => rw [leadingBlock?, found, Option.map_none]
    | some marker => exact absurd (comma_mem_of_leadingMarker? found) no_comma
  have plain : step front rest = (.plain front, 0) := by rw [step, unmarked]
  have no_comma_behind : ',' ∉ rest.drop 6 := fun member =>
    no_comma (List.mem_of_mem_drop (i := 1) (by rwa [List.drop_drop]))
  rw [plain, List.drop_zero] at behind
  rw [payloads, pieces, Scan.pieces_cons, plain, List.filterMap_cons]
  exact behind no_comma_behind

/-- What is behind an open block and the marker that follows is not looked at. -/
theorem exists_payloads_of_opensAt {text : Text} (opens : opensAt text = true) :
    ∃ payload, ∀ behind, ',' ∉ behind → payloads (text ++ (plainMarker ++ behind)) = [payload] := by
  obtain ⟨block, left, few, read⟩ := exists_leadingBlock?_append_plainMarker opens
  refine ⟨block.payload, fun behind no_comma => ?_⟩
  obtain ⟨found, split⟩ := read behind
  have nothing_left : payloads (left ++ ',' :: behind) = [] := by
    refine payloads_eq_nil fun member => no_comma ?_
    have early : (left ++ [',']).length ≤ 6 := by
      rw [List.length_append, List.length_singleton]
      omega
    rw [List.append_cons, List.drop_append, List.drop_eq_nil_of_le early] at member
    exact List.mem_of_mem_drop member
  rw [split] at found ⊢
  rw [payloads, pieces_append_of_leadingBlock? found, List.filterMap_cons]
  exact congrArg (List.cons block.payload) nothing_left

theorem payloads_cons_congr {front : Char} {rest other : Text}
    (same : step front rest = step front other)
    (behind : payloads (rest.drop (step front other).2) =
      payloads (other.drop (step front other).2)) :
    payloads (front :: rest) = payloads (front :: other) := by
  simp only [payloads, pieces, Scan.pieces_cons, List.filterMap_cons, same] at behind ⊢
  rw [behind]

/-- Where a block stands open at the end of a text, a block behind the text is not found, whatever
its payload. -/
theorem payloads_append_of_endsOpen {text : Text} {behind : Text} (no_comma : ',' ∉ behind) :
    endsOpen text = true → '\\' ∉ text →
      payloads (text ++ (plainMarker ++ behind)) = payloads (text ++ plainMarker) := by
  refine @Scan.pieces_induction _ step (fun text _ => endsOpen text = true → '\\' ∉ text →
    payloads (text ++ (plainMarker ++ behind)) = payloads (text ++ plainMarker))
    (fun opens => absurd opens Bool.false_ne_true) (fun front rest ih opens no_backslash => ?_) text
  cases here : opensAt (front :: rest) with
  | true =>
      obtain ⟨payload, read⟩ := exists_payloads_of_opensAt here
      have alone := read [] List.not_mem_nil
      rw [List.append_nil] at alone
      rw [read behind no_comma, alone]
  | false =>
      rw [endsOpen_cons, here, Bool.false_or] at opens
      have not_behind : '\\' ∉ rest.drop (step front rest).2 := fun member =>
        no_backslash (List.mem_cons_of_mem front (List.mem_of_mem_drop member))
      obtain ⟨same_alone, inside⟩ := step_append here no_backslash (plainMarker.drop 1)
      obtain ⟨same, _⟩ := step_append here no_backslash (plainMarker.drop 1 ++ behind)
      have remaining := ih opens not_behind
      rw [← same_alone] at inside remaining
      rw [← List.drop_append_of_le_length inside, ← List.drop_append_of_le_length inside]
        at remaining
      exact payloads_cons_congr (same.trans same_alone.symm) remaining

end Base64

namespace Sanitizer

/-- An attack in a block is found behind any text without references, escapes and NUL characters,
unless a block of the text stands open at the end of it; then no block but those of the text and the
bare marker is found, whatever the payload. -/
theorem isMalicious_append_wrap {front text : Text} (no_reference : '&' ∉ front)
    (no_escape : '\\' ∉ front) (no_nul : '\x00' ∉ front)
    (altered : (Sanitizer.default.sanitize text).value ≠ text) :
    (Base64.endsOpen front = false →
        Sanitizer.default.isMalicious (front ++ Base64.wrap text) = true) ∧
      (Base64.endsOpen front = true →
        Base64.payloads (front ++ Base64.wrap text) =
          Base64.payloads (front ++ Base64.plainMarker)) := by
  constructor
  · intro closed
    have positive : 0 < Sanitizer.default.maxPasses := by decide
    have hides : Sanitizer.default.patterns.Hides Sanitizer.default.maxNesting text :=
      (hides_of_sanitize_ne positive altered).of_succ
    have judged := (@hidesAttack_iff _ positive _ 0 _).mpr hides
    have unstruck : stripNul (front ++ Base64.wrap text) = front ++ Base64.wrap text :=
      stripNul_eq_self_iff.mpr
        (List.not_mem_append no_nul (Base64.nul_not_mem_wrap text))
    have plain : (decodeLayers (front ++ Base64.wrap text)).value = front ++ Base64.wrap text := by
      refine value_decodeLayers_eq_self (List.not_mem_append no_escape ?_)
        (List.not_mem_append no_reference ?_)
      all_goals exact Base64.not_mem_wrap text (by decide) (by decide) (by decide)
    rw [isMalicious_iff, unstruck, plain]
    exact .inr (Base64.hasHidingBlock_append_wrap closed no_escape judged)
  · intro opens
    exact Base64.payloads_append_of_endsOpen
      (Base64.not_mem_encodeText text (by decide) (by decide)) opens no_escape

/-- Behind a block that has ended and the beginning of a marker a script is found. -/
theorem isMalicious_append_wrap_script :
    Base64.endsOpen "a base64,YWJj; base6".toList = false ∧
      Sanitizer.default.isMalicious
        ("a base64,YWJj; base6".toList ++ Base64.wrap "<script>".toList) = true := by
  have closed : Base64.endsOpen "a base64,YWJj; base6".toList = false := by decide +kernel
  have altered : (Sanitizer.default.sanitize "<script>".toList).value ≠ "<script>".toList := by
    decide +kernel
  exact ⟨closed,
    (isMalicious_append_wrap (by decide) (by decide) (by decide) altered).1 closed⟩

/-- Behind a bare marker a script is not found: the letters of its own marker are the payload. -/
theorem isMalicious_plainMarker_append_wrap_script_eq_false :
    '&' ∉ Base64.plainMarker ∧ '\\' ∉ Base64.plainMarker ∧ '\x00' ∉ Base64.plainMarker ∧
      (Sanitizer.default.sanitize "<script>".toList).value ≠ "<script>".toList ∧
      Sanitizer.default.isMalicious
        (Base64.plainMarker ++ Base64.wrap "<script>".toList) = false := by
  decide +kernel

end Sanitizer

end ScriptSanitizer
