import ScriptSanitizer.Proofs.Base64.Payload

/-!
# Blanks inside base64

Spaces and escapes of white space may be inserted in front of any symbol of the base64 of some
bytes.  A payload still takes all of it, but for spaces at the front, which a marker takes, and
decodes without them: what comes out are the bytes, read as UTF-8 as far as they are.
-/

namespace ScriptSanitizer

namespace Base64

/-! ## Markers in any case -/

/-- The word in any case of its ASCII letters, and a comma with white space around it. -/
def IsMarker (marker : Text) : Prop :=
  ∃ word before after, marker = word ++ (before ++ ',' :: after) ∧
    word.map Char.toLower = ['b', 'a', 's', 'e', '6', '4'] ∧
    (∀ character ∈ before, isBlank character = true) ∧
    ∀ character ∈ after, isBlank character = true

theorem isMarkerWord_of_toLower {word : Text}
    (lower : word.map Char.toLower = ['b', 'a', 's', 'e', '6', '4']) :
    isMarkerWord word = true := by
  have six : word.length = 6 := by
    rw [← List.length_map Char.toLower, lower]
    rfl
  have each : (List.zipWith writesLetter (word.map Char.toLower) word).all id = true := by
    rw [List.zipWith_map_left, List.zipWith_self, List.all_map]
    simp [writesLetter]
  rw [isMarkerWord, six, ← lower, each]
  rfl

/-- Spaces at the front of what follows belong to the marker. -/
theorem leadingMarker?_append_of_isMarker {marker text : Text} (marked : IsMarker marker)
    (ended : ∀ character, (text.dropWhile (· == ' ')).head? = some character →
      isBlank character = false) :
    leadingMarker? (marker ++ text) = some (marker ++ text.takeWhile (· == ' ')) := by
  obtain ⟨word, before, after, rfl, lower, before_blank, after_blank⟩ := marked
  refine leadingMarker?_eq_some_iff.mpr ⟨word, before, after ++ text.takeWhile (· == ' '),
    text.dropWhile (· == ' '), ?_, ?_, isMarkerWord_of_toLower lower, before_blank, ?_, ended⟩
  · simp only [List.append_assoc, List.cons_append, List.takeWhile_append_dropWhile]
  · simp only [List.append_assoc, List.cons_append]
  · refine List.forall_mem_append.mpr ⟨after_blank, fun character member => ?_⟩
    have space := List.all_eq_true.mp List.all_takeWhile character member
    rw [eq_of_beq space]
    rfl

/-! ## Inserted blanks -/

/-- The second text is the first one with blanks in front of some characters; in front of padding
there are none. -/
inductive Spaced : Text → Text → Prop where
  | nil : Spaced [] []
  | padding {symbols spaced : Text} (behind : Spaced symbols spaced) :
      Spaced ('=' :: symbols) ('=' :: spaced)
  | symbol {character : Char} {blanks symbols spaced : Text} (run : LowerBlanks blanks)
      (no_padding : character ≠ '=') (behind : Spaced symbols spaced) :
      Spaced (character :: symbols) (blanks ++ character :: spaced)

theorem LowerBlanks.dropWhile_append {blanks : Text} (run : LowerBlanks blanks) {character : Char}
    (no_space : character ≠ ' ') (rest : Text) :
    ∃ fewer, LowerBlanks fewer ∧
      (blanks ++ character :: rest).dropWhile (· == ' ') = fewer ++ character :: rest := by
  induction run with
  | nil => exact ⟨[], .nil, by simp [no_space]⟩
  | space _ ih => exact ih
  | escape lower others _ => exact ⟨_, .escape lower others, rfl⟩

namespace Spaced

variable {symbols spaced : Text}

/-- Spaces at the front are blanks as well. -/
theorem dropWhile (inserted : Spaced symbols spaced) (no_space : ' ' ∉ symbols) :
    Spaced symbols (spaced.dropWhile (· == ' ')) := by
  cases inserted with
  | nil => exact .nil
  | padding behind => exact .padding behind
  | @symbol character _ _ spaced run no_padding behind =>
      obtain ⟨fewer, run_fewer, dropped⟩ :=
        run.dropWhile_append (List.ne_of_not_mem_cons no_space).symm spaced
      rw [dropped]
      exact .symbol run_fewer no_padding behind

/-- Blanks are spaces and escapes, so no other white space comes to stand at the front. -/
theorem head (inserted : Spaced symbols spaced)
    (no_blank : ∀ character ∈ symbols, isBlank character = false) {front : Char}
    (first : spaced.head? = some front) : front = ' ' ∨ isBlank front = false := by
  cases inserted with
  | nil => exact absurd first.symm (Option.some_ne_none front)
  | padding =>
      obtain rfl := Option.some.inj first
      exact .inr rfl
  | symbol run _ _ =>
      cases run with
      | nil =>
          obtain rfl := Option.some.inj first
          exact .inr (no_blank _ List.mem_cons_self)
      | space => exact .inl (Option.some.inj first).symm
      | escape =>
          obtain rfl := Option.some.inj first
          exact .inr rfl

/-- A payload is decoded without the blanks. -/
theorem compact_eq (inserted : Spaced symbols spaced) (no_space : ' ' ∉ symbols)
    (no_backslash : '\\' ∉ symbols) : compact spaced = symbols := by
  induction inserted with
  | nil => rfl
  | padding _ ih =>
      rw [compact_cons (by decide) (by decide),
        ih (List.not_mem_of_not_mem_cons no_space) (List.not_mem_of_not_mem_cons no_backslash)]
  | symbol run _ _ ih =>
      rw [run.compact_append, compact_cons (List.ne_of_not_mem_cons no_space).symm
          (List.ne_of_not_mem_cons no_backslash).symm,
        ih (List.not_mem_of_not_mem_cons no_space) (List.not_mem_of_not_mem_cons no_backslash)]

theorem eq_of_padding {count : Nat} (inserted : Spaced (List.replicate count '=') spaced) :
    spaced = List.replicate count '=' := by
  induction count generalizing spaced with
  | zero =>
      cases inserted
      rfl
  | succ count ih =>
      rw [List.replicate_succ] at inserted
      cases inserted with
      | padding behind => rw [ih behind, List.replicate_succ]
      | symbol _ no_padding => exact absurd rfl no_padding

/-- Symbols with blanks are a row of symbols, each with the blanks in front of it. -/
theorem exists_stretches {count : Nat} (each : ∀ character ∈ symbols, isSymbol character = true)
    (inserted : Spaced (symbols ++ List.replicate count '=') spaced) :
    ∃ stretches : List Text, spaced = stretches.flatten ++ List.replicate count '=' ∧
      stretches.length = symbols.length ∧ ∀ stretch ∈ stretches, SpacedSymbol stretch := by
  induction symbols generalizing spaced with
  | nil => exact ⟨[], eq_of_padding inserted, rfl, List.forall_mem_nil _⟩
  | cons character symbols ih =>
      obtain ⟨symbol, others⟩ := List.forall_mem_cons.mp each
      rw [List.cons_append] at inserted
      cases inserted with
      | padding => exact absurd symbol (by decide)
      | @symbol _ blanks _ _ run _ behind =>
          obtain ⟨stretches, rfl, length, all_spaced⟩ := ih others behind
          refine ⟨(blanks ++ [character]) :: stretches, ?_, congrArg (· + 1) length, ?_⟩
          · simp only [List.flatten_cons, List.append_assoc, List.cons_append, List.nil_append]
          · have spaced : SpacedSymbol (blanks ++ [character]) :=
              ⟨blanks, character, rfl, run.blanks, symbol⟩
            exact List.forall_mem_cons.mpr ⟨spaced, all_spaced⟩

variable {bytes : List UInt8}

/-- A payload takes all of the base64 of some bytes, blanks included. -/
theorem leadingPayload_eq (inserted : Spaced (encodeBytes bytes) spaced) :
    leadingPayload spaced = spaced := by
  obtain ⟨symbols, count, encoded, each, whole, few, _⟩ := exists_symbols_encodeBytes bytes
  rw [encoded] at inserted
  obtain ⟨stretches, rfl, length, all_spaced⟩ := inserted.exists_stretches each
  exact leadingPayload_flatten_replicate all_spaced few (by rwa [length])

theorem decodePayload_eq (inserted : Spaced (encodeBytes bytes) spaced) :
    decodePayload spaced = .ok (Utf8.decodeLossy bytes) := by
  have compacted := inserted.compact_eq (not_mem_encodeBytes bytes (by decide) (by decide))
    (not_mem_encodeBytes bytes (by decide) (by decide))
  rw [decodePayload, compacted, encode_encodeBytes, decode_encode]
  rfl

end Spaced

/-- Behind a marker the base64 of some bytes with blanks inserted is the one payload, but for spaces
at its front, and decodes to the text that the bytes are in UTF-8. -/
theorem payloads_marker_append_spaced {marker spaced : Text} {bytes : List UInt8}
    (marked : IsMarker marker) (inserted : Spaced (encodeBytes bytes) spaced) :
    payloads (marker ++ spaced) = [spaced.dropWhile (· == ' ')] ∧
      decodePayload (spaced.dropWhile (· == ' ')) = .ok (Utf8.decodeLossy bytes) := by
  have no_space := @not_mem_encodeBytes ' ' bytes (by decide) (by decide)
  have dropped := inserted.dropWhile no_space
  refine ⟨?_, dropped.decodePayload_eq⟩
  have ended : ∀ character, (spaced.dropWhile (· == ' ')).head? = some character →
      isBlank character = false := by
    intro character first
    have other := List.head?_dropWhile_not (· == ' ') spaced
    rw [first] at other
    refine (dropped.head (fun _ => isBlank_of_mem_encodeBytes) first).resolve_left ?_
    simpa using other
  let block : Block := ⟨marker ++ spaced.takeWhile (· == ' '), spaced.dropWhile (· == ' ')⟩
  have whole : marker ++ spaced = block.text ++ [] := by
    simp only [block, Block.text, List.append_assoc, List.takeWhile_append_dropWhile,
      List.append_nil]
  have found : leadingBlock? (block.text ++ []) = some block := by
    rw [← whole, leadingBlock?, leadingMarker?_append_of_isMarker marked ended, Option.map_some]
    have behind : (marker ++ spaced).drop (marker ++ spaced.takeWhile (· == ' ')).length =
        spaced.dropWhile (· == ' ') := by
      rw [whole, List.append_nil, Block.text, List.drop_left]
    rw [behind, dropped.leadingPayload_eq]
  rw [payloads, whole, pieces_append_of_leadingBlock? found]
  rfl

/-- Two bytes of which the first is no UTF-8, behind a marker with white space of other kinds. -/
theorem payloads_marker_append_spaced_replacement :
    payloads "bAsE64\u00A0,\t   / 3\\tM=".toList = ["/ 3\\tM=".toList] ∧
      decodePayload "/ 3\\tM=".toList = .ok "\uFFFDs".toList := by
  have marked : IsMarker "bAsE64\u00A0,\t ".toList :=
    ⟨"bAsE64".toList, ['\u00A0'], ['\t', ' '], rfl, rfl, List.all_eq_true.mp rfl,
      List.all_eq_true.mp rfl⟩
  have written : encodeBytes [0xFF, 0x73] = ['/', '3', 'M', '='] := by decide
  have inserted : Spaced (encodeBytes [0xFF, 0x73]) "  / 3\\tM=".toList := by
    rw [written]
    exact @Spaced.symbol '/' [' ', ' '] _ _ (.space (.space .nil)) (by decide)
      (@Spaced.symbol '3' [' '] _ _ (.space .nil) (by decide)
        (@Spaced.symbol 'M' ['\\', 't'] _ _ (.escape (by decide) .nil) (by decide)
          (.padding .nil)))
  exact payloads_marker_append_spaced marked inserted

end Base64

end ScriptSanitizer
