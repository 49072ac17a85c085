import ScriptSanitizer.Proofs.Toml.Values

/-!
# Documents in front of more lines

Reading a text and more lines behind it comes to reading the text, and then the lines with what has
been read of the document.
-/

namespace ScriptSanitizer

namespace Toml

namespace Document

variable {document : Document} {text rest next : Text}

/-! ## One line -/

/-- Read a header of an item behind its opening marks. -/
def readItemHeader (document : Document) (header : Text) : Option (Document × Text) := do
  match ← readKey (header.length + 1) header with
  | (path, ']' :: ']' :: rest) => some (⟨← document.entries.openItem path, path⟩, rest)
  | _ => none

/-- Read a header of a table behind its opening mark. -/
def readTableHeader (document : Document) (header : Text) : Option (Document × Text) := do
  match ← readKey (header.length + 1) header with
  | (path, ']' :: rest) => some (⟨← document.entries.openTable path, path⟩, rest)
  | _ => none

/-- Read a key with its value. -/
def readAssignment (document : Document) (text : Text) : Option (Document × Text) := do
  let ((keys, value), rest) ← readEntry (readValue maximalDepth) text
  some (⟨← document.entries.insertAt document.path keys value, document.path⟩, rest)

theorem goesOn_readItemHeader (document : Document) :
    GoesOn document.readItemHeader document.readItemHeader := by
  intro header read rest reads
  obtain ⟨⟨path, closing⟩, key, opened⟩ := Option.bind_eq_some_iff.mp reads
  split at opened
  case h_1 shown =>
    obtain ⟨rfl, rfl⟩ := Prod.mk.inj shown
    obtain ⟨entries, item, answer⟩ := Option.bind_eq_some_iff.mp opened
    cases answer
    obtain ⟨leaves, more⟩ := GoesOn.of_turns goesOn_readKey _ _ _ key
    refine ⟨(List.suffix_append [']', ']'] rest).trans leaves, fun tail => ?_⟩
    simp only [readItemHeader, more, item, List.cons_append, Option.bind_eq_bind,
      Option.bind_some]
  case h_2 => cases opened

theorem goesOn_readTableHeader (document : Document) :
    GoesOn document.readTableHeader document.readTableHeader := by
  intro header read rest reads
  obtain ⟨⟨path, closing⟩, key, opened⟩ := Option.bind_eq_some_iff.mp reads
  split at opened
  case h_1 shown =>
    obtain ⟨rfl, rfl⟩ := Prod.mk.inj shown
    obtain ⟨entries, table, answer⟩ := Option.bind_eq_some_iff.mp opened
    cases answer
    obtain ⟨leaves, more⟩ := GoesOn.of_turns goesOn_readKey _ _ _ key
    refine ⟨(List.suffix_cons ']' rest).trans leaves, fun tail => ?_⟩
    simp only [readTableHeader, more, table, List.cons_append, Option.bind_eq_bind,
      Option.bind_some]
  case h_2 => cases opened

theorem goesOn_readAssignment (document : Document) :
    GoesOn document.readAssignment document.readAssignment := by
  have inserted (entry : List Text × Value) :=
    GoesOn.provided (document.entries.insertAt document.path entry.1 entry.2) fun entries =>
      goesOn_some (Document.mk entries document.path)
  exact (goesOn_readEntry (goesOn_readValue maximalDepth)).bind inserted

theorem goesOn_readLine (document : Document) : GoesOn document.readLine document.readLine := by
  intro text read rest reads
  have within := suffix_skipGap text
  unfold readLine at reads ⊢
  simp only [skipGap_append_lineFeed]
  generalize skipGap text = behind at reads within ⊢
  split at reads
  case h_1 | h_2 | h_3 | h_4 =>
    cases reads
    exact ⟨within, fun _ => rfl⟩
  case h_5 header =>
    obtain ⟨leaves, more⟩ := goesOn_readItemHeader document header read rest reads
    exact ⟨leaves.trans ((List.suffix_append ['[', '['] header).trans within), more⟩
  case h_6 header no_item =>
    obtain ⟨leaves, more⟩ := goesOn_readTableHeader document header read rest reads
    refine ⟨leaves.trans ((List.suffix_cons '[' header).trans within), fun tail => ?_⟩
    split
    case h_1 shown | h_2 shown | h_3 shown | h_4 shown => cases shown
    case h_5 shown =>
      exact absurd (List.cons.inj shown).2 (append_ne_cons (by decide) no_item tail _)
    case h_6 shown =>
      obtain ⟨-, rfl⟩ := List.cons.inj shown
      exact more tail
    case h_7 other => exact absurd rfl (other _)
  case h_7 no_end no_comment no_feed no_return no_item no_header =>
    obtain ⟨leaves, more⟩ := goesOn_readAssignment document behind read rest reads
    refine ⟨leaves.trans within, fun tail => ?_⟩
    split
    case h_1 shown => exact absurd shown (by simp)
    case h_2 shown => exact absurd shown (append_ne_cons (by decide) no_comment tail _)
    case h_3 shown =>
      -- the line feed in front is not the one behind the text, which is not empty
      obtain ⟨front, rest, rfl⟩ := List.exists_cons_of_ne_nil no_end
      exact (no_feed rest (congrArg (· :: rest) (List.cons.inj shown).1)).elim
    case h_4 shown => exact absurd shown (append_ne_cons (by decide) no_return tail _)
    case h_5 shown => exact absurd shown (append_ne_cons (by decide) no_header tail _)
    case h_6 shown => exact absurd shown (append_ne_cons (by decide) no_header tail _)
    case h_7 => exact more tail

theorem skipComment_append_lineFeed (text tail : Text) :
    skipComment (text ++ '\n' :: tail) = skipComment text ++ '\n' :: tail := by
  rw [skipComment.eq_def text]
  split
  case h_1 rest => exact dropWhile_append_lineFeed rfl rest tail
  case h_2 no_mark => exact skipComment.eq_2 _ (append_ne_cons (by decide) no_mark tail)

theorem suffix_skipComment (text : Text) : skipComment text <:+ text := by
  unfold skipComment
  split
  · exact (List.dropWhile_suffix _).trans (List.suffix_cons _ _)
  · exact List.suffix_refl _

/-- The end of a line is behind a line feed that follows the text only if it is the end of the
text. -/
theorem lineEnd?_append_lineFeed (ends : lineEnd? text = some next) (tail : Text) :
    lineEnd? (text ++ '\n' :: tail) = some (if text = [] then tail else next ++ '\n' :: tail) := by
  unfold lineEnd? at ends
  split at ends <;> cases ends <;> rfl

theorem length_lt_of_lineEnd? (ends : lineEnd? text = some next) (present : text ≠ []) :
    next.length < text.length := by
  unfold lineEnd? at ends
  split at ends <;> cases ends
  · exact absurd rfl present
  · exact Nat.lt_succ_self _
  · exact Nat.lt_succ_of_lt (Nat.lt_succ_self _)

/-! ## One line and the end of it -/

/-- Read a line, the comment that may end it, and the end of the line. -/
def readLineEnd (document : Document) (text : Text) : Option (Document × Text) := do
  let (document, rest) ← document.readLine text
  some (document, ← lineEnd? (skipComment (skipGap rest)))

theorem readLines_succ (turns : Nat) (document : Document) (text : Text) :
    readLines (turns + 1) document text =
      if text.isEmpty then some document
      else (document.readLineEnd text).bind fun outcome => readLines turns outcome.1 outcome.2 := by
  rw [readLines, readLineEnd]
  split
  · rfl
  · cases document.readLine text <;> simp [Option.bind_assoc]

theorem length_lt_of_readLineEnd {read : Document}
    (reads : document.readLineEnd text = some (read, next)) (present : text ≠ []) :
    next.length < text.length := by
  obtain ⟨⟨_, rest⟩, line, reads⟩ := Option.bind_eq_some_iff.mp reads
  obtain ⟨_, ends, answer⟩ := Option.bind_eq_some_iff.mp reads
  cases answer
  have within := ((suffix_skipComment _).trans
    ((suffix_skipGap rest).trans (goesOn_readLine document _ _ _ line).1)).length_le
  by_cases last : skipComment (skipGap rest) = []
  · rw [last] at ends
    cases ends
    exact List.length_pos_iff.mpr present
  · exact Nat.lt_of_lt_of_le (length_lt_of_lineEnd? ends last) within

/-- If the text ends with the line, the lines behind it come next, else the rest of the text. -/
theorem readLineEnd_append {read : Document}
    (reads : document.readLineEnd text = some (read, next)) :
    (next = [] ∧ ∀ tail, document.readLineEnd (text ++ '\n' :: tail) = some (read, tail)) ∨
      ∀ tail, document.readLineEnd (text ++ '\n' :: tail) = some (read, next ++ '\n' :: tail) := by
  obtain ⟨⟨_, rest⟩, line, reads⟩ := Option.bind_eq_some_iff.mp reads
  obtain ⟨_, ends, answer⟩ := Option.bind_eq_some_iff.mp reads
  cases answer
  have more (tail : Text) : document.readLineEnd (text ++ '\n' :: tail) =
      some (read, if skipComment (skipGap rest) = [] then tail else next ++ '\n' :: tail) := by
    simp only [readLineEnd, (goesOn_readLine document _ _ _ line).2, skipGap_append_lineFeed,
      skipComment_append_lineFeed, lineEnd?_append_lineFeed ends, Option.bind_eq_bind,
      Option.bind_some]
  by_cases last : skipComment (skipGap rest) = []
  · rw [last] at ends
    cases ends
    exact .inl ⟨rfl, fun tail => (more tail).trans (by rw [if_pos last])⟩
  · exact .inr fun tail => (more tail).trans (by rw [if_neg last])

/-! ## All lines -/

theorem readLines_nil (turns : Nat) (document : Document) :
    readLines turns document [] = some document := by
  cases turns <;> rfl

theorem readLines_of_ne_nil (present : text ≠ []) (turns : Nat) (document : Document) :
    readLines (turns + 1) document text =
      (document.readLineEnd text).bind fun outcome => readLines turns outcome.1 outcome.2 := by
  rw [readLines_succ, if_neg]
  simpa using present

/-- A turn for every character and one more are enough. -/
theorem readLines_of_lt {turns more : Nat} (enough : text.length < turns)
    (enough_more : text.length < more) (document : Document) :
    readLines turns document text = readLines more document text := by
  induction turns generalizing more document text with
  | zero => exact absurd enough (Nat.not_lt_zero _)
  | succ turns ih =>
      obtain ⟨more, rfl⟩ := Nat.exists_eq_succ_of_ne_zero (Nat.ne_zero_of_lt enough_more)
      by_cases present : text = []
      · rw [present, readLines_nil, readLines_nil]
      rw [readLines_of_ne_nil present, readLines_of_ne_nil present]
      match reads : document.readLineEnd text with
      | none => rfl
      | some (read, next) =>
        have shorter := length_lt_of_readLineEnd reads present
        have next_enough : next.length < turns := by omega
        have next_enough_more : next.length < more := by omega
        exact ih next_enough next_enough_more read

/-- Reading a text and more lines comes to reading the text and then the lines. -/
theorem readLines_append {read : Document} {turns more : Nat} {tail : Text}
    (reads : readLines turns document text = some read) (enough : text.length < turns)
    (enough_more : (text ++ '\n' :: tail).length < more) :
    readLines more document (text ++ '\n' :: tail) = readLines (tail.length + 1) read tail := by
  -- by induction on the turns; the line feed ends the last line, or an empty line behind it
  induction turns generalizing more document text with
  | zero => exact absurd enough (Nat.not_lt_zero _)
  | succ turns ih =>
      obtain ⟨more, rfl⟩ := Nat.exists_eq_succ_of_ne_zero (Nat.ne_zero_of_lt enough_more)
      rw [List.length_append, List.length_cons] at enough_more
      rw [readLines_of_ne_nil (by simp)]
      by_cases present : text = []
      · subst present
        rw [readLines_nil] at reads
        cases reads
        have tail_enough : tail.length < more := by omega
        exact readLines_of_lt tail_enough (Nat.lt_succ_self _) read
      · rw [readLines_of_ne_nil present] at reads
        obtain ⟨⟨middle, next⟩, line, others⟩ := Option.bind_eq_some_iff.mp reads
        have shorter := length_lt_of_readLineEnd line present
        rcases readLineEnd_append line with ⟨rfl, last⟩ | inside
        · rw [readLines_nil] at others
          cases others
          rw [last]
          have tail_enough : tail.length < more := by omega
          exact readLines_of_lt tail_enough (Nat.lt_succ_self _) middle
        · rw [inside]
          refine ih others (by omega) ?_
          rw [List.length_append, List.length_cons]
          omega

theorem dropMark_append_lineFeed (text tail : Text) :
    dropMark (text ++ '\n' :: tail) = dropMark text ++ '\n' :: tail := by
  rw [dropMark.eq_def text]
  split
  case h_1 => rfl
  case h_2 no_mark => exact dropMark.eq_2 _ (append_ne_cons (by decide) no_mark tail)

/-- What a document becomes when more lines follow its text. -/
theorem ofText?_append {entries : Entries} (reads : ofText? text = some entries) :
    ∃ read : Document, read.entries = entries ∧ ∀ tail, ofText? (text ++ '\n' :: tail) =
      (readLines (tail.length + 1) read tail).map Document.entries := by
  obtain ⟨read, lines, answer⟩ := Option.bind_eq_some_iff.mp reads
  cases answer
  refine ⟨read, rfl, fun tail => ?_⟩
  rw [ofText?, dropMark_append_lineFeed,
    readLines_append lines (Nat.lt_succ_self _) (Nat.lt_succ_self _)]
  cases readLines (tail.length + 1) read tail <;> rfl

end Document

end Toml

end ScriptSanitizer
