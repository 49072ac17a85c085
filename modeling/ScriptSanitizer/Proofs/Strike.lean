import ScriptSanitizer.Pattern
import ScriptSanitizer.Proofs.Regex.Search
import ScriptSanitizer.Proofs.Text.ByteLength

/-!
# Striking patterns out

What a set of patterns leaves of a text is a sublist of it.  It is the text itself, or it is
shorter by the least length of a match, which is six characters for the built-in patterns.  The set
leaves a text alone exactly if none of its patterns has a match in it that reads something; where
no pattern matches the empty text, this is the case exactly if the set finds no match.
-/

namespace ScriptSanitizer

namespace Finder

/-! ## One finder -/

/-- Wherever there is a match, the preferred one reads at least a character. -/
def NeverEmpty (finder : Finder) : Prop :=
  ∀ before text, finder.leadingMatch? before text ≠ some 0

/-- A match that reads anything reads at least so many characters. -/
def ReadsAtLeast (finder : Finder) (least : Nat) : Prop :=
  ∀ before text further, finder.leadingMatch? before text = some (further + 1) →
    least ≤ further + 1

theorem readsAtLeast_one (finder : Finder) : finder.ReadsAtLeast 1 :=
  fun _ _ further _ => Nat.le_add_left 1 further

theorem strikeFrom_sublist (finder : Finder) (before : Option Char) (skip : Nat) (text : Text) :
    (finder.strikeFrom before skip text).Sublist (text.drop skip) := by
  induction text generalizing before skip with
  | nil => simp [strikeFrom]
  | cons character rest ih =>
      cases skip with
      | succ skip => exact ih (some character) skip
      | zero =>
          rw [strikeFrom]
          split
          · exact ((ih (some character) _).trans (List.drop_sublist _ _)).cons character
          · exact (ih (some character) 0).cons_cons character

theorem strikeFrom_eq_self_of_not_occurs {finder : Finder} {before : Option Char} {text : Text}
    (absent : finder.occursFrom before text = false) :
    finder.strikeFrom before 0 text = text := by
  induction text generalizing before with
  | nil => rfl
  | cons character rest ih =>
      simp only [occursFrom, Bool.or_eq_false_iff, Option.isSome_eq_false_iff,
        Option.isNone_iff_eq_none] at absent
      rw [strikeFrom, absent.1]
      exact congrArg (character :: ·) (ih absent.2)

/-- Where a finder strikes nothing out but finds a match, a match that it finds is empty. -/
theorem exists_leadingMatch?_eq_zero {finder : Finder} {before : Option Char} {text : Text}
    (kept : finder.strikeFrom before 0 text = text)
    (occurs : finder.occursFrom before text = true) :
    ∃ front after, text = front ++ after ∧
      finder.leadingMatch? (lastOf before front) after = some 0 := by
  induction text generalizing before with
  | nil =>
      obtain ⟨length, found⟩ := Option.isSome_iff_exists.mp occurs
      obtain rfl : length = 0 := Nat.le_zero.mp (finder.within found)
      exact ⟨[], [], rfl, found⟩
  | cons character rest ih =>
      rw [strikeFrom] at kept
      split at kept
      case h_1 further _ =>
        have sublist := strikeFrom_sublist finder (some character) further rest
        rw [kept] at sublist
        have short := sublist.length_le
        simp only [List.length_cons, List.length_drop] at short
        omega
      case h_2 nothing =>
        rw [occursFrom, Bool.or_eq_true] at occurs
        rcases occurs with here | behind
        · obtain ⟨length, found⟩ := Option.isSome_iff_exists.mp here
          cases length with
          | zero => exact ⟨[], character :: rest, rfl, found⟩
          | succ further => exact absurd found (nothing further)
        · obtain ⟨front, after, rfl, found⟩ := ih (List.cons.inj kept).2 behind
          exact ⟨character :: front, after, rfl, found⟩

theorem not_occurs_of_strikeFrom_eq_self {finder : Finder} {before : Option Char} {text : Text}
    (neverEmpty : finder.NeverEmpty) (kept : finder.strikeFrom before 0 text = text) :
    finder.occursFrom before text = false := by
  refine eq_false_of_ne_true fun occurs => ?_
  obtain ⟨front, after, _, found⟩ := exists_leadingMatch?_eq_zero kept occurs
  exact neverEmpty _ after found

/-- Striking out leaves the text alone, or makes it shorter by what a match reads at least. -/
theorem strikeFrom_eq_self_or_shorter {finder : Finder} {least : Nat}
    (reads : finder.ReadsAtLeast least) (before : Option Char) (text : Text) :
    finder.strikeFrom before 0 text = text ∨
      Utf8.byteLength (finder.strikeFrom before 0 text) + least ≤ Utf8.byteLength text := by
  induction text generalizing before with
  | nil => exact .inl rfl
  | cons character rest ih =>
      rw [strikeFrom]
      split
      case h_1 further found =>
        have left := Utf8.byteLength_le_of_sublist
          (strikeFrom_sublist finder (some character) further rest)
        have bound := reads before (character :: rest) further found
        have long := Utf8.length_le_byteLength ((character :: rest).take (further + 1))
        rw [List.length_take_of_le (finder.within found)] at long
        have parts := Utf8.byteLength_append ((character :: rest).take (further + 1))
          (rest.drop further)
        have whole : (character :: rest).take (further + 1) ++ rest.drop further =
            character :: rest := List.take_append_drop (further + 1) (character :: rest)
        rw [whole] at parts
        right
        omega
      case h_2 =>
        rcases ih (some character) with kept | shorter
        · exact .inl (congrArg (character :: ·) kept)
        · right
          rw [Utf8.byteLength_cons, Utf8.byteLength_cons]
          omega

end Finder

namespace Regex

theorem neverEmpty_of_minLength_pos {expression : Regex} (positive : 0 < expression.minLength) :
    expression.finder.NeverEmpty := by
  intro before text found
  obtain ⟨stretch, after, _, empty, matching⟩ := matches_of_leadingMatch? found
  have bound := minLength_le_of_matches matching
  omega

theorem readsAtLeast_of_le_minLength {expression : Regex} {least : Nat}
    (bound : least ≤ expression.minLength) : expression.finder.ReadsAtLeast least := by
  intro before text further found
  obtain ⟨stretch, after, _, length, matching⟩ := matches_of_leadingMatch? found
  have read := minLength_le_of_matches matching
  omega

theorem compile?_eq_ok_iff {source : Text} {finder : Finder} :
    compile? source = .ok finder ↔
      ∃ expression, ofText? customFlags source = .ok expression ∧
        finder = expression.finder := by
  rw [compile?]
  cases ofText? customFlags source with
  | error cause => simp [bind, Except.bind]
  | ok expression =>
      simp only [bind, Except.bind, Except.ok.injEq, exists_eq_left']
      exact eq_comm

end Regex

/-! ## Built-in patterns -/

namespace Pattern

/-- The expressions of the built-in patterns. -/
def builtinRegexes : List Regex :=
  [scriptElementRegex, .text "<script>".toList, .text "</script>".toList, scriptTagRegex,
    callRegex "eval".toList, callRegex "expression".toList, callRegex "atob".toList,
    .text "javascript:".toList, .text "vbscript:".toList, eventHandlerRegex]

theorem builtin_finders : builtin.map Pattern.finder = builtinRegexes.map Regex.finder := rfl

theorem exists_regex_of_mem_builtin {pattern : Pattern} (member : pattern ∈ builtin) :
    ∃ expression ∈ builtinRegexes, expression.finder = pattern.finder := by
  rw [← List.mem_map, ← builtin_finders]
  exact List.mem_map_of_mem member

theorem exists_pattern_of_mem_builtinRegexes {expression : Regex}
    (member : expression ∈ builtinRegexes) :
    ∃ pattern ∈ builtin, pattern.finder = expression.finder := by
  rw [← List.mem_map, builtin_finders]
  exact List.mem_map_of_mem member

/-- Every match of a built-in pattern has six characters or more. -/
theorem le_minLength_of_mem_builtinRegexes :
    ∀ expression ∈ builtinRegexes, 6 ≤ expression.minLength := by
  decide +kernel

end Pattern

/-! ## Sets of patterns -/

namespace PatternSet

/-- Every match of a pattern of the set that reads anything reads at least so many characters. -/
def MatchesAtLeast (set : PatternSet) (least : Nat) : Prop :=
  ∀ pattern ∈ set.patterns, pattern.finder.ReadsAtLeast least

theorem matchesAtLeast_one (set : PatternSet) : set.MatchesAtLeast 1 :=
  fun pattern _ => pattern.finder.readsAtLeast_one

theorem builtin_matchesAtLeast : builtin.MatchesAtLeast 6 := by
  intro pattern member
  obtain ⟨expression, listed, finder_eq⟩ := Pattern.exists_regex_of_mem_builtin member
  rw [← finder_eq]
  exact Regex.readsAtLeast_of_le_minLength
    (Pattern.le_minLength_of_mem_builtinRegexes expression listed)

/-- No pattern of the set matches the empty text. -/
def NeverEmpty (set : PatternSet) : Prop :=
  ∀ pattern ∈ set.patterns, pattern.finder.NeverEmpty

theorem strike_sublist (set : PatternSet) (text : Text) : (set.strike text).Sublist text := by
  obtain ⟨patterns⟩ := set
  unfold strike
  induction patterns generalizing text with
  | nil => exact List.Sublist.refl text
  | cons pattern patterns ih =>
      rw [List.foldl_cons]
      exact (ih (pattern.strike text)).trans (pattern.finder.strikeFrom_sublist none 0 text)

/-- A set leaves a text alone exactly if each of its patterns does. -/
theorem strike_eq_self_iff {set : PatternSet} {text : Text} :
    set.strike text = text ↔ ∀ pattern ∈ set.patterns, pattern.strike text = text := by
  obtain ⟨patterns⟩ := set
  constructor
  · intro kept
    induction patterns with
    | nil => simp
    | cons pattern patterns ih =>
        have first_kept : pattern.strike text = text := by
          have behind := strike_sublist ⟨patterns⟩ (pattern.strike text)
          have first := pattern.finder.strikeFrom_sublist none 0 text
          have whole : strike ⟨patterns⟩ (pattern.strike text) = text := kept
          rw [whole] at behind
          exact first.eq_of_length_le behind.length_le
        have rest_kept : strike ⟨patterns⟩ text = text := by
          have whole : strike ⟨patterns⟩ (pattern.strike text) = text := kept
          rwa [first_kept] at whole
        intro member present
        rcases List.mem_cons.mp present with rfl | present
        · exact first_kept
        · exact ih rest_kept member present
  · intro kept
    unfold strike
    induction patterns with
    | nil => rfl
    | cons pattern patterns ih =>
        rw [List.foldl_cons, kept pattern List.mem_cons_self]
        exact ih fun member present => kept member (List.mem_cons_of_mem _ present)

theorem strike_eq_self_or_shorter {set : PatternSet} {least : Nat}
    (bound : set.MatchesAtLeast least) (text : Text) :
    set.strike text = text ∨ Utf8.byteLength (set.strike text) + least ≤ Utf8.byteLength text := by
  obtain ⟨patterns⟩ := set
  induction patterns generalizing text with
  | nil => exact .inl rfl
  | cons pattern patterns ih =>
      have strike_cons :
          strike ⟨pattern :: patterns⟩ text = strike ⟨patterns⟩ (pattern.strike text) := rfl
      have rest_bound : MatchesAtLeast ⟨patterns⟩ least :=
        fun member present => bound member (List.mem_cons_of_mem _ present)
      have first :=
        Finder.strikeFrom_eq_self_or_shorter (bound pattern List.mem_cons_self) none text
      rw [strike_cons]
      rcases first with kept | shorter
      · have first_kept : pattern.strike text = text := kept
        rw [first_kept]
        exact ih text rest_bound
      · have behind := Utf8.byteLength_le_of_sublist
          (strike_sublist ⟨patterns⟩ (pattern.strike text))
        have first_shorter :
            Utf8.byteLength (pattern.strike text) + least ≤ Utf8.byteLength text := shorter
        right
        omega

theorem firstMatch?_ne_none_iff {set : PatternSet} {text : Text} :
    set.firstMatch? text ≠ none ↔ ∃ pattern ∈ set.patterns, pattern.occursIn text = true := by
  simp [firstMatch?]

theorem strike_eq_self_of_firstMatch?_eq_none {set : PatternSet} {text : Text}
    (absent : set.firstMatch? text = none) : set.strike text = text := by
  rw [firstMatch?, List.find?_eq_none] at absent
  refine strike_eq_self_iff.mpr fun pattern member => ?_
  exact Finder.strikeFrom_eq_self_of_not_occurs
    (eq_false_of_ne_true (absent pattern member))

/-- Where no pattern matches the empty text, a set finds a match exactly if it strikes one out. -/
theorem firstMatch?_eq_none_iff {set : PatternSet} (neverEmpty : set.NeverEmpty) {text : Text} :
    set.firstMatch? text = none ↔ set.strike text = text := by
  constructor
  · exact strike_eq_self_of_firstMatch?_eq_none
  · intro kept
    rw [firstMatch?, List.find?_eq_none]
    intro pattern member
    rw [Bool.not_eq_true]
    exact Finder.not_occurs_of_strikeFrom_eq_self (neverEmpty pattern member)
      (strike_eq_self_iff.mp kept pattern member)

/-! ## Custom patterns -/

variable {compile : Compiler} {sources : List Text} {set : PatternSet}

theorem compiled?_nil (compile : Compiler) : compiled? compile [] = .ok .builtin := by
  rw [compiled?, List.mapM_nil, pure_bind, List.append_nil]
  rfl

theorem mem_customs_iff {customs : List Pattern} {pattern : Pattern}
    (read : sources.mapM (Pattern.custom? compile) = .ok customs) :
    pattern ∈ customs ↔ ∃ source ∈ sources, Pattern.custom? compile source = .ok pattern := by
  induction sources generalizing customs with
  | nil =>
      cases read
      simp
  | cons source sources ih =>
      rw [List.mapM_cons] at read
      cases first : Pattern.custom? compile source with
      | error cause => simp [first, bind, Except.bind] at read
      | ok custom =>
          cases behind : sources.mapM (Pattern.custom? compile) with
          | error cause => simp [first, behind, bind, Except.bind] at read
          | ok others =>
              simp only [first, behind, bind, Except.bind, pure, Except.pure,
                Except.ok.injEq] at read
              subst read
              rw [List.mem_cons, ih behind, @eq_comm _ pattern custom]
              simp only [List.mem_cons, exists_eq_or_imp, first, Except.ok.injEq]

/-- A set with custom patterns has the built-in ones and those that the texts write. -/
theorem mem_patterns_iff {pattern : Pattern} (read : compiled? compile sources = .ok set) :
    pattern ∈ set.patterns ↔ pattern ∈ Pattern.builtin ∨
      ∃ source ∈ sources, Pattern.custom? compile source = .ok pattern := by
  unfold compiled? at read
  cases customs_eq : sources.mapM (Pattern.custom? compile) with
  | error cause => simp [customs_eq, bind, Except.bind] at read
  | ok customs =>
      simp only [customs_eq, bind, Except.bind, Except.ok.injEq] at read
      subst read
      rw [List.mem_append, mem_customs_iff customs_eq]

theorem custom?_eq_ok_iff {source : Text} {pattern : Pattern} :
    Pattern.custom? compile source = .ok pattern ↔
      ∃ finder, compile source = .ok finder ∧ pattern = ⟨.customPattern, source, finder⟩ := by
  rw [Pattern.custom?]
  cases compile source with
  | error cause => simp [bind, Except.bind]
  | ok finder =>
      simp only [bind, Except.bind, Except.ok.injEq, exists_eq_left']
      exact eq_comm

theorem builtin_neverEmpty : builtin.NeverEmpty := by
  intro pattern member
  obtain ⟨expression, listed, finder_eq⟩ := Pattern.exists_regex_of_mem_builtin member
  have long := Pattern.le_minLength_of_mem_builtinRegexes expression listed
  rw [← finder_eq]
  exact Regex.neverEmpty_of_minLength_pos (by omega)

theorem neverEmpty_of_compiled? (read : compiled? compile sources = .ok set)
    (customs_neverEmpty : ∀ source ∈ sources, ∀ finder,
      compile source = .ok finder → finder.NeverEmpty) :
    set.NeverEmpty := by
  intro pattern member
  rcases (mem_patterns_iff read).mp member with built_in | ⟨source, present, written⟩
  · exact builtin_neverEmpty pattern built_in
  · obtain ⟨finder, compiled, rfl⟩ := custom?_eq_ok_iff.mp written
    exact customs_neverEmpty source present finder compiled

end PatternSet

end ScriptSanitizer
