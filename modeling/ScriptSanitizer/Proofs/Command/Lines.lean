import ScriptSanitizer.Command.Run
import ScriptSanitizer.Proofs.Computation
import ScriptSanitizer.Proofs.Passes
import ScriptSanitizer.Proofs.Text.Pieces

/-!
# Sanitized values and lines

The program writes a line feed behind every sanitized value.  A value that was read as a line
holds no line feed, but decoding may bring one about: the output has one line for every value, and
one more for every line feed in a sanitized form.  A value without ampersands and backslashes
brings about none.
-/

namespace ScriptSanitizer

/-! ## What sanitizing leaves of a text without codes -/

section

variable {patterns : PatternSet} {judge : Text → Logged Bool} {text : Text}

theorem Pass.sublist_of_run_eq_changed {next : Text} (no_backslash : '\\' ∉ text)
    (no_ampersand : '&' ∉ text) (changed : (Pass.run patterns judge text).value = .changed next) :
    next.Sublist text := by
  have left := Pass.run_eq_changed_strike (Pass.removes_of_run_eq_changed changed)
  obtain rfl := Pass.changed.inj (changed.symm.trans left)
  rw [value_decodeLayers_eq_self no_backslash no_ampersand]
  exact (patterns.strike_sublist _).trans (Base64.strikeBlocks_sublist judge text)

theorem ChangesIn.sublist {count : Nat} {last : Text}
    (changes : ChangesIn (fun text => (Pass.run patterns judge text).value) count text last)
    (no_backslash : '\\' ∉ text) (no_ampersand : '&' ∉ text) : last.Sublist text := by
  induction changes with
  | none text => exact List.Sublist.refl text
  | @cons count text next last changed _ ih =>
      have passed := (stripNul_sublist next).trans
        (Pass.sublist_of_run_eq_changed no_backslash no_ampersand changed)
      exact (ih (fun member => no_backslash (passed.subset member))
        (fun member => no_ampersand (passed.subset member))).trans passed

/-- Sanitizing brings no character about in a value without backslashes and ampersands. -/
theorem Sanitizer.sanitize_sublist (sanitizer : Sanitizer) (no_backslash : '\\' ∉ text)
    (no_ampersand : '&' ∉ text) : (sanitizer.sanitize text).value.Sublist text := by
  have stripped := stripNul_sublist text
  obtain ⟨count, _, changes, _⟩ := @exists_changesIn_runPasses sanitizer.patterns
    (sanitizer.hidesAttack (sanitizer.maxNesting - 0) 0) sanitizer.maxPasses 0
    sanitizer.maxPasses (stripNul text)
  exact (changes.sublist (fun member => no_backslash (stripped.subset member))
    (fun member => no_ampersand (stripped.subset member))).trans stripped

end

namespace Command

/-! ## Lines -/

/-- The lines of a text in which a line feed ends each of them. -/
def terminatedLines (text : Text) : List Text := (splitAtEach '\n' text).dropLast

theorem splitAtEach_flatMap_line (values : List Text) :
    splitAtEach '\n' (values.flatMap line) = values.flatMap (splitAtEach '\n') ++ [[]] := by
  induction values with
  | nil => rfl
  | cons value values ih =>
      rw [List.flatMap_cons, line, List.append_assoc, List.singleton_append,
        splitAtEach_append_separator, ih, List.flatMap_cons, List.append_assoc]

theorem terminatedLines_flatMap_line (values : List Text) :
    terminatedLines (values.flatMap line) = values.flatMap (splitAtEach '\n') := by
  rw [terminatedLines, splitAtEach_flatMap_line, List.dropLast_concat]

theorem length_terminatedLines_flatMap_line (values : List Text) :
    (terminatedLines (values.flatMap line)).length =
      values.length + values.flatten.count '\n' := by
  rw [terminatedLines_flatMap_line]
  induction values with
  | nil => rfl
  | cons value values ih =>
      rw [List.flatMap_cons, List.length_append, length_splitAtEach, ih, List.length_cons,
        List.flatten_cons, List.count_append]
      omega

/-- Values that are written line by line are the lines exactly if none of them holds a line
feed. -/
theorem terminatedLines_flatMap_line_eq_iff (values : List Text) :
    terminatedLines (values.flatMap line) = values ↔ ∀ value ∈ values, '\n' ∉ value := by
  constructor
  · intro same value member present
    have length := length_terminatedLines_flatMap_line values
    rw [same] at length
    have positive := List.count_pos_iff.mpr (List.mem_flatten.mpr ⟨value, member, present⟩)
    omega
  · intro absent
    rw [terminatedLines_flatMap_line]
    induction values with
    | nil => rfl
    | cons value values ih =>
        obtain ⟨front, others⟩ := List.forall_mem_cons.mp absent
        rw [List.flatMap_cons, splitAtEach_of_not_mem front, ih others]
        rfl

theorem dropReturn_sublist (line : Text) : (dropReturn line).Sublist line := by
  rw [dropReturn]
  split
  · exact List.dropLast_sublist line
  · exact List.Sublist.refl line

theorem lineFeed_not_mem_of_mem_lines {text value : Text} (member : value ∈ lines text) :
    '\n' ∉ value := by
  rcases List.mem_append.mp member with terminated | last
  · obtain ⟨piece, piece_member, rfl⟩ := List.mem_map.mp terminated
    have absent := separator_not_mem_of_mem_splitAtEach
      ((List.dropLast_sublist _).subset piece_member)
    exact fun present => absent ((dropReturn_sublist piece).subset present)
  · obtain ⟨found, -⟩ := Option.mem_filter_iff.mp (Option.mem_toList.mp last)
    exact separator_not_mem_of_mem_splitAtEach (List.mem_of_getLast? found)

/-! ## The sanitizing command -/

/-- The sanitized forms of values. -/
def sanitizedForms (sanitizer : Sanitizer) (values : List Text) : List Text :=
  values.map fun value => (sanitizer.sanitize value).value

/-- How many values sanitizing changes. -/
def changedCount (sanitizer : Sanitizer) (values : List Text) : Nat :=
  values.countP fun value => value != (sanitizer.sanitize value).value

theorem countP_zip_sanitizedForms (sanitizer : Sanitizer) (values : List Text) :
    ((values.zip (sanitizedForms sanitizer values)).countP fun (value, result) => value != result) =
      changedCount sanitizer values := by
  induction values with
  | nil => rfl
  | cons value values ih =>
      unfold sanitizedForms changedCount at ih ⊢
      rw [List.map_cons, List.zip_cons_cons, List.countP_cons, List.countP_cons, ih]

theorem value_sanitizeValues (sanitizer : Sanitizer) (values : List Text) :
    (sanitizeValues sanitizer values).value =
      { output := (sanitizedForms sanitizer values).flatMap line
        total := values.length
        changed := changedCount sanitizer values } := by
  rw [← countP_zip_sanitizedForms]
  simp [sanitizeValues, sanitizedForms]

/-- The report on the values that are sanitized. -/
theorem value_perform_sanitize {surroundings : Surroundings} {given values : List Text}
    (read : valuesOrLines given surroundings.input = .ok values) (sanitizer : Sanitizer)
    (check : Bool) :
    ((Task.sanitize given check).perform surroundings sanitizer).value =
      .ok
        { output := (sanitizedForms sanitizer values).flatMap line
          finding :=
            if check && changedCount sanitizer values != 0 then
              some (changedCount sanitizer values, values.length)
            else none } := by
  simp [Task.perform, read, value_sanitizeValues]

theorem valuesOrLines_nil {input : List UInt8} {text : Text}
    (decoded : Utf8.decode? input = some text) : valuesOrLines [] input = .ok (lines text) := by
  rw [valuesOrLines, decodeInput, decoded]
  rfl

/-- The output has a line for every line of the input and one more for every line feed in a
sanitized form, so it is the sanitized forms line by line exactly if they hold no line feeds; and
they hold none but where a line of the input has an ampersand or a backslash. -/
theorem sanitize_line_by_line {surroundings : Surroundings} {text : Text}
    (decoded : Utf8.decode? surroundings.input = some text) (sanitizer : Sanitizer)
    (check : Bool) :
    ∃ report, ((Task.sanitize [] check).perform surroundings sanitizer).value = .ok report ∧
      (terminatedLines report.output).length = (lines text).length +
        ((lines text).flatMap fun value => (sanitizer.sanitize value).value).count '\n' ∧
      (terminatedLines report.output =
          (lines text).map (fun value => (sanitizer.sanitize value).value) ↔
        ∀ value ∈ lines text, '\n' ∉ (sanitizer.sanitize value).value) ∧
      ∀ value ∈ lines text, '\n' ∈ (sanitizer.sanitize value).value →
        '&' ∈ value ∨ '\\' ∈ value := by
  refine ⟨_, value_perform_sanitize (valuesOrLines_nil decoded) sanitizer check, ?_, ?_, ?_⟩
  · rw [length_terminatedLines_flatMap_line, sanitizedForms, List.length_map, List.flatMap_def]
  · simpa [sanitizedForms] using
      terminatedLines_flatMap_line_eq_iff (sanitizedForms sanitizer (lines text))
  · intro value member present
    refine Classical.byContradiction fun neither => ?_
    rw [not_or] at neither
    have kept := sanitizer.sanitize_sublist neither.2 neither.1
    exact lineFeed_not_mem_of_mem_lines member (kept.subset present)

/-- A run without files and without variables that reads a text. -/
def Surroundings.ofInput (text : Text) : Surroundings where
  environment := []
  file _ := .error .notFound
  input := Utf8.encode text

/-- A word and a script on lines of their own. -/
theorem sanitize_line_by_line_script :
    Utf8.decode? (Surroundings.ofInput "left\n<script>right".toList).input =
        some "left\n<script>right".toList ∧
      ∃ report, ((Task.sanitize [] false).perform (.ofInput "left\n<script>right".toList)
          Sanitizer.default).value = .ok report ∧
        terminatedLines report.output = ["left".toList, "right".toList] := by
  have decoded : Utf8.decode? (Surroundings.ofInput "left\n<script>right".toList).input =
      some "left\n<script>right".toList := by decide +kernel
  have lines_eq : lines "left\n<script>right".toList = ["left".toList, "<script>right".toList] := by
    decide
  have forms : ["left".toList, "<script>right".toList].map
      (fun value => (Sanitizer.default.sanitize value).value) = ["left".toList, "right".toList] := by
    decide +kernel
  obtain ⟨report, performed, -, same_iff, -⟩ :=
    sanitize_line_by_line decoded Sanitizer.default false
  rw [lines_eq, forms] at same_iff
  refine ⟨decoded, report, performed, same_iff.mpr fun value member => ?_⟩
  have form : (Sanitizer.default.sanitize value).value ∈ ["left".toList, "right".toList] :=
    forms ▸ List.mem_map_of_mem member
  rw [List.mem_cons, List.mem_singleton] at form
  rcases form with same | same
  · rw [same]
    decide
  · rw [same]
    decide

/-- One value with a reference to a line feed makes two lines. -/
theorem sanitize_line_feed_reference :
    lines "<script>a&#10;b\n".toList = ["<script>a&#10;b".toList] ∧
      ∃ report, ((Task.sanitize [] false).perform
          (.ofInput "<script>a&#10;b\n".toList) Sanitizer.default).value = .ok report ∧
        terminatedLines report.output = ["a".toList, "b".toList] := by
  have decoded : Utf8.decode? (Surroundings.ofInput "<script>a&#10;b\n".toList).input =
      some "<script>a&#10;b\n".toList := by decide +kernel
  have lines_eq : lines "<script>a&#10;b\n".toList = ["<script>a&#10;b".toList] := by decide
  have forms : sanitizedForms Sanitizer.default ["<script>a&#10;b".toList] = ["a\nb".toList] := by
    decide +kernel
  have performed := value_perform_sanitize (valuesOrLines_nil decoded) Sanitizer.default false
  rw [lines_eq, forms] at performed
  exact ⟨lines_eq, _, performed, by decide⟩

end Command

end ScriptSanitizer
