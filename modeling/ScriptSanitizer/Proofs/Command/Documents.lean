import ScriptSanitizer.Command.Basic
import ScriptSanitizer.Proofs.Json.Indentation
import ScriptSanitizer.Proofs.Json.Leaves
import ScriptSanitizer.Proofs.Text.Utf8

/-!
# Documents that are read as bytes

The program reads a document as bytes and writes a line, or several indented ones.  Of the bytes
that encode a text it makes what is made of the text itself, and both forms are read as the same
document.
-/

namespace ScriptSanitizer

namespace Json

/-- Bytes that encode a text write what the text writes; where both fail, the place of the failure
may be told otherwise. -/
theorem ofBytes?_encode (text : Text) :
    (∃ value, Value.ofText? text = .ok value ∧ Value.ofBytes? (Utf8.encode text) = .ok value) ∨
      ∃ failure streamed, Value.ofText? text = .error failure ∧
        Value.ofBytes? (Utf8.encode text) = .error streamed := by
  simp only [Value.ofText?, Value.ofBytes?, Utf8.decode?_encode]
  cases readDocument text with
  | error mishap => exact .inr ⟨_, _, rfl, rfl⟩
  | ok value => exact .inl ⟨value, rfl, rfl⟩

end Json

namespace Command

open Json

variable {sanitizer : Sanitizer} {text : Text}

section

variable {value : Value} (read : Value.ofText? text = .ok value)
  (bytes_read : Value.ofBytes? (Utf8.encode text) = .ok value)

include read in
theorem sanitizeDocument_of_ofText? :
    sanitizer.sanitizeDocument text = .ok (Value.compact <$> sanitizer.sanitizeJson value) := by
  rw [Sanitizer.sanitizeDocument, read]
  rfl

include bytes_read in
theorem sanitizeJson_of_ofBytes? (indented : Bool) :
    sanitizeJson sanitizer indented (Utf8.encode text) =
      .ok ((fun clean => line (if indented then clean.pretty 0 else clean.compact)) <$>
        sanitizer.sanitizeJson value) := by
  rw [sanitizeJson, bytes_read]
  rfl

end

/-- The program accepts the documents that are accepted as texts.  Its output in one line is the
answer for the text and a line feed; and if the numbers are whole, its indented output is read as
the same sanitized document. -/
theorem sanitizeJson_encode (sanitizer : Sanitizer) (text : Text) :
    (∀ indented, (sanitizeJson sanitizer indented (Utf8.encode text)).isOk =
        (sanitizer.sanitizeDocument text).isOk) ∧
      ∀ answer, sanitizer.sanitizeDocument text = .ok answer →
        sanitizeJson sanitizer false (Utf8.encode text) = .ok (line <$> answer) ∧
          ((∀ value, Value.ofText? text = .ok value → value.AllNumbers Number.IsWhole) →
            ∃ before indented, Value.ofText? text = .ok before ∧
              sanitizeJson sanitizer true (Utf8.encode text) = .ok indented ∧
              Value.ofText? (line answer.value) = .ok (sanitizer.sanitizeJson before).value ∧
              Value.ofText? indented.value = .ok (sanitizer.sanitizeJson before).value) := by
  rcases ofBytes?_encode text with
    ⟨before, read, bytes_read⟩ | ⟨failure, streamed, read, bytes_read⟩
  · refine ⟨fun indented => ?_, fun answer answered => ⟨?_, fun whole => ?_⟩⟩
    · rw [sanitizeJson_of_ofBytes? bytes_read, sanitizeDocument_of_ofText? read]
      rfl
    · rw [sanitizeDocument_of_ofText? read] at answered
      cases answered
      have lawful := Logged.lawfulMonad
      rw [← comp_map]
      exact sanitizeJson_of_ofBytes? bytes_read false
    · rw [sanitizeDocument_of_ofText? read] at answered
      cases answered
      have wellFormed :
          (sanitizer.sanitizeJson before).value.WellFormed Number.IsWhole maximalDepth :=
        ((wellFormed_of_ofText? read).restrict (whole before read)).mapStrings
      have line_feed : Blank ['\n'] := List.forall_mem_singleton.mpr rfl
      exact ⟨before, _, read, sanitizeJson_of_ofBytes? bytes_read true,
        ofText?_of_readBack (readBack_compact wellFormed) line_feed,
        ofText?_of_readBack (readBack_pretty wellFormed 0) line_feed⟩
  · have refused : sanitizer.sanitizeDocument text = .error failure := by
      rw [Sanitizer.sanitizeDocument, read]
      rfl
    refine ⟨fun indented => ?_, fun answer answered => ?_⟩
    · rw [sanitizeJson, bytes_read, refused]
      rfl
    · cases refused.symm.trans answered

/-- Empty brackets inside brackets, a whole number, and a script in front of an escaped line
feed. -/
def nestedDocument : Value :=
  .object
    [("list".toList, .array [.array [], .object [], .number (.integer (-7))]),
      ("text".toList, .string "<script>x</script>hi\n".toList)]

theorem sanitizeJson_encode_nested :
    ∃ answer, Sanitizer.default.sanitizeDocument nestedDocument.compact = .ok answer ∧
      (∀ value, Value.ofText? nestedDocument.compact = .ok value →
        value.AllNumbers Number.IsWhole) ∧
      sanitizeJson .default false (Utf8.encode nestedDocument.compact) = .ok (line <$> answer) ∧
      ∃ before indented, Value.ofText? nestedDocument.compact = .ok before ∧
        sanitizeJson .default true (Utf8.encode nestedDocument.compact) = .ok indented ∧
        Value.ofText? (line answer.value) = .ok (Sanitizer.default.sanitizeJson before).value ∧
        Value.ofText? indented.value = .ok (Sanitizer.default.sanitizeJson before).value := by
  have wellFormed : nestedDocument.WellFormed Number.IsWhole maximalDepth := by
    have sorted : "list".toList < "text".toList := by decide
    simpa [nestedDocument, maximalDepth, Value.WellFormed, Number.IsWhole, maximalNegative,
      maximalWord] using sorted
  have read := ofText?_compact wellFormed
  have answered : Sanitizer.default.sanitizeDocument nestedDocument.compact = _ :=
    sanitizeDocument_of_ofText? read
  have whole : ∀ value, Value.ofText? nestedDocument.compact = .ok value →
      value.AllNumbers Number.IsWhole := by
    intro value value_read
    cases read.symm.trans value_read
    exact wellFormed.allNumbers
  obtain ⟨-, agree⟩ := sanitizeJson_encode .default nestedDocument.compact
  obtain ⟨one_line, several_lines⟩ := agree _ answered
  exact ⟨_, answered, whole, one_line, several_lines whole⟩

end Command

end ScriptSanitizer
