import ScriptSanitizer.Text.Basic

/-!
# Pieces between separators

A text is cut at every occurrence of a separator, so there is one piece more than there are
separators, no piece holds one, and what was joined by separators is cut into the same pieces again.
-/

namespace ScriptSanitizer

variable {separator : Char}

theorem splitAtEach_ne_nil (text : Text) : splitAtEach separator text ≠ [] := by
  cases text with
  | nil => exact List.cons_ne_nil _ _
  | cons front rest =>
      rw [splitAtEach]
      split
      · exact List.cons_ne_nil _ _
      · split <;> exact List.cons_ne_nil _ _

theorem splitAtEach_cons_of_ne {front : Char} (other : front ≠ separator) (rest : Text) :
    ∃ piece pieces, splitAtEach separator rest = piece :: pieces ∧
      splitAtEach separator (front :: rest) = (front :: piece) :: pieces := by
  obtain ⟨piece, pieces, split⟩ :=
    List.exists_cons_of_ne_nil (@splitAtEach_ne_nil separator rest)
  exact ⟨piece, pieces, split, by rw [splitAtEach, if_neg other, split]⟩

theorem splitAtEach_append_separator (text rest : Text) :
    splitAtEach separator (text ++ separator :: rest) =
      splitAtEach separator text ++ splitAtEach separator rest := by
  induction text with
  | nil => simp [splitAtEach]
  | cons front text ih =>
      by_cases same : front = separator
      · simp [splitAtEach, same, ih]
      · obtain ⟨piece, pieces, split, grown⟩ := splitAtEach_cons_of_ne same text
        rw [split] at ih
        rw [grown, List.cons_append, splitAtEach, if_neg same, ih]
        rfl

theorem length_splitAtEach (text : Text) :
    (splitAtEach separator text).length = text.count separator + 1 := by
  induction text with
  | nil => rfl
  | cons front text ih =>
      by_cases same : front = separator
      · simp [splitAtEach, same, ih]
      · obtain ⟨piece, pieces, split, grown⟩ := splitAtEach_cons_of_ne same text
        rw [split] at ih
        rw [grown, List.count_cons_of_ne same, ← ih]
        rfl

theorem splitAtEach_of_not_mem {text : Text} (absent : separator ∉ text) :
    splitAtEach separator text = [text] := by
  induction text with
  | nil => rfl
  | cons front text ih =>
      rw [List.mem_cons, not_or] at absent
      rw [splitAtEach, if_neg (Ne.symm absent.1), ih absent.2]

theorem separator_not_mem_of_mem_splitAtEach {text piece : Text}
    (member : piece ∈ splitAtEach separator text) : separator ∉ piece := by
  induction text generalizing piece with
  | nil =>
      cases List.mem_singleton.mp member
      exact List.not_mem_nil
  | cons front text ih =>
      by_cases same : front = separator
      · rw [splitAtEach, if_pos same] at member
        rcases List.mem_cons.mp member with rfl | later
        · exact List.not_mem_nil
        · exact ih later
      · obtain ⟨first, pieces, split, grown⟩ := splitAtEach_cons_of_ne same text
        rw [grown] at member
        rw [split] at ih
        rcases List.mem_cons.mp member with rfl | later
        · exact List.not_mem_cons_of_ne_of_not_mem (Ne.symm same) (ih List.mem_cons_self)
        · exact ih (List.mem_cons_of_mem _ later)

/-- Pieces without separators that are joined by one are cut apart again. -/
theorem splitAtEach_intercalate {pieces : List Text} (present : pieces ≠ [])
    (absent : ∀ piece ∈ pieces, separator ∉ piece) :
    splitAtEach separator ([separator].intercalate pieces) = pieces := by
  induction pieces with
  | nil => exact absurd rfl present
  | cons piece pieces ih =>
      obtain ⟨front, others⟩ := List.forall_mem_cons.mp absent
      cases pieces with
      | nil => rw [List.intercalate_singleton, splitAtEach_of_not_mem front]
      | cons next pieces =>
          rw [List.intercalate_cons_cons, List.append_assoc, List.singleton_append,
            splitAtEach_append_separator, splitAtEach_of_not_mem front,
            ih (List.cons_ne_nil next pieces) others, List.singleton_append]

end ScriptSanitizer
