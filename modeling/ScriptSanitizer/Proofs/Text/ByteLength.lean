import ScriptSanitizer.Sanitizer

/-!
# Byte lengths of the parts of a text

The sanitizer compares byte lengths where it asks whether a text has changed.  What it removes
leaves a sublist of the text, and a sublist is never longer than the text and is the text itself
if it is equally long.  This file proves that, and what follows for the NUL characters that are
struck out between passes.
-/

namespace ScriptSanitizer

namespace Utf8

theorem length_le_byteLength (text : Text) : text.length ≤ byteLength text := by
  induction text with
  | nil => simp
  | cons character text ih =>
      have positive := character.utf8Size_pos
      simp only [List.length_cons, byteLength_cons]
      omega

theorem byteLength_le_of_sublist {part whole : Text} (sublist : part.Sublist whole) :
    byteLength part ≤ byteLength whole := by
  induction sublist with
  | slnil => exact Nat.le_refl _
  | cons character _ ih => exact Nat.le_add_left_of_le ih
  | cons_cons character _ ih => exact Nat.add_le_add_left ih _

/-- A part of a text that is at least as long as the text is the whole text. -/
theorem eq_of_sublist_of_byteLength_le {part whole : Text} (sublist : part.Sublist whole)
    (long : byteLength whole ≤ byteLength part) : part = whole := by
  induction sublist with
  | slnil => rfl
  | cons character sublist ih =>
      have positive := character.utf8Size_pos
      have shorter := byteLength_le_of_sublist sublist
      simp only [byteLength_cons] at long
      omega
  | cons_cons character _ ih =>
      simp only [byteLength_cons] at long
      rw [ih (by omega)]

end Utf8

/-! ## Texts without NUL -/

theorem stripNul_sublist (text : Text) : (stripNul text).Sublist text :=
  List.filter_sublist

theorem nul_not_mem_stripNul (text : Text) : '\x00' ∉ stripNul text := by
  simp [stripNul, strikeOut]

theorem stripNul_eq_self_iff {text : Text} : stripNul text = text ↔ '\x00' ∉ text := by
  rw [stripNul, strikeOut, List.filter_eq_self]
  constructor
  · intro kept member
    simpa using kept _ member
  · intro absent character member
    have differs : character ≠ '\x00' := fun equal => absent (equal ▸ member)
    simpa using differs

theorem byteLength_stripNul_le (text : Text) :
    Utf8.byteLength (stripNul text) ≤ Utf8.byteLength text :=
  Utf8.byteLength_le_of_sublist (stripNul_sublist text)

end ScriptSanitizer
