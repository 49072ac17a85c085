import ScriptSanitizer.Proofs.Text.ByteLength

/-!
# What scans keep

A scan inherits the properties of its steps.  Where every step gives back what it read, the pieces
of a text make up the text; where no step gives back more than it read, the scan does not lengthen
the text; and where no step reads beyond the end of a text, whatever follows is scanned by itself.
-/

namespace ScriptSanitizer

namespace Scan

variable {Piece : Type} {step : Char → Text → Piece × Nat}

/-- Induction along a scan: what holds behind a piece is carried over the piece. -/
theorem pieces_induction {motive : Text → List Piece → Prop} (empty : motive [] [])
    (advance : ∀ front rest,
      motive (rest.drop (step front rest).2) (pieces step (rest.drop (step front rest).2)) →
        motive (front :: rest) (pieces step (front :: rest))) :
    ∀ text, motive text (pieces step text)
  | [] => empty
  | front :: rest => advance front rest (pieces_induction empty advance _)
termination_by text => text.length
decreasing_by
  rw [List.length_drop, List.length_cons]
  omega

/-- What follows a text is scanned by itself if no step within the text depends on it.  `Closed`
holds of the texts at which a step is taken, and is handed on from one to the next. -/
theorem pieces_append (Closed : Text → Prop) {behind : Text}
    (advance : ∀ front rest, Closed (front :: rest) →
      step front (rest ++ behind) = step front rest ∧ (step front rest).2 ≤ rest.length ∧
        Closed (rest.drop (step front rest).2)) :
    ∀ {text : Text}, Closed text →
      pieces step (text ++ behind) = pieces step text ++ pieces step behind
  | [], _ => rfl
  | front :: rest, closed => by
    obtain ⟨same, inside, closed_behind⟩ := advance front rest closed
    have following := pieces_append Closed advance closed_behind
    rw [List.cons_append, pieces_cons, same, List.drop_append_of_le_length inside, following,
      pieces_cons, List.cons_append]
termination_by text => text.length
decreasing_by
  rw [List.length_drop, List.length_cons]
  omega

/-- A text is scanned character by character if no step in it reads more than the one in front. -/
theorem pieces_eq_map {plain : Char → Piece} {text : Text}
    (each : ∀ front ∈ text, ∀ rest, step front rest = (plain front, 0)) :
    pieces step text = text.map plain := by
  induction text with
  | nil => rfl
  | cons front rest ih =>
      have behind := ih fun other member => each other (List.mem_cons_of_mem front member)
      rw [pieces_cons, each front List.mem_cons_self, List.drop_zero, behind, List.map_cons]

/-- Every piece comes from a step at some place of the text. -/
theorem exists_step_of_mem_pieces {text : Text} {piece : Piece} :
    piece ∈ pieces step text → ∃ front rest, piece = (step front rest).1 := by
  refine pieces_induction (motive := fun _ found => piece ∈ found → _) ?_ ?_ text
  · intro member
    simp at member
  · intro front rest behind member
    rw [pieces_cons] at member
    rcases List.mem_cons.mp member with rfl | member
    · exact ⟨front, rest, rfl⟩
    · exact behind member

/-- The pieces make up the text if every step gives back what it read. -/
theorem flatMap_pieces {contents : Piece → Text}
    (covers : ∀ front rest,
      contents (step front rest).1 = front :: rest.take (step front rest).2) (text : Text) :
    (pieces step text).flatMap contents = text := by
  refine pieces_induction (motive := fun text found => found.flatMap contents = text) rfl ?_ text
  intro front rest behind
  rw [pieces_cons, List.flatMap_cons, covers, behind, List.cons_append, List.take_append_drop]

/-- Where every step replaces what it reads or gives it back, the last piece of a text is a
replacement or gives back the last character. -/
theorem exists_last_piece_or_kept {contents : Piece → Text} {Replaced : Piece → Prop}
    (each : ∀ front rest, Replaced (step front rest).1 ∨
      contents (step front rest).1 = front :: rest.take (step front rest).2)
    (text : Text) (last : Char) :
    (∃ before piece, pieces step (text ++ [last]) = before ++ [piece] ∧ Replaced piece) ∨
      ∃ kept, (pieces step (text ++ [last])).flatMap contents = kept ++ [last] := by
  refine pieces_induction (motive := fun whole found => ∀ text, whole = text ++ [last] →
    (∃ before piece, found = before ++ [piece] ∧ Replaced piece) ∨
      ∃ kept, found.flatMap contents = kept ++ [last]) ?_ ?_ (text ++ [last]) text rfl
  · intro text whole
    exact absurd whole.symm (List.append_ne_nil_of_right_ne_nil text (List.cons_ne_nil _ _))
  · intro front rest behind text whole
    have suffix : rest.drop (step front rest).2 <:+ text ++ [last] := by
      rw [← whole]
      exact (List.drop_suffix _ rest).trans (List.suffix_cons front rest)
    rw [pieces_cons, List.flatMap_cons]
    rcases List.suffix_concat_iff.mp suffix with ended | ⟨further, split, _⟩
    · -- The step reads the text to its end.
      have read : rest.take (step front rest).2 = rest :=
        List.take_of_length_le (List.drop_eq_nil_iff.mp ended)
      rw [ended, pieces_nil]
      rcases each front rest with replaced | kept
      · exact .inl ⟨[], _, rfl, replaced⟩
      · refine .inr ⟨text, ?_⟩
        rw [List.flatMap_nil, List.append_nil, kept, read, whole]
    · rcases behind further split with ⟨before, piece, found, replaced⟩ | ⟨kept, found⟩
      · refine .inl ⟨(step front rest).1 :: before, piece, ?_, replaced⟩
        rw [found, List.cons_append]
      · refine .inr ⟨contents (step front rest).1 ++ kept, ?_⟩
        rw [found, List.append_assoc]

/-- The scan does not enlarge the text if no step gives back more than it read, in whatever way
texts are measured. -/
theorem size_flatMap_pieces_le {size : Text → Nat}
    (size_append : ∀ left right, size (left ++ right) = size left + size right)
    {contents : Piece → Text}
    (bound : ∀ front rest, size (contents (step front rest).1) ≤
      size (front :: rest.take (step front rest).2)) (text : Text) :
    size ((pieces step text).flatMap contents) ≤ size text := by
  refine pieces_induction
    (motive := fun text found => size (found.flatMap contents) ≤ size text) ?_ ?_ text
  · exact Nat.le_refl _
  · intro front rest behind
    have first := bound front rest
    have split : front :: rest =
        (front :: rest.take (step front rest).2) ++ rest.drop (step front rest).2 := by
      rw [List.cons_append, List.take_append_drop]
    rw [pieces_cons, List.flatMap_cons, size_append, split, size_append]
    exact Nat.add_le_add first behind

/-- The scan does not lengthen the text if every step replaces what it reads by a character at most
or gives it back. -/
theorem length_flatMap_pieces_le {contents : Piece → Text} {Replaced : Piece → Prop}
    (short : ∀ piece, Replaced piece → (contents piece).length ≤ 1)
    (each : ∀ front rest, Replaced (step front rest).1 ∨
      contents (step front rest).1 = front :: rest.take (step front rest).2) (text : Text) :
    ((pieces step text).flatMap contents).length ≤ text.length := by
  refine size_flatMap_pieces_le (fun _ _ => List.length_append) (fun front rest => ?_) text
  rcases each front rest with replaced | kept
  · exact Nat.le_trans (short _ replaced) (Nat.succ_le_succ (Nat.zero_le _))
  · exact Nat.le_of_eq (congrArg List.length kept)

/-- The scan does not lengthen the text if no step gives back more bytes than it read. -/
theorem byteLength_flatMap_pieces_le {contents : Piece → Text}
    (bound : ∀ front rest, Utf8.byteLength (contents (step front rest).1) ≤
      Utf8.byteLength (front :: rest.take (step front rest).2)) (text : Text) :
    Utf8.byteLength ((pieces step text).flatMap contents) ≤ Utf8.byteLength text :=
  size_flatMap_pieces_le Utf8.byteLength_append bound text

end Scan

end ScriptSanitizer
