import ScriptSanitizer.Text.Basic

/-!
# Reading a text from left to right

A scan cuts a text into pieces.  A `step` looks at the character in front and at what follows
it, and answers with a piece and with the number of further characters that belong to the piece;
the scan goes on behind them.  Decoders differ only in their steps, so what holds of every scan
is said here once.
-/

namespace ScriptSanitizer

namespace Scan

/-- Scan after passing over `skip` characters that belong to an earlier piece. -/
def piecesFrom {Piece : Type} (step : Char → Text → Piece × Nat) : Nat → Text → List Piece
  | _, [] => []
  | skip + 1, _ :: rest => piecesFrom step skip rest
  | 0, front :: rest =>
    (step front rest).1 :: piecesFrom step (step front rest).2 rest

/-- The pieces of a text, from left to right. -/
def pieces {Piece : Type} (step : Char → Text → Piece × Nat) (text : Text) : List Piece :=
  piecesFrom step 0 text

theorem piecesFrom_eq_pieces_drop {Piece : Type} (step : Char → Text → Piece × Nat) (skip : Nat)
    (text : Text) : piecesFrom step skip text = pieces step (text.drop skip) := by
  induction text generalizing skip with
  | nil => cases skip <;> simp [pieces, piecesFrom]
  | cons front rest ih =>
    cases skip with
    | zero => rfl
    | succ skip => simpa [piecesFrom] using ih skip

@[simp]
theorem pieces_nil {Piece : Type} (step : Char → Text → Piece × Nat) : pieces step [] = [] := rfl

theorem pieces_cons {Piece : Type} (step : Char → Text → Piece × Nat) (front : Char)
    (rest : Text) :
    pieces step (front :: rest) =
      (step front rest).1 :: pieces step (rest.drop (step front rest).2) := by
  rw [← piecesFrom_eq_pieces_drop]
  rfl

end Scan

end ScriptSanitizer
