import ScriptSanitizer.Text.Basic

/-!
# Finders

A finder tells whether a match starts at a place of a text, and how long the one is that it
prefers there.  What it finds in a text, and what is left of the text when its matches are struck
out, follow from this alone, however the finder comes to its answers.

Main operations: `occursIn` says whether there is a match anywhere, and `strike` removes all
matches.
-/

namespace ScriptSanitizer

/-- The last character of a text that a given character may precede. -/
def lastOf (before : Option Char) : Text → Option Char
  | [] => before
  | character :: rest => lastOf (some character) rest

/-- A way to find matches. -/
structure Finder where
  /-- The length of the preferred match at the front of a text, given the character in front of
  the text. -/
  leadingMatch? : (before : Option Char) → (text : Text) → Option Nat
  /-- A match lies within the text. -/
  within {before : Option Char} {text : Text} {length : Nat} :
    leadingMatch? before text = some length → length ≤ text.length

namespace Finder

/-- There is a match in a text that the given character precedes. -/
def occursFrom (finder : Finder) (before : Option Char) : Text → Bool
  | [] => (finder.leadingMatch? before []).isSome
  | character :: rest =>
    (finder.leadingMatch? before (character :: rest)).isSome ||
      finder.occursFrom (some character) rest

/-- There is a match in a text exactly if there is one at the front of some end of it. -/
theorem occursFrom_iff {finder : Finder} {before : Option Char} {text : Text} :
    finder.occursFrom before text = true ↔
      ∃ front after, text = front ++ after ∧
        (finder.leadingMatch? (lastOf before front) after).isSome = true := by
  induction text generalizing before with
  | nil =>
      rw [occursFrom]
      constructor
      · intro found
        exact ⟨[], [], rfl, found⟩
      · rintro ⟨front, after, split, found⟩
        obtain ⟨rfl, rfl⟩ := List.append_eq_nil_iff.mp split.symm
        exact found
  | cons character rest ih =>
      rw [occursFrom, Bool.or_eq_true, ih]
      constructor
      · rintro (found | ⟨front, after, rfl, found⟩)
        · exact ⟨[], character :: rest, rfl, found⟩
        · exact ⟨character :: front, after, rfl, found⟩
      · rintro ⟨front, after, split, found⟩
        cases front with
        | nil =>
            obtain rfl : character :: rest = after := split
            exact .inl found
        | cons head front =>
            obtain ⟨rfl, rest_eq⟩ := List.cons.inj split
            exact .inr ⟨front, after, rest_eq, found⟩

/-- There is a match in the text. -/
def occursIn (finder : Finder) (text : Text) : Bool := finder.occursFrom none text

/-- Strike out the matches of a text from left to right, after passing over `skip` characters of a
match.  A match that reads nothing strikes nothing out. -/
def strikeFrom (finder : Finder) (before : Option Char) : Nat → Text → Text
  | _, [] => []
  | skip + 1, character :: rest => finder.strikeFrom (some character) skip rest
  | 0, character :: rest =>
    match finder.leadingMatch? before (character :: rest) with
    | some (further + 1) => finder.strikeFrom (some character) further rest
    | _ => character :: finder.strikeFrom (some character) 0 rest

/-- The text without the matches of a finder. -/
def strike (finder : Finder) (text : Text) : Text := finder.strikeFrom none 0 text

end Finder

end ScriptSanitizer
