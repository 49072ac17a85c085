import ScriptSanitizer.Text.Basic

/-!
# Sets of code points by their boundaries

The properties of the Unicode standard change their value rarely from one code point to the next.
A set of code points is therefore written as the increasing list of the places where membership
changes: the first member, the first code point behind that range, and so on.

The tables of these modules are those of the edition 16.0, which the regular expressions read.
-/

namespace ScriptSanitizer

namespace Unicode

/-- The increasing list of the code points where membership in a set changes. -/
abbrev Boundaries := List Nat

/-- The code point lies in the set with the given boundaries. -/
def Boundaries.contains : Boundaries → Nat → Bool
  | [], _ => false
  | boundary :: further, code =>
    if code < boundary then false else !Boundaries.contains further code

end Unicode

end ScriptSanitizer
