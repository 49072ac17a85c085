import ScriptSanitizer.Regex.Escape

/-!
# Bracketed classes

Brackets hold characters, ranges, named classes, further brackets, and operators between them.
Open brackets and unfinished operators are kept on a stack while their inside is read, so the
reader is a loop that takes at least one character a turn.

Main operation: `bracketedClass`.
-/

namespace ScriptSanitizer

namespace Regex

/-- A member of a bracketed class. -/
def setAtom (blanks : Bool) : Text → Except PatternError (Atom × Text)
  | '\\' :: rest => escape blanks rest
  | character :: rest => .ok (.literal character false, rest)
  | [] => .error .unclosed

/-- A member or a range of a bracketed class. -/
def setMember (blanks : Bool) (text : Text) : Except PatternError (SetTree × Text) := do
  let (first, rest) ← setAtom blanks text
  let rest ← skipWithin blanks rest
  let ending := skip blanks (rest.drop 1)
  if rest.head? = some '-' && ending.head? != some ']' && ending.head? != some '-' then
    let (last, rest) ← setAtom blanks (← skipWithin blanks (rest.drop 1))
    match first, last with
    | .literal low _, .literal high _ =>
      if low ≤ high then .ok (.span low high, rest) else .error .badClass
    | _, _ => .error .badClass
  else
    match first with
    | .literal character byte => .ok (.single character byte, rest)
    | .set members => .ok (members, rest)
    | .anchor _ => .error .badClass

/-- A named class of ASCII, behind its opening bracket. -/
def asciiClass? (text : Text) : Option (SetTree × Text) :=
  match text with
  | ':' :: rest =>
    let (negated, rest) : Bool × Text :=
      match rest with
      | '^' :: rest => (true, rest)
      | _ => (false, rest)
    let name := rest.takeWhile (· != ':')
    match rest.drop name.length with
    | ':' :: ']' :: rest =>
      (asciiClasses.lookup (String.ofList name)).map fun members => (.ascii members negated, rest)
    | _ => none
  | _ => none

/-- What is unfinished around the class that is being read. -/
inductive SetFrame where
  /-- A bracket: the members in front of it in the class around it, and whether it is negated. -/
  | opened (outer : SetTree) (negated : Bool)
  /-- An operator and its left side. -/
  | operator (combine : SetTree → SetTree → SetTree) (left : SetTree)

/-- Members with one more. -/
def SetTree.insert (members more : SetTree) : SetTree :=
  match members with
  | .nothing => more
  | _ => .union members more

/-- Finish the operator that the members stand behind. -/
def applyOperator (frames : List SetFrame) (right : SetTree) : SetTree × List SetFrame :=
  match frames with
  | .operator combine left :: frames => (combine left right, frames)
  | _ => (right, frames)

/-- The literal hyphens behind an opening bracket. -/
def leadingHyphens (blanks : Bool) (members : SetTree) :
    Nat → Text → Except PatternError (SetTree × Text)
  | 0, text => .ok (members, text)
  | turns + 1, text =>
    match text with
    | '-' :: rest => do
      leadingHyphens blanks (members.insert (.single '-' false)) turns (← skipWithin blanks rest)
    | _ => .ok (members, text)

/-- What stands first in a bracketed class: a negation, hyphens, a closing bracket as a member. -/
def openSet (blanks : Bool) (text : Text) : Except PatternError (Bool × SetTree × Text) := do
  let rest ← skipWithin blanks text
  let (negated, rest) ←
    match rest with
    | '^' :: rest => do
      let rest ← skipWithin blanks rest
      .ok (true, rest)
    | _ => .ok (false, rest)
  let (members, rest) ← leadingHyphens blanks .nothing rest.length rest
  match members, rest with
  | .nothing, ']' :: rest => .ok (negated, .single ']' false, ← skipWithin blanks rest)
  | _, _ => .ok (negated, members, rest)

/-- Read the inside of brackets up to the one that closes the outermost. -/
def setLoop (blanks : Bool) :
    Nat → List SetFrame → SetTree → Text → Except PatternError (SetTree × Text)
  | 0, _, _, _ => .error .unclosed
  | turns + 1, frames, members, text => do
    let operator (combine : SetTree → SetTree → SetTree) (rest : Text) :
        Except PatternError (SetTree × Text) :=
      let (left, frames) := applyOperator frames members
      setLoop blanks turns (.operator combine left :: frames) .nothing rest
    match ← skipWithin blanks text with
    | '[' :: rest =>
      match asciiClass? rest with
      | some (named, rest) => setLoop blanks turns frames (members.insert named) rest
      | none =>
        let (negated, inner, rest) ← openSet blanks rest
        setLoop blanks turns (.opened members negated :: frames) inner rest
    | ']' :: rest =>
      match applyOperator frames members with
      | (inner, [.opened _ negated]) => .ok (.bracketed inner negated, rest)
      | (inner, .opened outer negated :: frames) =>
        setLoop blanks turns frames (outer.insert (.bracketed inner negated)) rest
      | _ => .error .unclosed
    | '&' :: '&' :: rest => operator .intersection rest
    | '-' :: '-' :: rest => operator .difference rest
    | '~' :: '~' :: rest => operator .symmetricDifference rest
    | rest =>
      let (member, rest) ← setMember blanks rest
      setLoop blanks turns frames (members.insert member) rest

/-- A bracketed class, behind its opening bracket. -/
def bracketedClass (blanks : Bool) (text : Text) : Except PatternError (SetTree × Text) := do
  let (negated, members, rest) ← openSet blanks text
  setLoop blanks (rest.length + 1) [.opened .nothing negated] members rest

end Regex

end ScriptSanitizer
