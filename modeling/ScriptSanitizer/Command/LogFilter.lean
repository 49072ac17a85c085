import ScriptSanitizer.Command.Log
import ScriptSanitizer.Text.Blank
import ScriptSanitizer.Text.Word
import ScriptSanitizer.Unicode.Property

/-!
# Log filters

A filter is a list of directives, separated by commas.  A directive sets a threshold, for all
events or for those of a target; it may also ask for fields.  Of the directives that concern an
event the one with the longest target decides, and among those for the same events the last.
Directives that name a span, or ask for a value, concern no event.
-/

namespace ScriptSanitizer

namespace Command

/-- A directive of a filter. -/
structure Directive where
  /-- What the targets of the events start with. -/
  target : Option Text
  /-- The fields that the events have. -/
  fields : List Text
  /-- The directive is about spans or about values of fields. -/
  isDynamic : Bool
  /-- The threshold. -/
  threshold : Threshold
  deriving DecidableEq

/-- A list of directives. -/
abbrev LogFilter := List Directive

/-- A text in lower case, as far as ASCII goes. -/
def lowerCase (text : Text) : Text := text.map Char.toLower

/-- The threshold that a directive writes: a name in any case, or a number up to five. -/
def threshold? (text : Text) : Option Threshold :=
  match wordOf? text with
  | some 0 => some .off
  | some 1 => some (.atLeast .error)
  | some 2 => some (.atLeast .warn)
  | some 3 => some (.atLeast .info)
  | some 4 => some (.atLeast .debug)
  | some 5 => some (.atLeast .trace)
  | _ => Threshold.ofName? (lowerCase text)

/-- A letter or a digit of any script. -/
def isLetterOrDigit (character : Char) : Bool :=
  Unicode.Property.alphabetic.contains character.toNat ||
    [Unicode.Category.decimalNumber, .letterNumber, .otherNumber].any fun category =>
      category.contains character.toNat

namespace Directive

/-- The threshold that stands behind the equals sign of a directive; nothing stands for the
lowest one. -/
def thresholdBehind? (text : Text) : Option Threshold :=
  if text.isEmpty then some (.atLeast .trace) else threshold? text

/-- The fields in braces, and whether one of them comes with a value. -/
def fields? (text : Text) : Option (List Text × Bool) :=
  if text.isEmpty then none
  else
    some ([text.takeWhile (· != '=')], text.contains '=')

/-- Read a directive behind the bracket that closes the part about spans and fields. -/
def ofTail? (target : Option Text) (fields : List Text) (isDynamic : Bool) (tail : Text) :
    Option Directive :=
  match tail with
  | [] => some ⟨target, fields, isDynamic, .atLeast .trace⟩
  | '=' :: level => do some ⟨target, fields, isDynamic, ← thresholdBehind? level⟩
  | _ => none

/-- Read a directive behind the opening bracket of the part about spans and fields. -/
def ofBracket? (target : Option Text) (text : Text) : Option Directive :=
  let span := text.takeWhile fun character => character != ']' && character != '\x7b'
  match text.drop span.length with
  | ']' :: tail => ofTail? target [] true tail
  | '\x7b' :: rest => do
    let inside := rest.takeWhile (· != '\x7d')
    let (fields, withValue) ← fields? inside
    match rest.drop inside.length with
    | '\x7d' :: ']' :: tail => ofTail? target fields (!span.isEmpty || withValue) tail
    | _ => none
  | _ => none

/-- The directive that a text writes. -/
def ofText? (text : Text) : Option Directive :=
  match trim text with
  | [] => none
  | '[' :: rest => ofBracket? none rest
  | first :: rest =>
    if !(first ∈ ['-', ':', '_'] || isLetterOrDigit first) then none
    else
      let text := first :: rest
      let target := text.takeWhile fun character => character != '=' && character != '['
      match text.drop target.length with
      | '=' :: level => do some ⟨some target, [], false, ← thresholdBehind? level⟩
      | '[' :: rest => ofBracket? (some target) rest
      | _ =>
        match threshold? target with
        | some threshold => some ⟨none, [], false, threshold⟩
        | none => some ⟨some target, [], false, .atLeast .trace⟩

/-- The directive concerns an event. -/
def concerns (directive : Directive) (event : Event) : Bool :=
  !directive.isDynamic &&
    directive.target.all (fun target => target.isPrefixOf event.target.toList) &&
    directive.fields.all fun field =>
      field = "message".toList || event.fields.any fun (name, _) => name.toList = field

/-- How much a directive asks of the target: nothing, or a beginning of some length. -/
def targetRank (directive : Directive) : Nat :=
  match directive.target with
  | none => 0
  | some target => target.length + 1

/-- The directive decides, and not the other one, which stands in front of it: it asks for more of
the target, for more fields, or for fields that are not smaller. -/
def precedes (directive other : Directive) : Bool :=
  if directive.targetRank ≠ other.targetRank then other.targetRank < directive.targetRank
  else if directive.fields.length ≠ other.fields.length then
    other.fields.length < directive.fields.length
  else !decide (directive.fields < other.fields)

end Directive

namespace LogFilter

/-- The filter that admits what a threshold does. -/
def ofThreshold (threshold : Threshold) : LogFilter := [⟨none, [], false, threshold⟩]

/-- The filter that a text writes; without directives it admits errors. -/
def ofText? (text : Text) : Option LogFilter := do
  let pieces := (splitAtEach ',' text).filter fun piece => !piece.isEmpty
  let directives ← pieces.mapM Directive.ofText?
  if directives.isEmpty then some (ofThreshold (.atLeast .error)) else some directives

/-- The directive that decides about an event. -/
def deciding? (filter : LogFilter) (event : Event) : Option Directive :=
  (filter.filter (·.concerns event)).foldl
    (fun chosen directive =>
      match chosen with
      | some other => if directive.precedes other then some directive else some other
      | none => some directive)
    none

/-- The filter admits an event. -/
def admits (filter : LogFilter) (event : Event) : Bool :=
  (filter.deciding? event).any fun directive => directive.threshold.admits event.level

end LogFilter

end Command

end ScriptSanitizer
