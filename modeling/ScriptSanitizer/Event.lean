import ScriptSanitizer.MalformedFragment
import ScriptSanitizer.Pattern

/-!
# Events

What the sanitizer and its commands report besides their results, and computations that report
events on the way to a value.  An event is its cause; level, wording and fields follow from it.
-/

namespace ScriptSanitizer

/-- How important an event is, the least important first. -/
inductive Level where
  | trace
  | debug
  | info
  | warn
  | error
  deriving DecidableEq

namespace Level

/-- The place of a level in the order of importance. -/
def rank : Level → Nat
  | trace => 0
  | debug => 1
  | info => 2
  | warn => 3
  | error => 4

/-- The name of a level. -/
def name : Level → String
  | trace => "TRACE"
  | debug => "DEBUG"
  | info => "INFO"
  | warn => "WARN"
  | error => "ERROR"

end Level

/-- The value of a field of an event. -/
inductive FieldValue where
  /-- A number. -/
  | number (value : Nat)
  /-- A text. -/
  | text (value : Text)
  deriving DecidableEq

/-- Something worth reporting. -/
inductive Event where
  /-- A malformed fragment was left as it is written. -/
  | leftInPlace (fragment : MalformedFragment)
  /-- An inline block of so many bytes was removed. -/
  | blockRemoved (length : Nat)
  /-- A payload was dropped because it lies too deep. -/
  | nestingLimit (depth : Nat)
  /-- The last pass allowed still changed the value. -/
  | passLimit (maxPasses depth : Nat)
  /-- A value was changed and has come to rest. -/
  | sanitized (passes depth : Nat)
  /-- A pattern was found. -/
  | attackMatched (attack : Attack) (source : Text)
  /-- A setting is no number and was ignored. -/
  | settingIgnored (key value : Text)
  /-- The sanitizer of a run is set up. -/
  | sanitizerReady (maxPasses maxNesting patterns : Nat)
  /-- All values of a run were sanitized. -/
  | sanitizeFinished (total changed : Nat)
  /-- All values of a run were inspected. -/
  | detectFinished (total flagged : Nat)
  deriving DecidableEq

namespace Event

/-- The level of an event. -/
def level : Event → Level
  | leftInPlace _ => .warn
  | blockRemoved _ => .debug
  | nestingLimit _ => .warn
  | passLimit .. => .warn
  | sanitized .. => .debug
  | attackMatched .. => .debug
  | settingIgnored .. => .warn
  | sanitizerReady .. => .debug
  | sanitizeFinished .. => .info
  | detectFinished .. => .debug

/-- The wording of an event. -/
def message : Event → String
  | leftInPlace _ => "Leaving malformed fragment in place"
  | blockRemoved _ => "Removing base64 block with script content"
  | nestingLimit _ => "Base64 nesting limit reached, dropping payload"
  | passLimit .. => "Sanitizer pass limit reached, returning partially sanitized value"
  | sanitized .. => "Value sanitized"
  | attackMatched .. => "Attack pattern matched"
  | settingIgnored .. => "Ignoring non-numeric sanitizer setting"
  | sanitizerReady .. => "Sanitizer ready"
  | sanitizeFinished .. => "Sanitize finished"
  | detectFinished .. => "Detect finished"

/-- The fields of an event besides its wording. -/
def fields : Event → List (String × FieldValue)
  | leftInPlace fragment =>
    [("fragment", .text fragment.excerpt), ("error", .text fragment.message.toList)]
  | blockRemoved length => [("len", .number length)]
  | nestingLimit depth => [("depth", .number depth)]
  | passLimit maxPasses depth => [("max_passes", .number maxPasses), ("depth", .number depth)]
  | sanitized passes depth => [("passes", .number passes), ("depth", .number depth)]
  | attackMatched attack source =>
    [("label", .text attack.label.toList), ("pattern", .text source)]
  | settingIgnored key value => [("key", .text key), ("value", .text value)]
  | sanitizerReady maxPasses maxNesting patterns =>
    [("max_passes", .number maxPasses), ("max_nesting", .number maxNesting),
      ("patterns", .number patterns)]
  | sanitizeFinished total changed => [("total", .number total), ("changed", .number changed)]
  | detectFinished total flagged => [("total", .number total), ("flagged", .number flagged)]

/-- The part of the program that reports an event, as filters and reports name it. -/
def target : Event → String
  | leftInPlace _ => "bulwark_xss::error"
  | blockRemoved _ => "bulwark_xss::inline_base64"
  | nestingLimit _ => "bulwark_xss::sanitizer"
  | passLimit .. => "bulwark_xss::sanitizer"
  | sanitized .. => "bulwark_xss::sanitizer"
  | attackMatched .. => "bulwark_xss::validator"
  | settingIgnored .. => "bulwark_xss::config"
  | sanitizerReady .. => "bulwark"
  | sanitizeFinished .. => "bulwark::commands::sanitize"
  | detectFinished .. => "bulwark"

end Event

/-- A value with the events reported on the way to it, in order. -/
structure Logged (Value : Type) where
  /-- The value. -/
  value : Value
  /-- The events. -/
  events : List Event

namespace Logged

instance : Monad Logged where
  pure value := ⟨value, []⟩
  bind logged continuation :=
    let next := continuation logged.value
    ⟨next.value, logged.events ++ next.events⟩

/-- Report an event. -/
def report (event : Event) : Logged Unit := ⟨(), [event]⟩

@[simp]
theorem value_pure {Value : Type} (value : Value) : (pure value : Logged Value).value = value := rfl

@[simp]
theorem events_pure {Value : Type} (value : Value) : (pure value : Logged Value).events = [] := rfl

@[simp]
theorem value_bind {Value Next : Type} (logged : Logged Value)
    (continuation : Value → Logged Next) :
    (logged >>= continuation).value = (continuation logged.value).value := rfl

@[simp]
theorem events_bind {Value Next : Type} (logged : Logged Value)
    (continuation : Value → Logged Next) :
    (logged >>= continuation).events =
      logged.events ++ (continuation logged.value).events := rfl

end Logged

end ScriptSanitizer
