import ScriptSanitizer.Json.Sanitization
import ScriptSanitizer.Proofs.Json.Reader
import ScriptSanitizer.Proofs.MultiMap.Lookup

/-!
# Documents are sanitized leaf by leaf

A path leads from a value to one inside it, and an outline tells what stands there without what
stands below.  Sanitizing a document changes the outlines of strings and no others, and what it
writes is read as the value that it made.
-/

namespace ScriptSanitizer

namespace Json

/-! ## Paths and outlines -/

/-- A step into a value. -/
inductive Step where
  /-- To the item at a place. -/
  | item (place : Nat)
  /-- To the value under a name. -/
  | member (name : Text)
  deriving DecidableEq

/-- What a value is, without what it holds. -/
inductive Outline where
  /-- Nothing. -/
  | null
  /-- A truth value. -/
  | bool (value : Bool)
  /-- A number. -/
  | number (value : Number)
  /-- A string. -/
  | string (value : Text)
  /-- An array of so many items. -/
  | array (length : Nat)
  /-- An object with values under these names. -/
  | object (names : List Text)
  deriving DecidableEq

namespace Value

/-- The value behind a step. -/
def child? : Step → Value → Option Value
  | .item place, array items => items[place]?
  | .member name, object members => members.lookup name
  | _, _ => none

/-- The value at the end of a path. -/
def at? : List Step → Value → Option Value
  | [], value => some value
  | step :: path, value => (value.child? step).bind (at? path)

/-- The outline of a value. -/
def outline : Value → Outline
  | null => .null
  | bool value => .bool value
  | number value => .number value
  | string value => .string value
  | array items => .array items.length
  | object members => .object (members.map Prod.fst)

end Value

/-- The outline with the string changed that it may be. -/
def Outline.mapString (change : Text → Text) : Outline → Outline
  | string value => .string (change value)
  | other => other

/-! ## Changed strings -/

section

variable {change : Text → Text}

theorem mapItems_eq_map (items : List Value) :
    Value.mapItems change items = items.map (Value.mapStrings change) := by
  induction items with
  | nil => rfl
  | cons item items ih => rw [Value.mapItems, List.map_cons, ih]

theorem mapMembers_eq_map (members : List (Text × Value)) :
    Value.mapMembers change members =
      members.map fun member => (member.1, member.2.mapStrings change) := by
  induction members with
  | nil => rfl
  | cons member members ih => rw [Value.mapMembers, List.map_cons, ih]

theorem outline_mapStrings (value : Value) :
    (value.mapStrings change).outline = value.outline.mapString change := by
  cases value with
  | array items => simp [Value.mapStrings, Value.outline, Outline.mapString, mapItems_eq_map]
  | object members =>
      simp [Value.mapStrings, Value.outline, Outline.mapString, mapMembers_eq_map,
        Function.comp_def]
  | _ => rfl

theorem lookup_mapMembers (members : List (Text × Value)) (name : Text) :
    (Value.mapMembers change members).lookup name =
      (members.lookup name).map (Value.mapStrings change) := by
  rw [mapMembers_eq_map]
  exact lookup_map (Value.mapStrings change) name members

theorem child?_mapStrings (value : Value) (step : Step) :
    (value.mapStrings change).child? step = (value.child? step).map (Value.mapStrings change) := by
  cases value with
  | array items =>
      cases step with
      | item place => simp [Value.mapStrings, Value.child?, mapItems_eq_map]
      | member name => rfl
  | object members =>
      cases step with
      | item place => rfl
      | member name => exact lookup_mapMembers members name
  | _ => cases step <;> rfl

theorem at?_mapStrings (value : Value) (path : List Step) :
    (value.mapStrings change).at? path = (value.at? path).map (Value.mapStrings change) := by
  induction path generalizing value with
  | nil => rfl
  | cons step path ih =>
      rw [Value.at?, Value.at?, child?_mapStrings]
      cases value.child? step with
      | none => rfl
      | some child => exact ih child

/-- A change of strings keeps values well-formed. -/
theorem Value.WellFormed.mapStrings {Allowed : Number → Prop} {depth : Nat} {value : Value}
    (wellFormed : value.WellFormed Allowed depth) :
    (value.mapStrings change).WellFormed Allowed depth := by
  induction depth generalizing value with
  | zero => cases value <;> exact wellFormed
  | succ depth ih =>
      cases value with
      | array items =>
          rw [Value.mapStrings, mapItems_eq_map]
          exact List.forall_mem_map.mpr fun item here => ih (wellFormed item here)
      | object members =>
          obtain ⟨sorted, inside⟩ := wellFormed
          rw [Value.mapStrings, mapMembers_eq_map]
          exact ⟨List.pairwise_map.mpr sorted,
            List.forall_mem_map.mpr fun member here => ih (inside member here)⟩
      | _ => exact wellFormed

end

/-! ## Numbers anywhere -/

theorem lookup_of_mem_of_pairwise {members : List (Text × Value)}
    (sorted : members.Pairwise (·.1 < ·.1)) {member : Text × Value} (here : member ∈ members) :
    members.lookup member.1 = some member.2 := by
  refine lookup_of_mem (List.pairwise_map.mpr (sorted.imp ?_)) here
  rintro first second before same
  exact List.lt_irrefl _ (same ▸ before)

/-- Every number in a value is of a kind. -/
def Value.AllNumbers (Allowed : Number → Prop) (value : Value) : Prop :=
  ∀ path number, value.at? path = some (.number number) → Allowed number

theorem Value.AllNumbers.of_child? {Allowed : Number → Prop} {value child : Value}
    (all : value.AllNumbers Allowed) (step : Step) (reached : value.child? step = some child) :
    child.AllNumbers Allowed := by
  intro path number found
  refine all (step :: path) number ?_
  rwa [Value.at?, reached]

theorem Value.WellFormed.restrict {Allowed Kept : Number → Prop} {depth : Nat} {value : Value}
    (wellFormed : value.WellFormed Allowed depth) (all : value.AllNumbers Kept) :
    value.WellFormed Kept depth := by
  induction depth generalizing value with
  | zero =>
      cases value with
      | number value => exact all [] value rfl
      | _ => exact wellFormed
  | succ depth ih =>
      cases value with
      | number value => exact all [] value rfl
      | array items =>
          intro item here
          obtain ⟨place, found⟩ := List.mem_iff_getElem?.mp here
          exact ih (wellFormed item here) (all.of_child? (.item place) found)
      | object members =>
          refine ⟨wellFormed.1, fun member here => ?_⟩
          have found := lookup_of_mem_of_pairwise wellFormed.1 here
          exact ih (wellFormed.2 member here) (all.of_child? (.member member.1) found)
      | _ => exact wellFormed

theorem Value.WellFormed.child? {Allowed : Number → Prop} {depth : Nat} {value child : Value}
    {step : Step} (wellFormed : value.WellFormed Allowed depth)
    (reached : value.child? step = some child) : child.WellFormed Allowed (depth - 1) := by
  cases depth with
  | zero => cases value <;> cases step <;> first | exact wellFormed.elim | cases reached
  | succ depth =>
      cases value with
      | array items =>
          cases step with
          | item place => exact wellFormed child (List.mem_of_getElem? reached)
          | member name => cases reached
      | object members =>
          cases step with
          | item place => cases reached
          | member name =>
              obtain ⟨before, behind, rfl, -⟩ := List.lookup_eq_some_iff.mp reached
              exact wellFormed.2 (name, child) (List.mem_append_right before List.mem_cons_self)
      | _ => cases step <;> cases reached

/-- The numbers of a well-formed value are of its kind wherever they stand. -/
theorem Value.WellFormed.allNumbers {Allowed : Number → Prop} {depth : Nat} {value : Value}
    (wellFormed : value.WellFormed Allowed depth) : value.AllNumbers Allowed := by
  intro path number found
  induction path generalizing depth value with
  | nil =>
      cases found
      cases depth <;> exact wellFormed
  | cons step path ih =>
      obtain ⟨child, reached, found⟩ := Option.bind_eq_some_iff.mp found
      exact ih (wellFormed.child? reached) found

end Json

namespace Sanitizer

open Json

/-- A document whose numbers are whole is answered with a document that has the same outlines at
the same places, but for strings, in whose places their sanitized forms stand. -/
theorem sanitizeDocument_leaf_by_leaf {sanitizer : Sanitizer} {text : Text}
    {answer : Logged Text} (answered : sanitizer.sanitizeDocument text = .ok answer)
    (whole : ∀ value, Value.ofText? text = .ok value → value.AllNumbers Number.IsWhole) :
    ∃ before after, Value.ofText? text = .ok before ∧ Value.ofText? answer.value = .ok after ∧
      ∀ path, (after.at? path).map Value.outline =
        (before.at? path).map fun value =>
          value.outline.mapString fun string => (sanitizer.sanitize string).value := by
  obtain ⟨before, read, made⟩ := exists_of_bind_eq_ok answered
  cases made
  have wellFormed := (wellFormed_of_ofText? read).restrict (whole before read)
  refine ⟨before, _, read, ofText?_compact wellFormed.mapStrings, fun path => ?_⟩
  have clean : (sanitizer.sanitizeJson before).value =
      before.mapStrings fun string => (sanitizer.sanitize string).value := rfl
  rw [clean, at?_mapStrings, Option.map_map]
  exact congrArg (Option.map · _) (funext outline_mapStrings)

/-- A document with a truth value, a number and a script. -/
def scriptDocument : Text :=
  "\x7b\"flag\":true,\"list\":[-7,\"<script>alert(1)</script>\"]\x7d".toList

theorem sanitizeDocument_leaf_by_leaf_script :
    ∃ answer, Sanitizer.default.sanitizeDocument scriptDocument = .ok answer ∧
      (∀ value, Value.ofText? scriptDocument = .ok value → value.AllNumbers Number.IsWhole) ∧
      ∃ before after, Value.ofText? scriptDocument = .ok before ∧
        Value.ofText? answer.value = .ok after ∧
        ∀ path, (after.at? path).map Value.outline =
          (before.at? path).map fun value =>
            value.outline.mapString fun string => (Sanitizer.default.sanitize string).value := by
  let document : Value := .object
    [("flag".toList, .bool true), ("list".toList, .array
      [.number (.integer (-7)), .string "<script>alert(1)</script>".toList])]
  have written : document.compact = scriptDocument := by decide +kernel
  have wellFormed : document.WellFormed Number.IsWhole maximalDepth := by
    have sorted : "flag".toList < "list".toList := by decide
    simpa [document, maximalDepth, Value.WellFormed, Number.IsWhole, maximalNegative, maximalWord]
      using sorted
  have read : Value.ofText? scriptDocument = .ok document := written ▸ ofText?_compact wellFormed
  have answered : Sanitizer.default.sanitizeDocument scriptDocument =
      .ok (Value.compact <$> Sanitizer.default.sanitizeJson document) := by
    rw [sanitizeDocument, read]
    rfl
  have whole : ∀ value, Value.ofText? scriptDocument = .ok value →
      value.AllNumbers Number.IsWhole := by
    intro value value_read
    cases read.symm.trans value_read
    exact wellFormed.allNumbers
  exact ⟨_, answered, whole, sanitizeDocument_leaf_by_leaf answered whole⟩

end Sanitizer

end ScriptSanitizer
