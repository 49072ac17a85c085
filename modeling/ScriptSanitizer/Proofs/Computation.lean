import ScriptSanitizer.Event

/-!
# Computations

What follows from the success of a computation that consists of several, and how computations
that report events follow one another.
-/

namespace ScriptSanitizer

/-- What was computed in two steps was computed in the first. -/
theorem exists_of_bind_eq_ok {Error First Last : Type} {first : Except Error First}
    {next : First → Except Error Last} {result : Last} (computed : first >>= next = .ok result) :
    ∃ value, first = .ok value ∧ next value = .ok result := by
  cases first with
  | error => cases computed
  | ok value => exact ⟨value, rfl, computed⟩

/-- Whatever is seen of the result of a computation tells that there is one. -/
theorem exists_of_map_toOption_eq_some {Error Value Seen : Type} {computed : Except Error Value}
    {observe : Value → Seen} {seen : Seen}
    (observed : computed.toOption.map observe = some seen) :
    ∃ value, computed = .ok value ∧ observe value = seen := by
  cases computed with
  | error => exact absurd observed.symm (Option.some_ne_none seen)
  | ok value => exact ⟨value, rfl, Option.some.inj observed⟩

/-- What commutes with both steps of a computation commutes with the computation. -/
theorem bind_eq_map_bind {Error First First' Last Last' : Type} {first : Except Error First}
    {other : Except Error First'} {next : First → Except Error Last}
    {other_next : First' → Except Error Last'} {translate : First → First'}
    {translate_last : Last → Last'} (front : other = translate <$> first)
    (behind : ∀ value, other_next (translate value) = translate_last <$> next value) :
    (other >>= other_next) = translate_last <$> (first >>= next) := by
  subst front
  cases first with
  | error => rfl
  | ok value => exact behind value

namespace Logged

variable {Value Next : Type}

theorem ext_of_value_of_events {first second : Logged Value} (values : first.value = second.value)
    (events : first.events = second.events) : first = second := by
  cases first
  cases second
  cases values
  cases events
  rfl

-- Not an instance: with it, simp would turn a report in front of a value into a map.
theorem lawfulMonad : LawfulMonad Logged := LawfulMonad.mk' Logged
  (fun logged => ext_of_value_of_events rfl (List.append_nil logged.events))
  (fun _ _ => ext_of_value_of_events rfl (List.nil_append _))
  (fun _ _ _ => ext_of_value_of_events rfl (List.append_assoc _ _ _))

@[simp]
theorem value_mapM (compute : Value → Logged Next) (list : List Value) :
    (list.mapM compute).value = list.map fun value => (compute value).value := by
  have lawful := lawfulMonad
  induction list with
  | nil => rfl
  | cons value list ih => rw [List.mapM_cons, value_bind, value_bind, ih, List.map_cons, value_pure]

end Logged

end ScriptSanitizer
