import Mathlib.Algebra.GroupWithZero.Nat
import Mathlib.Data.List.Induction
import ScriptSanitizer.Proofs.MultiMap.Lookup

/-!
# Maps built from pairs

A map that is built from pairs groups them by their names.  The names stand in the order in which
they first occur, each has the values of its pairs in their order, and there are as many values as
pairs.  Values may be changed before the map is built or afterwards; sanitizing is such a change, in
both of its variants.
-/

namespace ScriptSanitizer

namespace MultiMap

variable (pairs : List (Text × Text))

theorem ofPairs_append (pair : Text × Text) :
    ofPairs (pairs ++ [pair]) = (ofPairs pairs).add pair.1 pair.2 := by
  simp [ofPairs]

/-! ## Names and values -/

/-- A name comes in behind all others when it first occurs. -/
theorem withName_eraseDups (name : Text) (names : List Text) :
    withName name names.eraseDups = (names ++ [name]).eraseDups := by
  rw [List.eraseDups_append]
  by_cases present : name ∈ names
  · rw [withName_of_mem (List.mem_eraseDups.mpr present)]
    simp [List.removeAll, present]
  · have new : [name].removeAll names = [name] := by simp [List.removeAll, present]
    rw [withName_of_not_mem fun member => present (List.mem_eraseDups.mp member), new]
    rfl

theorem names_ofPairs : (ofPairs pairs).names = (pairs.map Prod.fst).eraseDups := by
  induction pairs using List.reverseRecOn with
  | nil => rfl
  | append_singleton pairs pair ih =>
      rw [ofPairs_append, names_add, ih, withName_eraseDups, List.map_append, List.map_singleton]

theorem getAll_add (map : MultiMap) (name value other : Text) :
    (map.add name value).getAll other =
      if other = name then map.getAll name ++ [value] else map.getAll other := by
  rw [getAll, find?_add]
  split <;> rfl

theorem getAll_ofPairs (name : Text) :
    (ofPairs pairs).getAll name = (pairs.filter fun pair => pair.1 = name).map Prod.snd := by
  induction pairs using List.reverseRecOn with
  | nil => rfl
  | append_singleton pairs pair ih =>
      rw [ofPairs_append, getAll_add, List.filter_append, List.map_append, ← ih]
      by_cases same : name = pair.1
      · subst same
        simp
      · simp [same, Ne.symm same]

/-- The number of values. -/
def Entries.valueCount (entries : Entries) : Nat := (entries.map fun entry => entry.2.length).sum

theorem valueCount_update (name value : Text) (entries : Entries) :
    (entries.update name (· ++ [value])).valueCount = entries.valueCount + 1 := by
  induction entries with
  | nil => rfl
  | cons entry entries ih =>
      simp only [Entries.valueCount, Entries.update, List.map_cons, List.sum_cons] at ih ⊢
      split
      · simp only [List.map_cons, List.sum_cons, List.length_append, List.length_singleton]
        omega
      · simp only [List.map_cons, List.sum_cons, ih]
        omega

theorem valueCount_ofPairs : (ofPairs pairs).entries.valueCount = pairs.length := by
  induction pairs using List.reverseRecOn with
  | nil => rfl
  | append_singleton pairs pair ih =>
      rw [ofPairs_append, List.length_append, List.length_singleton, ← ih]
      exact valueCount_update pair.1 pair.2 (ofPairs pairs).entries

/-- Pairs are grouped by their names, and none is lost or counted twice. -/
theorem ofPairs_groups :
    (ofPairs pairs).names = (pairs.map Prod.fst).eraseDups ∧
      (∀ name, (ofPairs pairs).getAll name =
        (pairs.filter fun pair => pair.1 = name).map Prod.snd) ∧
      ((ofPairs pairs).entries.map fun entry => entry.2.length).sum = pairs.length :=
  ⟨names_ofPairs pairs, getAll_ofPairs pairs, valueCount_ofPairs pairs⟩

/-! ## Changed values -/

section

variable (change : Text → Text)

theorem getAll_mapValues (map : MultiMap) (name : Text) :
    (map.mapValues change).getAll name = (map.getAll name).map change := by
  rw [getAll, getAll, find?_mapValues]
  cases map.find? name <;> rfl

theorem mapValues_add (map : MultiMap) (name value : Text) :
    (map.add name value).mapValues change = (map.mapValues change).add name (change value) := by
  refine eq_of_find? ?_ fun other => ?_
  · rw [names_mapValues, names_add, names_add, names_mapValues]
  · rw [find?_mapValues, find?_add, find?_add, find?_mapValues, getAll_mapValues]
    split
    · rw [Option.map_some, List.map_append, List.map_singleton]
    · rfl

theorem mapValues_ofPairs :
    (ofPairs pairs).mapValues change =
      ofPairs (pairs.map fun pair => (pair.1, change pair.2)) := by
  induction pairs using List.reverseRecOn with
  | nil => rfl
  | append_singleton pairs pair ih =>
      rw [ofPairs_append, mapValues_add, ih, List.map_append, List.map_singleton, ofPairs_append]

end

end MultiMap

namespace Sanitizer

/-- Sanitizing a map built from pairs, in either variant, gives the map built from the sanitized
pairs; the variants agree on every map. -/
theorem sanitizeAll_ofPairs (sanitizer : Sanitizer) :
    (∀ pairs, ∃ clean,
      clean = MultiMap.ofPairs (pairs.map fun pair => (pair.1, (sanitizer.sanitize pair.2).value)) ∧
        (sanitizer.sanitizeAll (.ofPairs pairs)).value = clean ∧
        sanitizer.sanitizeInPlace (.ofPairs pairs) = clean) ∧
      ∀ map, sanitizer.sanitizeInPlace map = (sanitizer.sanitizeAll map).value := by
  refine ⟨fun pairs => ⟨_, rfl, ?_, ?_⟩, sanitizer.sanitizeInPlace_eq_sanitizeAll⟩
  · exact MultiMap.mapValues_ofPairs pairs _
  · rw [sanitizeInPlace_eq_sanitizeAll]
    exact MultiMap.mapValues_ofPairs pairs _

end Sanitizer

end ScriptSanitizer
