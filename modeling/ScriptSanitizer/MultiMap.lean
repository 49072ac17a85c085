import ScriptSanitizer.Sanitizer

/-!
# Ordered maps to several values

A map from names to lists of values, such as request parameters.  Names stand in the order in
which they were first added, each once, and the values of a name in the order in which they were
added, duplicates included.
-/

namespace ScriptSanitizer

namespace MultiMap

/-- Names with their values. -/
abbrev Entries := List (Text × List Text)

namespace Entries

/-- The names in their order. -/
def names (entries : Entries) : List Text := entries.map Prod.fst

/-- Change the values of a name where it stands; an absent name is put behind all others. -/
def update (name : Text) (change : List Text → List Text) : Entries → Entries
  | [] => [(name, change [])]
  | entry :: entries =>
    if entry.1 = name then (name, change entry.2) :: entries
    else entry :: update name change entries

theorem mem_names_update (name other : Text) (change : List Text → List Text)
    (entries : Entries) :
    other ∈ names (update name change entries) ↔ other = name ∨ other ∈ names entries := by
  induction entries with
  | nil => simp [update, names]
  | cons entry entries ih =>
    simp only [update]
    split <;> simp_all [names]
    grind

theorem nodup_names_update {name : Text} {change : List Text → List Text} {entries : Entries}
    (distinct : entries.names.Nodup) : (entries.update name change).names.Nodup := by
  induction entries with
  | nil => simp [update, names]
  | cons entry entries ih =>
    simp only [names, List.map_cons, List.nodup_cons] at distinct
    simp only [update]
    split
    · rename_i same
      subst same
      simpa [names] using distinct
    · rename_i different
      have absent := mem_names_update name entry.1 change entries
      simp only [names] at absent ih ⊢
      simp only [List.map_cons, List.nodup_cons, absent]
      exact ⟨fun h => h.elim different distinct.1, ih distinct.2⟩

end Entries

end MultiMap

/-- An ordered map from names to lists of values. -/
structure MultiMap where
  /-- The names with their values, in order. -/
  entries : MultiMap.Entries
  /-- No name stands twice. -/
  distinct : entries.names.Nodup

namespace MultiMap

instance : DecidableEq MultiMap := fun left right =>
  if same : left.entries = right.entries then
    .isTrue (by cases left; cases right; simp_all)
  else .isFalse (fun equal => same (by rw [equal]))

/-- The map without names. -/
def empty : MultiMap := ⟨[], by simp [Entries.names]⟩

/-- Change the values of a name where it stands; an absent name is put behind all others. -/
def update (map : MultiMap) (name : Text) (change : List Text → List Text) : MultiMap :=
  ⟨map.entries.update name change, Entries.nodup_names_update map.distinct⟩

/-- One value more under a name. -/
def add (map : MultiMap) (name value : Text) : MultiMap := map.update name (· ++ [value])

/-- Other values under a name. -/
def set (map : MultiMap) (name : Text) (values : List Text) : MultiMap :=
  map.update name fun _ => values

/-- The map without the first entry of a name. -/
def erase (map : MultiMap) (name : Text) : MultiMap where
  entries := map.entries.eraseP fun entry => entry.1 == name
  distinct := (List.eraseP_sublist.map Prod.fst).nodup map.distinct

/-- The values of a name, if it is there. -/
def find? (map : MultiMap) (name : Text) : Option (List Text) := map.entries.lookup name

/-- Take a name out: the values that it had, and the map without it. -/
def remove (map : MultiMap) (name : Text) : Option (List Text) × MultiMap :=
  (map.find? name, map.erase name)

/-- All values of a name. -/
def getAll (map : MultiMap) (name : Text) : List Text := (map.find? name).getD []

/-- The first value of a name. -/
def get? (map : MultiMap) (name : Text) : Option Text := (map.getAll name).head?

/-- The name is there. -/
def contains (map : MultiMap) (name : Text) : Bool := (map.find? name).isSome

/-- The names, in order. -/
def names (map : MultiMap) : List Text := map.entries.names

/-- The number of names. -/
def size (map : MultiMap) : Nat := map.entries.length

/-- There is no name. -/
def isEmpty (map : MultiMap) : Bool := map.entries.isEmpty

/-- The map to which pairs of a name and a value are added one by one. -/
def ofPairs (pairs : List (Text × Text)) : MultiMap :=
  pairs.foldl (fun map pair => map.add pair.1 pair.2) empty

/-- The map with another value for each. -/
def mapValues (map : MultiMap) (change : Text → Text) : MultiMap where
  entries := map.entries.map fun entry => (entry.1, entry.2.map change)
  distinct := by
    have names_eq : Entries.names (map.entries.map fun entry => (entry.1, entry.2.map change)) =
        map.entries.names := by
      simp [Entries.names, Function.comp_def]
    rw [names_eq]
    exact map.distinct

/-- Every value, in order. -/
def values (map : MultiMap) : List Text := map.entries.flatMap Prod.snd

end MultiMap

namespace Sanitizer

/-- The map with every value sanitized. -/
def sanitizeAll (sanitizer : Sanitizer) (map : MultiMap) : Logged MultiMap where
  value := map.mapValues fun value => (sanitizer.sanitize value).value
  events := map.values.flatMap fun value => (sanitizer.sanitize value).events

/-- Sanitize values one after another, each in its place. -/
def sanitizeValues (sanitizer : Sanitizer) : List Text → Logged (List Text)
  | [] => pure []
  | value :: values => do
    let clean ← sanitizer.sanitize value
    let others ← sanitizer.sanitizeValues values
    pure (clean :: others)

/-- Sanitize the values of one entry after another, each entry in its place. -/
def sanitizeEntries (sanitizer : Sanitizer) : MultiMap.Entries → Logged MultiMap.Entries
  | [] => pure []
  | (name, values) :: entries => do
    let clean ← sanitizer.sanitizeValues values
    let others ← sanitizer.sanitizeEntries entries
    pure ((name, clean) :: others)

theorem names_sanitizeEntries (sanitizer : Sanitizer) (entries : MultiMap.Entries) :
    (sanitizer.sanitizeEntries entries).value.names = entries.names := by
  induction entries with
  | nil => rfl
  | cons entry entries ih => exact congrArg (entry.1 :: ·) ih

/-- Sanitize every value of a map in the map itself. -/
def sanitizeAllInPlace (sanitizer : Sanitizer) (map : MultiMap) : Logged MultiMap where
  value :=
    { entries := (sanitizer.sanitizeEntries map.entries).value
      distinct := by
        rw [names_sanitizeEntries]
        exact map.distinct }
  events := (sanitizer.sanitizeEntries map.entries).events

/-- The map as sanitizing in place leaves it. -/
def sanitizeInPlace (sanitizer : Sanitizer) (map : MultiMap) : MultiMap :=
  (sanitizer.sanitizeAllInPlace map).value

end Sanitizer

end ScriptSanitizer
