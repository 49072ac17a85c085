import ScriptSanitizer.MultiMap

/-!
# Names and values of a map

What each operation on a map does to its names and to the values under a name.  A map is determined
by its names in their order and by what is looked up under them, and sanitizing it in place gives
the map with every value sanitized.
-/

namespace ScriptSanitizer

/-! ## Contents under names -/

section

variable {Content : Type}

theorem lookup_cons_eq_ite (name other : Text) (content : Content)
    (pairs : List (Text × Content)) :
    List.lookup other ((name, content) :: pairs) =
      if other = name then some content else pairs.lookup other := by
  rw [List.lookup_cons]
  by_cases same : other = name
  · rw [if_pos same, beq_iff_eq.mpr same]
  · rw [if_neg same, beq_false_of_ne same]

theorem lookup_map {Changed : Type} (change : Content → Changed) (name : Text)
    (pairs : List (Text × Content)) :
    (pairs.map fun pair => (pair.1, change pair.2)).lookup name =
      (pairs.lookup name).map change := by
  induction pairs with
  | nil => rfl
  | cons pair pairs ih =>
      obtain ⟨first, content⟩ := pair
      rw [List.map_cons, lookup_cons_eq_ite, lookup_cons_eq_ite, ih]
      split <;> rfl

/-- What stands under a name that does not stand twice is found under it. -/
theorem lookup_of_mem {pairs : List (Text × Content)} (distinct : (pairs.map Prod.fst).Nodup)
    {pair : Text × Content} (here : pair ∈ pairs) : pairs.lookup pair.1 = some pair.2 := by
  induction pairs with
  | nil => cases here
  | cons front pairs ih =>
      obtain ⟨absent, others⟩ := List.nodup_cons.mp distinct
      rcases List.mem_cons.mp here with rfl | later
      · exact List.lookup_cons_self
      · have other : pair.1 ≠ front.1 := ne_of_mem_of_not_mem (List.mem_map_of_mem later) absent
        rw [List.lookup_cons, beq_false_of_ne other]
        exact ih others later

end

namespace MultiMap

/-- The names when one of them comes in: one that is there keeps its place, and another one goes
behind all of them. -/
def withName (name : Text) (names : List Text) : List Text :=
  if name ∈ names then names else names ++ [name]

theorem withName_of_mem {name : Text} {names : List Text} (present : name ∈ names) :
    withName name names = names := if_pos present

theorem withName_of_not_mem {name : Text} {names : List Text} (absent : name ∉ names) :
    withName name names = names ++ [name] := if_neg absent

/-! ## Entries -/

namespace Entries

theorem isSome_lookup_iff {entries : Entries} {name : Text} :
    (entries.lookup name).isSome = true ↔ name ∈ entries.names := by
  rw [List.lookup_isSome_iff, names, List.mem_map]
  constructor
  · rintro ⟨entry, member, same⟩
    exact ⟨entry, member, (beq_iff_eq.mp same).symm⟩
  · rintro ⟨entry, member, rfl⟩
    exact ⟨entry, member, beq_self_eq_true _⟩

theorem names_update (name : Text) (change : List Text → List Text) (entries : Entries) :
    (entries.update name change).names = withName name entries.names := by
  induction entries with
  | nil => rfl
  | cons entry entries ih =>
      rw [update]
      by_cases same : entry.1 = name
      · have present : name ∈ names (entry :: entries) := by simp [names, same]
        rw [if_pos same, withName_of_mem present]
        simp [names, same]
      · rw [if_neg same]
        calc
          names (entry :: update name change entries) = entry.1 :: withName name (names entries) :=
            congrArg (entry.1 :: ·) ih
          _ = withName name (entry.1 :: names entries) := by
            simp only [withName, List.mem_cons, Ne.symm same, false_or]
            split <;> rfl

theorem lookup_update (name other : Text) (change : List Text → List Text) (entries : Entries) :
    (entries.update name change).lookup other =
      if other = name then some (change ((entries.lookup name).getD []))
      else entries.lookup other := by
  induction entries with
  | nil => exact lookup_cons_eq_ite name other (change []) []
  | cons entry entries ih =>
      obtain ⟨first, values⟩ := entry
      by_cases found : first = name
      · subst found
        by_cases same : other = first <;> simp [update, lookup_cons_eq_ite, same]
      · by_cases front : other = first
        · subst front
          simp [update, found]
        · simp [update, lookup_cons_eq_ite, found, Ne.symm found, front, ih]

theorem lookup_filter (name other : Text) (entries : Entries) :
    (entries.filter fun entry => entry.1 != name).lookup other =
      if other = name then none else entries.lookup other := by
  induction entries with
  | nil => exact (ite_self none).symm
  | cons entry entries ih =>
      obtain ⟨first, values⟩ := entry
      by_cases removed : first = name
      · subst removed
        rw [List.filter_cons_of_neg (by simp), ih, lookup_cons_eq_ite]
        split <;> rfl
      · rw [List.filter_cons_of_pos (by simpa using removed), lookup_cons_eq_ite,
          lookup_cons_eq_ite, ih]
        by_cases front : other = first
        · subst front
          simp [removed]
        · simp [front]

/-- Where no name stands twice, the first entry of a name is its only one. -/
theorem eraseP_eq_filter {entries : Entries} (distinct : entries.names.Nodup) (name : Text) :
    (entries.eraseP fun entry => entry.1 == name) =
      entries.filter fun entry => entry.1 != name := by
  induction entries with
  | nil => rfl
  | cons entry entries ih =>
      obtain ⟨absent, distinct⟩ := List.nodup_cons.mp distinct
      by_cases found : entry.1 = name
      · subst found
        rw [List.eraseP_cons_of_pos (by simp), List.filter_cons_of_neg (by simp)]
        refine (List.filter_eq_self.mpr fun other here => ?_).symm
        exact bne_iff_ne.mpr (ne_of_mem_of_not_mem (List.mem_map_of_mem here) absent)
      · rw [List.eraseP_cons_of_neg (by simpa using found),
          List.filter_cons_of_pos (by simpa using found), ih distinct]

/-- Entries in which no name stands twice are determined by their names and by what is looked up
under them. -/
theorem eq_of_lookup {entries others : Entries} (distinct : entries.names.Nodup)
    (names_eq : entries.names = others.names)
    (lookup_eq : ∀ name, entries.lookup name = others.lookup name) : entries = others := by
  induction entries generalizing others with
  | nil => exact (List.map_eq_nil_iff.mp names_eq.symm).symm
  | cons entry entries ih =>
      obtain ⟨name, values⟩ := entry
      cases others with
      | nil => exact absurd names_eq (List.cons_ne_nil _ _)
      | cons other others =>
          obtain ⟨otherName, otherValues⟩ := other
          obtain ⟨rfl, behind⟩ := List.cons.inj names_eq
          obtain ⟨absent, distinct⟩ := List.nodup_cons.mp distinct
          have same_values : values = otherValues := by
            simpa [lookup_cons_eq_ite] using lookup_eq name
          rw [same_values, ih distinct behind fun sought => ?_]
          by_cases front : sought = name
          · subst front
            have missing (list : Entries) (names_list : list.names = names entries) :
                list.lookup sought = none := by
              rw [← Option.not_isSome_iff_eq_none, isSome_lookup_iff, names_list]
              exact absent
            rw [missing entries rfl, missing others behind.symm]
          · simpa [lookup_cons_eq_ite, front] using lookup_eq sought

end Entries

/-! ## Maps -/

variable {map : MultiMap} {name : Text}

theorem isSome_find?_iff : (map.find? name).isSome = true ↔ name ∈ map.names :=
  Entries.isSome_lookup_iff

theorem find?_eq_none_iff : map.find? name = none ↔ name ∉ map.names := by
  rw [← isSome_find?_iff, Option.not_isSome_iff_eq_none]

theorem eq_of_find? {other : MultiMap} (names_eq : map.names = other.names)
    (find?_eq : ∀ name, map.find? name = other.find? name) : map = other := by
  have same := Entries.eq_of_lookup map.distinct names_eq find?_eq
  cases map
  cases other
  cases same
  rfl

theorem names_add (map : MultiMap) (name value : Text) :
    (map.add name value).names = withName name map.names :=
  Entries.names_update name _ map.entries

theorem find?_add (map : MultiMap) (name value other : Text) :
    (map.add name value).find? other =
      if other = name then some (map.getAll name ++ [value]) else map.find? other :=
  Entries.lookup_update name other _ map.entries

theorem names_set (map : MultiMap) (name : Text) (values : List Text) :
    (map.set name values).names = withName name map.names :=
  Entries.names_update name _ map.entries

theorem find?_set (map : MultiMap) (name : Text) (values : List Text) (other : Text) :
    (map.set name values).find? other = if other = name then some values else map.find? other :=
  Entries.lookup_update name other _ map.entries

theorem entries_erase (map : MultiMap) (name : Text) :
    (map.erase name).entries = map.entries.filter fun entry => entry.1 != name :=
  Entries.eraseP_eq_filter map.distinct name

theorem names_erase (map : MultiMap) (name : Text) :
    (map.erase name).names = map.names.filter (· != name) := by
  simp only [names, Entries.names, entries_erase, List.filter_map, Function.comp_def]

theorem find?_erase (map : MultiMap) (name other : Text) :
    (map.erase name).find? other = if other = name then none else map.find? other := by
  rw [find?, entries_erase]
  exact Entries.lookup_filter name other map.entries

theorem names_mapValues (map : MultiMap) (change : Text → Text) :
    (map.mapValues change).names = map.names := by
  simp [names, Entries.names, mapValues, Function.comp_def]

theorem find?_mapValues (map : MultiMap) (change : Text → Text) (other : Text) :
    (map.mapValues change).find? other = (map.find? other).map (List.map change) :=
  lookup_map (List.map change) other map.entries

end MultiMap

/-! ## Sanitizing in place -/

namespace Sanitizer

theorem value_sanitizeValues (sanitizer : Sanitizer) (values : List Text) :
    (sanitizer.sanitizeValues values).value =
      values.map fun value => (sanitizer.sanitize value).value := by
  induction values with
  | nil => rfl
  | cons value values ih => exact congrArg (_ :: ·) ih

theorem events_sanitizeValues (sanitizer : Sanitizer) (values : List Text) :
    (sanitizer.sanitizeValues values).events =
      values.flatMap fun value => (sanitizer.sanitize value).events := by
  induction values with
  | nil => rfl
  | cons value values ih =>
      simp only [sanitizeValues, Logged.events_bind, Logged.events_pure, List.append_nil, ih,
        List.flatMap_cons]

theorem value_sanitizeEntries (sanitizer : Sanitizer) (entries : MultiMap.Entries) :
    (sanitizer.sanitizeEntries entries).value = entries.map fun entry =>
      (entry.1, entry.2.map fun value => (sanitizer.sanitize value).value) := by
  induction entries with
  | nil => rfl
  | cons entry entries ih =>
      simp only [sanitizeEntries, Logged.value_bind, Logged.value_pure, value_sanitizeValues, ih,
        List.map_cons]

theorem events_sanitizeEntries (sanitizer : Sanitizer) (entries : MultiMap.Entries) :
    (sanitizer.sanitizeEntries entries).events =
      (entries.flatMap Prod.snd).flatMap fun value => (sanitizer.sanitize value).events := by
  induction entries with
  | nil => rfl
  | cons entry entries ih =>
      simp only [sanitizeEntries, Logged.events_bind, Logged.events_pure, List.append_nil,
        events_sanitizeValues, ih, List.flatMap_cons, List.flatMap_append]

/-- Sanitizing a map in place gives what sanitizing all its values gives, and reports the same. -/
theorem sanitizeAllInPlace_eq_sanitizeAll (sanitizer : Sanitizer) (map : MultiMap) :
    sanitizer.sanitizeAllInPlace map = sanitizer.sanitizeAll map := by
  simp only [sanitizeAllInPlace, sanitizeAll, MultiMap.mapValues, MultiMap.values,
    value_sanitizeEntries, events_sanitizeEntries]

theorem sanitizeInPlace_eq_sanitizeAll (sanitizer : Sanitizer) (map : MultiMap) :
    sanitizer.sanitizeInPlace map = (sanitizer.sanitizeAll map).value :=
  congrArg Logged.value (sanitizer.sanitizeAllInPlace_eq_sanitizeAll map)

end Sanitizer

end ScriptSanitizer
