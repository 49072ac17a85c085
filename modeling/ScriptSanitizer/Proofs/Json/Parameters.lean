import ScriptSanitizer.Proofs.Json.Leaves

/-!
# Parameters as documents

A map of parameters is written with its names in the order in which they were added, and read with
its names in their own order.  As no name stands twice in the map, all its values are read under
their names; and a change of the values may be made to the map before it is written or to the
document that is read.
-/

namespace ScriptSanitizer

namespace Json

/-! ## Members put under their names -/

section

variable {Content : Type} {members : List (Text × Content)}

theorem lookup_insertMember (name other : Text) (content : Content) :
    (insertMember name content members).lookup other =
      if other = name then some content else members.lookup other := by
  induction members with
  | nil => exact lookup_cons_eq_ite name other content []
  | cons member members ih =>
      obtain ⟨first, known⟩ := member
      rw [insertMember]
      split
      case isTrue replaced =>
        subst replaced
        rw [lookup_cons_eq_ite, lookup_cons_eq_ite]
        split <;> rfl
      case isFalse kept =>
        split
        · exact lookup_cons_eq_ite name other content _
        · rw [lookup_cons_eq_ite, lookup_cons_eq_ite, ih]
          by_cases front : other = first
          · subst front
            simp [Ne.symm kept]
          · simp [front]

/-- Members with different names are all found where they are put. -/
theorem lookup_insertMembers {known : List (Text × Content)}
    (distinct : (members.map Prod.fst).Nodup) (name : Text) :
    (insertMembers known members).lookup name = (members.lookup name).or (known.lookup name) := by
  induction members generalizing known with
  | nil => rfl
  | cons member members ih =>
      obtain ⟨first, content⟩ := member
      obtain ⟨absent, distinct⟩ := List.nodup_cons.mp distinct
      rw [insertMembers, List.foldl_cons, ← insertMembers, ih distinct, lookup_insertMember,
        lookup_cons_eq_ite]
      by_cases same : name = first
      · subst same
        have missing : members.lookup name = none := by
          rw [List.lookup_eq_none_iff]
          intro member here
          have other : name ≠ member.1 := by
            rintro rfl
            exact absent (List.mem_map.mpr ⟨member, here, rfl⟩)
          simp [other]
        simp [missing]
      · simp [same]

variable {Changed : Type} (change : Content → Changed)

theorem map_insertMember (name : Text) (content : Content) :
    (insertMember name content members).map (Prod.map id change) =
      insertMember name (change content) (members.map (Prod.map id change)) := by
  induction members with
  | nil => rfl
  | cons member members ih =>
      simp only [insertMember, List.map_cons, Prod.map_fst, id_eq, ← ih]
      split
      · rfl
      · split <;> rfl

/-- Contents may be changed before or after they are put under their names. -/
theorem map_insertMembers (known : List (Text × Content)) :
    (insertMembers known members).map (Prod.map id change) =
      insertMembers (known.map (Prod.map id change)) (members.map (Prod.map id change)) := by
  induction members generalizing known with
  | nil => rfl
  | cons member members ih =>
      rw [insertMembers, List.foldl_cons, ← insertMembers, ih, map_insertMember]
      rfl

end

/-! ## Written maps -/

theorem wellFormed_strings {Allowed : Number → Prop} {depth : Nat} (values : List Text) :
    (Value.array (values.map .string)).WellFormed Allowed (depth + 1) :=
  List.forall_mem_map.mpr fun _ _ => by cases depth <;> trivial

end Json

namespace MultiMap

open Json

/-- The names, each with an array of its values. -/
def members (map : MultiMap) : List (Text × Value) :=
  map.entries.map fun entry => (entry.1, .array (entry.2.map .string))

theorem lookup_members (map : MultiMap) (name : Text) :
    map.members.lookup name = (map.find? name).map fun values => .array (values.map .string) :=
  lookup_map (fun values : List Text => Value.array (values.map .string)) name map.entries

theorem nodup_members (map : MultiMap) : (map.members.map Prod.fst).Nodup := by
  simpa [members, Function.comp_def, Entries.names] using map.distinct

theorem members_mapValues (map : MultiMap) (change : Text → Text) :
    (map.mapValues change).members =
      map.members.map (Prod.map id (Value.mapStrings change)) := by
  simp [members, mapValues, Value.mapStrings, mapItems_eq_map]

/-- The document that a written map is read as. -/
def document (map : MultiMap) : Value := .object (insertMembers [] map.members)

theorem ofText?_toJson (map : MultiMap) : Value.ofText? map.toJson.compact = .ok map.document :=
  ofText?_compact_object <| List.forall_mem_map.mpr fun entry _ =>
    @wellFormed_strings _ (maximalDepth - 2) entry.2

theorem child?_document (map : MultiMap) (name : Text) :
    map.document.child? (.member name) =
      (map.find? name).map fun values => .array (values.map .string) := by
  rw [document, Value.child?, lookup_insertMembers map.nodup_members, lookup_members]
  exact Option.or_none

theorem document_mapValues (map : MultiMap) (change : Text → Text) :
    (map.mapValues change).document = map.document.mapStrings change := by
  rw [document, document, Value.mapStrings, mapMembers_eq_map, members_mapValues]
  exact congrArg Value.object (map_insertMembers (Value.mapStrings change) []).symm

end MultiMap

namespace Sanitizer

open Json

/-- A map that is sanitized and written is read as the document that is read from the map as it is
and sanitized then; and what is read has all values under their names. -/
theorem sanitizeJson_of_toJson (sanitizer : Sanitizer) (map : MultiMap) :
    ∃ read clean, Value.ofText? map.toJson.compact = .ok read ∧
      Value.ofText? (sanitizer.sanitizeAll map).value.toJson.compact = .ok clean ∧
      (sanitizer.sanitizeJson read).value = clean ∧
      ∀ name, read.child? (.member name) =
        (map.find? name).map fun values => .array (values.map .string) :=
  ⟨map.document, (sanitizer.sanitizeAll map).value.document, map.ofText?_toJson,
    MultiMap.ofText?_toJson _, (map.document_mapValues _).symm, map.child?_document⟩

end Sanitizer

end ScriptSanitizer
