import Mathlib.Data.Nat.Find
import Mathlib.Data.Set.Card
import ScriptSanitizer.FormEncoding
import ScriptSanitizer.Proofs.MultiMap.Lookup

/-!
# Histories of a map

A map against its history.  The history says for every name which values it has, and when it was
last absent.  Whatever operations have led to a map, all that can be asked of it is what the history
says, and its names stand in the order in which they came in.
-/

namespace ScriptSanitizer

namespace MultiMap

/-- What a name has: its values, unless it is absent. -/
abbrev Values := Text → Option (List Text)

/-! ## Changes and operations -/

/-- A single change of a map. -/
inductive Change where
  /-- All names go. -/
  | clear
  /-- One value more under a name. -/
  | add (name value : Text)
  /-- Other values under a name. -/
  | set (name : Text) (values : List Text)
  /-- A name goes. -/
  | remove (name : Text)
  /-- Every value is sanitized. -/
  | sanitize (sanitizer : Sanitizer)

namespace Change

/-- The map after a change. -/
def apply : Change → MultiMap → MultiMap
  | clear, _ => empty
  | add name value, map => map.add name value
  | set name values, map => map.set name values
  | remove name, map => (map.remove name).2
  | sanitize sanitizer, map => sanitizer.sanitizeInPlace map

/-- What every name has after a change, by what it had before. -/
def revise : Change → Values → Values
  | clear, _ => fun _ => none
  | add name value, held => fun other =>
    if other = name then some ((held name).getD [] ++ [value]) else held other
  | set name values, held => fun other => if other = name then some values else held other
  | remove name, held => fun other => if other = name then none else held other
  | sanitize sanitizer, held => fun other =>
    (held other).map (List.map fun value => (sanitizer.sanitize value).value)

theorem find?_apply (change : Change) (map : MultiMap) :
    (change.apply map).find? = change.revise map.find? := by
  funext other
  cases change with
  | clear => rfl
  | add name value => exact find?_add map name value other
  | set name values => exact find?_set map name values other
  | remove name => exact find?_erase map name other
  | sanitize sanitizer =>
      rw [apply, Sanitizer.sanitizeInPlace_eq_sanitizeAll]
      exact find?_mapValues map _ other

end Change

/-- An operation that makes a map or changes it. -/
inductive Operation where
  /-- A map without names. -/
  | new
  /-- The map of a query string. -/
  | ofQuery (query : Text)
  /-- The map of pairs. -/
  | ofPairs (pairs : List (Text × Text))
  /-- One value more under a name. -/
  | add (name value : Text)
  /-- Other values under a name. -/
  | set (name : Text) (values : List Text)
  /-- A name goes. -/
  | remove (name : Text)
  /-- Every value is sanitized in the map itself. -/
  | sanitizeInPlace (sanitizer : Sanitizer)

namespace Operation

/-- The map after an operation. -/
def apply : Operation → MultiMap → MultiMap
  | new, _ => empty
  | ofQuery query, _ => .ofQuery query
  | ofPairs pairs, _ => .ofPairs pairs
  | add name value, map => map.add name value
  | set name values, map => map.set name values
  | remove name, map => (map.remove name).2
  | sanitizeInPlace sanitizer, map => sanitizer.sanitizeInPlace map

/-- A new map to which pairs are added one by one. -/
def additions (pairs : List (Text × Text)) : List Change :=
  .clear :: pairs.map fun pair => .add pair.1 pair.2

/-- The changes that an operation makes. -/
def changes : Operation → List Change
  | new => [.clear]
  | ofQuery query => additions (FormEncoding.decode query)
  | ofPairs pairs => additions pairs
  | add name value => [.add name value]
  | set name values => [.set name values]
  | remove name => [.remove name]
  | sanitizeInPlace sanitizer => [.sanitize sanitizer]

theorem foldl_additions (pairs : List (Text × Text)) (map : MultiMap) :
    (additions pairs).foldl (fun map change => change.apply map) map = .ofPairs pairs := by
  rw [additions, List.foldl_cons, List.foldl_map]
  rfl

theorem foldl_changes (operation : Operation) (map : MultiMap) :
    operation.changes.foldl (fun map change => change.apply map) map = operation.apply map := by
  cases operation with
  | ofQuery query => exact foldl_additions (FormEncoding.decode query) map
  | ofPairs pairs => exact foldl_additions pairs map
  | _ => rfl

end Operation

/-- The map that operations lead to, from the one without names. -/
def run (operations : List Operation) : MultiMap :=
  operations.foldl (fun map operation => operation.apply map) empty

/-- The changes that operations make. -/
def history (operations : List Operation) : List Change := operations.flatMap Operation.changes

/-- The map that changes lead to. -/
def mapAfter (history : List Change) : MultiMap :=
  history.foldl (fun map change => change.apply map) empty

/-- What every name has after changes. -/
def valuesAfter (history : List Change) : Values :=
  history.foldl (fun held change => change.revise held) fun _ => none

/-- The number of changes after which a name was absent for the last time. -/
def lastAbsent (history : List Change) (name : Text) : Nat :=
  Nat.findGreatest (fun count => valuesAfter (history.take count) name = none) history.length

theorem run_eq_mapAfter (operations : List Operation) :
    run operations = mapAfter (history operations) := by
  unfold run mapAfter history
  generalize empty = map
  induction operations generalizing map with
  | nil => rfl
  | cons operation operations ih =>
      rw [List.foldl_cons, List.flatMap_cons, List.foldl_append, Operation.foldl_changes]
      exact ih _

theorem run_append (operations : List Operation) (operation : Operation) :
    run (operations ++ [operation]) = operation.apply (run operations) := by
  simp [run]

section Snoc

variable (history : List Change) (change : Change)

theorem mapAfter_append :
    mapAfter (history ++ [change]) = change.apply (mapAfter history) := by
  simp [mapAfter]

theorem valuesAfter_append :
    valuesAfter (history ++ [change]) = change.revise (valuesAfter history) := by
  simp [valuesAfter]

end Snoc

/-! ## Values -/

theorem find?_mapAfter (history : List Change) :
    (mapAfter history).find? = valuesAfter history := by
  induction history using List.reverseRecOn with
  | nil => rfl
  | append_singleton history change ih =>
      rw [mapAfter_append, valuesAfter_append, Change.find?_apply, ih]

theorem mem_names_mapAfter {history : List Change} {name : Text} :
    name ∈ (mapAfter history).names ↔ valuesAfter history name ≠ none := by
  rw [← find?_mapAfter, ne_eq, find?_eq_none_iff, Classical.not_not]

/-! ## Order -/

theorem lastAbsent_append (history : List Change) (change : Change) (name : Text) :
    lastAbsent (history ++ [change]) name =
      if valuesAfter (history ++ [change]) name = none then history.length + 1
      else lastAbsent history name := by
  have whole : (history ++ [change]).take (history.length + 1) = history ++ [change] :=
    List.take_of_length_le (by simp)
  have shorter : ∀ count ≤ history.length,
      (history ++ [change]).take count = history.take count :=
    fun count bound => List.take_append_of_le_length bound
  have bounded : ∀ bound ≤ history.length,
      Nat.findGreatest
          (fun count => valuesAfter ((history ++ [change]).take count) name = none) bound =
        Nat.findGreatest (fun count => valuesAfter (history.take count) name = none) bound := by
    intro bound
    induction bound with
    | zero => exact fun _ => rfl
    | succ bound ih =>
        intro within
        rw [Nat.findGreatest_succ, Nat.findGreatest_succ, shorter _ within, ih (by omega)]
  rw [lastAbsent, List.length_append, List.length_singleton, Nat.findGreatest_succ, whole,
    bounded _ (Nat.le_refl _)]
  rfl

theorem lastAbsent_of_absent {history : List Change} {name : Text}
    (absent : valuesAfter history name = none) : lastAbsent history name = history.length :=
  Nat.le_antisymm (Nat.findGreatest_le _)
    (Nat.le_findGreatest (Nat.le_refl _) (by rwa [List.take_length]))

theorem lastAbsent_lt_of_present {history : List Change} {name : Text}
    (present : valuesAfter history name ≠ none) : lastAbsent history name < history.length := by
  refine Nat.lt_of_le_of_ne (Nat.findGreatest_le _) fun whole => present ?_
  have absent : valuesAfter (history.take (lastAbsent history name)) name = none :=
    @Nat.findGreatest_spec 0 (fun count => valuesAfter (history.take count) name = none) _ _
      (Nat.zero_le _) rfl
  rwa [whole, List.take_length] at absent

/-- The names stand in the order in which they have come in since they were last absent. -/
def InOrder (history : List Change) (names : List Text) : Prop :=
  names.Pairwise fun front behind => lastAbsent history front < lastAbsent history behind

theorem inOrder_withName {history : List Change} {name : Text}
    (ordered : InOrder history (mapAfter history).names) :
    InOrder history (withName name (mapAfter history).names) := by
  by_cases present : name ∈ (mapAfter history).names
  · rwa [withName_of_mem present]
  · rw [withName_of_not_mem present]
    refine List.pairwise_append.mpr ⟨ordered, List.pairwise_singleton _ _, ?_⟩
    intro front front_mem behind behind_mem
    obtain rfl := List.mem_singleton.mp behind_mem
    have absent := Classical.not_not.mp fun held => present (mem_names_mapAfter.mpr held)
    rw [lastAbsent_of_absent absent]
    exact lastAbsent_lt_of_present (mem_names_mapAfter.mp front_mem)

/-- A change leaves the names in order: it takes some out, or puts one behind all others. -/
theorem inOrder_names_apply (history : List Change) (change : Change)
    (ordered : InOrder history (mapAfter history).names) :
    InOrder history (change.apply (mapAfter history)).names := by
  cases change with
  | clear => exact List.Pairwise.nil
  | add name value =>
      rw [Change.apply, names_add]
      exact inOrder_withName ordered
  | set name values =>
      rw [Change.apply, names_set]
      exact inOrder_withName ordered
  | remove name =>
      rw [Change.apply, remove, names_erase]
      exact ordered.sublist List.filter_sublist
  | sanitize sanitizer =>
      rw [Change.apply, Sanitizer.sanitizeInPlace_eq_sanitizeAll, Sanitizer.sanitizeAll,
        names_mapValues]
      exact ordered

theorem inOrder_names_mapAfter (history : List Change) :
    InOrder history (mapAfter history).names := by
  induction history using List.reverseRecOn with
  | nil => exact List.Pairwise.nil
  | append_singleton history change ih =>
      have ordered := inOrder_names_apply history change ih
      rw [← mapAfter_append] at ordered
      refine List.Pairwise.imp_of_mem (fun {front behind} front_mem behind_mem earlier => ?_) ordered
      rw [lastAbsent_append, lastAbsent_append, if_neg (mem_names_mapAfter.mp front_mem),
        if_neg (mem_names_mapAfter.mp behind_mem)]
      exact earlier

/-! ## What can be asked -/

/-- A map answers every question as a history says. -/
structure Reflects (map : MultiMap) (history : List Change) : Prop where
  /-- No name stands twice. -/
  names_nodup : map.names.Nodup
  /-- The names stand in the order in which they came in. -/
  names_inOrder : InOrder history map.names
  /-- The names are those that have values. -/
  mem_names : ∀ name, name ∈ map.names ↔ valuesAfter history name ≠ none
  /-- All values of a name. -/
  getAll_eq : ∀ name, map.getAll name = (valuesAfter history name).getD []
  /-- The first value of a name. -/
  get?_eq : ∀ name, map.get? name = (valuesAfter history name).bind List.head?
  /-- A name is there. -/
  contains_eq : ∀ name, map.contains name = (valuesAfter history name).isSome
  /-- The number of names. -/
  size_eq : map.size = Set.ncard {name | valuesAfter history name ≠ none}
  /-- There is no name. -/
  isEmpty_iff : map.isEmpty = true ↔ ∀ name, valuesAfter history name = none
  /-- What comes back when a name is taken out. -/
  remove_eq : ∀ name, (map.remove name).1 = valuesAfter history name

theorem size_eq_ncard (map : MultiMap) : map.size = Set.ncard {name | name ∈ map.names} := by
  have names_nodup : map.names.Nodup := map.distinct
  have length_eq : map.size = map.names.length := (List.length_map _).symm
  have finset_eq : {name | name ∈ map.names} = (map.names.toFinset : Set Text) := by
    ext name
    simp
  rw [length_eq, finset_eq, Set.ncard_coe_finset, List.toFinset_card_of_nodup names_nodup]

theorem isEmpty_iff_names (map : MultiMap) : map.isEmpty = true ↔ ∀ name, name ∉ map.names := by
  rw [isEmpty, List.isEmpty_iff, ← List.eq_nil_iff_forall_not_mem, names, Entries.names,
    List.map_eq_nil_iff]

theorem reflects_mapAfter (history : List Change) : Reflects (mapAfter history) history where
  names_nodup := (mapAfter history).distinct
  names_inOrder := inOrder_names_mapAfter history
  mem_names _ := mem_names_mapAfter
  getAll_eq name := by rw [getAll, find?_mapAfter]
  get?_eq name := by
    rw [get?, getAll, find?_mapAfter]
    cases valuesAfter history name <;> rfl
  contains_eq name := by rw [contains, find?_mapAfter]
  size_eq := by simp only [size_eq_ncard, mem_names_mapAfter]
  isEmpty_iff := by simp only [isEmpty_iff_names, mem_names_mapAfter, Classical.not_not]
  remove_eq name := by rw [remove, find?_mapAfter]

/-- Whatever operations lead to a map, it answers as its history says; an operation on one name
leaves the places of the others, and their values. -/
theorem run_reflects_history (operations : List Operation) :
    Reflects (run operations) (history operations) ∧
      (∀ name value,
        (run (operations ++ [.add name value])).names = withName name (run operations).names ∧
          ∀ other, (run (operations ++ [.add name value])).find? other =
            if other = name then some ((run operations).getAll name ++ [value])
            else (run operations).find? other) ∧
      (∀ name values,
        (run (operations ++ [.set name values])).names = withName name (run operations).names ∧
          ∀ other, (run (operations ++ [.set name values])).find? other =
            if other = name then some values else (run operations).find? other) ∧
      ∀ name,
        (run (operations ++ [.remove name])).names = (run operations).names.filter (· != name) ∧
          ∀ other, (run (operations ++ [.remove name])).find? other =
            if other = name then none else (run operations).find? other := by
  refine ⟨?_, fun name value => ?_, fun name values => ?_, fun name => ?_⟩
  · rw [run_eq_mapAfter]
    exact reflects_mapAfter (history operations)
  · rw [run_append]
    exact ⟨names_add _ name value, find?_add _ name value⟩
  · rw [run_append]
    exact ⟨names_set _ name values, find?_set _ name values⟩
  · rw [run_append]
    exact ⟨names_erase _ name, find?_erase _ name⟩

-- A name that comes back stands behind the others, also with no values.
example : (run [.add ['a'] ['1'], .add ['b'] ['2'], .remove ['a'], .set ['a'] []]).entries =
    [(['b'], [['2']]), (['a'], [])] := by decide

end MultiMap

end ScriptSanitizer
