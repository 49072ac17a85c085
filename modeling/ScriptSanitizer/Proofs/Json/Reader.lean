import ScriptSanitizer.Proofs.Computation
import ScriptSanitizer.Proofs.Json.RoundTrip

/-!
# What a reader of JSON makes

Whatever the text, a value that is read has the members of each object in the order of their
names, every name once, and opens no more brackets than the reader allows.
-/

namespace ScriptSanitizer

namespace Json

/-! ## Loops -/

/-- What holds of every item that is read holds of the items of an array. -/
theorem forall_mem_of_readItems {Item : Type} {Holds : Item → Prop}
    {readItem : Text → Except Mishap (Item × Text)}
    (each : ∀ {text item rest}, readItem text = .ok (item, rest) → Holds item) {turns : Nat}
    {first : Bool} {text rest : Text} {items : List Item}
    (read : readItems readItem turns first text = .ok (items, rest)) :
    ∀ item ∈ items, Holds item := by
  induction turns generalizing first text items with
  | zero => cases read
  | succ turns ih =>
      rw [readItems] at read
      split at read
      case h_1 => cases read
      case h_2 =>
        cases read
        exact fun _ member => absurd member List.not_mem_nil
      case h_3 =>
        obtain ⟨start, -, read⟩ := exists_of_bind_eq_ok read
        obtain ⟨⟨item, behind⟩, item_read, read⟩ := exists_of_bind_eq_ok read
        obtain ⟨⟨others, last⟩, others_read, read⟩ := exists_of_bind_eq_ok read
        cases read
        exact List.forall_mem_cons.mpr ⟨each item_read, ih others_read⟩

/-- What every member preserves holds of all of them together. -/
theorem readMembers_induction {State : Type} {Holds : State → Prop}
    {readMember : State → Text → Text → Except Mishap (State × Text)}
    (preserved : ∀ {state name text next rest}, Holds state →
      readMember state name text = .ok (next, rest) → Holds next)
    {turns : Nat} {first : Bool} {state final : State} {text rest : Text} (initial : Holds state)
    (read : readMembers readMember turns first state text = .ok (final, rest)) : Holds final := by
  induction turns generalizing first state text with
  | zero => cases read
  | succ turns ih =>
      rw [readMembers] at read
      split at read
      case h_1 => cases read
      case h_2 =>
        cases read
        exact initial
      case h_3 =>
        obtain ⟨start, -, read⟩ := exists_of_bind_eq_ok read
        obtain ⟨⟨name, behind⟩, -, read⟩ := exists_of_bind_eq_ok read
        obtain ⟨⟨next, last⟩, member_read, read⟩ := exists_of_bind_eq_ok read
        exact ih (preserved initial member_read) read

/-! ## Members -/

section

variable {Content : Type} {members : List (Text × Content)} {name : Text} {value : Content}

theorem eq_or_mem_of_mem_insertMember {member : Text × Content}
    (here : member ∈ insertMember name value members) :
    member = (name, value) ∨ member ∈ members := by
  induction members with
  | nil => exact .inl (List.mem_singleton.mp here)
  | cons known members ih =>
      rw [insertMember] at here
      split at here
      · exact (List.mem_cons.mp here).imp_right (List.mem_cons_of_mem _)
      · split at here
        · exact List.mem_cons.mp here
        · rcases List.mem_cons.mp here with rfl | later
          · exact .inr List.mem_cons_self
          · exact (ih later).imp_right (List.mem_cons_of_mem _)

/-- A value is put where its name belongs. -/
theorem pairwise_insertMember (sorted : members.Pairwise (·.1 < ·.1)) :
    (insertMember name value members).Pairwise (·.1 < ·.1) := by
  induction members with
  | nil => exact List.pairwise_singleton _ _
  | cons known members ih =>
      obtain ⟨front, others⟩ := List.pairwise_cons.mp sorted
      rw [insertMember]
      split
      case isTrue same =>
        subst same
        exact List.pairwise_cons.mpr ⟨front, others⟩
      case isFalse other =>
        split
        case isTrue before =>
          refine List.pairwise_cons.mpr ⟨fun member here => ?_, sorted⟩
          rcases List.mem_cons.mp here with rfl | later
          · exact before
          · exact List.lt_trans before (front member later)
        case isFalse not_before =>
          have ordered := Std.lt_trichotomy name known.1
          have behind := (ordered.resolve_left not_before).resolve_left other
          refine List.pairwise_cons.mpr ⟨fun member here => ?_, ih others⟩
          rcases eq_or_mem_of_mem_insertMember here with rfl | later
          · exact behind
          · exact front member later

end

/-! ## Values -/

section

variable {inner : Option (Text → Except Mishap (Value × Text))}

/-- What stands between brackets is read by the inner reader. -/
theorem exists_of_readNested {opening : Char} {text rest : Text} {value : Value}
    (read : readNested inner opening text = .ok (value, rest)) :
    ∃ readInner, inner = some readInner ∧
      ((∃ turns items, readItems readInner turns true text = .ok (items, rest) ∧
          value = .array items) ∨
        ∃ turns members,
          readMembers (readMember readInner) turns true [] text = .ok (members, rest) ∧
            value = .object members) := by
  rw [readNested.eq_def] at read
  split at read
  case h_1 => cases read
  case h_2 readInner =>
    refine ⟨readInner, rfl, ?_⟩
    split at read
    · obtain ⟨⟨items, behind⟩, items_read, read⟩ := exists_of_bind_eq_ok read
      cases read
      exact .inl ⟨_, items, items_read, rfl⟩
    · obtain ⟨⟨members, behind⟩, members_read, read⟩ := exists_of_bind_eq_ok read
      cases read
      exact .inr ⟨_, members, members_read, rfl⟩

/-- A value that is read opens no brackets, or is read from between its brackets. -/
theorem isFlat_or_readNested {text rest : Text} {value : Value}
    (read : readValueWith inner text = .ok (value, rest)) :
    value.IsFlat ∨ ∃ opening behind, readNested inner opening behind = .ok (value, rest) := by
  rw [readValueWith] at read
  split at read
  case h_1 => cases read
  case h_2 front behind _ =>
    split at read
    case h_6 => exact .inr ⟨_, behind, read⟩
    case h_7 => exact .inr ⟨_, behind, read⟩
    case h_8 =>
      split at read
      · obtain ⟨_, -, read⟩ := exists_of_bind_eq_ok read
        cases read
        exact .inl trivial
      · cases read
    all_goals
      obtain ⟨_, -, read⟩ := exists_of_bind_eq_ok read
      cases read
      exact .inl trivial

end

/-- Reading a member keeps the members in order, each with a value that the inner reader makes. -/
theorem sorted_of_readMember {Holds : Value → Prop}
    {readInner : Text → Except Mishap (Value × Text)}
    (each : ∀ {text value rest}, readInner text = .ok (value, rest) → Holds value)
    {known next : List (Text × Value)} {name text rest : Text}
    (before : known.Pairwise (·.1 < ·.1) ∧ ∀ member ∈ known, Holds member.2)
    (read : readMember readInner known name text = .ok (next, rest)) :
    next.Pairwise (·.1 < ·.1) ∧ ∀ member ∈ next, Holds member.2 := by
  obtain ⟨start, -, read⟩ := exists_of_bind_eq_ok read
  obtain ⟨⟨value, behind⟩, value_read, read⟩ := exists_of_bind_eq_ok read
  cases read
  refine ⟨pairwise_insertMember before.1, fun member here => ?_⟩
  rcases eq_or_mem_of_mem_insertMember here with rfl | earlier
  · exact each value_read
  · exact before.2 member earlier

theorem wellFormed_of_isFlat {value : Value} (flat : value.IsFlat) (depth : Nat) :
    value.WellFormed (fun _ => True) depth := by
  cases value with
  | array items => exact flat.elim
  | object members => exact flat.elim
  | _ => cases depth <;> trivial

/-- A value that is read has its members in order and opens no more brackets than allowed. -/
theorem wellFormed_of_readValue {depth : Nat} {text rest : Text} {value : Value}
    (read : readValue depth text = .ok (value, rest)) :
    value.WellFormed (fun _ => True) depth := by
  induction depth generalizing text rest value with
  | zero =>
      rcases isFlat_or_readNested read with flat | ⟨opening, behind, nested⟩
      · exact wellFormed_of_isFlat flat 0
      · obtain ⟨readInner, missing, -⟩ := exists_of_readNested nested
        cases missing
  | succ depth ih =>
      rcases isFlat_or_readNested read with flat | ⟨opening, behind, nested⟩
      · exact wellFormed_of_isFlat flat (depth + 1)
      · obtain ⟨readInner, inner_eq, contents⟩ := exists_of_readNested nested
        cases inner_eq
        rcases contents with ⟨turns, items, items_read, rfl⟩ | ⟨turns, members, members_read, rfl⟩
        · exact forall_mem_of_readItems ih items_read
        · exact readMembers_induction (sorted_of_readMember ih)
            ⟨List.Pairwise.nil, fun _ here => absurd here List.not_mem_nil⟩ members_read

theorem wellFormed_of_ofText? {text : Text} {value : Value}
    (read : Value.ofText? text = .ok value) :
    value.WellFormed (fun _ => True) maximalDepth := by
  rw [Value.ofText?] at read
  cases document : readDocument text with
  | error mishap =>
      rw [document] at read
      cases read
  | ok written =>
      rw [document] at read
      cases read
      obtain ⟨⟨value, rest⟩, value_read, finished⟩ := exists_of_bind_eq_ok document
      obtain ⟨_, -, made⟩ := exists_of_bind_eq_ok finished
      cases made
      exact wellFormed_of_readValue value_read

end Json

end ScriptSanitizer
