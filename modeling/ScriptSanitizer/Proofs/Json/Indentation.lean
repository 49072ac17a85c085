import ScriptSanitizer.Proofs.Json.RoundTrip

/-!
# The indented form of a value is read back

The indented form has a new line in front of every item and every member and of what closes the
brackets, and a blank behind every colon.  As all this is white space, the form is read as the same
value as the compact one.
-/

namespace ScriptSanitizer

namespace Json

theorem blank_newLine (depth : Nat) : Blank (Value.newLine depth) := by
  intro character here
  rcases List.mem_cons.mp here with rfl | here
  · rfl
  · rw [List.eq_of_mem_replicate here]
    rfl

theorem blank_space : Blank [' '] := List.forall_mem_singleton.mpr rfl

theorem prettyItems_eq_spread (depth : Nat) (items : List Value) :
    Value.prettyItems depth items = spread (Value.newLine depth) (Value.pretty depth) items := by
  induction items with
  | nil => rfl
  | cons item items ih =>
      cases items with
      | nil => simp [Value.prettyItems, spread]
      | cons next items => simp [Value.prettyItems, ih, spread]

theorem prettyMembers_eq_spread (depth : Nat) (members : List (Text × Value)) :
    Value.prettyMembers depth members =
      spread (Value.newLine depth) (memberText [' '] (Value.pretty depth)) members := by
  induction members with
  | nil => rfl
  | cons member members ih =>
      cases members with
      | nil => simp [Value.prettyMembers, spread, memberText]
      | cons next members => simp [Value.prettyMembers, ih, spread, memberText]

/-- Brackets are closed on a line of their own, unless nothing stands between them. -/
theorem pretty_array (depth : Nat) (items : List Value) :
    ∃ closing, Blank closing ∧ (Value.array items).pretty depth =
      '[' :: (spread (Value.newLine (depth + 1)) (Value.pretty (depth + 1)) items ++
        (closing ++ [']'])) := by
  cases items with
  | nil => exact ⟨[], blank_nil, by rw [Value.pretty]; rfl⟩
  | cons item items =>
      exact ⟨_, blank_newLine depth, by simp [Value.pretty, prettyItems_eq_spread]⟩

theorem pretty_object (depth : Nat) (members : List (Text × Value)) :
    ∃ closing, Blank closing ∧ (Value.object members).pretty depth =
      '\x7b' :: (spread (Value.newLine (depth + 1)) (memberText [' '] (Value.pretty (depth + 1)))
        members ++ (closing ++ ['\x7d'])) := by
  cases members with
  | nil => exact ⟨[], blank_nil, by rw [Value.pretty]; rfl⟩
  | cons member members =>
      exact ⟨_, blank_newLine depth, by simp [Value.pretty, prettyMembers_eq_spread]⟩

/-- A value without brackets has one form. -/
theorem pretty_of_isFlat {value : Value} (flat : value.IsFlat) (depth : Nat) :
    value.pretty depth = value.compact := by
  cases value with
  | bool value => cases value <;> simp only [Value.pretty, Value.compact]
  | array items => exact flat.elim
  | object members => exact flat.elim
  | _ => simp only [Value.pretty, Value.compact]

theorem readBack_pretty_of_isFlat {bound : Nat} {value : Value}
    (wellFormed : value.WellFormed Number.IsWhole bound) (flat : value.IsFlat) (depth : Nat) :
    ReadBack (readValue bound) (Value.pretty depth) value := by
  obtain ⟨starts, reads⟩ := readBack_compact wellFormed
  rw [← pretty_of_isFlat flat depth] at starts reads
  exact ⟨starts, reads⟩

/-- A value is read back from its indented form, whatever follows. -/
theorem readBack_pretty {bound : Nat} {value : Value}
    (wellFormed : value.WellFormed Number.IsWhole bound) (depth : Nat) :
    ReadBack (readValue bound) (Value.pretty depth) value := by
  induction bound generalizing value depth with
  | zero =>
      refine readBack_pretty_of_isFlat wellFormed ?_ depth
      cases value <;> trivial
  | succ bound ih =>
      cases value with
      | array items =>
          obtain ⟨closing, closing_blank, written⟩ := pretty_array depth items
          exact readBack_array (blank_newLine _) closing_blank written fun item here =>
            ih (wellFormed item here) (depth + 1)
      | object members =>
          obtain ⟨closing, closing_blank, written⟩ := pretty_object depth members
          exact readBack_object (blank_newLine _) closing_blank blank_space written
            (fun member here => ih (wellFormed.2 member here) (depth + 1)) wellFormed.1
      | _ => exact readBack_pretty_of_isFlat wellFormed trivial depth

end Json

end ScriptSanitizer
