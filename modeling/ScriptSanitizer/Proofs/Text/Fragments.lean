import ScriptSanitizer.Proofs.Text.Scan

/-!
# Fragments in their places

Whether a fragment of a text is of some kind may depend on what stands in front of it and behind it,
so an occurrence has all three.  A scan reads a text in steps, and each step may report a fragment.
If a step reports the fragment that stands in its place, and nothing of the kind stands where a step
has read on, then a scan reports every occurrence once, from left to right.
-/

namespace ScriptSanitizer

/-- A fragment in its place. -/
structure Occurrence where
  /-- What stands in front of the fragment. -/
  before : Text
  /-- The fragment. -/
  fragment : Text
  /-- What stands behind the fragment. -/
  behind : Text

namespace Occurrence

/-- The text that the fragment is a part of. -/
def text (occurrence : Occurrence) : Text :=
  occurrence.before ++ occurrence.fragment ++ occurrence.behind

/-- All occurrences of a kind in a text, from left to right. -/
structure Lists (Kind : Occurrence → Prop) (text : Text) (found : List Occurrence) : Prop where
  /-- They stand in the order of their places. -/
  ordered : found.Pairwise fun earlier later => earlier.before.length < later.before.length
  /-- They are those of the kind that make up the text. -/
  mem_iff : ∀ occurrence, occurrence ∈ found ↔ occurrence.text = text ∧ Kind occurrence

/-- All occurrences of a kind in a text of which a part has been passed. -/
structure ListsFrom (Kind : Occurrence → Prop) (passed rest : Text) (found : List Occurrence) :
    Prop where
  /-- They stand in the order of their places. -/
  ordered : found.Pairwise fun earlier later => earlier.before.length < later.before.length
  /-- They are those of the kind that start in the rest of the text. -/
  mem_iff : ∀ occurrence, occurrence ∈ found ↔
    Kind occurrence ∧ ∃ skipped, occurrence.before = passed ++ skipped ∧
      skipped ++ (occurrence.fragment ++ occurrence.behind) = rest

variable {Kind : Occurrence → Prop} {passed rest : Text} {front : Char} {found : List Occurrence}

theorem ListsFrom.lists {text : Text} (listed : ListsFrom Kind [] text found) :
    Lists Kind text found where
  ordered := listed.ordered
  mem_iff occurrence := by
    rw [listed.mem_iff, and_comm]
    refine and_congr_left fun _ => ?_
    simp [Occurrence.text]

namespace ListsFrom

theorem nil (written : ∀ occurrence, Kind occurrence → occurrence.fragment ≠ []) :
    ListsFrom Kind passed [] [] where
  ordered := List.Pairwise.nil
  mem_iff occurrence := by
    simp only [List.not_mem_nil, List.append_eq_nil_iff, false_iff, not_and, not_exists]
    exact fun kind _ _ _ empty => absurd empty (written occurrence kind)

/-- Where nothing stands, the list goes on with the next place. -/
theorem pass (listed : ListsFrom Kind (passed ++ [front]) rest found)
    (nothing : ∀ fragment behind, fragment ++ behind = front :: rest →
      ¬ Kind ⟨passed, fragment, behind⟩) :
    ListsFrom Kind passed (front :: rest) found where
  ordered := listed.ordered
  mem_iff occurrence := by
    rw [listed.mem_iff]
    refine and_congr_right fun kind => ⟨?_, ?_⟩
    · rintro ⟨skipped, before, split⟩
      exact ⟨front :: skipped, by simp [before], by simp [split]⟩
    · rintro ⟨skipped, before, split⟩
      cases skipped with
      | nil =>
          rw [List.append_nil] at before
          obtain ⟨_, fragment, behind⟩ := occurrence
          subst before
          exact absurd kind (nothing fragment behind split)
      | cons first skipped =>
          obtain ⟨rfl, split_rest⟩ := List.cons.inj split
          exact ⟨skipped, by simp [before], split_rest⟩

/-- What stands in its place comes before what stands behind. -/
theorem here (fragment behind : Text)
    (listed : ListsFrom Kind (passed ++ [front]) rest found)
    (only : ∀ other more, (other ++ more = front :: rest ∧ Kind ⟨passed, other, more⟩) ↔
      other = fragment ∧ more = behind) :
    ListsFrom Kind passed (front :: rest) (⟨passed, fragment, behind⟩ :: found) where
  ordered := by
    refine List.pairwise_cons.mpr ⟨fun occurrence member => ?_, listed.ordered⟩
    obtain ⟨_, skipped, before, _⟩ := (listed.mem_iff occurrence).mp member
    simp only [before, List.length_append, List.length_singleton]
    omega
  mem_iff occurrence := by
    obtain ⟨split, kind⟩ := (only fragment behind).mpr ⟨rfl, rfl⟩
    rw [List.mem_cons, listed.mem_iff]
    constructor
    · rintro (rfl | ⟨other_kind, skipped, before, other_split⟩)
      · exact ⟨kind, [], (List.append_nil passed).symm, split⟩
      · exact ⟨other_kind, front :: skipped, by simp [before], by simp [other_split]⟩
    · rintro ⟨other_kind, skipped, before, other_split⟩
      cases skipped with
      | nil =>
          rw [List.append_nil] at before
          obtain ⟨_, other, more⟩ := occurrence
          subst before
          obtain ⟨rfl, rfl⟩ := (only other more).mp ⟨other_split, other_kind⟩
          exact .inl rfl
      | cons first skipped =>
          obtain ⟨rfl, split_rest⟩ := List.cons.inj other_split
          exact .inr ⟨other_kind, skipped, by simp [before], split_rest⟩

end ListsFrom

end Occurrence

namespace Scan

open Occurrence

variable {Piece : Type}

/-- The pieces that report a fragment report the occurrences of a kind.  What has been passed and
what is still to be read are `Settled` wherever a step is taken. -/
structure Finds (step : Char → Text → Piece × Nat) (report : Piece → Option Text)
    (Kind : Occurrence → Prop) (Settled : Text → Text → Prop) : Prop where
  /-- No fragment of the kind is empty. -/
  written : ∀ occurrence, Kind occurrence → occurrence.fragment ≠ []
  /-- A step reports what stands in its place. -/
  here : ∀ {passed front rest}, Settled passed (front :: rest) → ∀ fragment,
    report (step front rest).1 = some fragment ↔
      ∃ behind, fragment ++ behind = front :: rest ∧ Kind ⟨passed, fragment, behind⟩
  /-- Nothing stands where a step has read on. -/
  inside : ∀ {passed front rest}, Settled passed (front :: rest) →
    ∀ {skipped fragment behind}, skipped ++ (fragment ++ behind) = rest →
      skipped.length < (step front rest).2 →
        ¬ Kind ⟨passed ++ front :: skipped, fragment, behind⟩
  /-- The next step is taken where the one before it has read to. -/
  settled : ∀ {passed front rest}, Settled passed (front :: rest) →
    Settled (passed ++ front :: rest.take (step front rest).2) (rest.drop (step front rest).2)

variable {step : Char → Text → Piece × Nat} {report : Piece → Option Text}
  {Kind : Occurrence → Prop} {Settled : Text → Text → Prop}

/-- The induction is over the characters, so that those which a step has read on over are passed one
by one. -/
theorem Finds.exists_listsFrom (finds : Finds step report Kind Settled) {text passed : Text}
    {skip : Nat} (settled : Settled (passed ++ text.take skip) (text.drop skip))
    (quiet : ∀ skipped fragment behind, skipped ++ (fragment ++ behind) = text →
      skipped.length < skip → ¬ Kind ⟨passed ++ skipped, fragment, behind⟩) :
    ∃ found, ListsFrom Kind passed text found ∧
      (piecesFrom step skip text).filterMap report = found.map Occurrence.fragment := by
  induction text generalizing passed skip with
  | nil => exact ⟨[], .nil finds.written, by cases skip <;> rfl⟩
  | cons front rest ih =>
      cases skip with
      | succ skip =>
          obtain ⟨found, listed, reported⟩ := @ih (passed ++ [front]) skip (by simpa using settled)
            fun skipped fragment behind split short => by
              simpa using quiet (front :: skipped) fragment behind (by simp [split])
                (Nat.succ_lt_succ short)
          refine ⟨found, listed.pass fun fragment behind split => ?_, reported⟩
          simpa using quiet [] fragment behind split (Nat.succ_pos skip)
      | zero =>
          rw [List.take_zero, List.append_nil, List.drop_zero] at settled
          obtain ⟨found, listed, reported⟩ := @ih (passed ++ [front]) (step front rest).2
            (by simpa using finds.settled settled)
            fun skipped fragment behind split short => by
              simpa using finds.inside settled split short
          have stands := finds.here settled
          rw [piecesFrom]
          cases shown : report (step front rest).1 with
          | none =>
              simp only [shown, reduceCtorEq, false_iff, not_exists, not_and] at stands
              refine ⟨found, listed.pass stands, ?_⟩
              rw [List.filterMap_cons_none shown, reported]
          | some fragment =>
              simp only [shown, Option.some.injEq] at stands
              obtain ⟨behind, split, kind⟩ := (stands fragment).mp rfl
              refine ⟨_, .here fragment behind listed ?_, ?_⟩
              · intro other more
                constructor
                · rintro ⟨other_split, other_kind⟩
                  obtain rfl := (stands other).mpr ⟨more, other_split, other_kind⟩
                  exact ⟨rfl, List.append_cancel_left (other_split.trans split.symm)⟩
                · rintro ⟨rfl, rfl⟩
                  exact ⟨split, kind⟩
              · rw [List.filterMap_cons_some shown, reported, List.map_cons]

/-- A scan reports every occurrence in a text once, from left to right. -/
theorem Finds.exists_lists (finds : Finds step report Kind Settled) {text : Text}
    (settled : Settled [] text) :
    ∃ found, Lists Kind text found ∧
      (pieces step text).filterMap report = found.map Occurrence.fragment := by
  obtain ⟨found, listed, reported⟩ := @Finds.exists_listsFrom _ _ _ _ _ finds text [] 0 settled
    fun _ _ _ _ short => absurd short (Nat.not_lt_zero _)
  exact ⟨found, listed.lists, reported⟩

end Scan

end ScriptSanitizer
