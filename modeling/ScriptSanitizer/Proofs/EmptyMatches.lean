import ScriptSanitizer.Proofs.Computation
import ScriptSanitizer.Proofs.Strike

/-!
# Empty matches

A match that reads nothing is found, but strikes nothing out.  So a set of patterns may leave alone
a text in which it finds a match, and such a match is empty.  The built-in patterns have no empty
matches anywhere; a custom one has them wherever it writes something optional.
-/

namespace ScriptSanitizer

namespace Finder

/-- At some place of the text there is a match, and the preferred one is empty. -/
def OccursEmpty (finder : Finder) (text : Text) : Prop :=
  ∃ front after, text = front ++ after ∧
    finder.leadingMatch? (lastOf none front) after = some 0

variable {finder : Finder} {text : Text}

theorem OccursEmpty.occursIn (empty : finder.OccursEmpty text) : finder.occursIn text = true := by
  obtain ⟨front, after, split, found⟩ := empty
  refine occursFrom_iff.mpr ⟨front, after, split, ?_⟩
  rw [found, Option.isSome_some]

/-- Where a finder strikes nothing out, it finds only empty matches. -/
theorem occursEmpty_of_strike_eq_self (kept : finder.strike text = text)
    (occurs : finder.occursIn text = true) : finder.OccursEmpty text :=
  exists_leadingMatch?_eq_zero kept occurs

theorem NeverEmpty.not_occursEmpty (neverEmpty : finder.NeverEmpty) :
    ¬ finder.OccursEmpty text := by
  rintro ⟨front, after, _, found⟩
  exact neverEmpty _ after found

end Finder

namespace PatternSet

variable {compile : Compiler} {set : PatternSet} {sources : List Text}

/-- A set finds nothing in a text exactly if it strikes nothing out of it and none of its patterns
has an empty match there. -/
theorem firstMatch?_eq_none_iff_forall {text : Text} :
    set.firstMatch? text = none ↔
      set.strike text = text ∧ ∀ pattern ∈ set.patterns, ¬ pattern.finder.OccursEmpty text := by
  constructor
  · intro absent
    refine ⟨strike_eq_self_of_firstMatch?_eq_none absent, fun pattern member empty => ?_⟩
    exact firstMatch?_ne_none_iff.mpr ⟨pattern, member, empty.occursIn⟩ absent
  · rintro ⟨kept, none_empty⟩
    refine Classical.byContradiction fun found => ?_
    obtain ⟨pattern, member, occurs⟩ := firstMatch?_ne_none_iff.mp found
    have unstruck : pattern.finder.strike text = text :=
      strike_eq_self_iff.mp kept pattern member
    exact none_empty pattern member (Finder.occursEmpty_of_strike_eq_self unstruck occurs)

/-- The built-in patterns and the custom ones behind them find nothing in a text exactly if they
strike nothing out of it, except that they also find the empty matches of custom patterns. -/
theorem firstMatch?_eq_none_iff_strike_eq_self (read : compiled? compile sources = .ok set)
    (text : Text) :
    set.firstMatch? text = none ↔
      set.strike text = text ∧
        ∀ source ∈ sources, ∀ finder, compile source = .ok finder →
          ¬ finder.OccursEmpty text := by
  rw [firstMatch?_eq_none_iff_forall]
  refine and_congr_right fun _ => ?_
  constructor
  · intro none_empty source present finder compiled
    have written := custom?_eq_ok_iff.mpr ⟨finder, compiled, rfl⟩
    exact none_empty _ ((mem_patterns_iff read).mpr (.inr ⟨source, present, written⟩))
  · intro none_empty pattern member
    rcases (mem_patterns_iff read).mp member with built_in | ⟨source, present, written⟩
    · exact (builtin_neverEmpty pattern built_in).not_occursEmpty
    · obtain ⟨finder, compiled, rfl⟩ := custom?_eq_ok_iff.mp written
      exact none_empty source present finder compiled

/-- A pattern for frames, which reads eight characters at least, is not found where nothing is
struck out. -/
theorem firstMatch?_eq_none_iff_strike_eq_self_iframe :
    ∃ set, withCustom? ["<iframe[^>]*>".toList] = .ok set ∧
      set.strike "<b>iframe</b>".toList = "<b>iframe</b>".toList ∧
      set.firstMatch? "<b>iframe</b>".toList = none := by
  have struck : (withCustom? ["<iframe[^>]*>".toList]).toOption.map
      (fun set => set.strike "<b>iframe</b>".toList) = some "<b>iframe</b>".toList := by
    decide +kernel
  have least : (Regex.ofText? Regex.customFlags "<iframe[^>]*>".toList).toOption.map
      (·.minLength) = some 8 := by decide +kernel
  obtain ⟨set, read, kept⟩ := exists_of_map_toOption_eq_some struck
  refine ⟨set, read, kept, (firstMatch?_eq_none_iff_strike_eq_self read _).mpr ⟨kept, ?_⟩⟩
  intro source member finder compiled
  obtain rfl := List.mem_singleton.mp member
  obtain ⟨expression, written, rfl⟩ := Regex.compile?_eq_ok_iff.mp compiled
  rw [written] at least
  have long : expression.minLength = 8 := Option.some.inj least
  exact (Regex.neverEmpty_of_minLength_pos (by omega)).not_occursEmpty

/-- A pattern of optional letters is found in a text that it leaves alone. -/
theorem firstMatch?_optional_letters_ne_none :
    ∃ set, withCustom? ["x*".toList] = .ok set ∧
      set.strike "abc".toList = "abc".toList ∧ set.firstMatch? "abc".toList ≠ none := by
  have verdict : (withCustom? ["x*".toList]).toOption.map (fun set =>
      (set.strike "abc".toList, (set.firstMatch? "abc".toList).isSome)) =
        some ("abc".toList, true) := by decide +kernel
  obtain ⟨set, read, seen⟩ := exists_of_map_toOption_eq_some verdict
  obtain ⟨kept, found⟩ := Prod.mk.inj seen
  exact ⟨set, read, kept, Option.isSome_iff_ne_none.mp found⟩

end PatternSet

end ScriptSanitizer
