import ScriptSanitizer.Proofs.Base64.Blocks
import ScriptSanitizer.Proofs.Decoding
import ScriptSanitizer.Proofs.Strike

/-!
# Passes and their runs

A pass compares byte lengths, but its verdict is exact: it changes a value if and only if the
decoded value has a block that hides an attack or a pattern that strikes something out, and what it
leaves is then shorter by the least that a pattern or a block takes away.  So a run of passes cannot
be long, and it ends in the value it was given exactly if its first pass is stable.
-/

namespace ScriptSanitizer

/-! ## What a pass removes -/

namespace PatternSet

/-- A pass over the text removes something: a block whose payload the judge finds to hide an attack,
or a match of a pattern. -/
def Removes (patterns : PatternSet) (judge : Text → Prop) (text : Text) : Prop :=
  Base64.HasHidingBlock judge (decodeLayers text).value ∨
    patterns.strike (decodeLayers text).value ≠ (decodeLayers text).value

theorem Removes.mono {patterns : PatternSet} {judge wider : Text → Prop} {text : Text}
    (weaker : ∀ hidden, judge hidden → wider hidden) (removes : patterns.Removes judge text) :
    patterns.Removes wider text := by
  rcases removes with ⟨payload, member, hidden, decoded, judged⟩ | strikes
  · exact .inl ⟨payload, member, hidden, decoded, weaker hidden judged⟩
  · exact .inr strikes

/-- Whatever a pass removes has at least so many bytes. -/
structure RemovesAtLeast (patterns : PatternSet) (least : Nat) : Prop where
  /-- Something is removed. -/
  positive : 0 < least
  /-- A block has the bytes of the word and the comma. -/
  block : least ≤ 7
  /-- A match has them too. -/
  pattern : patterns.MatchesAtLeast least

theorem removesAtLeast_one (patterns : PatternSet) : patterns.RemovesAtLeast 1 :=
  ⟨by omega, by omega, patterns.matchesAtLeast_one⟩

theorem builtin_removesAtLeast : builtin.RemovesAtLeast 6 :=
  ⟨by omega, by omega, builtin_matchesAtLeast⟩

end PatternSet

/-! ## One pass -/

namespace Pass

variable {patterns : PatternSet} {judge : Text → Logged Bool} {least : Nat}

/-- Judges with the same verdicts make the same passes. -/
theorem value_run_congr {other : Text → Logged Bool}
    (same : ∀ hidden, (judge hidden).value = (other hidden).value) (text : Text) :
    (Pass.run patterns judge text).value = (Pass.run patterns other text).value := by
  have kept := Base64.strikeBlocks_congr same (decodeLayers text).value
  simp only [Pass.run, Logged.value_bind, kept]

/-- A pass sees of a text only what it decodes to. -/
theorem value_run_of_decodeLayers {text other : Text}
    (same : (decodeLayers text).value = (decodeLayers other).value) :
    (Pass.run patterns judge text).value = (Pass.run patterns judge other).value := by
  simp only [Pass.run, Logged.value_bind, same]

theorem run_eq_stable {text : Text}
    (harmless : ¬ patterns.Removes (fun hidden => (judge hidden).value = true) text) :
    (Pass.run patterns judge text).value = .stable := by
  obtain ⟨no_block, no_match⟩ := not_or.mp harmless
  have kept := Base64.strikeBlocks_eq_self no_block
  have unstruck := Classical.not_not.mp no_match
  simp only [Pass.run, Logged.value_bind, kept, unstruck, and_self, ↓reduceIte, Logged.value_pure]

/-- What the blocks and the patterns leave is shorter than the text if there is something to
remove. -/
theorem byteLength_strike_strikeBlocks_le {text : Text} (bound : patterns.RemovesAtLeast least)
    (removes : patterns.Removes (fun hidden => (judge hidden).value = true) text) :
    Utf8.byteLength
        (patterns.strike (Base64.strikeBlocks judge (decodeLayers text).value).value) + least ≤
      Utf8.byteLength (decodeLayers text).value := by
  obtain ⟨positive, block, pattern⟩ := bound
  generalize decoded_eq : (decodeLayers text).value = decoded
  generalize kept_eq : (Base64.strikeBlocks judge decoded).value = kept
  have struck_bound := Utf8.byteLength_le_of_sublist (patterns.strike_sublist kept)
  rw [PatternSet.Removes, decoded_eq] at removes
  by_cases hides : Base64.HasHidingBlock (fun hidden => (judge hidden).value = true) decoded
  · have block_struck := Base64.strikeBlocks_shorter hides
    rw [kept_eq] at block_struck
    omega
  · have strikes := removes.resolve_left hides
    rw [Base64.strikeBlocks_eq_self hides] at kept_eq
    subst kept_eq
    exact (PatternSet.strike_eq_self_or_shorter pattern decoded).resolve_left strikes

theorem run_eq_changed_strike {text : Text}
    (removes : patterns.Removes (fun hidden => (judge hidden).value = true) text) :
    (Pass.run patterns judge text).value =
      .changed (patterns.strike (Base64.strikeBlocks judge (decodeLayers text).value).value) := by
  have shorter := byteLength_strike_strikeBlocks_le patterns.removesAtLeast_one removes
  have differs : ¬ (Utf8.byteLength (decodeLayers text).value =
        Utf8.byteLength (Base64.strikeBlocks judge (decodeLayers text).value).value ∧
      Utf8.byteLength (Base64.strikeBlocks judge (decodeLayers text).value).value =
        Utf8.byteLength
          (patterns.strike (Base64.strikeBlocks judge (decodeLayers text).value).value)) := by
    omega
  simp only [Pass.run, Logged.value_bind, differs, ↓reduceIte, Logged.value_pure]

/-- A pass that removes something leaves a shorter value. -/
theorem run_eq_changed {text : Text} (bound : patterns.RemovesAtLeast least)
    (removes : patterns.Removes (fun hidden => (judge hidden).value = true) text) :
    ∃ next, (Pass.run patterns judge text).value = .changed next ∧
      Utf8.byteLength next + least ≤ Utf8.byteLength text := by
  have shorter := byteLength_strike_strikeBlocks_le bound removes
  have decoded_bound := byteLength_decodeLayers_le text
  exact ⟨_, run_eq_changed_strike removes, by omega⟩

theorem removes_of_run_eq_changed {text next : Text}
    (changed : (Pass.run patterns judge text).value = .changed next) :
    patterns.Removes (fun hidden => (judge hidden).value = true) text := by
  refine Classical.byContradiction fun harmless => ?_
  rw [run_eq_stable harmless] at changed
  exact Pass.noConfusion changed

theorem length_le_of_run_eq_changed {text next : Text}
    (changed : (Pass.run patterns judge text).value = .changed next) :
    next.length ≤ text.length := by
  have left := run_eq_changed_strike (removes_of_run_eq_changed changed)
  obtain rfl := Pass.changed.inj (changed.symm.trans left)
  calc
    (patterns.strike (Base64.strikeBlocks judge (decodeLayers text).value).value).length ≤
        (Base64.strikeBlocks judge (decodeLayers text).value).value.length :=
      (patterns.strike_sublist _).length_le
    _ ≤ (decodeLayers text).value.length := (Base64.strikeBlocks_sublist judge _).length_le
    _ ≤ text.length := length_decodeLayers_le text

theorem run_eq_stable_iff {text : Text} :
    (Pass.run patterns judge text).value = .stable ↔
      ¬ patterns.Removes (fun hidden => (judge hidden).value = true) text := by
  constructor
  · intro stable removes
    obtain ⟨next, changed, _⟩ := run_eq_changed patterns.removesAtLeast_one removes
    rw [stable] at changed
    exact Pass.noConfusion changed
  · exact run_eq_stable

end Pass

/-! ## Runs of passes -/

/-- So many passes, each of which changes the value, lead from one text to another. -/
inductive ChangesIn (pass : Text → Pass) : Nat → Text → Text → Prop where
  | none (text : Text) : ChangesIn pass 0 text text
  | cons {count : Nat} {text next last : Text} (changed : pass text = .changed next)
      (behind : ChangesIn pass count (stripNul next) last) :
      ChangesIn pass (count + 1) text last

namespace ChangesIn

variable {patterns : PatternSet} {judge : Text → Logged Bool} {least : Nat}

theorem byteLength_le {count : Nat} {text last : Text} (bound : patterns.RemovesAtLeast least)
    (changes : ChangesIn (fun text => (Pass.run patterns judge text).value) count text last) :
    Utf8.byteLength last + least * count ≤ Utf8.byteLength text := by
  induction changes with
  | none => exact Nat.le_refl _
  | @cons count text next last changed _ ih =>
      obtain ⟨_, same, shorter⟩ :=
        Pass.run_eq_changed bound (Pass.removes_of_run_eq_changed changed)
      obtain rfl := Pass.changed.inj (changed.symm.trans same)
      have stripped := byteLength_stripNul_le next
      rw [Nat.mul_succ]
      omega

theorem length_le {count : Nat} {text last : Text}
    (changes : ChangesIn (fun text => (Pass.run patterns judge text).value) count text last) :
    last.length ≤ text.length := by
  induction changes with
  | none => exact Nat.le_refl _
  | @cons count text next last changed _ ih =>
      have stripped := (stripNul_sublist next).length_le
      have passed := Pass.length_le_of_run_eq_changed changed
      omega

theorem eq_of_zero {pass : Text → Pass} {text last : Text} (changes : ChangesIn pass 0 text last) :
    last = text := by
  cases changes
  rfl

theorem nul_not_mem {pass : Text → Pass} {count : Nat} {text last : Text}
    (changes : ChangesIn pass count text last) (absent : '\x00' ∉ text) : '\x00' ∉ last := by
  induction changes with
  | none => exact absent
  | cons _ _ ih => exact ih (nul_not_mem_stripNul _)

end ChangesIn

section Runs

variable {patterns : PatternSet} {judge : Text → Logged Bool} {maxPasses depth : Nat}

theorem value_runPasses_succ (remaining : Nat) (text : Text) :
    (runPasses patterns judge maxPasses depth (remaining + 1) text).value =
      match (Pass.run patterns judge text).value with
      | .stable => text
      | .changed next =>
        (runPasses patterns judge maxPasses depth remaining (stripNul next)).value := by
  rw [runPasses, Logged.value_bind]
  cases (Pass.run patterns judge text).value with
  | stable =>
      by_cases further : remaining + 1 < maxPasses <;> simp [further]
  | changed next => rfl

/-- A run ends after changes, either because the next pass is stable or because none is left. -/
theorem exists_changesIn_runPasses (remaining : Nat) (text : Text) :
    ∃ count ≤ remaining,
      ChangesIn (fun text => (Pass.run patterns judge text).value) count text
          (runPasses patterns judge maxPasses depth remaining text).value ∧
        (count < remaining →
          (Pass.run patterns judge
            (runPasses patterns judge maxPasses depth remaining text).value).value = .stable) := by
  induction remaining generalizing text with
  | zero => exact ⟨0, Nat.le_refl _, .none text, by omega⟩
  | succ remaining ih =>
      rw [value_runPasses_succ]
      cases verdict : (Pass.run patterns judge text).value with
      | stable => exact ⟨0, Nat.zero_le _, .none text, fun _ => verdict⟩
      | changed next =>
          obtain ⟨count, limit, changes, settled⟩ := ih (stripNul next)
          exact ⟨count + 1, by omega, .cons verdict changes, fun further => settled (by omega)⟩

/-- A run whose changes end in a stable value before the passes are used up gives that value. -/
theorem value_runPasses_of_changesIn {count remaining : Nat} {text last : Text}
    (changes : ChangesIn (fun text => (Pass.run patterns judge text).value) count text last)
    (settled : (Pass.run patterns judge last).value = .stable) (enough : count < remaining) :
    (runPasses patterns judge maxPasses depth remaining text).value = last := by
  induction changes generalizing remaining with
  | none text =>
      obtain ⟨further, rfl⟩ := Nat.exists_eq_add_of_lt enough
      rw [value_runPasses_succ, settled]
  | cons changed _ ih =>
      obtain ⟨further, rfl⟩ := Nat.exists_eq_add_of_lt enough
      rw [value_runPasses_succ, changed]
      exact ih settled (by omega)

theorem value_runPasses_eq_self {remaining : Nat} {text : Text} (positive : 0 < remaining)
    (harmless : ¬ patterns.Removes (fun hidden => (judge hidden).value = true) text) :
    (runPasses patterns judge maxPasses depth remaining text).value = text :=
  value_runPasses_of_changesIn (.none text) (Pass.run_eq_stable harmless) positive

theorem byteLength_runPasses_le (remaining : Nat) (text : Text) :
    Utf8.byteLength (runPasses patterns judge maxPasses depth remaining text).value ≤
      Utf8.byteLength text := by
  obtain ⟨count, _, changes, _⟩ :=
    @exists_changesIn_runPasses patterns judge maxPasses depth remaining text
  have shorter := changes.byteLength_le patterns.removesAtLeast_one
  omega

theorem value_runPasses_nil (remaining : Nat) :
    (runPasses patterns judge maxPasses depth remaining []).value = [] := by
  have bytes := @byteLength_runPasses_le patterns judge maxPasses depth remaining []
  have length := Utf8.length_le_byteLength
    (runPasses patterns judge maxPasses depth remaining []).value
  rw [Utf8.byteLength_nil] at bytes
  exact List.eq_nil_of_length_eq_zero (by omega)

theorem byteLength_runPasses_lt {remaining : Nat} {text : Text} (positive : 0 < remaining)
    (removes : patterns.Removes (fun hidden => (judge hidden).value = true) text) :
    Utf8.byteLength (runPasses patterns judge maxPasses depth remaining text).value <
      Utf8.byteLength text := by
  obtain ⟨count, _, changes, settled⟩ :=
    @exists_changesIn_runPasses patterns judge maxPasses depth remaining text
  have shorter := changes.byteLength_le patterns.removesAtLeast_one
  cases count with
  | zero =>
      have stable := settled positive
      rw [changes.eq_of_zero] at stable
      exact absurd removes (Pass.run_eq_stable_iff.mp stable)
  | succ count => omega

end Runs

end ScriptSanitizer
