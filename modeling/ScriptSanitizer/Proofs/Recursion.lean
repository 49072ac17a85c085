import ScriptSanitizer.Detection
import ScriptSanitizer.Proofs.Base64.Shrinkage
import ScriptSanitizer.Proofs.Reports
import ScriptSanitizer.Proofs.Verdict

/-!
# How deep payloads are judged

The passes over a text ask their judge about the texts that are hidden in what they decode, and
about no others.  Each of these is shorter than the text by seven characters at least, however its
bytes were malformed, and to judge it is to make passes over it in turn.  So the payloads that are
judged lie at most a seventh of the length of the value deep, and a bound on nesting beyond that is
never met.
-/

namespace ScriptSanitizer

/-! ## Judges that agree -/

theorem Logged.bind_congr {Value Next : Type} {logged : Logged Value}
    {first second : Value → Logged Next} (same : first logged.value = second logged.value) :
    logged >>= first = logged >>= second := by
  change Logged.mk _ _ = Logged.mk _ _
  rw [same]

namespace Base64

variable {judge other : Text → Logged Bool}

theorem strikeBlock_eq_of_agree {block : Block}
    (agree : ∀ hidden, decodePayload block.payload = .ok hidden → judge hidden = other hidden) :
    strikeBlock judge block = strikeBlock other block := by
  unfold strikeBlock
  split
  case h_1 => rfl
  case h_2 hidden decoded => rw [agree hidden decoded]

/-- What is struck depends on the judge only through the texts that are hidden in the text. -/
theorem strikeBlocks_eq_of_agree {text : Text}
    (agree : ∀ hidden, Carries text hidden → judge hidden = other hidden) :
    strikeBlocks judge text = strikeBlocks other text := by
  have each : ∀ block, .block block ∈ pieces text →
      strikeBlock judge block = strikeBlock other block := by
    intro block member
    refine strikeBlock_eq_of_agree fun hidden decoded => agree hidden ?_
    exact ⟨block.payload, mem_payloads.mpr ⟨block, member, rfl⟩, decoded⟩
  unfold strikeBlocks
  generalize pieces text = list at each
  induction list with
  | nil => rfl
  | cons piece list ih =>
      have behind := ih fun block member => each block (List.mem_cons_of_mem _ member)
      cases piece with
      | plain character => rw [strikePieces, strikePieces, behind]
      | block block =>
          rw [strikePieces, strikePieces, behind, each block List.mem_cons_self]

end Base64

section Runs

variable {patterns : PatternSet} {judge other : Text → Logged Bool} {maxPasses depth : Nat}

theorem Pass.run_eq_of_agree {text : Text}
    (agree : ∀ hidden, Base64.Carries (decodeLayers text).value hidden →
      judge hidden = other hidden) :
    Pass.run patterns judge text = Pass.run patterns other text := by
  refine Logged.bind_congr ?_
  rw [Base64.strikeBlocks_eq_of_agree agree]

/-- Judges that agree on every text they are asked about make the same run, reports included. -/
theorem runPasses_eq_of_agree {remaining : Nat} {text : Text}
    (agree : ∀ hidden, Asks (fun text => (Pass.run patterns judge text).value) remaining text
      hidden → judge hidden = other hidden) :
    runPasses patterns judge maxPasses depth remaining text =
      runPasses patterns other maxPasses depth remaining text := by
  induction remaining generalizing text with
  | zero => rfl
  | succ remaining ih =>
      have pass : Pass.run patterns judge text = Pass.run patterns other text :=
        Pass.run_eq_of_agree fun hidden carries =>
          agree hidden (asks_succ_iff.mpr (.inl carries))
      rw [runPasses, runPasses, ← pass]
      refine Logged.bind_congr ?_
      cases verdict : (Pass.run patterns judge text).value with
      | stable => rfl
      | changed next =>
          exact ih fun hidden asks =>
            agree hidden (asks_succ_iff.mpr (.inr ⟨next, verdict, asks⟩))

/-- The passes over a text ask only about texts that are shorter by the word and the comma. -/
theorem Asks.length_le {passes : Nat} {text hidden : Text}
    (asks : Asks (fun text => (Pass.run patterns judge text).value) passes text hidden) :
    hidden.length + 7 ≤ text.length := by
  obtain ⟨count, _, current, changes, carries⟩ := asks
  exact carries.length_le.trans ((length_decodeLayers_le current).trans changes.length_le)

end Runs

/-! ## Depths in events -/

/-- The depth that an event names. -/
def Event.depth? : Event → Option Nat
  | nestingLimit depth => some depth
  | passLimit _ depth => some depth
  | sanitized _ depth => some depth
  | _ => none

theorem Event.IsOwn.eq_of_depth? {event : Event} {depth reached : Nat}
    (own : event.IsOwn depth) (named : event.depth? = some reached) : reached = depth := by
  cases event with
  | passLimit => exact (Option.some.inj named).symm.trans own
  | sanitized => exact (Option.some.inj named).symm.trans own
  | nestingLimit => exact own.elim
  | _ => exact absurd named.symm (Option.some_ne_none reached)

namespace Sanitizer

variable {sanitizer other : Sanitizer} {value : Text} {event : Event} {depth reached : Nat}

/-! ## The texts that are judged -/

/-- Sanitizing a value judges a text that lies `depth` payloads deep: one that is hidden in what a
pass over the value decodes, or in what a pass over a text that is judged decodes, where the bound
on nesting lets passes look into that.  Detection judges those only that the first pass finds, and
what is hidden in them. -/
inductive Judges (sanitizer : Sanitizer) (value : Text) : Nat → Text → Prop where
  | top {hidden : Text}
      (asks : Asks (sanitizer.passAt 0) sanitizer.maxPasses (stripNul value) hidden) :
      Judges sanitizer value 0 hidden
  | deeper {depth : Nat} {outer hidden : Text} (judged : Judges sanitizer value depth outer)
      (inside : depth < sanitizer.maxNesting)
      (asks : Asks (sanitizer.passAt (depth + 1)) sanitizer.maxPasses (stripNul outer) hidden) :
      Judges sanitizer value (depth + 1) hidden

namespace Judges

theorem depth_le {hidden : Text} (judged : sanitizer.Judges value depth hidden) :
    depth ≤ sanitizer.maxNesting := by
  cases judged with
  | top => exact Nat.zero_le _
  | deeper _ inside _ => exact inside

/-- Every level costs the seven characters of the word and the comma. -/
theorem length_le {hidden : Text} (judged : sanitizer.Judges value depth hidden) :
    hidden.length + 7 * (depth + 1) ≤ value.length := by
  induction judged with
  | top asks =>
      have shorter := asks.length_le
      have stripped := (stripNul_sublist value).length_le
      omega
  | @deeper depth outer hidden _ _ asks ih =>
      have shorter := asks.length_le
      have stripped := (stripNul_sublist outer).length_le
      omega

theorem depth_lt {hidden : Text} (judged : sanitizer.Judges value depth hidden)
    (deep : value.length / 7 ≤ sanitizer.maxNesting) : depth < sanitizer.maxNesting := by
  have short := judged.length_le
  omega

end Judges

/-! ## The nesting limit -/

/-- With a level left, judging a text reports what its passes do not report themselves exactly if
they ask about a text whose judgement does. -/
theorem mem_events_hidesAttack_iff (inside : depth < sanitizer.maxNesting)
    (foreign : ¬ event.IsOwn (depth + 1)) {text : Text} :
    event ∈ (sanitizer.hidesAttack (sanitizer.maxNesting - depth) depth text).events ↔
      ∃ hidden, Asks (sanitizer.passAt (depth + 1)) sanitizer.maxPasses (stripNul text) hidden ∧
        event ∈ (sanitizer.hidesAttack (sanitizer.maxNesting - (depth + 1)) (depth + 1)
          hidden).events := by
  obtain ⟨levels, here, deeper⟩ := exists_levels inside
  have run := @mem_events_runPasses_iff sanitizer.patterns
    (sanitizer.hidesAttack levels (depth + 1)) sanitizer.maxPasses (depth + 1) event foreign
    sanitizer.maxPasses (stripNul text)
  rw [here, hidesAttack, Logged.events_bind, List.mem_append, Logged.events_pure]
  simp only [List.not_mem_nil, or_false]
  rw [run, ← deeper]
  rfl

theorem Judges.of_nestingLimit {text : Text} (judged : sanitizer.Judges value depth text)
    (reported : Event.nestingLimit reached ∈
      (sanitizer.hidesAttack (sanitizer.maxNesting - depth) depth text).events) :
    reached = sanitizer.maxNesting ∧ ∃ hidden, sanitizer.Judges value reached hidden := by
  obtain ⟨levels, levels_eq⟩ := Nat.exists_eq_add_of_le judged.depth_le
  induction levels generalizing depth text with
  | zero =>
      have none_left : sanitizer.maxNesting - depth = 0 := by omega
      rw [none_left] at reported
      obtain rfl := Event.nestingLimit.inj (List.mem_singleton.mp reported)
      exact ⟨levels_eq.symm, text, judged⟩
  | succ levels ih =>
      have inside : depth < sanitizer.maxNesting := by omega
      obtain ⟨hidden, asks, deeper⟩ := (mem_events_hidesAttack_iff inside id).mp reported
      exact ih (judged.deeper inside asks) deeper (by omega)

theorem Judges.nestingLimit_mem {text : Text} (judged : sanitizer.Judges value depth text)
    (reported : Event.nestingLimit reached ∈
      (sanitizer.hidesAttack (sanitizer.maxNesting - depth) depth text).events) :
    Event.nestingLimit reached ∈ (sanitizer.sanitize value).events := by
  induction judged with
  | top asks => exact (mem_events_runPasses_iff id).mpr ⟨_, asks, reported⟩
  | deeper _ inside asks ih =>
      exact ih ((mem_events_hidesAttack_iff inside id).mpr ⟨_, asks, reported⟩)

/-- Sanitizing reports the nesting limit exactly if it judges a text that deep. -/
theorem nestingLimit_mem_sanitize_iff :
    Event.nestingLimit reached ∈ (sanitizer.sanitize value).events ↔
      reached = sanitizer.maxNesting ∧ ∃ hidden, sanitizer.Judges value reached hidden := by
  constructor
  · intro reported
    obtain ⟨hidden, asks, judged⟩ := (mem_events_runPasses_iff id).mp reported
    exact (Judges.top asks).of_nestingLimit judged
  · rintro ⟨rfl, hidden, judged⟩
    refine judged.nestingLimit_mem ?_
    rw [Nat.sub_self]
    exact List.mem_singleton_self _

/-- What a search through payloads reports comes from judging one of them. -/
theorem exists_payload_of_mem_events {payloads : List Text}
    (reported : event ∈ (sanitizer.anyPayloadHides payloads).events) :
    ∃ payload ∈ payloads, ∃ hidden, Base64.decodePayload payload = .ok hidden ∧
      event ∈ (sanitizer.hidesAttack sanitizer.maxNesting 0 hidden).events := by
  induction payloads with
  | nil => simp [anyPayloadHides] at reported
  | cons payload payloads ih =>
      rw [anyPayloadHides] at reported
      cases decoded : Base64.decodePayload payload with
      | error cause =>
          rw [decoded] at reported
          obtain ⟨later, member, found⟩ := ih reported
          exact ⟨later, List.mem_cons_of_mem _ member, found⟩
      | ok hidden =>
          rw [decoded, Logged.events_bind, List.mem_append] at reported
          rcases reported with here | behind
          · exact ⟨payload, List.mem_cons_self, hidden, decoded, here⟩
          · cases verdict : (sanitizer.hidesAttack sanitizer.maxNesting 0 hidden).value with
            | true => simp [verdict] at behind
            | false =>
                simp only [verdict, Bool.false_eq_true, ↓reduceIte] at behind
                obtain ⟨later, member, found⟩ := ih behind
                exact ⟨later, List.mem_cons_of_mem _ member, found⟩

/-- What detection reports itself names no depth; the rest comes from judging a text that is hidden
in what it decodes. -/
theorem mem_events_detect (reported : event ∈ (sanitizer.detect value).events) :
    event ∈ (decodeLayers (stripNul value)).events ∨
      (∃ attack source, event = .attackMatched attack source) ∨
      ∃ hidden, Base64.Carries (decodeLayers (stripNul value)).value hidden ∧
        event ∈ (sanitizer.hidesAttack sanitizer.maxNesting 0 hidden).events := by
  rw [detect, Logged.events_bind, List.mem_append] at reported
  rcases reported with decoding | reported
  · exact .inl decoding
  right
  cases found : sanitizer.patterns.firstMatch? (decodeLayers (stripNul value)).value with
  | some pattern =>
      rw [found, Logged.events_bind, List.mem_append] at reported
      rcases reported with matched | answered
      · exact .inl ⟨_, _, List.mem_singleton.mp matched⟩
      · simp at answered
  | none =>
      rw [found] at reported
      rw [Logged.events_bind, List.mem_append] at reported
      rcases reported with asked | answered
      · obtain ⟨payload, member, hidden, decoded, judged⟩ := exists_payload_of_mem_events asked
        exact .inr ⟨hidden, ⟨payload, member, decoded⟩, judged⟩
      · split at answered <;> simp at answered

theorem judges_of_nestingLimit_mem_detect (positive : 0 < sanitizer.maxPasses)
    (reported : Event.nestingLimit reached ∈ (sanitizer.detect value).events) :
    reached = sanitizer.maxNesting ∧ ∃ hidden, sanitizer.Judges value reached hidden := by
  rcases mem_events_detect reported with decoding | ⟨_, _, matched⟩ | ⟨hidden, carries, judged⟩
  · exact absurd decoding (@not_mem_decodeLayers 0 _ id _)
  · exact Event.noConfusion matched
  · have asks : Asks (sanitizer.passAt 0) sanitizer.maxPasses (stripNul value) hidden :=
      ⟨0, positive, stripNul value, .none _, carries⟩
    exact (Judges.top asks).of_nestingLimit judged

/-! ## Depths that are reported -/

/-- No judgement reports a depth beyond the bound on nesting, as no passes are made there. -/
theorem depth_le_of_mem_hidesAttack {text : Text} (shallow : depth ≤ sanitizer.maxNesting)
    (reported : event ∈ (sanitizer.hidesAttack (sanitizer.maxNesting - depth) depth text).events)
    (named : event.depth? = some reached) : reached ≤ sanitizer.maxNesting := by
  obtain ⟨levels, levels_eq⟩ := Nat.exists_eq_add_of_le shallow
  induction levels generalizing depth text with
  | zero =>
      have none_left : sanitizer.maxNesting - depth = 0 := by omega
      rw [none_left] at reported
      obtain rfl := List.mem_singleton.mp reported
      obtain rfl := Option.some.inj named
      exact shallow
  | succ levels ih =>
      by_cases own : event.IsOwn (depth + 1)
      · rw [own.eq_of_depth? named]
        omega
      · obtain ⟨hidden, _, deeper⟩ := (mem_events_hidesAttack_iff (by omega) own).mp reported
        exact ih (by omega) deeper (by omega)

theorem depth_le_of_mem_sanitize (reported : event ∈ (sanitizer.sanitize value).events)
    (named : event.depth? = some reached) : reached ≤ sanitizer.maxNesting := by
  by_cases own : event.IsOwn 0
  · rw [own.eq_of_depth? named]
    exact Nat.zero_le _
  · obtain ⟨hidden, _, judged⟩ := (mem_events_runPasses_iff own).mp reported
    exact depth_le_of_mem_hidesAttack (Nat.zero_le _) judged named

theorem depth_le_of_mem_detect (reported : event ∈ (sanitizer.detect value).events)
    (named : event.depth? = some reached) : reached ≤ sanitizer.maxNesting := by
  rcases mem_events_detect reported with decoding | ⟨_, _, rfl⟩ | ⟨hidden, _, judged⟩
  · by_cases own : event.IsOwn 0
    · rw [own.eq_of_depth? named]
      exact Nat.zero_le _
    · exact absurd decoding (not_mem_decodeLayers own _)
  · simp [Event.depth?] at named
  · exact depth_le_of_mem_hidesAttack (Nat.zero_le _) judged named

/-! ## Bounds on nesting that are never met -/

/-- The verdict on a text is the same, reports included, for all budgets that its length cannot use
up. -/
theorem hidesAttack_eq_of_length_lt (patterns_eq : other.patterns = sanitizer.patterns)
    (maxPasses_eq : other.maxPasses = sanitizer.maxPasses) {levels more : Nat} {text : Text}
    (short : text.length < 7 * levels) (shorter : text.length < 7 * more) :
    other.hidesAttack levels depth text = sanitizer.hidesAttack more depth text := by
  induction levels generalizing more depth text with
  | zero => omega
  | succ levels ih =>
      obtain ⟨fewer, rfl⟩ : ∃ fewer, more = fewer + 1 := ⟨more - 1, by omega⟩
      rw [hidesAttack, hidesAttack, patterns_eq, maxPasses_eq]
      rw [runPasses_eq_of_agree fun hidden asks => ?_]
      have stripped := (stripNul_sublist text).length_le
      have inside := asks.length_le
      exact ih (by omega) (by omega)

theorem anyPayloadHides_eq_of_agree {payloads : List Text}
    (agree : ∀ payload ∈ payloads, ∀ hidden, Base64.decodePayload payload = .ok hidden →
      other.hidesAttack other.maxNesting 0 hidden =
        sanitizer.hidesAttack sanitizer.maxNesting 0 hidden) :
    other.anyPayloadHides payloads = sanitizer.anyPayloadHides payloads := by
  induction payloads with
  | nil => rfl
  | cons payload payloads ih =>
      have behind := ih fun later member => agree later (List.mem_cons_of_mem _ member)
      rw [anyPayloadHides, anyPayloadHides, behind]
      cases decoded : Base64.decodePayload payload with
      | error cause => rfl
      | ok hidden => simp only [agree payload List.mem_cons_self hidden decoded]

section Unmet

variable (patterns_eq : other.patterns = sanitizer.patterns)
  (maxPasses_eq : other.maxPasses = sanitizer.maxPasses)
  (deep : value.length / 7 ≤ sanitizer.maxNesting)
  (other_deep : value.length / 7 ≤ other.maxNesting)

include patterns_eq maxPasses_eq deep other_deep

theorem hidesAttack_eq_of_length_le {hidden : Text} (shorter : hidden.length + 7 ≤ value.length) :
    other.hidesAttack other.maxNesting 0 hidden =
      sanitizer.hidesAttack sanitizer.maxNesting 0 hidden :=
  hidesAttack_eq_of_length_lt patterns_eq maxPasses_eq (by omega) (by omega)

theorem sanitize_eq_of_length_le : other.sanitize value = sanitizer.sanitize value := by
  have stripped := (stripNul_sublist value).length_le
  rw [sanitize, sanitize, sanitizeAt, sanitizeAt, patterns_eq, maxPasses_eq]
  refine runPasses_eq_of_agree fun hidden asks => ?_
  have shorter := asks.length_le
  exact hidesAttack_eq_of_length_le patterns_eq maxPasses_eq deep other_deep (by omega)

theorem detect_eq_of_length_le : other.detect value = sanitizer.detect value := by
  have stripped := (stripNul_sublist value).length_le
  have decoded_length := length_decodeLayers_le (stripNul value)
  have payloads_agree : other.anyPayloadHides
        (Base64.payloads (decodeLayers (stripNul value)).value) =
      sanitizer.anyPayloadHides (Base64.payloads (decodeLayers (stripNul value)).value) := by
    refine anyPayloadHides_eq_of_agree fun payload member hidden decoded => ?_
    have shorter := Base64.Carries.length_le ⟨payload, member, decoded⟩
    exact hidesAttack_eq_of_length_le patterns_eq maxPasses_eq deep other_deep (by omega)
  rw [detect, detect, patterns_eq]
  refine Logged.bind_congr ?_
  rw [payloads_agree]

end Unmet

/-- No text is judged deeper than the bound on nesting, and no depth beyond it is reported; nor is
one judged deeper than a seventh of the length of the value.  The limit is reported exactly if a
text is judged at the bound.  So all bounds from that seventh on are never met, and with them values
are sanitized and inspected alike. -/
theorem nesting_bounded_by_length {settings : Settings}
    (accepted : Sanitizer.ofSettings? settings = .ok sanitizer) (value : Text) :
    (∀ depth hidden, sanitizer.Judges value depth hidden →
        depth ≤ sanitizer.maxNesting ∧ hidden.length + 7 * (depth + 1) ≤ value.length) ∧
      (∀ event depth,
        event ∈ (sanitizer.sanitize value).events ∨ event ∈ (sanitizer.detect value).events →
          event.depth? = some depth → depth ≤ sanitizer.maxNesting) ∧
      (∀ reached, Event.nestingLimit reached ∈ (sanitizer.sanitize value).events ↔
        reached = sanitizer.maxNesting ∧ ∃ hidden, sanitizer.Judges value reached hidden) ∧
      (∀ reached, Event.nestingLimit reached ∈ (sanitizer.detect value).events →
        reached = sanitizer.maxNesting ∧ ∃ hidden, sanitizer.Judges value reached hidden) ∧
      (value.length / 7 ≤ sanitizer.maxNesting →
        (∀ depth hidden, sanitizer.Judges value depth hidden → depth < sanitizer.maxNesting) ∧
          (∀ reached, Event.nestingLimit reached ∉ (sanitizer.sanitize value).events ∧
            Event.nestingLimit reached ∉ (sanitizer.detect value).events) ∧
          ∀ nesting, value.length / 7 ≤ nesting →
            ∃ other, Sanitizer.ofSettings? { settings with maxNesting := nesting } = .ok other ∧
              other.sanitize value = sanitizer.sanitize value ∧
              other.detect value = sanitizer.detect value) := by
  have passes := maxPasses_pos_of_compiled? accepted
  have detected (reached : Nat) := @judges_of_nestingLimit_mem_detect sanitizer value reached passes
  refine ⟨fun depth hidden judged => ⟨judged.depth_le, judged.length_le⟩,
    fun event depth reported named => ?_, fun reached => nestingLimit_mem_sanitize_iff, detected,
    fun deep => ?_⟩
  · rcases reported with sanitizing | detecting
    · exact depth_le_of_mem_sanitize sanitizing named
    · exact depth_le_of_mem_detect detecting named
  refine ⟨fun depth hidden judged => judged.depth_lt deep, fun reached => ?_, ?_⟩
  · have unmet : ¬ (reached = sanitizer.maxNesting ∧
        ∃ hidden, sanitizer.Judges value reached hidden) := by
      rintro ⟨rfl, hidden, judged⟩
      exact Nat.lt_irrefl _ (judged.depth_lt deep)
    exact ⟨fun reported => unmet (nestingLimit_mem_sanitize_iff.mp reported),
      fun reported => unmet (detected reached reported)⟩
  · intro nesting other_deep
    obtain ⟨positive, maxPasses_eq, _, read⟩ := compiled?_eq_ok accepted
    let other : Sanitizer := ⟨sanitizer.patterns, settings.maxPasses, nesting⟩
    refine ⟨other, @compiled?_of_patterns _ { settings with maxNesting := nesting } _ positive
      read, ?_, ?_⟩
    · exact sanitize_eq_of_length_le rfl maxPasses_eq.symm deep other_deep
    · exact detect_eq_of_length_le rfl maxPasses_eq.symm deep other_deep

/-- A block in a block, of 23 characters: three levels are as good as all that a word can count. -/
theorem nesting_bounded_by_length_block :
    ∃ first last, Sanitizer.ofSettings? { maxNesting := 3 } = .ok first ∧
      Sanitizer.ofSettings? { maxNesting := maximalWord } = .ok last ∧
      last.sanitize "base64,YmFzZTY0LGFHaz0=".toList =
        first.sanitize "base64,YmFzZTY0LGFHaz0=".toList ∧
      last.detect "base64,YmFzZTY0LGFHaz0=".toList =
        first.detect "base64,YmFzZTY0LGFHaz0=".toList := by
  let first : Sanitizer := ⟨.builtin, 10, 3⟩
  have accepted : Sanitizer.ofSettings? { maxNesting := 3 } = .ok first :=
    @compiled?_of_patterns _ { maxNesting := 3 } _ (by decide) (PatternSet.compiled?_nil _)
  have short : "base64,YmFzZTY0LGFHaz0=".toList.length / 7 = 3 := by decide +kernel
  obtain ⟨_, _, _, _, unmet⟩ := nesting_bounded_by_length accepted "base64,YmFzZTY0LGFHaz0=".toList
  obtain ⟨_, _, larger⟩ := unmet (Nat.le_of_eq short)
  obtain ⟨last, last_accepted, sanitized, detected⟩ := larger maximalWord (by rw [short]; decide)
  exact ⟨first, last, accepted, last_accepted, sanitized, detected⟩

end Sanitizer

end ScriptSanitizer
