import ScriptSanitizer.Proofs.Passes

/-!
# What a run reports

The passes over a text ask their judge about the texts that are hidden in what they decode.  Some
events they report themselves, at their own depth; all others are those that the judge reports when
it is asked.  So the runs that the verdicts on payloads conclude lie deeper, and their reports say
nothing about the value they lie in.
-/

namespace ScriptSanitizer

/-! ## What a run asks its judge -/

/-- So many passes over a text ask about another one: it is hidden in what one of them decodes. -/
def Asks (pass : Text → Pass) (passes : Nat) (text hidden : Text) : Prop :=
  ∃ count < passes, ∃ current,
    ChangesIn pass count text current ∧ Base64.Carries (decodeLayers current).value hidden

theorem asks_succ_iff {pass : Text → Pass} {passes : Nat} {text hidden : Text} :
    Asks pass (passes + 1) text hidden ↔
      Base64.Carries (decodeLayers text).value hidden ∨
        ∃ next, pass text = .changed next ∧ Asks pass passes (stripNul next) hidden := by
  constructor
  · rintro ⟨count, few, current, changes, carries⟩
    cases changes with
    | none => exact .inl carries
    | cons changed behind =>
        exact .inr ⟨_, changed, _, Nat.lt_of_succ_lt_succ few, current, behind, carries⟩
  · rintro (carries | ⟨next, changed, count, few, current, changes, carries⟩)
    · exact ⟨0, Nat.succ_pos passes, text, .none text, carries⟩
    · exact ⟨count + 1, Nat.succ_lt_succ few, current, .cons changed changes, carries⟩

/-! ## Events of a run and of its judge -/

section Runs

variable {patterns : PatternSet} {judge : Text → Logged Bool} {maxPasses depth : Nat}

/-- The passes at a given depth report the event themselves, and not because their judge does. -/
def Event.IsOwn (depth : Nat) : Event → Prop
  | leftInPlace _ => True
  | blockRemoved _ => True
  | passLimit _ reached => reached = depth
  | sanitized _ reached => reached = depth
  | _ => False

variable {event : Event}

theorem Event.ne_of_isOwn {own : Event} (foreign : ¬ event.IsOwn depth)
    (is_own : own.IsOwn depth) : event ≠ own := by
  rintro rfl
  exact foreign is_own

theorem not_mem_decodeLayers (foreign : ¬ event.IsOwn depth) (text : Text) :
    event ∉ (decodeLayers text).events := by
  intro reported
  rcases List.mem_append.mp reported with escapes | references
  · obtain ⟨escape, _, rfl⟩ := List.mem_map.mp escapes
    exact foreign trivial
  · obtain ⟨reference, _, rfl⟩ := List.mem_map.mp references
    exact foreign trivial

theorem Base64.mem_events_strikeBlock_iff (foreign : ¬ event.IsOwn depth) {block : Base64.Block} :
    event ∈ (Base64.strikeBlock judge block).events ↔
      ∃ hidden, Base64.decodePayload block.payload = .ok hidden ∧
        event ∈ (judge hidden).events := by
  unfold Base64.strikeBlock
  cases decoded : Base64.decodePayload block.payload with
  | error cause =>
      have other := @Event.ne_of_isOwn depth event (.leftInPlace (.base64 block.payload cause))
        foreign trivial
      simp [Logged.report, other]
  | ok hidden =>
      have other := @Event.ne_of_isOwn depth event (.blockRemoved (Utf8.byteLength block.text))
        foreign trivial
      cases verdict : (judge hidden).value <;> simp [verdict, Logged.report, other]

theorem Base64.mem_events_strikeBlocks_iff (foreign : ¬ event.IsOwn depth) {text : Text} :
    event ∈ (Base64.strikeBlocks judge text).events ↔
      ∃ hidden, Base64.Carries text hidden ∧ event ∈ (judge hidden).events := by
  have listed : event ∈ (Base64.strikeBlocks judge text).events ↔
      ∃ block, .block block ∈ Base64.pieces text ∧
        event ∈ (Base64.strikeBlock judge block).events := by
    unfold Base64.strikeBlocks
    induction Base64.pieces text with
    | nil => simp [Base64.strikePieces]
    | cons piece list ih =>
        cases piece with
        | plain character => simp [Base64.strikePieces, ih]
        | block block => simp [Base64.strikePieces, ih]
  rw [listed]
  constructor
  · rintro ⟨block, member, reported⟩
    obtain ⟨hidden, decoded, judged⟩ := (mem_events_strikeBlock_iff foreign).mp reported
    exact ⟨hidden, ⟨_, mem_payloads.mpr ⟨block, member, rfl⟩, decoded⟩, judged⟩
  · rintro ⟨hidden, ⟨payload, present, decoded⟩, judged⟩
    obtain ⟨block, member, rfl⟩ := mem_payloads.mp present
    exact ⟨block, member, (mem_events_strikeBlock_iff foreign).mpr ⟨hidden, decoded, judged⟩⟩

theorem Pass.mem_events_run_iff (foreign : ¬ event.IsOwn depth) {text : Text} :
    event ∈ (Pass.run patterns judge text).events ↔
      ∃ hidden, Base64.Carries (decodeLayers text).value hidden ∧
        event ∈ (judge hidden).events := by
  rw [← Base64.mem_events_strikeBlocks_iff foreign, Pass.run, Logged.events_bind, List.mem_append,
    Logged.events_bind, List.mem_append]
  have silent : ∀ (compared : Prop) [Decidable compared] (next : Text),
      (if compared then pure Pass.stable else pure (Pass.changed next) : Logged Pass).events = [] :=
    fun compared _ next => by split <;> rfl
  simp only [not_mem_decodeLayers foreign, silent, List.not_mem_nil, false_or, or_false]

/-- A run reports what it does not report itself exactly if its judge does when it is asked. -/
theorem mem_events_runPasses_iff (foreign : ¬ event.IsOwn depth) {remaining : Nat} {text : Text} :
    event ∈ (runPasses patterns judge maxPasses depth remaining text).events ↔
      ∃ hidden, Asks (fun text => (Pass.run patterns judge text).value) remaining text hidden ∧
        event ∈ (judge hidden).events := by
  induction remaining generalizing text with
  | zero =>
      have other := @Event.ne_of_isOwn depth event (.passLimit maxPasses depth) foreign rfl
      simp [runPasses, Logged.report, Asks, other]
  | succ remaining ih =>
      rw [runPasses, Logged.events_bind, List.mem_append, Pass.mem_events_run_iff foreign]
      simp only [asks_succ_iff, or_and_right, exists_or]
      refine or_congr_right ?_
      cases verdict : (Pass.run patterns judge text).value with
      | stable =>
          have other := @Event.ne_of_isOwn depth event (.sanitized (maxPasses - remaining) depth)
            foreign rfl
          by_cases further : remaining + 1 < maxPasses <;> simp [further, Logged.report, other]
      | changed next => simp [ih]

end Runs

/-! ## How runs are concluded -/

/-- The event says how the passes at a given depth over a value that they changed came to their
end. -/
def Event.Concludes (depth : Nat) (event : Event) : Prop :=
  (event.message = "Value sanitized" ∨
      event.message = "Sanitizer pass limit reached, returning partially sanitized value") ∧
    ("depth", .number depth) ∈ event.fields

instance (depth : Nat) : DecidablePred (Event.Concludes depth) :=
  fun _ => inferInstanceAs (Decidable (_ ∧ _))

theorem Event.concludes_iff {event : Event} {depth : Nat} :
    event.Concludes depth ↔
      ∃ passes, event = .sanitized passes depth ∨ event = .passLimit passes depth := by
  cases event <;> simp [Concludes, message, fields, eq_comm]

theorem Event.Concludes.isOwn_iff {event : Event} {depth reached : Nat}
    (concludes : event.Concludes reached) : event.IsOwn depth ↔ reached = depth := by
  obtain ⟨passes, rfl | rfl⟩ := concludes_iff.mp concludes <;> rfl

/-- The events conclude runs at deeper depths only. -/
def ConcludeDeeper (depth : Nat) (events : List Event) : Prop :=
  ∀ event ∈ events, ∀ reached, event.Concludes reached → depth < reached

namespace ConcludeDeeper

variable {depth : Nat} {events behind : List Event} {event : Event}

theorem append (before : ConcludeDeeper depth events) (after : ConcludeDeeper depth behind) :
    ConcludeDeeper depth (events ++ behind) :=
  List.forall_mem_append.mpr ⟨before, after⟩

theorem not_concludes (deeper : ConcludeDeeper depth events) (reported : event ∈ events) :
    ¬ event.Concludes depth :=
  fun concludes => Nat.lt_irrefl depth (deeper event reported depth concludes)

end ConcludeDeeper

section Runs

variable {patterns : PatternSet} {judge : Text → Logged Bool} {maxPasses depth : Nat}

/-- A pass concludes no run itself. -/
theorem Pass.run_concludeDeeper (judged : ∀ hidden, ConcludeDeeper depth (judge hidden).events)
    (text : Text) : ConcludeDeeper depth (Pass.run patterns judge text).events := by
  intro event reported reached concludes
  -- The event is foreign to any depth but its own, and a pass knows nothing of its depth.
  have foreign : ¬ event.IsOwn (reached + 1) := by
    rw [concludes.isOwn_iff]
    exact Nat.ne_of_lt (Nat.lt_succ_self reached)
  obtain ⟨hidden, _, asked⟩ := (mem_events_run_iff foreign).mp reported
  exact judged hidden event asked reached concludes

/-- A run at some depth concludes none that is shallower. -/
theorem runPasses_concludeDeeper {shallower remaining : Nat} (below : shallower < depth)
    (judged : ∀ hidden, ConcludeDeeper depth (judge hidden).events) (text : Text) :
    ConcludeDeeper shallower
      (runPasses patterns judge maxPasses depth remaining text).events := by
  intro event reported reached concludes
  by_cases own : event.IsOwn depth
  · rwa [concludes.isOwn_iff.mp own]
  · obtain ⟨hidden, _, asked⟩ := (mem_events_runPasses_iff own).mp reported
    exact Nat.lt_trans below (judged hidden event asked reached concludes)

end Runs

/-- The verdict on a payload concludes runs inside it only. -/
theorem Sanitizer.hidesAttack_concludeDeeper {sanitizer : Sanitizer} (levels depth : Nat)
    (text : Text) : ConcludeDeeper depth (sanitizer.hidesAttack levels depth text).events := by
  induction levels generalizing depth text with
  | zero =>
      intro event reported reached concludes
      obtain rfl := List.mem_singleton.mp reported
      obtain ⟨_, same | same⟩ := Event.concludes_iff.mp concludes
      all_goals exact Event.noConfusion same
  | succ levels ih =>
      rw [hidesAttack, Logged.events_bind, Logged.events_pure, List.append_nil]
      exact runPasses_concludeDeeper (Nat.lt_succ_self depth) (fun hidden => ih _ hidden) _

end ScriptSanitizer
