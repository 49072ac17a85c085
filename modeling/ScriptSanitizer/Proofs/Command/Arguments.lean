import ScriptSanitizer.Command.Arguments
import ScriptSanitizer.Proofs.Computation

/-!
# Arguments without the check

The option that asks for a check stands once in arguments that ask for one, behind the name of the
command and in front of a double hyphen.  Without it the arguments ask for the same values to be
sanitized, and every other option is set as before.
-/

namespace ScriptSanitizer

namespace Command

/-- The argument that asks for a check. -/
def checkArgument : Text := "--check".toList

/-- The options without the one that asks for a check. -/
def Options.withoutCheck (options : Options) : Options :=
  { options with switches := options.switches.filter (· ≠ .check) }

namespace Side

/-- The side without the option that asks for a check. -/
def withoutCheck (side : Side) : Side := { side with options := side.options.withoutCheck }

/-- The side asks for a check. -/
def Checks (side : Side) : Prop := .check ∈ side.options.switches

theorem withoutCheck_eq_self {side : Side} (unchecked : ¬ side.Checks) :
    side.withoutCheck = side := by
  have kept : side.options.switches.filter (· ≠ .check) = side.options.switches := by
    refine List.filter_eq_self.mpr fun switch member => ?_
    have other : switch ≠ .check := by
      rintro rfl
      exact unchecked member
    simpa using other
  rw [withoutCheck, Options.withoutCheck, kept]

end Side

/-! ## Options that are set -/

section

variable {options next : Options} {setting : Setting} {value : Text} {command : Option Name}
  {switch : Switch}

theorem Options.set_withoutCheck (options : Options) (setting : Setting) (value : Text) :
    options.withoutCheck.set setting value = withoutCheck <$> options.set setting value := by
  cases setting with
  | config =>
      simp only [Options.set, withoutCheck]
      cases once options.config (path? value) <;> rfl
  | maxPasses =>
      simp only [Options.set, withoutCheck]
      cases once options.maxPasses (wordOf? value) <;> rfl
  | maxNesting =>
      simp only [Options.set, withoutCheck]
      cases once options.maxNesting (wordOf? value) <;> rfl
  | logLevel =>
      simp only [Options.set, withoutCheck]
      cases once options.logLevel (Threshold.ofName? value) <;> rfl
  | logFormat =>
      simp only [Options.set, withoutCheck]
      cases once options.logFormat (Format.ofName? value) <;> rfl

theorem Options.switches_of_set (set : options.set setting value = .ok next) :
    next.switches = options.switches := by
  cases setting <;>
    · obtain ⟨_, -, made⟩ := exists_of_bind_eq_ok set
      cases made
      rfl

theorem Options.switchOn_withoutCheck (options : Options) (command : Option Name)
    (other : switch ≠ .check) :
    options.withoutCheck.switchOn command switch =
      withoutCheck <$> options.switchOn command switch := by
  have known : switch ∈ options.withoutCheck.switches ↔ switch ∈ options.switches := by
    simp [withoutCheck, other]
  have added : options.withoutCheck.switches ++ [switch] =
      (options.switches ++ [switch]).filter (· ≠ .check) := by
    simp [withoutCheck, other]
  unfold Options.switchOn
  split
  · rfl
  · rfl
  · by_cases member : switch ∈ options.switches
    · rw [if_pos (known.mpr member), if_pos member]
      rfl
    · rw [if_neg (member ∘ known.mp), if_neg member, added]
      rfl

theorem Options.switches_of_switchOn (switched : options.switchOn command switch = .ok next) :
    switch ∉ options.switches ∧ next.switches = options.switches ++ [switch] := by
  unfold Options.switchOn at switched
  split at switched
  · cases switched
  · cases switched
  · split at switched
    · cases switched
    · cases switched
      exact ⟨by assumption, rfl⟩

end

/-! ## Sides that are read -/

namespace Side

section

variable {side next : Side} {command : Option Name} {setting : Setting} {value : Text}

theorem settle_withoutCheck (side : Side) :
    side.withoutCheck.settle = withoutCheck <$> side.settle := by
  obtain ⟨options, _ | ⟨setting, value⟩, values⟩ := side
  · rfl
  · exact bind_eq_map_bind (Options.set_withoutCheck options setting value) fun _ => rfl

theorem switches_of_settle (settled : side.settle = .ok next) :
    next.options.switches = side.options.switches := by
  obtain ⟨options, _ | ⟨setting, value⟩, values⟩ := side
  · cases settled
    rfl
  · obtain ⟨options, set, made⟩ := exists_of_bind_eq_ok settled
    cases made
    exact Options.switches_of_set set

/-- A side that has been looked at waits for nothing. -/
theorem settle_of_settle (settled : side.settle = .ok next) : next.settle = .ok next := by
  obtain ⟨options, _ | ⟨setting, value⟩, values⟩ := side
  · cases settled
    rfl
  · obtain ⟨options, set, made⟩ := exists_of_bind_eq_ok settled
    cases made
    rfl

theorem attach_withoutCheck (side : Side) (setting : Setting) (value : Text) :
    side.withoutCheck.attach setting value = withoutCheck <$> side.attach setting value :=
  bind_eq_map_bind (settle_withoutCheck side) fun settled =>
    bind_eq_map_bind (Options.set_withoutCheck settled.options setting value) fun _ => rfl

theorem switchOn_withoutCheck (side : Side) (command : Option Name) {switch : Switch}
    (other : switch ≠ .check) :
    side.withoutCheck.switchOn command switch = withoutCheck <$> side.switchOn command switch :=
  bind_eq_map_bind (settle_withoutCheck side) fun settled =>
    bind_eq_map_bind (Options.switchOn_withoutCheck settled.options command other) fun _ => rfl

theorem switches_of_attach (attached : side.attach setting value = .ok next) :
    next.options.switches = side.options.switches := by
  obtain ⟨settled, front, attached⟩ := exists_of_bind_eq_ok attached
  obtain ⟨options, set, made⟩ := exists_of_bind_eq_ok attached
  cases made
  exact (Options.switches_of_set set).trans (switches_of_settle front)

theorem switches_of_switchOn {switch : Switch}
    (switched : side.switchOn command switch = .ok next) :
    switch ∉ side.options.switches ∧
      next.options.switches = side.options.switches ++ [switch] := by
  obtain ⟨settled, front, switched⟩ := exists_of_bind_eq_ok switched
  obtain ⟨options, set, made⟩ := exists_of_bind_eq_ok switched
  cases made
  rw [← switches_of_settle front]
  exact Options.switches_of_switchOn set

/-- Asking for a check only looks at what is pending, but for the check. -/
theorem settle_of_switchOn_check (unchecked : ¬ side.Checks)
    (switched : side.switchOn command .check = .ok next) : side.settle = .ok next.withoutCheck := by
  obtain ⟨settled, front, switched⟩ := exists_of_bind_eq_ok switched
  obtain ⟨options, set, made⟩ := exists_of_bind_eq_ok switched
  have settled_unchecked : ¬ settled.Checks := by
    rwa [Checks, switches_of_settle front]
  have kept := withoutCheck_eq_self settled_unchecked
  have added : settled.options.switchOn command .check =
      .ok { settled.options with switches := settled.options.switches ++ [.check] } :=
    if_neg settled_unchecked
  cases added.symm.trans set
  cases made
  have same : withoutCheck { settled with
      options := { settled.options with switches := settled.options.switches ++ [.check] } } =
        settled.withoutCheck := by
    simp [withoutCheck, Options.withoutCheck]
  rw [same, kept, front]

/-! ## Short and long options -/

theorem shortFlag?_ne_check (name : Char) :
    shortFlag? (some .sanitize) name ≠ some (.switch .check) := by
  unfold shortFlag?
  split <;> simp

/-- What reading an option comes to without the one that asks for a check. -/
def readWithoutCheck (read : Side × Option Setting) : Side × Option Setting :=
  (read.1.withoutCheck, read.2)

theorem checks_iff_of_switches (same : next.options.switches = side.options.switches) :
    next.Checks ↔ side.Checks := by
  rw [Checks, Checks, same]

theorem checks_of_switchOn {switch : Switch} (other : switch ≠ .check)
    (switched : side.switchOn command switch = .ok next) : next.Checks ↔ side.Checks := by
  rw [Checks, Checks, (switches_of_switchOn switched).2, List.mem_append, List.mem_singleton]
  exact or_iff_left (Ne.symm other)

theorem readShort_withoutCheck (side : Side) (text : Text) :
    side.withoutCheck.readShort (some .sanitize) text =
      readWithoutCheck <$> side.readShort (some .sanitize) text := by
  induction text generalizing side with
  | nil => rfl
  | cons name rest ih =>
      rw [readShort, readShort]
      cases known : shortFlag? (some .sanitize) name with
      | none => rfl
      | some flag =>
          cases flag with
          | switch switch =>
              have other : switch ≠ .check := by
                rintro rfl
                exact shortFlag?_ne_check name known
              exact bind_eq_map_bind (switchOn_withoutCheck side _ other) ih
          | setting setting =>
              dsimp only
              split
              · exact bind_eq_map_bind (settle_withoutCheck side) fun _ => rfl
              · exact bind_eq_map_bind (attach_withoutCheck side setting _) fun _ => rfl
              · exact bind_eq_map_bind (attach_withoutCheck side setting _) fun _ => rfl

theorem checks_of_readShort {text : Text} {further : Option Setting}
    (read : side.readShort (some .sanitize) text = .ok (next, further)) :
    next.Checks ↔ side.Checks := by
  induction text generalizing side with
  | nil =>
      cases read
      exact Iff.rfl
  | cons name rest ih =>
      rw [readShort] at read
      cases known : shortFlag? (some .sanitize) name with
      | none =>
          rw [known] at read
          cases read
      | some flag =>
          rw [known] at read
          cases flag with
          | switch switch =>
              have other : switch ≠ .check := by
                rintro rfl
                exact shortFlag?_ne_check name known
              obtain ⟨middle, switched, read⟩ := exists_of_bind_eq_ok read
              exact (ih read).trans (checks_of_switchOn other switched)
          | setting setting =>
              dsimp only at read
              split at read
              · obtain ⟨settled, front, made⟩ := exists_of_bind_eq_ok read
                cases made
                exact checks_iff_of_switches (switches_of_settle front)
              · obtain ⟨attached, front, made⟩ := exists_of_bind_eq_ok read
                cases made
                exact checks_iff_of_switches (switches_of_attach front)
              · obtain ⟨attached, front, made⟩ := exists_of_bind_eq_ok read
                cases made
                exact checks_iff_of_switches (switches_of_attach front)

/-- The name of a long option. -/
def longName (text : Text) : Text := text.takeWhile (· != '=')

theorem readLong_eq (command : Option Name) (side : Side) (text : Text) :
    side.readLong command text =
      match longFlag? command (longName text), text.drop (longName text).length with
      | none, _ => .error .misuse
      | some (.switch switch), [] =>
        (side.switchOn command switch) >>= fun next => .ok (next, none)
      | some (.switch _), _ => .error .misuse
      | some (.setting setting), [] => side.settle >>= fun next => .ok (next, some setting)
      | some (.setting setting), _ :: value =>
        side.attach setting value >>= fun next => .ok (next, none) :=
  rfl

theorem readLong_withoutCheck (side : Side) {text : Text}
    (other : longFlag? (some .sanitize) (longName text) ≠ some (.switch .check)) :
    side.withoutCheck.readLong (some .sanitize) text =
      readWithoutCheck <$> side.readLong (some .sanitize) text := by
  rw [readLong_eq, readLong_eq]
  split
  · rfl
  · next switch known _ =>
      have switch_other : switch ≠ .check := by
        rintro rfl
        exact other known
      exact bind_eq_map_bind (switchOn_withoutCheck side _ switch_other) fun _ => rfl
  · rfl
  · exact bind_eq_map_bind (settle_withoutCheck side) fun _ => rfl
  · exact bind_eq_map_bind (attach_withoutCheck side _ _) fun _ => rfl

theorem checks_of_readLong {text : Text} {further : Option Setting}
    (other : longFlag? (some .sanitize) (longName text) ≠ some (.switch .check))
    (read : side.readLong (some .sanitize) text = .ok (next, further)) :
    next.Checks ↔ side.Checks := by
  rw [readLong_eq] at read
  split at read
  · cases read
  · next switch known _ =>
      have switch_other : switch ≠ .check := by
        rintro rfl
        exact other known
      obtain ⟨switched, front, made⟩ := exists_of_bind_eq_ok read
      cases made
      exact checks_of_switchOn switch_other front
  · cases read
  · obtain ⟨settled, front, made⟩ := exists_of_bind_eq_ok read
    cases made
    exact checks_iff_of_switches (switches_of_settle front)
  · obtain ⟨attached, front, made⟩ := exists_of_bind_eq_ok read
    cases made
    exact checks_iff_of_switches (switches_of_attach front)

theorem eq_check_of_longFlag? {name : Text}
    (flag : longFlag? (some .sanitize) name = some (.switch .check)) : name = "check".toList := by
  obtain ⟨before, behind, split, -⟩ := List.lookup_eq_some_iff.mp flag
  have listed : (String.ofList name, Flag.switch .check) ∈
      commonFlags ++ [("check", .switch .check)] := by
    rw [split]
    exact List.mem_append_right before List.mem_cons_self
  have same : String.ofList name = "check" := by simpa [commonFlags] using listed
  rw [← same, String.toList_ofList]

/-- The long option that asks for a check is written in one way. -/
theorem eq_check_of_readLong {text : Text} {further : Option Setting}
    (flag : longFlag? (some .sanitize) (longName text) = some (.switch .check))
    (read : side.readLong (some .sanitize) text = .ok (next, further)) :
    text = "check".toList ∧ further = none ∧ side.switchOn (some .sanitize) .check = .ok next := by
  rw [readLong_eq, flag] at read
  split at read
  · contradiction
  · next known behind =>
      cases known
      obtain ⟨switched, front, made⟩ := exists_of_bind_eq_ok read
      cases made
      have named : longName text = text :=
        (List.takeWhile_prefix _).eq_of_length_le (List.drop_eq_nil_iff.mp behind)
      rw [← named]
      exact ⟨eq_check_of_longFlag? flag, rfl, front⟩
  · cases read
  · next known _ => cases known
  · next known _ => cases known

/-! ## Sides with a value that has not been looked at -/

theorem readShort_of_settle (settled : side.settle = .ok next) {text : Text} (inhabited : text ≠ []) :
    side.readShort command text = next.readShort command text := by
  have settled_next := settle_of_settle settled
  cases text with
  | nil => contradiction
  | cons name rest => simp only [readShort, switchOn, attach, settled, settled_next]

theorem readLong_of_settle (settled : side.settle = .ok next) (text : Text) :
    side.readLong command text = next.readLong command text := by
  have settled_next := settle_of_settle settled
  simp only [readLong, switchOn, attach, settled, settled_next]

theorem readValue_of_settle {command : Name} (settled : side.settle = .ok next) (value : Text) :
    readValue command side value = readValue command next value := by
  have settled_next := settle_of_settle settled
  simp only [readValue, settled, settled_next]

theorem readValue_withoutCheck (command : Name) (side : Side) (value : Text) :
    readValue command side.withoutCheck value = withoutCheck <$> readValue command side value := by
  refine bind_eq_map_bind (settle_withoutCheck side) fun settled => ?_
  have same : settled.withoutCheck.values = settled.values := rfl
  rw [same]
  split
  · rfl
  · split <;> rfl

theorem switches_of_readValue {command : Name}
    (read : readValue command side value = .ok next) :
    next.options.switches = side.options.switches := by
  obtain ⟨settled, front, read⟩ := exists_of_bind_eq_ok read
  have same := switches_of_settle front
  split at read
  · cases read
  · split at read
    · cases read
    · cases read
      exact same

end

end Side

/-! ## Arguments behind the name of the command -/

/-- The reader of the arguments behind the name of a command succeeds. -/
inductive ReadsBehind (command : Name) : Bool → Option Setting → Side → List Text → Side → Prop where
  | done {onlyValues : Bool} {side final : Side} (settled : side.settle = .ok final) :
      ReadsBehind command onlyValues none side [] final
  | plain {awaiting : Option Setting} {side next final : Side} {argument : Text}
      {rest : List Text} (read : readValue command side argument = .ok next)
      (behind : ReadsBehind command true awaiting next rest final) :
      ReadsBehind command true awaiting side (argument :: rest) final
  | escape {side final : Side} {argument : Text} {rest : List Text}
      (shape : Shape.of argument = .escape) (behind : ReadsBehind command true none side rest final) :
      ReadsBehind command false none side (argument :: rest) final
  | long {side next final : Side} {argument text : Text} {rest : List Text}
      {awaiting : Option Setting} (shape : Shape.of argument = .long text)
      (read : side.readLong (some command) text = .ok (next, awaiting))
      (behind : ReadsBehind command false awaiting next rest final) :
      ReadsBehind command false none side (argument :: rest) final
  | short {side next final : Side} {argument text : Text} {rest : List Text}
      {awaiting : Option Setting} (shape : Shape.of argument = .short text)
      (read : side.readShort (some command) text = .ok (next, awaiting))
      (behind : ReadsBehind command false awaiting next rest final) :
      ReadsBehind command false none side (argument :: rest) final
  | awaited {side final : Side} {setting : Setting} {argument : Text} {rest : List Text}
      (shape : Shape.of argument = .value)
      (behind : ReadsBehind command false none { side with pending := some (setting, argument) }
        rest final) :
      ReadsBehind command false (some setting) side (argument :: rest) final
  | value {side next final : Side} {argument : Text} {rest : List Text}
      (shape : Shape.of argument = .value) (read : readValue command side argument = .ok next)
      (behind : ReadsBehind command false none next rest final) :
      ReadsBehind command false none side (argument :: rest) final

theorem readBehind_of_readsBehind {command : Name} {onlyValues : Bool} {awaiting : Option Setting}
    {side final : Side} {arguments : List Text}
    (reads : ReadsBehind command onlyValues awaiting side arguments final) :
    readBehind command onlyValues awaiting side arguments = .ok final := by
  induction reads with
  | done settled => simpa [readBehind] using settled
  | plain read _ ih => simp [readBehind, read, ih, bind, Except.bind]
  | escape shape _ ih => simp [readBehind, shape, ih]
  | long shape read _ ih => simp [readBehind, shape, read, ih, bind, Except.bind]
  | short shape read _ ih => simp [readBehind, shape, read, ih, bind, Except.bind]
  | awaited shape _ ih => simp [readBehind, shape, ih]
  | value shape read _ ih => simp [readBehind, shape, read, ih, bind, Except.bind]

theorem readsBehind_of_readBehind {command : Name} {onlyValues : Bool} {awaiting : Option Setting}
    {side final : Side} {arguments : List Text}
    (read : readBehind command onlyValues awaiting side arguments = .ok final) :
    ReadsBehind command onlyValues awaiting side arguments final := by
  induction arguments generalizing onlyValues awaiting side with
  | nil =>
      cases awaiting with
      | none => exact .done (by simpa [readBehind] using read)
      | some setting => cases onlyValues <;> cases read
  | cons argument rest ih =>
      cases onlyValues with
      | true =>
          rw [readBehind] at read
          obtain ⟨next, front, read⟩ := exists_of_bind_eq_ok read
          exact .plain front (ih read)
      | false =>
          cases awaiting with
          | none =>
              cases shape : Shape.of argument with
              | escape =>
                  rw [readBehind, shape] at read
                  exact .escape shape (ih read)
              | long text =>
                  rw [readBehind, shape] at read
                  obtain ⟨⟨next, further⟩, front, read⟩ := exists_of_bind_eq_ok read
                  exact .long shape front (ih read)
              | short text =>
                  rw [readBehind, shape] at read
                  obtain ⟨⟨next, further⟩, front, read⟩ := exists_of_bind_eq_ok read
                  exact .short shape front (ih read)
              | value =>
                  rw [readBehind, shape] at read
                  obtain ⟨next, front, read⟩ := exists_of_bind_eq_ok read
                  exact .value shape front (ih read)
          | some setting =>
              cases shape : Shape.of argument with
              | value =>
                  rw [readBehind, shape] at read
                  exact .awaited shape (ih read)
              | _ =>
                  rw [readBehind, shape] at read
                  cases read

theorem Shape.eq_of_long {argument text : Text} (shape : Shape.of argument = .long text) :
    argument = '-' :: '-' :: text := by
  unfold Shape.of at shape
  split at shape <;> cases shape
  rfl

theorem Shape.ne_nil_of_short {argument text : Text} (shape : Shape.of argument = .short text) :
    text ≠ [] := by
  unfold Shape.of at shape
  split at shape <;> cases shape
  exact List.cons_ne_nil _ _

theorem Shape.of_checkArgument : Shape.of checkArgument = .long "check".toList := rfl

namespace ReadsBehind

theorem checks_of_onlyValues {command : Name} {awaiting : Option Setting} {side final : Side}
    {arguments : List Text} (reads : ReadsBehind command true awaiting side arguments final) :
    final.Checks ↔ side.Checks := by
  induction arguments generalizing awaiting side with
  | nil =>
      cases reads with
      | done settled => exact Side.checks_iff_of_switches (Side.switches_of_settle settled)
  | cons argument rest ih =>
      cases reads with
      | plain read behind =>
          exact (ih behind).trans (Side.checks_iff_of_switches (Side.switches_of_readValue read))

/-- Looking at a pending value early does not change what is read. -/
theorem of_settle {command : Name} {onlyValues : Bool} {side settled final : Side}
    {arguments : List Text} (front : side.settle = .ok settled)
    (reads : ReadsBehind command onlyValues none settled arguments final) :
    ReadsBehind command onlyValues none side arguments final := by
  induction arguments generalizing onlyValues with
  | nil =>
      cases reads with
      | done behind =>
          cases (Side.settle_of_settle front).symm.trans behind
          exact .done front
  | cons argument rest ih =>
      cases reads with
      | plain read behind => exact .plain ((Side.readValue_of_settle front _).trans read) behind
      | escape shape behind => exact .escape shape (ih behind)
      | long shape read behind =>
          exact .long shape ((Side.readLong_of_settle front _).trans read) behind
      | short shape read behind =>
          have inhabited := Shape.ne_nil_of_short shape
          exact .short shape ((Side.readShort_of_settle front inhabited).trans read) behind
      | value shape read behind =>
          exact .value shape ((Side.readValue_of_settle front _).trans read) behind

/-- A side that asks for a check already is read as one that does not. -/
theorem withoutCheck {onlyValues : Bool} {awaiting : Option Setting} {side final : Side}
    {arguments : List Text} (reads : ReadsBehind .sanitize onlyValues awaiting side arguments final)
    (checked : side.Checks) :
    ReadsBehind .sanitize onlyValues awaiting side.withoutCheck arguments final.withoutCheck := by
  induction reads with
  | @done _ side final settled =>
      refine .done ?_
      rw [Side.settle_withoutCheck, settled]
      rfl
  | @plain awaiting side next final argument rest read _ ih =>
      have next_checked := (Side.checks_iff_of_switches (Side.switches_of_readValue read)).mpr checked
      refine .plain ?_ (ih next_checked)
      rw [Side.readValue_withoutCheck, read]
      rfl
  | escape shape _ ih => exact .escape shape (ih checked)
  | @long side next final argument text rest awaiting shape read _ ih =>
      have other : longFlag? (some .sanitize) (Side.longName text) ≠ some (.switch .check) := by
        intro flag
        obtain ⟨-, -, switched⟩ := Side.eq_check_of_readLong flag read
        exact (Side.switches_of_switchOn switched).1 checked
      refine .long shape ?_ (ih ((Side.checks_of_readLong other read).mpr checked))
      rw [Side.readLong_withoutCheck side other, read]
      rfl
  | @short side next final argument text rest awaiting shape read _ ih =>
      refine .short shape ?_ (ih ((Side.checks_of_readShort read).mpr checked))
      rw [Side.readShort_withoutCheck, read]
      rfl
  | awaited shape _ ih => exact .awaited shape (ih checked)
  | @value side next final argument rest shape read _ ih =>
      have next_checked := (Side.checks_iff_of_switches (Side.switches_of_readValue read)).mpr checked
      refine .value shape ?_ (ih next_checked)
      rw [Side.readValue_withoutCheck, read]
      rfl

theorem erase_cons_of_shape {argument : Text} {shape : Shape} (shaped : Shape.of argument = shape)
    (other : shape ≠ .long "check".toList) (rest : List Text) :
    (argument :: rest).erase checkArgument = argument :: rest.erase checkArgument := by
  have different : argument ≠ checkArgument := by
    rintro rfl
    exact other (shaped.symm.trans Shape.of_checkArgument)
  exact List.erase_cons_tail (by simpa using different)

/-- Without the argument that asks for a check the others are read as before. -/
theorem erase_check {onlyValues : Bool} {awaiting : Option Setting} {side final : Side}
    {arguments : List Text} (reads : ReadsBehind .sanitize onlyValues awaiting side arguments final)
    (open_end : onlyValues = false) (unchecked : ¬ side.Checks) (checked : final.Checks) :
    ReadsBehind .sanitize onlyValues awaiting side (arguments.erase checkArgument)
      final.withoutCheck := by
  induction reads with
  | done settled =>
      have same := Side.checks_iff_of_switches (Side.switches_of_settle settled)
      exact absurd (same.mp checked) unchecked
  | plain => contradiction
  | escape _ behind => exact absurd ((checks_of_onlyValues behind).mp checked) unchecked
  | @long side next final argument text rest awaiting shape read behind ih =>
      by_cases flag : longFlag? (some .sanitize) (Side.longName text) = some (.switch .check)
      · obtain ⟨rfl, rfl, switched⟩ := Side.eq_check_of_readLong flag read
        obtain rfl := Shape.eq_of_long shape
        have next_checked : next.Checks := by
          rw [Side.Checks, (Side.switches_of_switchOn switched).2]
          exact List.mem_append_right _ List.mem_cons_self
        have front := Side.settle_of_switchOn_check unchecked switched
        exact (behind.withoutCheck next_checked).of_settle front
      · have other : text ≠ "check".toList := by
          rintro rfl
          exact flag rfl
        rw [erase_cons_of_shape shape (by simpa using other)]
        have next_unchecked := mt (Side.checks_of_readLong flag read).mp unchecked
        exact .long shape read (ih open_end next_unchecked checked)
  | @short side next final argument text rest awaiting shape read behind ih =>
      rw [erase_cons_of_shape shape (by simp)]
      have next_unchecked := mt (Side.checks_of_readShort read).mp unchecked
      exact .short shape read (ih open_end next_unchecked checked)
  | awaited shape _ ih =>
      rw [erase_cons_of_shape shape (by simp)]
      exact .awaited shape (ih open_end unchecked checked)
  | @value side next final argument rest shape read behind ih =>
      rw [erase_cons_of_shape shape (by simp)]
      have same := Side.checks_iff_of_switches (Side.switches_of_readValue read)
      exact .value shape read (ih open_end (mt same.mp unchecked) checked)

end ReadsBehind

/-! ## All arguments -/

/-- In front of the name of the command no argument asks for a check. -/
theorem readFront_erase_check {awaiting : Option Setting} {side front : Side} {command : Name}
    {arguments rest : List Text}
    (read : readFront awaiting side arguments = .ok (front, command, rest)) :
    readFront awaiting side (arguments.erase checkArgument) =
      .ok (front, command, rest.erase checkArgument) := by
  induction arguments generalizing awaiting side with
  | nil => cases read
  | cons argument others ih =>
      by_cases same : argument = checkArgument
      · subst same
        cases awaiting with
        | none =>
            rw [readFront, Shape.of_checkArgument] at read
            cases read
        | some setting =>
            rw [readFront, Shape.of_checkArgument] at read
            cases read
      · rw [List.erase_cons_tail (by simpa using same)]
        cases awaiting with
        | none =>
            rw [readFront] at read ⊢
            cases shape : Shape.of argument with
            | escape =>
                rw [shape] at read
                cases read
            | long text =>
                rw [shape] at read
                obtain ⟨⟨next, further⟩, option_read, read⟩ := exists_of_bind_eq_ok read
                change (side.readLong none text >>= _) = _
                rw [option_read]
                exact ih read
            | short text =>
                rw [shape] at read
                obtain ⟨⟨next, further⟩, option_read, read⟩ := exists_of_bind_eq_ok read
                change (side.readShort none text >>= _) = _
                rw [option_read]
                exact ih read
            | value =>
                rw [shape] at read
                dsimp only at read ⊢
                split at read
                · cases read
                · split at read
                  · cases read
                    next no_help _ _ => rw [if_neg no_help]
                  · cases read
        | some setting =>
            rw [readFront] at read ⊢
            cases shape : Shape.of argument with
            | value =>
                rw [shape] at read
                exact ih read
            | _ =>
                rw [shape] at read
                cases read

theorem Task.of_eq_sanitize {side : Side} {given : List Text} {check : Bool} {command : Name}
    (task : Task.of command side.options side.values = .ok (.sanitize given check)) :
    command = .sanitize ∧ side.values = given ∧ (check = true ↔ side.Checks) := by
  unfold Task.of at task
  split at task <;> cases task
  exact ⟨rfl, rfl, decide_eq_true_iff⟩

/-- The configuration file does not depend on the options without a value. -/
theorem Options.withDefaultConfig_switches {options next : Options} {config : Option Text}
    (made : options.withDefaultConfig config = .ok next) (switches : List Switch) :
    ({ options with switches } : Options).withDefaultConfig config =
      .ok { next with switches } := by
  obtain ⟨_ | path, maxPasses, maxNesting, logLevel, logFormat, _⟩ := options
  · cases config with
    | none =>
        cases made
        rfl
    | some path =>
        obtain ⟨known, once_read, made⟩ := exists_of_bind_eq_ok made
        cases made
        simp only [Options.withDefaultConfig, Options.set, once_read]
        rfl
  · cases made
    rfl

/-- Arguments that ask for a check ask for the same without it once it is erased. -/
theorem ofArguments?_erase_check {config : Option Text} {arguments : List Text} {request : Request}
    (accepted : Request.ofArguments? config arguments = .ok request) {given : List Text}
    (task : request.task = .sanitize given true) :
    ∃ switches, Request.ofArguments? config (arguments.erase checkArgument) =
      .ok { options := { request.options with switches }, task := .sanitize given false } := by
  obtain ⟨⟨front, command, rest⟩, front_read, accepted⟩ := exists_of_bind_eq_ok accepted
  obtain ⟨behind, behind_read, accepted⟩ := exists_of_bind_eq_ok accepted
  obtain ⟨made_task, task_made, accepted⟩ := exists_of_bind_eq_ok accepted
  obtain ⟨behind_options, behind_config, accepted⟩ := exists_of_bind_eq_ok accepted
  obtain ⟨settled, front_settled, accepted⟩ := exists_of_bind_eq_ok accepted
  obtain ⟨options, merged, accepted⟩ := exists_of_bind_eq_ok accepted
  obtain ⟨front_options, front_config, accepted⟩ := exists_of_bind_eq_ok accepted
  cases accepted
  obtain rfl : made_task = .sanitize given true := task
  obtain ⟨rfl, rfl, checked⟩ := Task.of_eq_sanitize task_made
  have reads := readsBehind_of_readBehind behind_read
  have erased := readBehind_of_readsBehind
    (reads.erase_check rfl List.not_mem_nil (checked.mp rfl))
  have front_erased := readFront_erase_check front_read
  have unchecked : .check ∉ behind.withoutCheck.options.switches := by
    simp [Side.withoutCheck, Options.withoutCheck]
  have task_erased : Task.of .sanitize behind.withoutCheck.options behind.withoutCheck.values =
      .ok (.sanitize behind.values false) := by
    rw [Task.of, decide_eq_false unchecked]
    rfl
  have behind_erased : behind.withoutCheck.options.withDefaultConfig config = .ok _ :=
    Options.withDefaultConfig_switches behind_config _
  let switches := settled.options.switches ++ behind.withoutCheck.options.switches
  have merged_erased :
      (settled.options.merge behind.withoutCheck.options).withDefaultConfig config =
        .ok { options with switches } :=
    Options.withDefaultConfig_switches merged switches
  refine ⟨switches, ?_⟩
  simp only [Request.ofArguments?, front_erased, erased, task_erased, behind_erased,
    front_settled, merged_erased, front_config, bind, Except.bind]

end Command

end ScriptSanitizer
