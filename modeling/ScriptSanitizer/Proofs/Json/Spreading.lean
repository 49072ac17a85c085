import ScriptSanitizer.Proofs.Json.Lexemes

/-!
# Items and members between commas are read back

An array and an object write their contents with commas between them, and maybe with white space
around them.  If each of the contents is read back from its own text, all of them are read back
from the text of all: items in their order, and members in the order of their names, whatever the
order in which they are written.
-/

namespace ScriptSanitizer

namespace Json

/-! ## White space -/

/-- The text is white space. -/
def Blank (gap : Text) : Prop := ∀ character ∈ gap, isSpace character = true

theorem blank_nil : Blank [] := fun _ member => absurd member List.not_mem_nil

theorem skipSpace_cons_of_not_isSpace {front : Char} (solid : isSpace front = false)
    (rest : Text) : skipSpace (front :: rest) = front :: rest :=
  List.dropWhile_cons_of_neg (by simp [solid])

theorem skipSpace_append {gap : Text} (blank : Blank gap) (rest : Text) :
    skipSpace (gap ++ rest) = skipSpace rest :=
  List.dropWhile_append_of_pos blank

theorem not_isDecimalDigit_of_isSpace {character : Char} (space : isSpace character = true) :
    isDecimalDigit character = false ∧ character ≠ '.' ∧ character ≠ 'e' ∧ character ≠ 'E' := by
  simp only [isSpace, List.mem_cons, List.not_mem_nil, or_false, decide_eq_true_eq] at space
  rcases space with rfl | rfl | rfl | rfl <;> decide

theorem Delimited.append {gap rest : Text} (blank : Blank gap) (delimited : Delimited rest) :
    Delimited (gap ++ rest) := by
  cases gap with
  | nil => exact delimited
  | cons space gap =>
      exact .cons (not_isDecimalDigit_of_isSpace (blank space List.mem_cons_self)) _

/-! ## Contents in a row -/

section

variable {Item : Type}

/-- The texts of items, each behind a gap, with commas between them. -/
def spread (gap : Text) (write : Item → Text) : List Item → Text
  | [] => []
  | item :: items =>
    gap ++ write item ++ items.flatMap fun item => ',' :: gap ++ write item

/-- The text starts with a character that neither is white space nor closes an array. -/
def StartsItem (text : Text) : Prop :=
  ∃ front rest, text = front :: rest ∧ isSpace front = false ∧ front ≠ ']'

/-- A reader reads an item from its text. -/
structure ReadBack (readItem : Text → Except Mishap (Item × Text)) (write : Item → Text)
    (item : Item) : Prop where
  /-- The text is taken for the one of an item. -/
  starts : StartsItem (write item)
  /-- The reader stops behind the text. -/
  reads : ∀ rest, Delimited rest → readItem (write item ++ rest) = .ok (item, rest)

variable {gap closing : Text} {write : Item → Text}

theorem length_le_length_flatMap {items : List Item} :
    items.length ≤ (items.flatMap fun item => ',' :: gap ++ write item).length := by
  induction items with
  | nil => exact Nat.le_refl 0
  | cons item items ih =>
      simp only [List.flatMap_cons, List.length_append, List.length_cons]
      omega

theorem length_le_length_spread (gap : Text) {items : List Item}
    (present : ∀ item ∈ items, write item ≠ []) :
    items.length ≤ (spread gap write items).length := by
  cases items with
  | nil => exact Nat.le_refl 0
  | cons item items =>
      have others := @length_le_length_flatMap _ gap write items
      have first := List.length_pos_iff.mpr (present item List.mem_cons_self)
      simp only [spread, List.length_append, List.length_cons]
      omega

theorem StartsItem.ne_nil {text : Text} (starts : StartsItem text) : text ≠ [] := by
  obtain ⟨front, rest, rfl, -, -⟩ := starts
  exact List.cons_ne_nil front rest

theorem delimited_flatMap_append {items : List Item} {rest : Text} (delimited : Delimited rest) :
    Delimited ((items.flatMap fun item => ',' :: gap ++ write item) ++ rest) := by
  cases items with
  | nil => exact delimited
  | cons item items => exact .cons (by decide) _

end

/-! ## Arrays -/

section

variable {Item : Type} {readItem : Text → Except Mishap (Item × Text)} {write : Item → Text}
  {gap closing : Text} {items : List Item}

theorem readItems_closing (blank : Blank closing) (turns : Nat) (first : Bool) (rest : Text) :
    readItems readItem (turns + 1) first (closing ++ ']' :: rest) = .ok ([], rest) := by
  rw [readItems, skipSpace_append blank, skipSpace_cons_of_not_isSpace (by decide)]
  rfl

theorem nextItem_comma {text : Text} (blank : Blank gap) (starts : StartsItem text)
    (rest : Text) : nextItem false (',' :: (gap ++ (text ++ rest))) = .ok (text ++ rest) := by
  obtain ⟨front, text, rfl, solid, no_bracket⟩ := starts
  rw [nextItem, List.cons_append]
  simp only [Bool.false_eq_true, ↓reduceIte, skipSpace_append blank,
    skipSpace_cons_of_not_isSpace solid]
  split
  · contradiction
  · cases ‹_›
    contradiction
  · rfl

/-- One turn of the loop reads one item. -/
theorem readItems_turn {first : Bool} {text front_rest start rest : Text} {front : Char}
    {item : Item} (shown : skipSpace text = front :: front_rest) (no_bracket : front ≠ ']')
    (next : nextItem first (front :: front_rest) = .ok start)
    (read : readItem start = .ok (item, rest)) {turns : Nat} {others : List Item}
    {behind : Text} (following : readItems readItem turns false rest = .ok (others, behind)) :
    readItems readItem (turns + 1) first text = .ok (item :: others, behind) := by
  rw [readItems, shown]
  split
  · contradiction
  · cases ‹_›
    contradiction
  · simp only [next, read, following, bind, Except.bind]

theorem readItems_followers (blank : Blank gap) (closing_blank : Blank closing)
    (back : ∀ item ∈ items, ReadBack readItem write item) {turns : Nat}
    (enough : items.length < turns) (rest : Text) :
    readItems readItem turns false
        ((items.flatMap fun item => ',' :: gap ++ write item) ++ (closing ++ ']' :: rest)) =
      .ok (items, rest) := by
  obtain ⟨turns, rfl⟩ := Nat.exists_eq_add_one_of_ne_zero (Nat.ne_zero_of_lt enough)
  induction items generalizing turns with
  | nil => exact readItems_closing closing_blank turns false rest
  | cons item items ih =>
      obtain ⟨first, others⟩ := List.forall_mem_cons.mp back
      obtain ⟨turns, rfl⟩ := Nat.exists_eq_add_one_of_ne_zero (n := turns) (by
        rw [List.length_cons] at enough
        omega)
      have following := ih others turns (Nat.lt_of_succ_lt_succ enough)
      have delimited : Delimited (closing ++ ']' :: rest) :=
        .append closing_blank (.cons (by decide) rest)
      have read := first.reads _ (@delimited_flatMap_append _ gap write items _ delimited)
      simp only [List.flatMap_cons, List.cons_append, List.append_assoc] at following read ⊢
      exact readItems_turn (skipSpace_cons_of_not_isSpace (by decide) _) (by decide)
        (nextItem_comma blank first.starts _) read following

/-- Items that are read back one by one are read back together. -/
theorem readItems_spread (blank : Blank gap) (closing_blank : Blank closing)
    (back : ∀ item ∈ items, ReadBack readItem write item) {turns : Nat}
    (enough : items.length < turns) (rest : Text) :
    readItems readItem turns true (spread gap write items ++ (closing ++ ']' :: rest)) =
      .ok (items, rest) := by
  obtain ⟨turns, rfl⟩ := Nat.exists_eq_add_one_of_ne_zero (Nat.ne_zero_of_lt enough)
  cases items with
  | nil => exact readItems_closing closing_blank turns true rest
  | cons item items =>
      obtain ⟨first, others⟩ := List.forall_mem_cons.mp back
      have following := readItems_followers blank closing_blank others
        (Nat.lt_of_succ_lt_succ enough) rest
      have delimited : Delimited (closing ++ ']' :: rest) :=
        .append closing_blank (.cons (by decide) rest)
      have read := first.reads _ (@delimited_flatMap_append _ gap write items _ delimited)
      obtain ⟨front, text, written, solid, no_bracket⟩ := first.starts
      simp only [spread, List.cons_append, List.append_assoc, written] at following read ⊢
      have shown (rest : Text) : skipSpace (gap ++ front :: rest) = front :: rest :=
        (skipSpace_append blank _).trans (skipSpace_cons_of_not_isSpace solid rest)
      exact readItems_turn (shown _) no_bracket rfl read following

end

/-! ## Objects -/

theorem insertMember_of_lt {Content : Type} {name : Text} {known : List (Text × Content)}
    (last : ∀ member ∈ known, member.1 < name) (value : Content) :
    insertMember name value known = known ++ [(name, value)] := by
  induction known with
  | nil => rfl
  | cons member known ih =>
      obtain ⟨before, others⟩ := List.forall_mem_cons.mp last
      have other : name ≠ member.1 := by
        rintro rfl
        exact List.lt_irrefl _ before
      rw [insertMember, if_neg other, if_neg (List.lt_asymm before), ih others, List.cons_append]

/-- Put members under their names, one after another. -/
def insertMembers {Content : Type} (known members : List (Text × Content)) :
    List (Text × Content) :=
  members.foldl (fun known member => insertMember member.1 member.2 known) known

/-- Members in the order of their names are put behind one another. -/
theorem insertMembers_of_pairwise {Content : Type} {known members : List (Text × Content)}
    (sorted : (known ++ members).Pairwise (·.1 < ·.1)) :
    insertMembers known members = known ++ members := by
  induction members generalizing known with
  | nil => rw [insertMembers, List.foldl_nil, List.append_nil]
  | cons member members ih =>
      have last : ∀ earlier ∈ known, earlier.1 < member.1 := fun earlier here =>
        (List.pairwise_append.mp sorted).2.2 earlier here member List.mem_cons_self
      rw [List.append_cons] at sorted ⊢
      rw [insertMembers, List.foldl_cons, insertMember_of_lt last, ← insertMembers, ih sorted]

section

/-- The text of a member, with a gap behind the colon. -/
def memberText (gap : Text) (write : Value → Text) (member : Text × Value) : Text :=
  quote member.1 ++ ':' :: gap ++ write member.2

variable {State : Type} {readOne : State → Text → Text → Except Mishap (State × Text)}
  {readInner : Text → Except Mishap (Value × Text)} {write : Value → Text}
  {gap inner closing : Text} {members : List (Text × Value)}

theorem readMembers_closing (blank : Blank closing) (turns : Nat) (first : Bool) (state : State)
    (rest : Text) :
    readMembers readOne (turns + 1) first state (closing ++ '\x7d' :: rest) =
      .ok (state, rest) := by
  rw [readMembers, skipSpace_append blank, skipSpace_cons_of_not_isSpace (by decide)]
  rfl

/-- One turn of the loop reads one member. -/
theorem readMembers_turn {first : Bool} {text front_rest start behind_name rest : Text}
    {front : Char} {name : Text} {state next : State}
    (shown : skipSpace text = front :: front_rest) (no_brace : front ≠ '\x7d')
    (begun : nextMember first (front :: front_rest) = .ok start)
    (named : readString start = .ok (name, behind_name))
    (read : readOne state name behind_name = .ok (next, rest)) (turns : Nat) :
    readMembers readOne (turns + 1) first state text =
      readMembers readOne turns false next rest := by
  rw [readMembers, shown]
  split
  · contradiction
  · cases ‹_›
    contradiction
  · simp only [begun, named, read, bind, Except.bind]

theorem nextMember_comma (blank : Blank gap) (rest : Text) :
    nextMember false (',' :: (gap ++ '"' :: rest)) = .ok rest := by
  simp only [nextMember, Bool.false_eq_true, ↓reduceIte, skipSpace_append blank]
  rw [skipSpace_cons_of_not_isSpace (by decide)]
  rfl

/-- A reader of members takes what they have come to one step further with each of them. -/
def StepsBy (readOne : State → Text → Text → Except Mishap (State × Text))
    (step : State → Text × Value → State) (inner : Text) (write : Value → Text)
    (member : Text × Value) : Prop :=
  ∀ state rest, Delimited rest →
    readOne state member.1 (':' :: (inner ++ (write member.2 ++ rest))) =
      .ok (step state member, rest)

section

variable {step : State → Text × Value → State} (blank : Blank gap) (closing_blank : Blank closing)
  (steps : ∀ member ∈ members, StepsBy readOne step inner write member)
include blank closing_blank steps

theorem readMembers_followers {turns : Nat} (enough : members.length < turns) (state : State)
    (rest : Text) :
    readMembers readOne turns false state
        ((members.flatMap fun member => ',' :: gap ++ memberText inner write member) ++
          (closing ++ '\x7d' :: rest)) =
      .ok (members.foldl step state, rest) := by
  obtain ⟨turns, rfl⟩ := Nat.exists_eq_add_one_of_ne_zero (Nat.ne_zero_of_lt enough)
  induction members generalizing turns state with
  | nil => exact readMembers_closing closing_blank turns false state rest
  | cons member members ih =>
      obtain ⟨first, others⟩ := List.forall_mem_cons.mp steps
      obtain ⟨turns, rfl⟩ := Nat.exists_eq_add_one_of_ne_zero (n := turns) (by
        rw [List.length_cons] at enough
        omega)
      have delimited : Delimited (closing ++ '\x7d' :: rest) :=
        .append closing_blank (.cons (by decide) rest)
      have read := first state _
        (@delimited_flatMap_append _ gap (memberText inner write) members _ delimited)
      have following := ih others (step state member) turns (Nat.lt_of_succ_lt_succ enough)
      simp only [List.flatMap_cons, memberText, quote, List.cons_append, List.append_assoc,
        List.nil_append] at following read ⊢
      rw [readMembers_turn (skipSpace_cons_of_not_isSpace (by decide) _) (by decide)
        (nextMember_comma blank _) (readString_quote member.1 _) read, following, List.foldl_cons]

/-- Members that are read one by one are read together, in the order in which they are written. -/
theorem readMembers_spread {turns : Nat} (enough : members.length < turns) (state : State)
    (rest : Text) :
    readMembers readOne turns true state
        (spread gap (memberText inner write) members ++ (closing ++ '\x7d' :: rest)) =
      .ok (members.foldl step state, rest) := by
  obtain ⟨turns, rfl⟩ := Nat.exists_eq_add_one_of_ne_zero (Nat.ne_zero_of_lt enough)
  cases members with
  | nil => exact readMembers_closing closing_blank turns true state rest
  | cons member members =>
      obtain ⟨first, others⟩ := List.forall_mem_cons.mp steps
      have delimited : Delimited (closing ++ '\x7d' :: rest) :=
        .append closing_blank (.cons (by decide) rest)
      have read := first state _
        (@delimited_flatMap_append _ gap (memberText inner write) members _ delimited)
      have following := readMembers_followers blank closing_blank others
        (Nat.lt_of_succ_lt_succ enough) (step state member) rest
      simp only [spread, memberText, quote, List.cons_append, List.append_assoc,
        List.nil_append] at following read ⊢
      rw [readMembers_turn ((skipSpace_append blank _).trans
        (skipSpace_cons_of_not_isSpace (by decide) _)) (by decide) rfl
        (readString_quote member.1 _) read, following, List.foldl_cons]

end

theorem skipColon_colon (text : Text) : skipColon (':' :: text) = .ok text := by
  rw [skipColon, skipSpace_cons_of_not_isSpace (by decide)]
  rfl

/-- The reader of documents puts every member under its name. -/
theorem stepsBy_readMember (skips : ∀ text, readInner (inner ++ text) = readInner text)
    {member : Text × Value} (back : ReadBack readInner write member.2) :
    StepsBy (readMember readInner) (fun known member => insertMember member.1 member.2 known) inner
      write member := by
  intro known rest delimited
  simp only [readMember, skipColon_colon, skips, back.reads rest delimited, bind, Except.bind]

end

end Json

end ScriptSanitizer
