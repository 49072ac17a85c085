import ScriptSanitizer.Proofs.Regex.Matching

/-!
# The moves at a place

At one place of the text a search meets everything that what it starts from can lead to without
reading, each remainder once; so it finds the moves that are offered there, and no others.  A
remainder that is met again is not followed again: either it is settled, or it will be once the
search has come back to where it was met first.
-/

namespace ScriptSanitizer

namespace Regex

/-! ## Only what is offered is found -/

/-- The moves that a step of a search finds are offered by what it follows. -/
def FindsOnly (before after : Option Char) (remaining : Remainder) (follow : Search → Search) :
    Prop :=
  ∀ search, ∀ move ∈ (follow search).moves, move ∈ search.moves ∨
    Offers before after remaining move

section Steps

variable {before after : Option Char} {remaining behind : Remainder}
  {follow followBehind : Search → Search}

theorem findsOnly_id (remaining : Remainder) : FindsOnly before after remaining id :=
  fun _ _ member => .inl member

theorem FindsOnly.weaken (finds : FindsOnly before after behind follow)
    (offers : ∀ move, Offers before after behind move → Offers before after remaining move) :
    FindsOnly before after remaining follow :=
  fun search move member => (finds search move member).imp_right (offers move)

theorem FindsOnly.comp (finds : FindsOnly before after remaining follow)
    (findsBehind : FindsOnly before after remaining followBehind) :
    FindsOnly before after remaining fun search => followBehind (follow search) := by
  intro search move member
  rcases findsBehind (follow search) move member with found | offers
  · exact finds search move found
  · exact .inr offers

theorem FindsOnly.visit (finds : FindsOnly before after remaining follow) :
    FindsOnly before after remaining (Search.visit remaining follow) := by
  intro search move member
  unfold Search.visit at member
  split at member
  · exact .inl member
  · exact finds { search with met := remaining :: search.met } move member

theorem findsOnly_offer {move : Move} (offers : Offers before after remaining move) :
    FindsOnly before after remaining (Search.offer move) := by
  intro search found member
  rcases List.mem_append.mp member with member | offered
  · exact .inl member
  · obtain rfl := List.mem_singleton.mp offered
    exact .inr offers

theorem findsOnly_follow (expression : Regex)
    (findsBehind : FindsOnly before after behind followBehind) :
    FindsOnly before after (.next expression behind)
      (expression.follow before after behind followBehind) := by
  induction expression generalizing behind followBehind with
  | empty => exact (findsBehind.weaken fun _ => .empty).visit
  | assertion condition =>
      refine FindsOnly.visit ?_
      split
      case isTrue holds => exact findsBehind.weaken fun _ => .assertion holds
      case isFalse => exact findsOnly_id _
  | char allowed => exact (findsOnly_offer .char).visit
  | concat first second findsFirst findsSecond =>
      exact ((findsFirst (findsSecond findsBehind)).weaken fun _ => .concat).visit
  | choice first second findsFirst findsSecond =>
      have marked : FindsOnly before after (.second behind)
          (Search.visit (.second behind) followBehind) :=
        (findsBehind.weaken fun _ => .second).visit
      exact (((findsFirst findsBehind).weaken fun _ => .choiceFirst).comp
        ((findsSecond marked).weaken fun _ => .choiceSecond)).visit
  | star body greedy findsBody =>
      have rounds := (findsBody (findsOnly_id (.next (star body greedy) behind))).weaken
        fun _ => .starRound
      have ends := findsBehind.weaken fun _ => @Offers.starNone _ _ body greedy _ _
      cases greedy with
      | false => exact (ends.comp rounds).visit
      | true => exact (rounds.comp ends).visit

theorem findsOnly_follow_remainder (remaining : Remainder) :
    FindsOnly before after remaining (remaining.follow before after) := by
  induction remaining with
  | done => exact (findsOnly_offer .done).visit
  | next expression behind ih => exact findsOnly_follow expression ih
  | second behind ih => exact (ih.weaken fun _ => .second).visit

end Steps

/-! ## All that is offered is found -/

/-- What a remainder leads to without reading was met, and the move was found by which it reads or
ends. -/
def Search.Settles (search : Search) (before after : Option Char) : Remainder → Prop
  | .done => .accept ∈ search.moves
  | .second behind => behind ∈ search.met
  | .next empty behind => behind ∈ search.met
  | .next (assertion condition) behind =>
    condition.holds before after = true → behind ∈ search.met
  | .next (char allowed) behind => .read allowed behind ∈ search.moves
  | .next (concat first second) behind => .next first (.next second behind) ∈ search.met
  | .next (choice first second) behind =>
    .next first behind ∈ search.met ∧ .next second (.second behind) ∈ search.met
  | .next (star body greedy) behind =>
    behind ∈ search.met ∧ .next body (.next (star body greedy) behind) ∈ search.met

/-- A search has gone on from another one: what that one met and found is kept, and what was met
since is settled. -/
structure Search.GoesOn (before after : Option Char) (search further : Search) : Prop where
  /-- What was met is kept. -/
  met : search.met ⊆ further.met
  /-- What was found is kept. -/
  moves : search.moves ⊆ further.moves
  /-- What was met since is settled. -/
  settles : ∀ remaining ∈ further.met,
    remaining ∈ search.met ∨ further.Settles before after remaining

/-- A step of a search meets a remainder and settles all that it meets, provided that some
remainders were met, which may not be settled yet. -/
def Completes (before after : Option Char) (unsettled : List Remainder) (remaining : Remainder)
    (follow : Search → Search) : Prop :=
  ∀ search, unsettled ⊆ search.met →
    search.GoesOn before after (follow search) ∧ remaining ∈ (follow search).met

section Steps

variable {before after : Option Char} {remaining behind : Remainder}
  {unsettled : List Remainder} {followBehind : Search → Search}

theorem Search.Settles.mono {search further : Search}
    (settles : search.Settles before after remaining) (met : search.met ⊆ further.met)
    (moves : search.moves ⊆ further.moves) :
    further.Settles before after remaining := by
  cases remaining with
  | done => exact moves settles
  | second behind => exact met settles
  | next expression behind =>
      cases expression with
      | empty => exact met settles
      | assertion condition => exact fun holds => met (settles holds)
      | char allowed => exact moves settles
      | concat first second => exact met settles
      | choice first second => exact ⟨met settles.1, met settles.2⟩
      | star body greedy => exact ⟨met settles.1, met settles.2⟩

theorem Search.GoesOn.refl (search : Search) : search.GoesOn before after search :=
  ⟨fun _ member => member, fun _ member => member, fun _ member => .inl member⟩

theorem Search.GoesOn.trans {first second third : Search}
    (goesOn : first.GoesOn before after second) (further : second.GoesOn before after third) :
    first.GoesOn before after third where
  met _ member := further.met (goesOn.met member)
  moves _ member := further.moves (goesOn.moves member)
  settles remaining member := by
    rcases further.settles remaining member with earlier | settled
    · exact (goesOn.settles remaining earlier).imp_right fun settled =>
        settled.mono further.met further.moves
    · exact .inr settled

theorem Search.goesOn_offer (search : Search) (move : Move) :
    search.GoesOn before after (search.offer move) :=
  ⟨fun _ member => member, fun _ member => List.mem_append_left _ member,
    fun _ member => .inl member⟩

/-- A remainder that is met for the first time is settled once what it leads to is met. -/
theorem completes_visit {follow : Search → Search}
    (settles : ∀ search, unsettled ⊆ search.met → remaining ∈ search.met →
      search.GoesOn before after (follow search) ∧
        (follow search).Settles before after remaining) :
    Completes before after unsettled remaining (Search.visit remaining follow) := by
  intro search earlier
  unfold Search.visit
  split
  case isTrue met => exact ⟨.refl search, List.contains_iff_mem.mp met⟩
  case isFalse =>
    obtain ⟨goesOn, settled⟩ := settles { search with met := remaining :: search.met }
      (fun _ member => List.mem_cons_of_mem _ (earlier member)) List.mem_cons_self
    refine ⟨⟨fun _ member => goesOn.met (List.mem_cons_of_mem _ member), goesOn.moves, ?_⟩,
      goesOn.met List.mem_cons_self⟩
    intro other member
    rcases goesOn.settles other member with met | settled_other
    · rcases List.mem_cons.mp met with rfl | met
      · exact .inr settled
      · exact .inl met
    · exact .inr settled_other

theorem completes_follow (expression : Regex)
    (completesBehind : Completes before after unsettled behind followBehind) :
    Completes before after unsettled (.next expression behind)
      (expression.follow before after behind followBehind) := by
  induction expression generalizing unsettled behind followBehind with
  | empty => exact completes_visit fun search earlier _ => completesBehind search earlier
  | assertion condition =>
      refine completes_visit fun search earlier _ => ?_
      split
      case isTrue =>
        obtain ⟨goesOn, met⟩ := completesBehind search earlier
        exact ⟨goesOn, fun _ => met⟩
      case isFalse fails => exact ⟨.refl search, fun holds => absurd holds fails⟩
  | char allowed =>
      refine completes_visit fun search _ _ => ⟨search.goesOn_offer _, ?_⟩
      exact List.mem_append_right _ (List.mem_singleton_self _)
  | concat first second completesFirst completesSecond =>
      exact completes_visit fun search earlier _ =>
        completesFirst (completesSecond completesBehind) search earlier
  | choice first second completesFirst completesSecond =>
      refine completes_visit fun search earlier _ => ?_
      have marked : Completes before after unsettled (.second behind)
          (Search.visit (.second behind) followBehind) :=
        completes_visit fun search earlier _ => completesBehind search earlier
      obtain ⟨goesOn, metFirst⟩ := completesFirst completesBehind search earlier
      obtain ⟨further, metSecond⟩ :=
        completesSecond marked _ fun _ member => goesOn.met (earlier member)
      exact ⟨goesOn.trans further, further.met metFirst, metSecond⟩
  | star body greedy completesBody =>
      refine completes_visit fun search earlier met => ?_
      -- Behind a round stands the repetition itself, which was met and is not settled yet.
      have completesRound : Completes before after (.next (star body greedy) behind :: unsettled)
          (.next body (.next (star body greedy) behind))
          (body.follow before after (.next (star body greedy) behind) id) :=
        completesBody fun search earlier => ⟨.refl search, earlier List.mem_cons_self⟩
      cases greedy with
      | false =>
          obtain ⟨goesOn, metBehind⟩ := completesBehind search earlier
          obtain ⟨further, metBody⟩ := completesRound (followBehind search)
            (List.cons_subset.mpr ⟨goesOn.met met, fun _ member => goesOn.met (earlier member)⟩)
          exact ⟨goesOn.trans further, further.met metBehind, metBody⟩
      | true =>
          obtain ⟨goesOn, metBody⟩ := completesRound search (List.cons_subset.mpr ⟨met, earlier⟩)
          obtain ⟨further, metBehind⟩ :=
            completesBehind _ fun _ member => goesOn.met (earlier member)
          exact ⟨goesOn.trans further, metBehind, further.met metBody⟩

theorem completes_follow_remainder (remaining : Remainder) :
    Completes before after [] remaining (remaining.follow before after) := by
  induction remaining with
  | done =>
      refine completes_visit fun search _ _ => ⟨search.goesOn_offer _, ?_⟩
      exact List.mem_append_right _ (List.mem_singleton_self _)
  | next expression behind ih => exact completes_follow expression ih
  | second behind ih => exact completes_visit fun search earlier _ => ih search earlier

/-- Where all that was met is settled, every move was found that something met offers. -/
theorem Offers.mem_moves {search : Search} {move : Move}
    (settled : ∀ remaining ∈ search.met, search.Settles before after remaining)
    (offers : Offers before after remaining move) (met : remaining ∈ search.met) :
    move ∈ search.moves := by
  induction offers with
  | done => exact settled _ met
  | second _ ih => exact ih (settled _ met)
  | empty _ ih => exact ih (settled _ met)
  | assertion holds _ ih => exact ih (settled _ met holds)
  | char => exact settled _ met
  | concat _ ih => exact ih (settled _ met)
  | choiceFirst _ ih => exact ih (settled _ met).1
  | choiceSecond _ ih => exact ih (settled _ met).2
  | starNone _ ih => exact ih (settled _ met).1
  | starRound _ ih => exact ih (settled _ met).2

theorem mem_foldl_moves {remainders : List Remainder} {search : Search} {move : Move}
    (member : move ∈ (remainders.foldl
      (fun search remaining => Remainder.follow before after remaining search) search).moves) :
    move ∈ search.moves ∨ ∃ remaining ∈ remainders, Offers before after remaining move := by
  induction remainders generalizing search with
  | nil => exact .inl member
  | cons remaining remainders ih =>
      rcases ih member with found | ⟨other, present, offers⟩
      · exact (findsOnly_follow_remainder remaining search move found).imp_right fun offers =>
          ⟨remaining, List.mem_cons_self, offers⟩
      · exact .inr ⟨other, List.mem_cons_of_mem _ present, offers⟩

theorem goesOn_foldl (remainders : List Remainder) (search : Search) :
    search.GoesOn before after (remainders.foldl
        (fun search remaining => Remainder.follow before after remaining search) search) ∧
      ∀ remaining ∈ remainders, remaining ∈ (remainders.foldl
        (fun search remaining => Remainder.follow before after remaining search) search).met := by
  induction remainders generalizing search with
  | nil => exact ⟨.refl search, fun _ member => absurd member List.not_mem_nil⟩
  | cons remaining remainders ih =>
      obtain ⟨goesOn, met⟩ :=
        completes_follow_remainder remaining search (List.nil_subset search.met)
      obtain ⟨further, others_met⟩ := ih (Remainder.follow before after remaining search)
      exact ⟨goesOn.trans further, List.forall_mem_cons.mpr ⟨further.met met, others_met⟩⟩

/-- The moves of several remainders are those that one of them offers. -/
theorem mem_moves_iff {remainders : List Remainder} {move : Move} :
    move ∈ moves before after remainders ↔
      ∃ remaining ∈ remainders, Offers before after remaining move := by
  constructor
  · intro member
    exact (mem_foldl_moves member).resolve_left List.not_mem_nil
  · rintro ⟨remaining, member, offers⟩
    obtain ⟨goesOn, met⟩ := @goesOn_foldl before after remainders {}
    refine offers.mem_moves (fun other present => ?_) (met remaining member)
    exact (goesOn.settles other present).resolve_left List.not_mem_nil

end Steps

end Regex

end ScriptSanitizer
