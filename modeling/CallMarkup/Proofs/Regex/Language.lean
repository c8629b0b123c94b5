import CallMarkup.Proofs.Regex.Runs

/-!
# What an expression matches

`Regex.Spells` says what it is for an expression to match from one position to
another, by recursion on the expression and with no program in sight.  `Program.Leads`
says of two places in a program that runs which accept make a passage from the one to
the other.  Its lemmas are about one instruction each, so that a program is followed
as it was assembled.
-/

namespace CallMarkup

/-- A way from one position to another, with the marks made on it, the latest first. -/
abbrev Passage := Cursor → Cursor → List Mark → Prop

namespace Passage

variable {first second third : Passage} {start stop : Cursor} {marks : List Mark}

def stay : Passage :=
  fun start stop marks => stop = start ∧ marks = []

def andThen (first second : Passage) : Passage :=
  fun start stop marks => ∃ between one later,
    first start between one ∧ second between stop later ∧ marks = later ++ one

def either (first second : Passage) : Passage :=
  fun start stop marks => first start stop marks ∨ second start stop marks

/-- A passage so many times in a row. -/
def rounds (passage : Passage) : Nat → Passage
  | 0 => stay
  | count + 1 => passage.andThen (passage.rounds count)

def read (accepts : CharSet) : Passage :=
  fun start stop marks => ∃ c rest, start.rest = c :: rest ∧ accepts.contains c = true ∧
    stop = start.next ∧ marks = []

def test (condition : Assertion) : Passage :=
  fun start stop marks => condition.holds start = true ∧ stop = start ∧ marks = []

def mark (edge : GroupEdge) : Passage :=
  fun start stop marks => stop = start ∧ marks = [⟨edge, start⟩]

theorem stay_andThen : stay.andThen first = first := by
  funext start stop marks
  refine propext ⟨?_, fun passes => ⟨start, [], marks, ⟨rfl, rfl⟩, passes, by simp⟩⟩
  rintro ⟨_, _, later, ⟨rfl, rfl⟩, passes, rfl⟩
  simpa using passes

theorem andThen_stay : first.andThen stay = first := by
  funext start stop marks
  refine propext ⟨?_, fun passes => ⟨stop, marks, [], passes, ⟨rfl, rfl⟩, rfl⟩⟩
  rintro ⟨_, one, _, passes, ⟨rfl, rfl⟩, rfl⟩
  exact passes

theorem andThen_assoc :
    (first.andThen second).andThen third = first.andThen (second.andThen third) := by
  funext start stop marks
  refine propext ⟨?_, ?_⟩
  · rintro ⟨later, _, three, ⟨between, one, two, begins, goesOn, rfl⟩, ends, rfl⟩
    exact ⟨between, one, _, begins, ⟨later, two, three, goesOn, ends, rfl⟩, by simp⟩
  · rintro ⟨between, one, _, begins, ⟨later, two, three, goesOn, ends, rfl⟩, rfl⟩
    exact ⟨later, _, three, ⟨between, one, two, begins, goesOn, rfl⟩, ends, by simp⟩

theorem rounds_succ (passage : Passage) (count : Nat) :
    passage.rounds (count + 1) = (passage.rounds count).andThen passage := by
  induction count with
  | zero => exact andThen_stay.trans stay_andThen.symm
  | succ count ih => rw [rounds, ih, ← andThen_assoc, ← rounds, ← ih]

theorem rounds_add (passage : Passage) (first second : Nat) :
    passage.rounds (first + second) = (passage.rounds first).andThen (passage.rounds second) := by
  induction first with
  | zero => rw [Nat.zero_add, rounds, stay_andThen]
  | succ first ih => rw [Nat.add_right_comm, rounds, rounds, ih, andThen_assoc]

/-- At most so many rounds, with a tail of its own after the last one. -/
def upTo (passage tail : Passage) : Nat → Passage
  | 0 => tail
  | count + 1 => passage.upTo ((passage.andThen tail).either stay) count

theorem either_comm : first.either second = second.either first := by
  funext start stop marks
  exact propext or_comm

theorem andThen_either :
    first.andThen (second.either third) = (first.andThen second).either (first.andThen third) := by
  funext start stop marks
  refine propext ⟨?_, ?_⟩
  · rintro ⟨between, one, later, begins, ends | ends, rfl⟩
    · exact .inl ⟨between, one, later, begins, ends, rfl⟩
    · exact .inr ⟨between, one, later, begins, ends, rfl⟩
  · rintro (⟨between, one, later, begins, ends, rfl⟩ | ⟨between, one, later, begins, ends, rfl⟩)
    · exact ⟨between, one, later, begins, .inl ends, rfl⟩
    · exact ⟨between, one, later, begins, .inr ends, rfl⟩

theorem upTo_iff (passage tail : Passage) (count : Nat) :
    passage.upTo tail count start stop marks ↔
      ((passage.rounds count).andThen tail) start stop marks ∨
        ∃ fewer < count, passage.rounds fewer start stop marks := by
  induction count generalizing tail with
  | zero => simp [upTo, rounds, stay_andThen]
  | succ count ih =>
      rw [upTo, ih, andThen_either, ← andThen_assoc, ← rounds_succ, andThen_stay, either, or_assoc]
      refine or_congr_right ⟨?_, ?_⟩
      · rintro (all | ⟨fewer, less, passes⟩)
        · exact ⟨count, Nat.lt_succ_self _, all⟩
        · exact ⟨fewer, Nat.lt_succ_of_lt less, passes⟩
      · rintro ⟨fewer, less, passes⟩
        rcases Nat.lt_succ_iff_lt_or_eq.mp less with less | rfl
        · exact .inr ⟨fewer, less, passes⟩
        · exact .inl passes

/-- A number of rounds within bounds.  The upper bound counts for nothing where it is
below the lower one. -/
def within (passage : Passage) (bounds : Bounds) : Passage :=
  fun start stop marks => ∃ count, bounds.least ≤ count ∧
    (∀ most ∈ bounds.most, count ≤ max bounds.least most) ∧
    passage.rounds count start stop marks

variable {passage : Passage}

/-- Rounds that must be made come before those that may be. -/
theorem rounds_andThen_upTo (passage : Passage) (least most : Nat) :
    (passage.rounds least).andThen (passage.upTo stay (most - least)) =
      passage.within ⟨least, some most⟩ := by
  funext start stop marks
  refine propext ⟨?_, ?_⟩
  · rintro ⟨between, one, later, must, may, rfl⟩
    have counted : ∃ more ≤ most - least, passage.rounds more between stop later := by
      rcases (passage.upTo_iff stay _).mp may with all | ⟨fewer, less, passes⟩
      · exact ⟨_, Nat.le_refl _, by rwa [andThen_stay] at all⟩
      · exact ⟨fewer, Nat.le_of_lt less, passes⟩
    obtain ⟨more, few, passes⟩ := counted
    refine ⟨least + more, Nat.le_add_right _ _, ?_, ?_⟩
    · rintro _ ⟨⟩
      exact (show least + more ≤ max least most by omega)
    · rw [rounds_add]
      exact ⟨between, one, later, must, passes, rfl⟩
  · rintro ⟨count, low, high, passes⟩
    have bound := high most rfl
    obtain ⟨more, rfl⟩ := Nat.exists_eq_add_of_le low
    rw [rounds_add] at passes
    obtain ⟨between, one, later, must, passes, rfl⟩ := passes
    refine ⟨between, one, later, must, (passage.upTo_iff stay _).mpr ?_, rfl⟩
    rcases Nat.lt_or_ge more (most - least) with less | enough
    · exact .inr ⟨more, less, passes⟩
    · obtain rfl : more = most - least := by
        dsimp only at bound
        omega
      exact .inl (by rwa [andThen_stay])

theorem rounds_andThen_within (passage : Passage) (least : Nat) :
    (passage.rounds least).andThen (passage.within ⟨0, none⟩) = passage.within ⟨least, none⟩ := by
  funext start stop marks
  refine propext ⟨?_, ?_⟩
  · rintro ⟨between, one, later, must, ⟨more, -, -, passes⟩, rfl⟩
    refine ⟨least + more, Nat.le_add_right _ _, by simp, ?_⟩
    rw [rounds_add]
    exact ⟨between, one, later, must, passes, rfl⟩
  · rintro ⟨count, low, -, passes⟩
    obtain ⟨more, rfl⟩ := Nat.exists_eq_add_of_le low
    rw [rounds_add] at passes
    obtain ⟨between, one, later, must, passes, rfl⟩ := passes
    exact ⟨between, one, later, must, ⟨more, Nat.zero_le _, by simp, passes⟩, rfl⟩

theorem within_zero_eq (passage : Passage) :
    (passage.andThen (passage.within ⟨0, none⟩)).either stay = passage.within ⟨0, none⟩ := by
  funext start stop marks
  refine propext ⟨?_, ?_⟩
  · rintro (⟨between, one, later, begins, ⟨count, -, -, passes⟩, rfl⟩ | stays)
    · exact ⟨count + 1, Nat.zero_le _, by simp, between, one, later, begins, passes, rfl⟩
    · exact ⟨0, Nat.le_refl _, by simp, stays⟩
  · rintro ⟨_ | count, -, -, passes⟩
    · exact .inr passes
    · obtain ⟨between, one, later, begins, passes, rfl⟩ := passes
      exact .inl ⟨between, one, later, begins, ⟨count, Nat.zero_le _, by simp, passes⟩, rfl⟩

end Passage

/-- An expression matches from one position to another, with the group edges passed. -/
def Regex.Spells : Regex → Passage
  | empty => .stay
  | literal chars => fun start stop marks =>
    chars <+: start.rest ∧ stop = start.advance chars.length ∧ marks = []
  | set accepts _ => .read accepts
  | assertion condition => .test condition
  | group index inner =>
    ((Passage.mark (.opening index)).andThen inner.Spells).andThen (.mark (.closing index))
  | repeated inner bounds _ => inner.Spells.within bounds
  | seq first rest => first.Spells.andThen rest.Spells
  | alt first rest => first.Spells.either rest.Spells

theorem Regex.spells_group {index : Nat} {inner : Regex} {start stop : Cursor}
    {marks : List Mark} :
    (group index inner).Spells start stop marks ↔ ∃ within, inner.Spells start stop within ∧
      marks = ⟨.closing index, stop⟩ :: (within ++ [⟨.opening index, start⟩]) := by
  constructor
  · rintro ⟨_, _, _, ⟨_, _, within, ⟨rfl, rfl⟩, passes, rfl⟩, ⟨rfl, rfl⟩, rfl⟩
    exact ⟨within, passes, rfl⟩
  · rintro ⟨within, passes, rfl⟩
    exact ⟨stop, _, _, ⟨start, _, within, ⟨rfl, rfl⟩, passes, rfl⟩, ⟨rfl, rfl⟩, rfl⟩

theorem Instruction.roundOr_ne_accept (greedy : Bool) (round exit : Nat) :
    roundOr greedy round exit ≠ .accept := by
  cases greedy <;> simp [roundOr]

namespace Program

variable {program : Program} {place entry other next beyond : Nat} {cursor between stop : Cursor}
  {one marks : List Mark} {passage first second : Passage}

/-- A run of so many instructions accepts where it ends. -/
def AcceptsIn (program : Program) (steps place : Nat) (cursor stop : Cursor)
    (marks : List Mark) : Prop :=
  ∃ final, program.Runs steps place cursor final stop marks ∧
    program.instructions[final]? = some .accept

/-- What accepts from a place makes a passage first and then accepts from another
place, where not more instructions are left. -/
structure Leads (program : Program) (entry : Nat) (passage : Passage) (next : Nat) : Prop where
  passes : ∀ {steps cursor stop marks}, program.AcceptsIn steps entry cursor stop marks →
    ∃ between one later left, passage cursor between one ∧ left ≤ steps ∧
      program.AcceptsIn left next between stop later ∧ marks = later ++ one
  accepts : ∀ {cursor between stop one later}, passage cursor between one →
    program.AcceptsAfter next between stop later →
    program.AcceptsAfter entry cursor stop (later ++ one)

/-- At an instruction other than the last one, what accepts moves on first. -/
theorem AcceptsIn.moves {steps : Nat} {instruction : Instruction}
    (found : program.instructions[place]? = some instruction) (goesOn : instruction ≠ .accept)
    (accepts : program.AcceptsIn steps place cursor stop marks) :
    ∃ fewer next between one later, steps = fewer + 1 ∧
      program.Moves place cursor next between one ∧
      program.AcceptsIn fewer next between stop later ∧ marks = later ++ one := by
  obtain ⟨final, runs, isAccept⟩ := accepts
  cases runs with
  | stay =>
      rw [found] at isAccept
      exact absurd (Option.some.inj isAccept) goesOn
  | move moves runs => exact ⟨_, _, _, _, _, rfl, moves, ⟨final, runs, isAccept⟩, rfl⟩

theorem Moves.of_choose (moves : program.Moves place cursor next between one)
    (found : program.instructions[place]? = some (.choose entry other)) :
    between = cursor ∧ one = [] ∧ (next = entry ∨ next = other) := by
  cases moves <;> simp_all

theorem Moves.of_roundOr {greedy : Bool} (moves : program.Moves place cursor next between one)
    (found : program.instructions[place]? = some (.roundOr greedy entry beyond)) :
    between = cursor ∧ one = [] ∧ (next = entry ∨ next = beyond) := by
  cases greedy with
  | true => exact moves.of_choose found
  | false => simpa only [or_comm] using moves.of_choose found

theorem Moves.again {greedy : Bool} (cursor : Cursor)
    (found : program.instructions[place]? = some (.roundOr greedy entry beyond)) :
    program.Moves place cursor entry cursor [] := by
  cases greedy with
  | true => exact .preferred cursor found
  | false => exact .other cursor found

theorem Moves.leave {greedy : Bool} (cursor : Cursor)
    (found : program.instructions[place]? = some (.roundOr greedy entry beyond)) :
    program.Moves place cursor beyond cursor [] := by
  cases greedy with
  | true => exact .other cursor found
  | false => exact .preferred cursor found

namespace Leads

theorem refl (program : Program) (place : Nat) : program.Leads place .stay place where
  passes accepts := ⟨_, [], _, _, ⟨rfl, rfl⟩, Nat.le_refl _, accepts, by simp⟩
  accepts := by
    rintro _ _ _ _ later ⟨rfl, rfl⟩ accepts
    simpa using accepts

theorem trans (begins : program.Leads entry first other)
    (ends : program.Leads other second next) :
    program.Leads entry (first.andThen second) next where
  passes accepts := by
    obtain ⟨between, one, _, left, passes, fewer, goesOn, rfl⟩ := begins.passes accepts
    obtain ⟨last, two, later, least, passesToo, fewerToo, ending, rfl⟩ := ends.passes goesOn
    exact ⟨last, _, later, least, ⟨between, one, two, passes, passesToo, rfl⟩,
      Nat.le_trans fewerToo fewer, ending, List.append_assoc _ _ _⟩
  accepts := by
    rintro _ _ _ _ later ⟨_, one, two, passes, passesToo, rfl⟩ accepts
    rw [← List.append_assoc]
    exact begins.accepts passes (ends.accepts passesToo accepts)

/-- A place whose every move makes the passage. -/
theorem of_move {instruction : Instruction}
    (found : program.instructions[place]? = some instruction) (goesOn : instruction ≠ .accept)
    (moves : ∀ {cursor after between one}, program.Moves place cursor after between one ↔
      after = next ∧ passage cursor between one) : program.Leads place passage next where
  passes accepts := by
    obtain ⟨fewer, _, between, one, later, rfl, move, ending, rfl⟩ := accepts.moves found goesOn
    obtain ⟨rfl, passes⟩ := moves.mp move
    exact ⟨between, one, later, fewer, passes, Nat.le_succ _, ending, rfl⟩
  accepts passes accepts := .move (moves.mpr ⟨rfl, passes⟩) accepts

theorem read {accepts : CharSet}
    (found : program.instructions[place]? = some (.read accepts next)) :
    program.Leads place (.read accepts) next := by
  refine of_move found (by simp) ⟨fun move => ?_, ?_⟩
  · cases move <;> simp_all [Passage.read]
  · rintro ⟨rfl, c, rest, ahead, accepted, rfl, rfl⟩
    exact .read found ahead accepted

theorem test {condition : Assertion}
    (found : program.instructions[place]? = some (.test condition next)) :
    program.Leads place (.test condition) next := by
  refine of_move found (by simp) ⟨fun move => ?_, ?_⟩
  · cases move <;> simp_all [Passage.test]
  · rintro ⟨rfl, holds, rfl, rfl⟩
    exact .test found holds

theorem mark {edge : GroupEdge}
    (found : program.instructions[place]? = some (.mark edge next)) :
    program.Leads place (.mark edge) next := by
  refine of_move found (by simp) ⟨fun move => ?_, ?_⟩
  · cases move <;> simp_all [Passage.mark]
  · rintro ⟨rfl, rfl, rfl⟩
    exact .mark _ found

theorem choose (found : program.instructions[place]? = some (.choose entry other))
    (preferred : program.Leads entry first next) (rest : program.Leads other second next) :
    program.Leads place (first.either second) next where
  passes accepts := by
    obtain ⟨fewer, after, _, _, later, rfl, move, ending, rfl⟩ := accepts.moves found (by simp)
    have noMarks : ∀ marks : List Mark, marks ++ [] = marks := List.append_nil
    obtain ⟨rfl, rfl, rfl | rfl⟩ := move.of_choose found
    · obtain ⟨between, one, last, left, passes, few, ends, rfl⟩ := preferred.passes ending
      exact ⟨between, one, last, left, .inl passes, Nat.le_succ_of_le few, ends, noMarks _⟩
    · obtain ⟨between, one, last, left, passes, few, ends, rfl⟩ := rest.passes ending
      exact ⟨between, one, last, left, .inr passes, Nat.le_succ_of_le few, ends, noMarks _⟩
  accepts := by
    rintro _ _ _ _ _ (passes | passes) accepts
    · simpa using AcceptsAfter.move (.preferred _ found) (preferred.accepts passes accepts)
    · simpa using AcceptsAfter.move (.other _ found) (rest.accepts passes accepts)

theorem roundOr {greedy : Bool}
    (found : program.instructions[place]? = some (.roundOr greedy entry beyond))
    (round : program.Leads entry first next) (leave : program.Leads beyond second next) :
    program.Leads place (first.either second) next := by
  cases greedy with
  | true => exact choose found round leave
  | false =>
      rw [Passage.either_comm]
      exact choose found leave round

/-- A choice between another round and leaving, where every round leads back to the
choice.  A run to the end has fewer instructions left after each round. -/
theorem loop {greedy : Bool}
    (found : program.instructions[place]? = some (.roundOr greedy entry beyond))
    (round : program.Leads entry passage place) :
    program.Leads place (passage.within ⟨0, none⟩) beyond where
  passes := by
    intro steps
    induction steps using Nat.strong_induction_on with
    | _ steps ih =>
      intro cursor stop marks accepts
      obtain ⟨fewer, after, _, _, later, rfl, move, ending, rfl⟩ :=
        accepts.moves found (Instruction.roundOr_ne_accept greedy entry beyond)
      obtain ⟨rfl, rfl, rfl | rfl⟩ := move.of_roundOr found
      · obtain ⟨between, one, _, left, passes, few, goesOn, rfl⟩ := round.passes ending
        obtain ⟨last, more, rest, least, ⟨count, low, high, rounds⟩, fewToo, ends, rfl⟩ :=
          ih left (Nat.lt_succ_of_le few) goesOn
        refine ⟨last, more ++ one, rest, least, ⟨count + 1, Nat.zero_le _, by simp, ?_⟩, ?_,
          ends, ?_⟩
        · exact ⟨between, one, more, passes, rounds, rfl⟩
        · omega
        · simp
      · exact ⟨_, [], later, fewer, ⟨0, Nat.le_refl _, by simp, rfl, rfl⟩, Nat.le_succ _,
          ending, rfl⟩
  accepts := by
    rintro cursor between stop one later ⟨count, -, -, rounds⟩ accepts
    induction count generalizing cursor one with
    | zero =>
        obtain ⟨rfl, rfl⟩ := rounds
        exact .move (.leave _ found) accepts
    | succ count ih =>
        obtain ⟨next, first, rest, passes, rounds, rfl⟩ := rounds
        rw [← List.append_assoc]
        simpa using AcceptsAfter.move (.again _ found) (round.accepts passes (ih rounds))

end Leads

end Program

end CallMarkup
