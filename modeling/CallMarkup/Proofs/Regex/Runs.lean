import CallMarkup.Proofs.Regex.Search
import Mathlib.Data.List.TakeWhile

/-!
# Runs of a program

A run goes from instruction to instruction and makes every choice freely.  A search
keeps only the preferred one of the threads that meet at an instruction, and yet it
loses no match altogether: `exists_runs_of_search?` says that a match comes from a
run that accepts where the match ends, and `search?_isSome_of_runs` that a search
finds a match wherever some run accepts.
-/

namespace CallMarkup

theorem Cursor.advance_add (cursor : Cursor) (first second : Nat) :
    cursor.advance (first + second) = (cursor.advance first).advance second := by
  induction first generalizing cursor with
  | zero => rw [Nat.zero_add, advance]
  | succ first ih => rw [Nat.add_right_comm, advance, advance, ih]

theorem Cursor.advance_succ (cursor : Cursor) (count : Nat) :
    cursor.advance (count + 1) = (cursor.advance count).next :=
  cursor.advance_add count 1

theorem Cursor.advance_of_end {cursor : Cursor} (atEnd : cursor.rest = []) (count : Nat) :
    cursor.advance count = cursor := by
  have stays : cursor.next = cursor := by simp [next, atEnd]
  induction count with
  | zero => rfl
  | succ count ih => rw [advance, stays, ih]

namespace Program

variable {program : Program} {place next target final steps : Nat} {cursor between stop : Cursor}
  {one marks : List Mark}

/-- An instruction leads on to a place and a position, with the marks it makes. -/
inductive Moves (program : Program) : Nat → Cursor → Nat → Cursor → List Mark → Prop
  | read {place next : Nat} {cursor : Cursor} {accepts : CharSet} {c : Char} {rest : Text}
      (found : program.instructions[place]? = some (.read accepts next))
      (ahead : cursor.rest = c :: rest) (accepted : accepts.contains c = true) :
      Moves program place cursor next cursor.next []
  | test {place next : Nat} {cursor : Cursor} {condition : Assertion}
      (found : program.instructions[place]? = some (.test condition next))
      (holds : condition.holds cursor = true) : Moves program place cursor next cursor []
  | mark {place next : Nat} {edge : GroupEdge} (cursor : Cursor)
      (found : program.instructions[place]? = some (.mark edge next)) :
      Moves program place cursor next cursor [⟨edge, cursor⟩]
  | preferred {place preferred other : Nat} (cursor : Cursor)
      (found : program.instructions[place]? = some (.choose preferred other)) :
      Moves program place cursor preferred cursor []
  | other {place preferred other : Nat} (cursor : Cursor)
      (found : program.instructions[place]? = some (.choose preferred other)) :
      Moves program place cursor other cursor []

/-- So many instructions lead from a place and a position to others.  The latest mark
comes first. -/
inductive Runs (program : Program) : Nat → Nat → Cursor → Nat → Cursor → List Mark → Prop
  | stay (place : Nat) (cursor : Cursor) : Runs program 0 place cursor place cursor []
  | move {steps place next target : Nat} {cursor between stop : Cursor} {one marks : List Mark}
      (first : program.Moves place cursor next between one)
      (later : Runs program steps next between target stop marks) :
      Runs program (steps + 1) place cursor target stop (marks ++ one)

theorem Runs.trans {more : Nat} {later : List Mark}
    (first : program.Runs steps place cursor next between one)
    (second : program.Runs more next between target stop later) :
    program.Runs (steps + more) place cursor target stop (later ++ one) := by
  induction first with
  | stay => simpa using second
  | move move _ ih =>
      rw [Nat.add_right_comm, ← List.append_assoc]
      exact .move move (ih second)

/-- A run accepts where it ends. -/
def AcceptsAfter (program : Program) (place : Nat) (cursor stop : Cursor) (marks : List Mark) :
    Prop :=
  ∃ steps final, program.Runs steps place cursor final stop marks ∧
    program.instructions[final]? = some .accept

theorem AcceptsAfter.move {later : List Mark}
    (first : program.Moves place cursor next between one)
    (accepts : program.AcceptsAfter next between stop later) :
    program.AcceptsAfter place cursor stop (later ++ one) := by
  obtain ⟨steps, final, runs, isAccept⟩ := accepts
  exact ⟨steps + 1, final, .move first runs, isAccept⟩

/-! ## Matches come from runs -/

theorem exists_moves_of_mem_branches {thread : Thread} {branch : Nat × Thread}
    (leads : branch ∈ program.branches cursor place thread) :
    ∃ one, program.Moves place cursor branch.1 cursor one ∧
      branch.2 = { thread with marks := one ++ thread.marks } := by
  unfold branches at leads
  split at leads
  next condition next found =>
    split at leads
    next holds =>
      obtain rfl := List.mem_singleton.mp leads
      exact ⟨[], .test found holds, rfl⟩
    next => cases leads
  next edge next found =>
    obtain rfl := List.mem_singleton.mp leads
    exact ⟨_, .mark cursor found, rfl⟩
  next preferred other found =>
    rcases List.mem_pair.mp leads with rfl | rfl
    · exact ⟨[], .preferred cursor found, rfl⟩
    · exact ⟨[], .other cursor found, rfl⟩
  next => cases leads

/-- A thread of a search that began at `origin` has run from where its match
begins. -/
def Reaches (program : Program) (origin : Cursor) (passed place : Nat) (thread : Thread) : Prop :=
  thread.skipped ≤ passed ∧ ∃ steps, program.Runs steps program.entry
    (origin.advance thread.skipped) place (origin.advance passed) thread.marks

/-- A thread that reads or accepts has run to an instruction that does so. -/
def Stands (program : Program) (origin : Cursor) (passed : Nat) (one : Instruction × Thread) :
    Prop :=
  ∃ place, program.instructions[place]? = some one.1 ∧ program.Reaches origin passed place one.2

/-- A match that a search has found comes from a run that accepts. -/
def Confirms (program : Program) (origin : Cursor) (hit : Hit) : Prop :=
  program.AcceptsAfter program.entry (origin.advance hit.skipped)
    ((origin.advance hit.skipped).advance hit.length) hit.marks

variable {origin later : Cursor} {passed : Nat} {thread : Thread} {frontier : Frontier}
  {threads : List (Instruction × Thread)} {c : Char} {rest : Text} {offset : Nat}
  {previous : Option Char} {best : Option Hit} {hit : Hit}

theorem Reaches.entry (program : Program) (origin : Cursor) (passed : Nat) :
    program.Reaches origin passed program.entry { skipped := passed } :=
  ⟨Nat.le_refl _, 0, .stay _ _⟩

theorem Reaches.branch {branch : Nat × Thread}
    (reaches : program.Reaches origin passed place thread)
    (leads : branch ∈ program.branches (origin.advance passed) place thread) :
    program.Reaches origin passed branch.1 branch.2 := by
  obtain ⟨one, moves, same⟩ := exists_moves_of_mem_branches leads
  obtain ⟨early, steps, runs⟩ := reaches
  rw [same]
  exact ⟨early, steps + 1, runs.trans (.move moves (.stay _ _))⟩

theorem stands_of_mem_resting {standing : Instruction × Thread}
    (reaches : program.Reaches origin passed place thread)
    (rests : standing ∈ program.resting place thread) :
    program.Stands origin passed standing := by
  unfold resting at rests
  split at rests
  next found =>
    obtain rfl := List.mem_singleton.mp rests
    exact ⟨place, found, reaches⟩
  next accepts next found =>
    obtain rfl := List.mem_singleton.mp rests
    exact ⟨place, found, reaches⟩
  next => cases rests

theorem stands_start (reaches : program.Reaches origin passed place thread)
    (stands : ∀ one ∈ frontier.threads.toList, program.Stands origin passed one) :
    ∀ one ∈ (program.start (origin.advance passed) place thread frontier).threads.toList,
      program.Stands origin passed one := by
  have invariant := program.follow_invariant (origin.advance passed)
    (fun pending frontier =>
      (∀ next ∈ pending, program.Reaches origin passed next.1 next.2) ∧
        ∀ one ∈ frontier.threads.toList, program.Stands origin passed one)
    ?_ ?_ (suffices_single place thread frontier) ⟨by simpa using reaches, stands⟩
  · exact invariant.2
  · rintro place thread pending frontier - ⟨pendingReach, stands⟩
    exact ⟨fun next waits => pendingReach next (List.mem_cons_of_mem _ waits), stands⟩
  · rintro place thread pending frontier - ⟨pendingReach, stands⟩
    have first := pendingReach (place, thread) List.mem_cons_self
    refine ⟨fun next waits => ?_, fun one rests => ?_⟩
    · rcases List.mem_append.mp waits with leads | waits
      · exact first.branch leads
      · exact pendingReach next (List.mem_cons_of_mem _ waits)
    · rw [visit_threads] at rests
      rcases List.mem_append.mp rests with before | rests
      · exact stands one before
      · exact stands_of_mem_resting first rests

theorem stands_step (stands : ∀ one ∈ threads, program.Stands origin passed one)
    (ahead : (origin.advance passed).rest = c :: rest) :
    ∀ one ∈ (program.step c (origin.advance (passed + 1)) threads).threads.toList,
      program.Stands origin (passed + 1) one := by
  rw [step_eq_foldl]
  refine List.foldlRecOn threads _
    (motive := fun frontier : Frontier =>
      ∀ one ∈ frontier.threads.toList, program.Stands origin (passed + 1) one)
    (by simp) fun frontier moved one member => ?_
  unfold moveOn
  split
  next accepts next reads =>
    split
    next accepted =>
      obtain ⟨place, found, early, steps, runs⟩ := stands one member
      rw [reads] at found
      have moves := runs.trans (.move (.read found ahead accepted) (.stay _ _))
      rw [List.nil_append, List.nil_append, ← Cursor.advance_succ] at moves
      exact stands_start ⟨Nat.le_succ_of_le early, _, moves⟩ moved
    next => exact moved
  next => exact moved

/-- What a frontier with a match begun here settles on. -/
theorem stands_settle (stands : ∀ one ∈ frontier.threads.toList, program.Stands origin passed one)
    (confirms : ∀ hit ∈ best, program.Confirms origin hit) :
    (∀ one ∈ (program.settle (origin.advance passed) passed best frontier).1,
      program.Stands origin passed one) ∧
    ∀ hit ∈ (program.settle (origin.advance passed) passed best frontier).2,
      program.Confirms origin hit := by
  have begunStands : ∀ one ∈
      (program.begun (origin.advance passed) passed best frontier).threads.toList,
      program.Stands origin passed one := by
    unfold begun
    split
    · exact stands_start (.entry program origin passed) stands
    · exact stands
  simp only [settle, untilAccept_eq]
  refine ⟨fun one member => begunStands one (List.takeWhile_subset _ member), fun hit isHit => ?_⟩
  rcases Option.or_eq_some_iff.mp isHit with accepted | ⟨-, before⟩
  · simp only [Option.map_map, Option.map_eq_some_iff] at accepted
    obtain ⟨one, found, rfl⟩ := accepted
    obtain ⟨place, isAccept, early, steps, runs⟩ :=
      begunStands one (List.mem_of_find?_eq_some found)
    have accepts : one.1 = .accept := by simpa [accepting] using List.find?_some found
    rw [accepts] at isAccept
    refine ⟨steps, place, ?_, isAccept⟩
    simpa [Hit.of, ← Cursor.advance_add, Nat.add_sub_cancel' early] using runs
  · exact confirms hit before

theorem confirms_of_searchFrom
    (here : origin.advance passed = ⟨offset, previous, rest⟩)
    (stands : ∀ one ∈ frontier.threads.toList, program.Stands origin passed one)
    (confirms : ∀ hit ∈ best, program.Confirms origin hit)
    (found : program.searchFrom offset previous passed frontier best rest = some hit) :
    program.Confirms origin hit := by
  have settled := stands_settle stands confirms
  rw [here] at settled
  induction rest generalizing offset previous passed frontier best with
  | nil => exact settled.2 hit (searchFrom_nil.symm.trans found)
  | cons c rest ih =>
      simp only [searchFrom_cons] at found
      split at found
      · exact settled.2 hit found
      · have later : origin.advance (passed + 1) = ⟨offset + c.utf8Size, some c, rest⟩ := by
          rw [Cursor.advance_succ, here, Cursor.next]
        have moved := stands_step settled.1 (by rw [here])
        rw [later] at moved
        refine ih later moved settled.2 found ?_
        have settledLater := stands_settle moved settled.2
        rwa [later] at settledLater

/-- A match comes from a run that accepts where the match ends. -/
theorem exists_runs_of_search? (found : program.search? cursor = some hit) :
    program.AcceptsAfter program.entry (cursor.advance hit.skipped)
      ((cursor.advance hit.skipped).advance hit.length) hit.marks :=
  confirms_of_searchFrom (show cursor.advance 0 = _ from rfl) (by simp) (by simp) found

/-! ## Runs lead to matches -/

theorem settle_isSome_of_best (program : Program) (cursor : Cursor) (passed : Nat)
    (frontier : Frontier) (hit : Hit) :
    (program.settle cursor passed (some hit) frontier).2.isSome := by
  simp [settle]

theorem searchFrom_isSome_of_best (program : Program) (offset : Nat) (previous : Option Char)
    (passed : Nat) (frontier : Frontier) (hit : Hit) (rest : Text) :
    (program.searchFrom offset previous passed frontier (some hit) rest).isSome := by
  induction rest generalizing offset previous passed frontier hit with
  | nil =>
      rw [searchFrom_nil]
      exact settle_isSome_of_best program _ passed frontier hit
  | cons c rest ih =>
      obtain ⟨next, isNext⟩ := Option.isSome_iff_exists.mp
        (settle_isSome_of_best program ⟨offset, previous, c :: rest⟩ passed frontier hit)
      simp only [searchFrom_cons, isNext]
      split
      · rfl
      · exact ih _ _ _ _ next

/-- A search that begins at a position with threads from before. -/
abbrev searchAt (program : Program) (cursor : Cursor) (passed : Nat) (frontier : Frontier) :
    Option Hit :=
  program.searchFrom cursor.offset cursor.previous passed frontier none cursor.rest

theorem searchAt_isSome_of_settle
    (isSome : (program.settle cursor passed none frontier).2.isSome) :
    (program.searchAt cursor passed frontier).isSome := by
  obtain ⟨hit, isHit⟩ := Option.isSome_iff_exists.mp isSome
  obtain ⟨offset, previous, rest⟩ := cursor
  cases rest with
  | nil => rwa [searchAt, searchFrom_nil]
  | cons c rest =>
      simp only [searchAt, searchFrom_cons, isHit]
      split
      · rfl
      · exact searchFrom_isSome_of_best program _ _ _ _ hit rest

theorem settle_isSome_iff :
    (program.settle cursor passed none frontier).2.isSome ↔
      .accept ∈ (program.begun cursor passed none frontier).threads.toList.map Prod.fst := by
  simp only [settle, untilAccept_eq, Option.or_none, Option.isSome_map, List.find?_isSome,
    accepting, decide_eq_true_eq, List.mem_map]

/-- As long as no thread accepts, all of them go on. -/
theorem searchAt_of_unsettled (nothing : (program.settle cursor passed none frontier).2 = none)
    (ahead : cursor.rest = c :: rest) :
    program.searchAt cursor passed frontier =
      program.searchAt cursor.next (passed + 1)
        (program.step c cursor.next
          (program.begun cursor passed none frontier).threads.toList) := by
  obtain ⟨offset, previous, _⟩ := cursor
  obtain rfl := ahead
  have noneAccepts : ∀ one ∈ (program.begun ⟨offset, previous, c :: rest⟩ passed none
      frontier).threads.toList, (!accepting one) = true := by
    intro one member
    by_contra accepts
    have isAccept : one.1 = .accept := by simpa [accepting] using accepts
    have isSome := settle_isSome_iff.mpr (List.mem_map.mpr ⟨one, member, isAccept⟩)
    simp [nothing] at isSome
  simp only [searchAt, searchFrom_cons, nothing, Option.isSome_none, Bool.false_and,
    Bool.false_eq_true, if_false, Cursor.next]
  simp only [settle, untilAccept_eq, List.takeWhile_eq_self_iff.mpr noneAccepts]

theorem mem_entered_of_branch {branch : Nat × Thread} (settled : program.Settled cursor frontier)
    (entered : place ∈ frontier.entered)
    (leads : branch ∈ program.branches cursor place ⟨0, []⟩) : branch.1 ∈ frontier.entered :=
  due_nil.mp (settled.branches place entered ⟨0, []⟩ branch leads)

/-- What a move does to a search: a thread that reads goes on from the next position,
and any other one to a place that has been entered as well. -/
theorem Moves.read_or_entered (moves : program.Moves place cursor next between one)
    (settled : program.Settled cursor frontier) (entered : place ∈ frontier.entered) :
    (∃ accepts c rest, program.instructions[place]? = some (.read accepts next) ∧
      cursor.rest = c :: rest ∧ accepts.contains c = true ∧ between = cursor.next) ∨
    (between = cursor ∧ next ∈ frontier.entered) := by
  have closed (thread : Thread)
      (leads : (next, thread) ∈ program.branches cursor place ⟨0, []⟩) : next ∈ frontier.entered :=
    mem_entered_of_branch settled entered leads
  cases moves with
  | read found ahead accepted => exact .inl ⟨_, _, _, found, ahead, accepted, rfl⟩
  | test found holds => exact .inr ⟨rfl, closed ⟨0, []⟩ (by simp [branches, found, holds])⟩
  | @mark _ edge _ found =>
      exact .inr ⟨rfl, closed ⟨0, [⟨edge, cursor⟩]⟩ (by simp [branches, found])⟩
  | preferred _ found => exact .inr ⟨rfl, closed ⟨0, []⟩ (by simp [branches, found])⟩
  | other _ found => exact .inr ⟨rfl, closed ⟨0, []⟩ (by simp [branches, found])⟩

/-- A rest of a run is followed to its end, unless a match is found before. -/
theorem searchAt_isSome_of_runs (settled : program.Settled cursor frontier)
    (entered : place ∈ (program.begun cursor passed none frontier).entered)
    (runs : program.Runs steps place cursor final stop marks)
    (accepts : program.instructions[final]? = some .accept) :
    (program.searchAt cursor passed frontier).isSome := by
  induction runs generalizing passed frontier with
  | stay place cursor =>
      have begun := settled_start settled program.entry { skipped := passed }
      exact searchAt_isSome_of_settle (settle_isSome_iff.mpr
        (begun.resting place entered ⟨0, []⟩ (.accept, ⟨0, []⟩) (by simp [resting, accepts])))
  | @move _ place next _ cursor _ _ _ _ first _ ih =>
      have begun := settled_start settled program.entry { skipped := passed }
      rcases first.read_or_entered begun entered with
        ⟨reads, c, rest, found, ahead, accepted, rfl⟩ | ⟨rfl, enteredToo⟩
      · cases outcome : (program.settle cursor passed none frontier).2 with
        | some hit => exact searchAt_isSome_of_settle (by rw [outcome]; rfl)
        | none =>
            rw [searchAt_of_unsettled outcome ahead]
            refine ih settled_step (mem_start (.inr (mem_step ?_ accepted))) accepts
            exact begun.resting place entered ⟨0, []⟩ (.read reads next, ⟨0, []⟩)
              (by simp [resting, found])
      · exact ih settled enteredToo accepts

theorem searchAt_isSome_of_accepts {distance : Nat} (settled : program.Settled cursor frontier)
    (accepts : program.AcceptsAfter program.entry (cursor.advance distance) stop marks) :
    (program.searchAt cursor passed frontier).isSome := by
  induction distance generalizing cursor passed frontier with
  | zero =>
      obtain ⟨steps, final, runs, isAccept⟩ := accepts
      exact searchAt_isSome_of_runs settled (mem_start (.inl rfl)) runs isAccept
  | succ distance ih =>
      cases ahead : cursor.rest with
      | nil =>
          refine ih settled ?_
          rwa [Cursor.advance_of_end ahead] at accepts ⊢
      | cons c rest =>
          cases outcome : (program.settle cursor passed none frontier).2 with
          | some hit => exact searchAt_isSome_of_settle (by rw [outcome]; rfl)
          | none =>
              rw [searchAt_of_unsettled outcome ahead]
              exact ih settled_step accepts

/-- A search finds a match if some run accepts that begins at its position or
later. -/
theorem search?_isSome_of_runs {distance : Nat}
    (accepts : program.AcceptsAfter program.entry (cursor.advance distance) stop marks) :
    (program.search? cursor).isSome :=
  searchAt_isSome_of_accepts settled_empty accepts

end Program

end CallMarkup
