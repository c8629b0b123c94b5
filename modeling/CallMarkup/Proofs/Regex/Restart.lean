import CallMarkup.Proofs.Regex.Search

/-!
# A search finds its match again from where the match begins

A search that passes over some characters before its match keeps threads that
began at these characters, and they are preferred to those of the match.  A search
that begins with the match does without them.  The two run side by side: the
threads of the second one are those of the first one that began as late as the
match, apart from some whose instructions the earlier threads hold as well.  These
never come to accept, for otherwise the first search would have had a match that
begins earlier.
-/

namespace CallMarkup

/-- A thread as a search has it that began so many characters earlier. -/
def Thread.shifted (count : Nat) (thread : Thread) : Thread :=
  { thread with skipped := thread.skipped + count }

/-- A match as a search has it that began so many characters earlier. -/
def Hit.shifted (count : Nat) (hit : Hit) : Hit :=
  { hit with skipped := hit.skipped + count }

theorem Hit.of_shifted (count passed : Nat) (thread : Thread) :
    Hit.of (passed + count) (thread.shifted count) = (Hit.of passed thread).shifted count := by
  simp only [Hit.of, Hit.shifted, Thread.shifted, Nat.add_sub_add_right]

namespace Program

variable {program : Program} {cursor later : Cursor} {place passed offset : Nat}
  {thread : Thread} {frontier : Frontier} {c : Char} {previous : Option Char} {best : Option Hit}
  {rest : Text}

theorem branches_shifted (count : Nat) :
    program.branches cursor place (thread.shifted count) =
      (program.branches cursor place thread).map (Prod.map id (Thread.shifted count)) := by
  unfold branches
  split
  · split <;> rfl
  all_goals rfl

theorem resting_shifted (count : Nat) :
    program.resting place (thread.shifted count) =
      (program.resting place thread).map (Prod.map id (Thread.shifted count)) := by
  unfold resting
  split <;> rfl

/-- The threads of a search that began so many characters earlier, beside those of
one that begins now: the same ones, without some that stand where earlier threads
have been. -/
inductive Late {Stand : Type} (count : Nat) (taken : Stand → Prop) :
    List (Stand × Thread) → List (Stand × Thread) → Prop
  | nil : Late count taken [] []
  | both {stand : Stand} {thread : Thread} {late all : List (Stand × Thread)}
      (others : Late count taken late all) :
      Late count taken ((stand, thread.shifted count) :: late) ((stand, thread) :: all)
  | without {stand : Stand} {thread : Thread} {late all : List (Stand × Thread)}
      (overtaken : taken stand) (others : Late count taken late all) :
      Late count taken late ((stand, thread) :: all)

section Late

variable {Stand : Type} {count : Nat} {taken : Stand → Prop} {late all : List (Stand × Thread)}

theorem Late.append {more moreAll : List (Stand × Thread)} (first : Late count taken late all)
    (second : Late count taken more moreAll) :
    Late count taken (late ++ more) (all ++ moreAll) := by
  induction first with
  | nil => exact second
  | both _ ih => exact .both ih
  | without overtaken _ ih => exact .without overtaken ih

theorem Late.shifted (all : List (Stand × Thread)) :
    Late count taken (all.map (Prod.map id (Thread.shifted count))) all := by
  induction all with
  | nil => exact .nil
  | cons _ _ ih => exact .both ih

theorem Late.all_taken (overtaken : ∀ one ∈ all, taken one.1) : Late count taken [] all := by
  induction all with
  | nil => exact .nil
  | cons first _ ih =>
      exact .without (overtaken first List.mem_cons_self)
        (ih fun one member => overtaken one (List.mem_cons_of_mem _ member))

end Late

/-- The frontier of a search that began so many characters earlier, beside that of
one that begins now.  The first has some threads that began earlier, those of the
frontier `old`, and then its share of the threads of the second. -/
structure Beside (count : Nat) (old first second : Frontier) : Prop where
  entered : ∀ place, place ∈ first.entered ↔ place ∈ old.entered ∨ place ∈ second.entered
  threads : ∃ late, first.threads.toList = old.threads.toList ++ late ∧
    Late count (· ∈ old.threads.toList.map Prod.fst) late second.threads.toList

variable {count : Nat} {old first second : Frontier}

theorem beside_self (count : Nat) (old : Frontier) : Beside count old old {} :=
  ⟨by simp, [], by simp, .nil⟩

theorem Beside.visit (beside : Beside count old first second) (place : Nat) (thread : Thread) :
    Beside count old (program.visit place (thread.shifted count) first)
      (program.visit place thread second) where
  entered other := by
    rw [mem_visit_entered, mem_visit_entered, beside.entered]
    tauto
  threads := by
    obtain ⟨late, listed, beneath⟩ := beside.threads
    refine ⟨late ++ program.resting place (thread.shifted count), ?_, ?_⟩
    · rw [visit_threads, listed, List.append_assoc]
    · rw [visit_threads, resting_shifted]
      exact beneath.append (.shifted _)

/-- A visit of the second search to a place where the old threads have been. -/
theorem Beside.visit_second (settled : program.Settled cursor old)
    (beside : Beside count old first second) (overtaken : place ∈ old.entered)
    (thread : Thread) : Beside count old first (program.visit place thread second) where
  entered other := by
    rw [mem_visit_entered, beside.entered]
    constructor
    · tauto
    · rintro (before | rfl | entered)
      · exact .inl before
      · exact .inl overtaken
      · exact .inr entered
  threads := by
    obtain ⟨late, listed, beneath⟩ := beside.threads
    refine ⟨late, listed, ?_⟩
    rw [visit_threads, ← List.append_nil late]
    exact beneath.append (.all_taken (settled.resting place overtaken thread))

/-- Where the old threads have been, a place leads only to such places. -/
theorem Late.branches_taken {late others : List (Nat × Thread)}
    (settled : program.Settled cursor old) (overtaken : place ∈ old.entered)
    (beneath : Late count (· ∈ old.entered) late others) (thread : Thread) :
    Late count (· ∈ old.entered) late (program.branches cursor place thread ++ others) := by
  rw [← List.nil_append late]
  refine Late.append (.all_taken fun next leads => ?_) beneath
  exact due_nil.mp (settled.branches place overtaken thread next leads)

theorem beside_follow {firstSteps secondSteps : Nat} {pending others : List (Nat × Thread)}
    (settled : program.Settled cursor old) (beside : Beside count old first second)
    (late : Late count (· ∈ old.entered) pending others)
    (enough : program.Suffices firstSteps pending first)
    (enoughToo : program.Suffices secondSteps others second) :
    Beside count old (program.follow cursor firstSteps pending first)
      (program.follow cursor secondSteps others second) := by
  -- The invariant is about the second search; the first one makes the same steps, or none.
  have invariant := program.follow_invariant cursor
    (fun others second => ∃ steps waiting between,
      program.Suffices steps waiting between ∧ Late count (· ∈ old.entered) waiting others ∧
      Beside count old between second ∧
      program.follow cursor steps waiting between = program.follow cursor firstSteps pending first)
    ?_ ?_ enoughToo ⟨firstSteps, pending, first, enough, late, beside, rfl⟩
  · obtain ⟨steps, waiting, between, -, late, beside, same⟩ := invariant
    cases late
    rw [follow_nil] at same
    exact same ▸ beside
  · rintro place thread others second entered ⟨steps, waiting, between, enough, late, beside, same⟩
    cases late with
    | without _ late => exact ⟨steps, waiting, between, enough, late, beside, same⟩
    | both late =>
        obtain ⟨steps, rfl⟩ := enough.exists_succ
        rw [follow_of_entered ((beside.entered place).mpr (.inr entered))] at same
        exact ⟨steps, _, between, enough.drop, late, beside, same⟩
  · rintro place thread others second new ⟨steps, waiting, between, enough, late, beside, same⟩
    cases late with
    | without overtaken late =>
        exact ⟨steps, waiting, between, enough, late.branches_taken settled overtaken thread,
          beside.visit_second settled overtaken thread, same⟩
    | both late =>
        obtain ⟨steps, rfl⟩ := enough.exists_succ
        by_cases overtaken : place ∈ old.entered
        · rw [follow_of_entered ((beside.entered place).mpr (.inl overtaken))] at same
          exact ⟨steps, _, between, enough.drop, late.branches_taken settled overtaken thread,
            beside.visit_second settled overtaken thread, same⟩
        -- Only here do both searches make the visit.
        · have newToo : place ∉ between.entered := by
            rw [beside.entered]
            exact not_or.mpr ⟨overtaken, new⟩
          rw [follow_of_new newToo] at same
          refine ⟨steps, _, _, enough.visit newToo, ?_, beside.visit place thread, same⟩
          rw [branches_shifted]
          exact (Late.shifted _).append late

theorem Beside.start (settled : program.Settled cursor old)
    (beside : Beside count old first second) (place : Nat) (thread : Thread) :
    Beside count old (program.start cursor place (thread.shifted count) first)
      (program.start cursor place thread second) :=
  beside_follow settled beside (.both .nil) (suffices_single _ _ _) (suffices_single _ _ _)

theorem Beside.start_second (settled : program.Settled cursor old)
    (beside : Beside count old first second) (overtaken : place ∈ old.entered)
    (thread : Thread) : Beside count old first (program.start cursor place thread second) := by
  have followed := beside_follow settled beside (.without overtaken .nil)
    (Nat.le_refl _ : program.Suffices _ [] first) (suffices_single place thread second)
  rwa [follow_nil] at followed

theorem Beside.foldl_moveOn {taken : Instruction → Prop} {late all : List (Instruction × Thread)}
    (settled : program.Settled later old)
    (overtaken : ∀ accepts next, taken (.read accepts next) → accepts.contains c = true →
      next ∈ old.entered)
    (beneath : Late count taken late all) (beside : Beside count old first second) :
    Beside count old (late.foldl (program.moveOn c later) first)
      (all.foldl (program.moveOn c later) second) := by
  induction beneath generalizing first second with
  | nil => exact beside
  | @both instruction thread late all _ ih =>
      refine ih ?_
      cases instruction with
      | read accepts next =>
          simp only [moveOn]
          split
          · exact beside.start settled next thread
          · exact beside
      | _ => exact beside
  | @without instruction thread late all isTaken _ ih =>
      refine ih ?_
      cases instruction with
      | read accepts next =>
          simp only [moveOn]
          split
          next accepted =>
            exact beside.start_second settled (overtaken accepts next isTaken accepted) thread
          next => exact beside
      | _ => exact beside

theorem beside_step {earlier late all : List (Instruction × Thread)}
    (beneath : Late count (· ∈ earlier.map Prod.fst) late all) :
    Beside count (program.step c later earlier) (program.step c later (earlier ++ late))
      (program.step c later all) := by
  rw [step_eq_foldl _ _ _ (earlier ++ late), List.foldl_append, ← step_eq_foldl,
    step_eq_foldl _ _ _ all]
  exact Beside.foldl_moveOn settled_step (fun _ _ reads accepted => mem_step reads accepted)
    beneath (beside_self count _)

theorem Late.untilAccept {taken : Instruction → Prop} {late all : List (Instruction × Thread)}
    (beneath : Late count taken late all) (noneAccepts : ¬ taken .accept) :
    Late count taken (untilAccept late).1 (untilAccept all).1 ∧
      (Program.untilAccept late).2 = (Program.untilAccept all).2.map (Thread.shifted count) := by
  induction beneath with
  | nil => exact ⟨.nil, rfl⟩
  | @both instruction thread late all _ ih =>
      cases instruction with
      | accept => exact ⟨.nil, rfl⟩
      | _ => exact ⟨.both ih.1, ih.2⟩
  | @without instruction thread late all isTaken _ ih =>
      cases instruction with
      | accept => exact absurd isTaken noneAccepts
      | _ => exact ⟨.without isTaken ih.1, ih.2⟩

theorem Beside.begun (settled : program.Settled cursor old)
    (beside : Beside count old first second) (passed : Nat) (best : Option Hit) :
    Beside count old
      (program.begun cursor (passed + count) (best.map (Hit.shifted count)) first)
      (program.begun cursor passed best second) := by
  cases best with
  | none => exact beside.start settled program.entry { skipped := passed }
  | some _ => exact beside

/-- At a position, either one of the earlier threads accepts in the first search, or
the searches settle on the same match and their threads stay beside each other. -/
theorem settle_beside (settled : program.Settled cursor old)
    (began : BeganBefore count old.threads.toList) (beside : Beside count old first second)
    (passed : Nat) (best : Option Hit) :
    let settledFirst :=
      program.settle cursor (passed + count) (best.map (Hit.shifted count)) first
    let settledSecond := program.settle cursor passed best second
    (∃ hit, settledFirst.2 = some hit ∧ hit.skipped < count ∧
      BeganBefore count settledFirst.1) ∨
    (settledFirst.2 = settledSecond.2.map (Hit.shifted count) ∧
      ∃ late, settledFirst.1 = old.threads.toList ++ late ∧
        Late count (· ∈ old.threads.toList.map Prod.fst) late settledSecond.1) := by
  obtain ⟨late, listed, beneath⟩ := (beside.begun settled passed best).threads
  simp only [settle, listed, untilAccept_append]
  cases accepts : old.threads.toList.find? accepting with
  | some one =>
      left
      simp only [Option.isSome_some, if_true, untilAccept_eq, accepts]
      exact ⟨_, rfl, began one (List.mem_of_find?_eq_some accepts),
        fun other member => began other (List.takeWhile_subset _ member)⟩
  | none =>
      right
      have noneAccepts : Instruction.accept ∉ old.threads.toList.map Prod.fst := by
        intro member
        obtain ⟨one, inOld, isAccept⟩ := List.mem_map.mp member
        have never := List.find?_eq_none.mp accepts one inOld
        simp [accepting, isAccept] at never
      obtain ⟨others, same⟩ := beneath.untilAccept noneAccepts
      simp only [Option.isSome_none, Bool.false_eq_true, if_false]
      refine ⟨?_, _, rfl, others⟩
      rw [same]
      cases (untilAccept (program.begun cursor passed best second).threads.toList).2 with
      | none => simp
      | some thread => simp [Hit.of_shifted]

theorem Late.eq_nil_of_taken_none {Stand : Type} {taken : Stand → Prop}
    {all : List (Stand × Thread)} (beneath : Late count taken [] all)
    (noneTaken : ∀ stand, ¬ taken stand) : all = [] := by
  cases beneath with
  | nil => rfl
  | without overtaken _ => exact absurd overtaken (noneTaken _)

/-- A search that began earlier finds a match that begins earlier, or the match of
the search beside it. -/
theorem searchFrom_beside (passed : Nat) (best : Option Hit) {hit : Hit}
    (settled : program.Settled ⟨offset, previous, rest⟩ old)
    (began : BeganBefore count old.threads.toList) (beside : Beside count old first second)
    (found : program.searchFrom offset previous (passed + count) first
      (best.map (Hit.shifted count)) rest = some hit) :
    hit.skipped < count ∨
      ∃ one, program.searchFrom offset previous passed second best rest = some one ∧
        hit = one.shifted count := by
  induction rest generalizing offset previous passed old first second best with
  | nil =>
      obtain ⟨other, isOther, early, beganToo⟩ | ⟨same, -⟩ :=
        settle_beside settled began beside passed best
      · exact .inl (searchFrom_of_settle isOther beganToo early found)
      · rw [searchFrom_nil, same] at found
        obtain ⟨one, isOne, rfl⟩ := Option.map_eq_some_iff.mp found
        exact .inr ⟨one, searchFrom_nil.trans isOne, rfl⟩
  | cons c rest ih =>
      obtain ⟨other, isOther, early, beganToo⟩ | ⟨same, late, listed, beneath⟩ :=
        settle_beside settled began beside passed best
      · exact .inl (searchFrom_of_settle isOther beganToo early found)
      · simp only [searchFrom_cons] at found ⊢
        rw [same, listed] at found
        generalize program.settle ⟨offset, previous, c :: rest⟩ passed best second = settledSecond
          at found beneath ⊢
        obtain ⟨all, result⟩ := settledSecond
        split
        next stops =>
          -- The second search ends; in the first one only earlier threads may go on.
          obtain ⟨isSome, isEmpty⟩ := Bool.and_eq_true_iff.mp stops
          obtain ⟨one, rfl⟩ := Option.isSome_iff_exists.mp isSome
          obtain rfl := List.isEmpty_iff.mp isEmpty
          cases beneath
          rw [List.append_nil] at found
          split at found
          · exact .inr ⟨one, rfl, (Option.some.inj found).symm⟩
          · obtain ⟨other, isOther, outcome⟩ := searchFrom_of_best (beganBefore_step began)
            obtain rfl : other = hit := Option.some.inj (isOther.symm.trans found)
            exact outcome.symm.imp id fun same => ⟨one, rfl, same⟩
        next goesOn =>
          have goesOnToo : ((result.map (Hit.shifted count)).isSome &&
              (old.threads.toList ++ late).isEmpty) = false := by
            by_contra stops
            obtain ⟨isSome, isEmpty⟩ := Bool.and_eq_true_iff.mp (Bool.not_eq_false _ ▸ stops)
            obtain ⟨noOld, rfl⟩ := List.append_eq_nil_iff.mp (List.isEmpty_iff.mp isEmpty)
            have none := beneath.eq_nil_of_taken_none (by simp [noOld])
            simp_all
          rw [goesOnToo, if_neg Bool.false_ne_true, Nat.add_right_comm] at found
          exact ih _ _ settled_step (beganBefore_step began) (beside_step beneath) found

/-- A search from where the match of another search begins finds this match. -/
theorem searchFrom_restarts {hit : Hit} {distance : Nat}
    (settled : program.Settled ⟨offset, previous, rest⟩ frontier)
    (began : BeganBefore passed frontier.threads.toList)
    (found : program.searchFrom offset previous passed frontier none rest = some hit)
    (ahead : hit.skipped = passed + distance) :
    program.search? ((Cursor.mk offset previous rest).advance distance) =
      some { hit with skipped := 0 } := by
  induction distance generalizing offset previous passed frontier rest with
  -- Here the match begins: the threads so far are the old ones of this search.
  | zero =>
      rcases searchFrom_beside 0 none settled began
        (beside_self passed frontier) (by rw [Nat.zero_add]; exact found)
        with less | ⟨one, isOne, rfl⟩
      · omega
      · have noSkip : one.skipped = 0 := by
          simp only [Hit.shifted] at ahead
          omega
        refine isOne.trans ?_
        simp [Hit.shifted, ← noSkip]
  | succ distance ih =>
      obtain ⟨c, others, threads, rfl, beganToo, foundThere⟩ :=
        searchFrom_goesOn began found (by omega)
      exact ih settled_step (beganBefore_step beganToo) foundThere (by omega)

/-- The leftmost match is found again from where it begins. -/
theorem search?_restart {hit : Hit} (found : program.search? cursor = some hit) :
    program.search? (cursor.advance hit.skipped) = some { hit with skipped := 0 } :=
  searchFrom_restarts settled_empty (by intro one member; cases member) found
    (Nat.zero_add _).symm

end Program

end CallMarkup
