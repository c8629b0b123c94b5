import CallMarkup.Regex.Search
import Mathlib.Data.Finset.Card
import Mathlib.Tactic.Tauto

/-!
# How a search goes

Following threads ends with nothing pending, so what every visit of a place
preserves holds of the frontier in the end: it is closed under the ways to go on
without reading, and it holds every thread that reads or accepts.  A match that has
been found is replaced only by that of a thread that is still followed.
-/

namespace CallMarkup

namespace Program

/-- The places to which a thread goes on from a place without reading. -/
def branches (program : Program) (cursor : Cursor) (place : Nat) (thread : Thread) :
    List (Nat × Thread) :=
  match program.instructions[place]? with
  | some (.test condition next) => if condition.holds cursor then [(next, thread)] else []
  | some (.mark edge next) => [(next, { thread with marks := ⟨edge, cursor⟩ :: thread.marks })]
  | some (.choose preferred other) => [(preferred, thread), (other, thread)]
  | _ => []

/-- The thread at a place, if it reads or accepts there. -/
def resting (program : Program) (place : Nat) (thread : Thread) : List (Instruction × Thread) :=
  match program.instructions[place]? with
  | some .accept => [(.accept, thread)]
  | some (.read accepts next) => [(.read accepts next, thread)]
  | _ => []

/-- A frontier after a thread has entered a place. -/
def visit (program : Program) (place : Nat) (thread : Thread) (frontier : Frontier) :
    Frontier where
  entered := frontier.entered.insert place
  threads := frontier.threads ++ (program.resting place thread).toArray

variable {program : Program} {cursor : Cursor} {place : Nat} {thread : Thread}
  {pending : List (Nat × Thread)} {frontier : Frontier} {steps : Nat}

theorem length_branches_le (program : Program) (cursor : Cursor) (place : Nat)
    (thread : Thread) : (program.branches cursor place thread).length ≤ 2 := by
  unfold branches
  split
  · split <;> simp
  all_goals simp

theorem branches_eq_nil (outside : program.instructions.size ≤ place) :
    program.branches cursor place thread = [] := by
  simp [branches, Array.getElem?_eq_none outside]

theorem map_fst_branches (one other : Thread) :
    (program.branches cursor place one).map Prod.fst =
      (program.branches cursor place other).map Prod.fst := by
  unfold branches
  split
  · split <;> rfl
  all_goals rfl

theorem map_fst_resting (one other : Thread) :
    (program.resting place one).map Prod.fst = (program.resting place other).map Prod.fst := by
  unfold resting
  split <;> rfl

@[simp]
theorem mem_visit_entered {other : Nat} :
    other ∈ (program.visit place thread frontier).entered ↔
      place = other ∨ other ∈ frontier.entered := by
  simp [visit, Std.HashSet.mem_insert]

@[simp]
theorem visit_threads :
    (program.visit place thread frontier).threads.toList =
      frontier.threads.toList ++ program.resting place thread := by
  simp [visit]

theorem follow_nil : program.follow cursor steps [] frontier = frontier := by
  cases steps <;> simp [follow]

theorem follow_of_entered (entered : place ∈ frontier.entered) :
    program.follow cursor (steps + 1) ((place, thread) :: pending) frontier =
      program.follow cursor steps pending frontier := by
  rw [follow.eq_def]
  simp only [Std.HashSet.contains_iff_mem.mpr entered, if_true]

theorem follow_of_new (new : place ∉ frontier.entered) :
    program.follow cursor (steps + 1) ((place, thread) :: pending) frontier =
      program.follow cursor steps (program.branches cursor place thread ++ pending)
        (program.visit place thread frontier) := by
  rw [follow.eq_def]
  simp only [Std.HashSet.contains_eq_false_iff_not_mem.mpr new, Bool.false_eq_true, if_false,
    branches, visit, resting]
  split <;> rename_i found <;> simp only [found]
  · simp
  · split <;> simp
  · simp
  · simp
  · rename_i instruction _ _ _
    cases instruction <;> simp_all

/-- The places that a frontier has not entered. -/
def unentered (program : Program) (frontier : Frontier) : Finset Nat :=
  (Finset.range program.instructions.size).filter (· ∉ frontier.entered)

/-- Whether the steps are enough to follow all the pending threads. -/
def Suffices (program : Program) (steps : Nat) (pending : List (Nat × Thread))
    (frontier : Frontier) : Prop :=
  pending.length + 2 * (program.unentered frontier).card ≤ steps

theorem suffices_single (place : Nat) (thread : Thread) (frontier : Frontier) :
    program.Suffices program.followSteps [(place, thread)] frontier := by
  have bounded : (program.unentered frontier).card ≤ program.instructions.size := by
    unfold unentered
    simpa using Finset.card_filter_le (Finset.range program.instructions.size)
      (· ∉ frontier.entered)
  simp only [Suffices, followSteps, List.length_singleton]
  omega

theorem Suffices.drop
    (enough : program.Suffices (steps + 1) ((place, thread) :: pending) frontier) :
    program.Suffices steps pending frontier := by
  simp only [Suffices, List.length_cons] at enough ⊢
  omega

theorem Suffices.exists_succ
    (enough : program.Suffices steps ((place, thread) :: pending) frontier) :
    ∃ fewer, steps = fewer + 1 :=
  Nat.exists_eq_add_one.mpr (by simp only [Suffices, List.length_cons] at enough; omega)

theorem Suffices.visit
    (enough : program.Suffices (steps + 1) ((place, thread) :: pending) frontier)
    (new : place ∉ frontier.entered) :
    program.Suffices steps (program.branches cursor place thread ++ pending)
      (program.visit place thread frontier) := by
  have fewer : program.unentered (program.visit place thread frontier) =
      (program.unentered frontier).erase place := by
    ext other
    simp only [unentered, mem_visit_entered, Finset.mem_filter, Finset.mem_erase, not_or,
      ne_comm, ne_eq]
    tauto
  simp only [Suffices, List.length_cons, List.length_append, fewer] at enough ⊢
  -- A place outside the program leads nowhere, so only the place itself is dropped.
  by_cases inside : place < program.instructions.size
  · have among : place ∈ program.unentered frontier := by simp [unentered, inside, new]
    have positive := Finset.card_pos.mpr ⟨place, among⟩
    have length := program.length_branches_le cursor place thread
    rw [Finset.card_erase_of_mem among]
    omega
  · have smaller := Finset.card_erase_le (a := place) (s := program.unentered frontier)
    rw [branches_eq_nil (by omega), List.length_nil]
    omega

/-- What holds of the pending threads and the frontier at every step holds in the
end, when nothing is pending any more. -/
theorem follow_invariant (program : Program) (cursor : Cursor)
    (Invariant : List (Nat × Thread) → Frontier → Prop)
    (entered : ∀ {place thread pending frontier}, place ∈ frontier.entered →
      Invariant ((place, thread) :: pending) frontier → Invariant pending frontier)
    (new : ∀ {place thread pending frontier}, place ∉ frontier.entered →
      Invariant ((place, thread) :: pending) frontier →
      Invariant (program.branches cursor place thread ++ pending)
        (program.visit place thread frontier))
    (enough : program.Suffices steps pending frontier) (holds : Invariant pending frontier) :
    Invariant [] (program.follow cursor steps pending frontier) := by
  induction steps generalizing pending frontier with
  | zero =>
      have none : pending = [] := by
        simp only [Suffices] at enough
        exact List.length_eq_zero_iff.mp (by omega)
      subst none
      rwa [follow_nil]
  | succ steps ih =>
      cases pending with
      | nil => rwa [follow_nil]
      | cons first pending =>
          obtain ⟨place, thread⟩ := first
          by_cases before : place ∈ frontier.entered
          · rw [follow_of_entered before]
            exact ih enough.drop (entered before holds)
          · rw [follow_of_new before]
            exact ih (enough.visit before) (new before holds)

/-- Whether a place has been entered or is pending. -/
def Due (pending : List (Nat × Thread)) (frontier : Frontier) (place : Nat) : Prop :=
  place ∈ frontier.entered ∨ place ∈ pending.map Prod.fst

theorem due_nil {other : Nat} : Due [] frontier other ↔ other ∈ frontier.entered := by
  simp [Due]

theorem Due.drop {other : Nat} (due : Due ((place, thread) :: pending) frontier other)
    (entered : place ∈ frontier.entered) : Due pending frontier other := by
  rcases due with before | waits
  · exact .inl before
  · rcases List.mem_cons.mp waits with same | waits
    · exact .inl (by rw [same]; exact entered)
    · exact .inr waits

theorem Due.visit {other : Nat} (due : Due ((place, thread) :: pending) frontier other) :
    Due (program.branches cursor place thread ++ pending) (program.visit place thread frontier)
      other := by
  rcases due with before | waits
  · exact .inl (mem_visit_entered.mpr (.inr before))
  · rcases List.mem_cons.mp waits with same | waits
    · exact .inl (mem_visit_entered.mpr (.inl same.symm))
    · exact .inr (by rw [List.map_append]; exact List.mem_append_right _ waits)

/-- Every place that has been entered has its thread among those that rest, and
the places that it leads to are due. -/
structure SettledBut (program : Program) (cursor : Cursor) (pending : List (Nat × Thread))
    (frontier : Frontier) : Prop where
  branches : ∀ place ∈ frontier.entered, ∀ thread, ∀ next ∈ program.branches cursor place thread,
    Due pending frontier next.1
  resting : ∀ place ∈ frontier.entered, ∀ thread, ∀ one ∈ program.resting place thread,
    one.1 ∈ frontier.threads.toList.map Prod.fst

/-- Nothing is left to follow. -/
abbrev Settled (program : Program) (cursor : Cursor) (frontier : Frontier) : Prop :=
  program.SettledBut cursor [] frontier

theorem settled_empty : program.Settled cursor {} :=
  ⟨by simp, by simp⟩

theorem SettledBut.drop (settled : program.SettledBut cursor ((place, thread) :: pending) frontier)
    (entered : place ∈ frontier.entered) : program.SettledBut cursor pending frontier where
  branches other inside one next leads :=
    (settled.branches other inside one next leads).drop entered
  resting := settled.resting

theorem SettledBut.visit
    (settled : program.SettledBut cursor ((place, thread) :: pending) frontier) :
    program.SettledBut cursor (program.branches cursor place thread ++ pending)
      (program.visit place thread frontier) where
  branches := by
    intro other inside one next leads
    rcases mem_visit_entered.mp inside with rfl | before
    -- The place is entered with one thread, but it leads to the same places with any.
    · refine .inr ?_
      rw [List.map_append, map_fst_branches thread one]
      exact List.mem_append_left _ (List.mem_map_of_mem leads)
    · exact (settled.branches other before one next leads).visit
  resting := by
    intro other inside one rest rests
    rw [visit_threads, List.map_append, List.mem_append]
    rcases mem_visit_entered.mp inside with rfl | before
    · rw [map_fst_resting thread one]
      exact .inr (List.mem_map_of_mem rests)
    · exact .inl (settled.resting other before one rest rests)

theorem settled_start (settled : program.Settled cursor frontier) (place : Nat)
    (thread : Thread) : program.Settled cursor (program.start cursor place thread frontier) := by
  refine program.follow_invariant cursor (program.SettledBut cursor)
    (fun entered holds => holds.drop entered) (fun _ holds => holds.visit)
    (suffices_single place thread frontier) ⟨?_, settled.resting⟩
  intro other inside one next leads
  exact .inl (due_nil.mp (settled.branches other inside one next leads))

theorem mem_start {other : Nat} (inside : place = other ∨ other ∈ frontier.entered) :
    other ∈ (program.start cursor place thread frontier).entered := by
  have due : Due [(place, thread)] frontier other := by simpa [Due, or_comm, eq_comm] using inside
  exact due_nil.mp (program.follow_invariant cursor
    (fun pending frontier => Due pending frontier other)
    (fun entered holds => holds.drop entered) (fun _ holds => holds.visit)
    (suffices_single place thread frontier) due)

/-- All threads began before so many characters were passed. -/
def BeganBefore (count : Nat) (threads : List (Instruction × Thread)) : Prop :=
  ∀ one ∈ threads, one.2.skipped < count

theorem skipped_of_mem_branches {next : Nat × Thread}
    (leads : next ∈ program.branches cursor place thread) :
    next.2.skipped = thread.skipped := by
  unfold branches at leads
  split at leads
  · split at leads <;> simp_all
  all_goals aesop

theorem skipped_of_mem_resting {one : Instruction × Thread}
    (rests : one ∈ program.resting place thread) : one.2 = thread := by
  unfold resting at rests
  split at rests <;> simp_all

theorem beganBefore_start {count : Nat} (began : BeganBefore count frontier.threads.toList)
    (before : thread.skipped < count) :
    BeganBefore count (program.start cursor place thread frontier).threads.toList := by
  have invariant := program.follow_invariant cursor
    (fun pending frontier =>
      (∀ next ∈ pending, next.2.skipped < count) ∧ BeganBefore count frontier.threads.toList)
    ?_ ?_ (suffices_single place thread frontier) ⟨by simpa using before, began⟩
  · exact invariant.2
  · intro place thread pending frontier _ holds
    exact ⟨fun next waits => holds.1 next (List.mem_cons_of_mem _ waits), holds.2⟩
  · intro place thread pending frontier _ holds
    have first := holds.1 (place, thread) List.mem_cons_self
    constructor
    · intro next waits
      rcases List.mem_append.mp waits with leads | waits
      · rw [skipped_of_mem_branches leads]
        exact first
      · exact holds.1 next (List.mem_cons_of_mem _ waits)
    · intro one rests
      rw [visit_threads] at rests
      rcases List.mem_append.mp rests with before | rests
      · exact holds.2 one before
      · rw [skipped_of_mem_resting rests]
        exact first

/-- Moves one thread on over a character, if it reads this character. -/
def moveOn (program : Program) (c : Char) (later : Cursor) (frontier : Frontier)
    (one : Instruction × Thread) : Frontier :=
  match one.1 with
  | .read accepts next =>
    if accepts.contains c then program.start later next one.2 frontier else frontier
  | _ => frontier

variable {count : Nat} {c : Char} {later : Cursor} {threads : List (Instruction × Thread)}

theorem step_eq_foldl (program : Program) (c : Char) (later : Cursor)
    (threads : List (Instruction × Thread)) :
    program.step c later threads = threads.foldl (program.moveOn c later) {} :=
  rfl

/-- What every start preserves holds after all threads have been moved on. -/
theorem foldl_moveOn_invariant (Invariant : Frontier → Prop)
    (start : ∀ frontier place, ∀ one ∈ threads, Invariant frontier →
      Invariant (program.start later place one.2 frontier))
    (holds : Invariant frontier) :
    Invariant (threads.foldl (program.moveOn c later) frontier) := by
  refine List.foldlRecOn threads _ holds fun frontier holds one member => ?_
  unfold moveOn
  split
  · split
    · exact start frontier _ one member holds
    · exact holds
  · exact holds

theorem settled_step : program.Settled later (program.step c later threads) :=
  foldl_moveOn_invariant (program.Settled later)
    (fun _ place one _ settled => settled_start settled place one.2) settled_empty

theorem beganBefore_step (began : BeganBefore count threads) :
    BeganBefore count (program.step c later threads).threads.toList :=
  foldl_moveOn_invariant (fun frontier => BeganBefore count frontier.threads.toList)
    (fun _ _ one member moved => beganBefore_start moved (began one member))
    (List.forall_mem_nil _)

/-- A thread that reads a character takes the place that it goes on to. -/
theorem mem_step {accepts : CharSet} {next : Nat}
    (reads : .read accepts next ∈ threads.map Prod.fst) (accepted : accepts.contains c = true) :
    next ∈ (program.step c later threads).entered := by
  obtain ⟨⟨instruction, thread⟩, member, rfl⟩ := List.mem_map.mp reads
  obtain ⟨before, after, rfl⟩ := List.append_of_mem member
  rw [step_eq_foldl, List.foldl_append, List.foldl_cons]
  refine foldl_moveOn_invariant (fun frontier => next ∈ frontier.entered)
    (fun _ _ _ _ inside => mem_start (.inr inside)) ?_
  simp only [moveOn, accepted, if_true]
  exact mem_start (.inl rfl)

def accepting (one : Instruction × Thread) : Bool :=
  one.1 = .accept

theorem untilAccept_cons (one : Instruction × Thread) (others : List (Instruction × Thread)) :
    untilAccept (one :: others) =
      if accepting one then ([], some one.2)
      else (one :: (untilAccept others).1, (untilAccept others).2) := by
  obtain ⟨instruction, thread⟩ := one
  cases instruction <;> rfl

theorem untilAccept_eq (threads : List (Instruction × Thread)) :
    untilAccept threads =
      (threads.takeWhile (!accepting ·), (threads.find? accepting).map Prod.snd) := by
  induction threads with
  | nil => rfl
  | cons one others ih =>
      cases accepts : accepting one <;> simp [untilAccept_cons, ih, accepts]

theorem untilAccept_append {earlier late : List (Instruction × Thread)} :
    untilAccept (earlier ++ late) =
      if (earlier.find? accepting).isSome then untilAccept earlier
      else (earlier ++ (untilAccept late).1, (untilAccept late).2) := by
  induction earlier with
  | nil => rfl
  | cons one earlier ih =>
      rw [List.cons_append, untilAccept_cons, untilAccept_cons, List.find?_cons, ih]
      cases accepting one with
      | true => rfl
      | false => simp only [Bool.false_eq_true, if_false]; split <;> rfl

/-- The frontier at a position with the thread of a match that begins there, as
long as there is no match. -/
def begun (program : Program) (cursor : Cursor) (passed : Nat) (best : Option Hit)
    (frontier : Frontier) : Frontier :=
  if best.isNone then program.start cursor program.entry { skipped := passed } frontier
  else frontier

/-- The threads that go on from a position, and the preferred match so far. -/
def settle (program : Program) (cursor : Cursor) (passed : Nat) (best : Option Hit)
    (frontier : Frontier) : List (Instruction × Thread) × Option Hit :=
  let (preferred, accepted) :=
    untilAccept (program.begun cursor passed best frontier).threads.toList
  (preferred, (accepted.map (Hit.of passed)).or best)

variable {offset passed : Nat} {previous : Option Char} {best : Option Hit} {rest : Text}

theorem searchFrom_nil :
    program.searchFrom offset previous passed frontier best [] =
      (program.settle ⟨offset, previous, []⟩ passed best frontier).2 := by
  rw [searchFrom.eq_def]
  rfl

theorem searchFrom_cons :
    program.searchFrom offset previous passed frontier best (c :: rest) =
      let settled := program.settle ⟨offset, previous, c :: rest⟩ passed best frontier
      if settled.2.isSome && settled.1.isEmpty then settled.2
      else
        program.searchFrom (offset + c.utf8Size) (some c) (passed + 1)
          (program.step c ⟨offset + c.utf8Size, some c, rest⟩ settled.1) settled.2 rest := by
  rw [searchFrom.eq_def]
  rfl

theorem beganBefore_settle (best : Option Hit) (began : BeganBefore count
      (program.begun cursor passed best frontier).threads.toList) :
    BeganBefore count (program.settle cursor passed best frontier).1 := by
  simp only [settle, untilAccept_eq]
  exact fun one member => began one (List.takeWhile_subset _ member)

theorem settle_best (best : Option Hit) (began : BeganBefore count
      (program.begun cursor passed best frontier).threads.toList) :
    (program.settle cursor passed best frontier).2 = best ∨
      ∃ hit, (program.settle cursor passed best frontier).2 = some hit ∧ hit.skipped < count := by
  simp only [settle, untilAccept_eq]
  cases found : (program.begun cursor passed best frontier).threads.toList.find? accepting with
  | none => exact .inl rfl
  | some one => exact .inr ⟨_, rfl, began one (List.mem_of_find?_eq_some found)⟩

theorem settle_of_best (program : Program) (cursor : Cursor) (passed : Nat) (hit : Hit)
    (began : BeganBefore count frontier.threads.toList) :
    ∃ next, (program.settle cursor passed (some hit) frontier).2 = some next ∧
      (next = hit ∨ next.skipped < count) := by
  rcases settle_best (some hit) began with same | ⟨next, new, less⟩
  · exact ⟨hit, same, .inl rfl⟩
  · exact ⟨next, new, .inr less⟩

/-- Once there is a match, only a thread that is still followed can replace it. -/
theorem searchFrom_of_best {hit : Hit} (began : BeganBefore count frontier.threads.toList) :
    ∃ result, program.searchFrom offset previous passed frontier (some hit) rest = some result ∧
      (result = hit ∨ result.skipped < count) := by
  induction rest generalizing offset previous passed frontier hit with
  | nil =>
      rw [searchFrom_nil]
      exact program.settle_of_best _ passed hit began
  | cons c rest ih =>
      obtain ⟨next, isNext, preferred⟩ :=
        program.settle_of_best ⟨offset, previous, c :: rest⟩ passed hit began
      simp only [searchFrom_cons, isNext]
      split
      · exact ⟨next, rfl, preferred⟩
      · obtain ⟨result, found, outcome⟩ :=
          ih (beganBefore_step (beganBefore_settle (some hit) began))
        refine ⟨result, found, ?_⟩
        rcases outcome with rfl | earlier
        · exact preferred
        · exact .inr earlier

/-- If a match has been found, and it and all threads that are still followed began
before so many characters were passed, then so does the match in the end. -/
theorem searchFrom_of_settle {other hit : Hit}
    (isOther : (program.settle ⟨offset, previous, rest⟩ passed best frontier).2 = some other)
    (began : BeganBefore count (program.settle ⟨offset, previous, rest⟩ passed best frontier).1)
    (early : other.skipped < count)
    (found : program.searchFrom offset previous passed frontier best rest = some hit) :
    hit.skipped < count := by
  cases rest with
  | nil =>
      rw [searchFrom_nil, isOther] at found
      exact Option.some.inj found ▸ early
  | cons c rest =>
      simp only [searchFrom_cons, isOther] at found
      split at found
      · exact Option.some.inj found ▸ early
      · obtain ⟨result, isResult, outcome⟩ := searchFrom_of_best (beganBefore_step began)
        obtain rfl : result = hit := Option.some.inj (isResult.symm.trans found)
        rcases outcome with rfl | less
        · exact early
        · exact less

theorem beganBefore_begun (program : Program) (cursor : Cursor)
    (began : BeganBefore passed frontier.threads.toList) :
    BeganBefore (passed + 1) (program.begun cursor passed none frontier).threads.toList :=
  beganBefore_start (fun one member => Nat.lt_succ_of_lt (began one member))
    (Nat.lt_succ_self passed)

/-- A search whose match begins later has found nothing here. -/
theorem searchFrom_goesOn {hit : Hit} (began : BeganBefore passed frontier.threads.toList)
    (found : program.searchFrom offset previous passed frontier none rest = some hit)
    (later : passed < hit.skipped) :
    ∃ c others threads, rest = c :: others ∧ BeganBefore (passed + 1) threads ∧
      program.searchFrom (offset + c.utf8Size) (some c) (passed + 1)
        (program.step c ⟨offset + c.utf8Size, some c, others⟩ threads) none others = some hit := by
  have beganToo := program.beganBefore_begun ⟨offset, previous, rest⟩ began
  have noMatch : (program.settle ⟨offset, previous, rest⟩ passed none frontier).2 = none := by
    rcases settle_best none beganToo with none | ⟨other, isOther, early⟩
    · exact none
    · have less := searchFrom_of_settle isOther (beganBefore_settle none beganToo) early found
      omega
  cases rest with
  | nil =>
      rw [searchFrom_nil, noMatch] at found
      exact absurd found (by simp)
  | cons c others =>
      simp only [searchFrom_cons, noMatch] at found
      exact ⟨c, others, _, rfl, beganBefore_settle none beganToo, found⟩

end Program

end CallMarkup
