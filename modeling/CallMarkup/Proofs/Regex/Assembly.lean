import CallMarkup.Proofs.Regex.Language

/-!
# Assembled programs

Each part of a program leads from its entry to the place that it was given to go on
from, in every program that has the instructions of the part; what is written later
leaves these as they are.  So a program assembled from an expression accepts just what
the expression spells, with the same marks, and a search finds a match exactly if the
expression spells one: `Regex.spells_of_search?` and `Regex.search?_isSome_of_spells`.
-/

namespace CallMarkup

/-- A program has the instructions of an array from a place on. -/
def Program.Holds (program : Program) (first : Nat) (instructions : Array Instruction) : Prop :=
  ∀ place, first ≤ place → place < instructions.size →
    program.instructions[place]? = instructions[place]?

namespace Assembly

/-- What is written later leaves earlier instructions as they are. -/
structure Keeps (before after : Array Instruction) : Prop where
  size : before.size ≤ after.size
  same : ∀ place < before.size, after[place]? = before[place]?

variable {before between after : Array Instruction} {program : Program} {first : Nat}
  {part other : Nat → Assembly Nat} {passage second : Passage}

theorem Keeps.refl (instructions : Array Instruction) : Keeps instructions instructions :=
  ⟨Nat.le_refl _, fun _ _ => rfl⟩

theorem Keeps.trans (one : Keeps before between) (two : Keeps between after) :
    Keeps before after :=
  ⟨Nat.le_trans one.size two.size, fun place inside =>
    (two.same place (Nat.lt_of_lt_of_le inside one.size)).trans (one.same place inside)⟩

theorem Keeps.push (instructions : Array Instruction) (instruction : Instruction) :
    Keeps instructions (instructions.push instruction) :=
  ⟨by simp, fun place inside => by rw [Array.getElem?_push_lt inside, Array.getElem?_eq_getElem]⟩

theorem Keeps.holds (keeps : Keeps between after) (holds : program.Holds first after) :
    program.Holds first between :=
  fun place here inside => (holds place here (Nat.lt_of_lt_of_le inside keeps.size)).trans
    (keeps.same place inside)

/-- The instructions from a later place on. -/
theorem Keeps.holds_later (keeps : Keeps before between)
    (holds : program.Holds before.size after) : program.Holds between.size after :=
  fun place here inside => holds place (Nat.le_trans keeps.size here) inside

/-- A part, given any place to go on from, adds instructions that lead there on a
passage, in every program that has them. -/
structure Realizes (part : Nat → Assembly Nat) (passage : Passage) : Prop where
  keeps : ∀ next before, Keeps before ((part next).run before).2
  leads : ∀ {program : Program} {next before},
    program.Holds before.size ((part next).run before).2 →
    program.Leads ((part next).run before).1 passage next

theorem Realizes.pass : Realizes (fun next => pure next) .stay where
  keeps _ before := .refl before
  leads _ := .refl _ _

theorem Realizes.andThen (begins : Realizes part passage) (ends : Realizes other second) :
    Realizes (fun next => other next >>= part) (passage.andThen second) where
  keeps next before := (ends.keeps next before).trans (begins.keeps _ _)
  leads {_ next before} holds :=
    (begins.leads ((ends.keeps next before).holds_later holds)).trans
      (ends.leads ((begins.keeps _ _).holds holds))

theorem getElem?_of_holds_push {instruction : Instruction}
    (holds : program.Holds first (before.push instruction)) (here : first ≤ before.size) :
    program.instructions[before.size]? = some instruction :=
  (holds before.size here (by simp)).trans Array.getElem?_push_size

/-- One instruction. -/
theorem Realizes.emit {instruction : Nat → Instruction}
    (leads : ∀ {program : Program} {place next},
      program.instructions[place]? = some (instruction next) → program.Leads place passage next) :
    Realizes (fun next => Assembly.emit (instruction next)) passage where
  keeps _ before := .push before _
  leads holds := leads (getElem?_of_holds_push holds (Nat.le_refl _))

theorem Realizes.either (preferred : Realizes part passage) (rest : Realizes other second) :
    Realizes (fun next => do
      let first ← part next
      Assembly.emit (.choose first (← other next))) (passage.either second) where
  keeps next before := ((preferred.keeps next before).trans (rest.keeps next _)).trans (.push _ _)
  leads {_ next before} holds := by
    have keepsFirst := preferred.keeps next before
    have keepsRest := rest.keeps next ((part next).run before).2
    have holdsBoth := (Keeps.push _ _).holds holds
    exact .choose (getElem?_of_holds_push holds (keepsFirst.trans keepsRest).size)
      (preferred.leads (keepsRest.holds holdsBoth)) (rest.leads (keepsFirst.holds_later holdsBoth))

theorem Realizes.copies (round : Realizes part passage) (count : Nat) :
    Realizes (Assembly.copies part count) (passage.rounds count) := by
  induction count with
  | zero => exact .pass
  | succ count ih =>
      rw [Passage.rounds_succ]
      exact ih.andThen round

/-- Rounds that may be left between any two of them.  What comes after the last one
leads out as well, in its own way. -/
theorem upTo_leads (round : Realizes part passage) (greedy : Bool) (beyond count next : Nat)
    (before : Array Instruction) :
    Keeps before ((upTo greedy beyond part count next).run before).2 ∧
      ∀ {program : Program} {tail : Passage},
        program.Holds before.size ((upTo greedy beyond part count next).run before).2 →
        program.Leads next tail beyond →
        program.Leads ((upTo greedy beyond part count next).run before).1
          (passage.upTo tail count) beyond := by
  induction count generalizing next before with
  | zero => exact ⟨.refl before, fun _ ends => ends⟩
  | succ count ih =>
      obtain ⟨keepsLater, leadsLater⟩ := ih (((part next).run before).2.size)
        (((part next).run before).2.push
          (.roundOr greedy ((part next).run before).1 beyond))
      have keepsRound := round.keeps next before
      have keepsChoice := Keeps.push ((part next).run before).2
        (.roundOr greedy ((part next).run before).1 beyond)
      refine ⟨(keepsRound.trans keepsChoice).trans keepsLater, fun holds ends => ?_⟩
      have holdsChoice := keepsLater.holds holds
      have leadsRound := (round.leads (keepsChoice.holds holdsChoice)).trans ends
      exact leadsLater ((keepsRound.trans keepsChoice).holds_later holds)
        (.roundOr (getElem?_of_holds_push holdsChoice keepsRound.size) leadsRound (.refl _ _))

theorem Realizes.upTo (round : Realizes part passage) (greedy : Bool) (count : Nat) :
    Realizes (fun next => Assembly.upTo greedy next part count next)
      (passage.upTo .stay count) where
  keeps next before := (upTo_leads round greedy next count next before).1
  leads {program next before} holds :=
    (upTo_leads round greedy next count next before).2 holds (.refl program next)

theorem Keeps.set (keeps : Keeps (before.push .accept) after) (instruction : Instruction) :
    Keeps before (after.setIfInBounds before.size instruction) := by
  have size := keeps.size
  rw [Array.size_push] at size
  refine ⟨by simpa using Nat.le_of_succ_le size, fun place inside => ?_⟩
  rw [Array.getElem?_setIfInBounds_ne (Nat.ne_of_gt inside),
    keeps.same place (by simpa using Nat.lt_succ_of_lt inside), Array.getElem?_push_lt inside,
    Array.getElem?_eq_getElem]

/-- An instruction that is written last stands at the place kept free for it. -/
theorem Keeps.holds_set {instruction : Instruction} (keeps : Keeps (before.push .accept) after)
    (holds : program.Holds before.size (after.setIfInBounds before.size instruction)) :
    program.instructions[before.size]? = some instruction ∧
      program.Holds (before.push .accept).size after := by
  have size := keeps.size
  rw [Array.size_push] at size
  constructor
  · rw [holds _ (Nat.le_refl _) (by rw [Array.size_setIfInBounds]; exact size),
      Array.getElem?_setIfInBounds_self_of_lt size]
  · intro place later inside
    rw [Array.size_push] at later
    rw [holds place (Nat.le_of_succ_le later) (by simpa using inside),
      Array.getElem?_setIfInBounds_ne (by omega)]

/-- The choice of a loop and the round that it leads to. -/
theorem loop_leads (round : Realizes part passage) (greedy : Bool) (beyond : Nat)
    (before : Array Instruction) :
    Keeps before ((loop greedy beyond part).run before).2 ∧
      ∀ {program : Program},
        program.Holds before.size ((loop greedy beyond part).run before).2 →
        program.Leads ((loop greedy beyond part).run before).1.1 (passage.within ⟨0, none⟩) beyond ∧
        program.Leads ((loop greedy beyond part).run before).1.2
          (passage.andThen (passage.within ⟨0, none⟩)) beyond := by
  have keeps := round.keeps before.size (before.push .accept)
  refine ⟨keeps.set _, fun holds => ?_⟩
  obtain ⟨found, holdsRound⟩ := keeps.holds_set holds
  have leadsBack := round.leads holdsRound
  exact ⟨.loop found leadsBack, leadsBack.trans (.loop found leadsBack)⟩

theorem Realizes.rounds (round : Realizes part passage) (consumes : Bool) (bounds : Bounds)
    (greedy : Bool) :
    Realizes (Assembly.rounds consumes bounds greedy part) (passage.within bounds) := by
  obtain ⟨least, most⟩ := bounds
  cases most with
  | some most =>
      rw [← Passage.rounds_andThen_upTo]
      exact (round.copies least).andThen (round.upTo greedy (most - least))
  | none =>
      cases least with
      | zero =>
          cases consumes with
          | true =>
              exact ⟨fun next before => (loop_leads round greedy next before).1,
                fun holds => ((loop_leads round greedy _ _).2 holds).1⟩
          | false =>
              refine ⟨fun next before => (loop_leads round greedy next before).1.trans (.push _ _),
                fun {program next before} holds => ?_⟩
              obtain ⟨keeps, leads⟩ := loop_leads round greedy next before
              rw [← Passage.within_zero_eq]
              exact .roundOr (getElem?_of_holds_push holds keeps.size)
                (leads ((Keeps.push _ _).holds holds)).2 (.refl program next)
      | succ least =>
          have loops : Realizes (fun next => Prod.snd <$> loop greedy next part)
              (passage.andThen (passage.within ⟨0, none⟩)) :=
            ⟨fun next before => (loop_leads round greedy next before).1,
              fun holds => ((loop_leads round greedy _ _).2 holds).2⟩
          rw [← Passage.rounds_andThen_within, Passage.rounds_succ, Passage.andThen_assoc]
          exact (round.copies least).andThen loops

end Assembly

namespace Regex

open Assembly (Realizes)

variable {expr : Regex} {cursor start stop : Cursor} {marks : List Mark} {hit : Hit}

theorem spells_literal_cons (c : Char) (chars : Text) :
    (literal (c :: chars)).Spells = (Passage.read (.single c)).andThen (literal chars).Spells := by
  funext start stop marks
  refine propext ⟨?_, ?_⟩
  · rintro ⟨⟨rest, whole⟩, rfl, rfl⟩
    refine ⟨start.next, [], [], ⟨c, _, whole.symm, CharSet.contains_single.mpr rfl, rfl, rfl⟩,
      ⟨?_, rfl, rfl⟩, rfl⟩
    rw [Cursor.next_rest, ← whole]
    exact List.prefix_append chars rest
  · rintro ⟨_, _, _, ⟨first, rest, ahead, same, rfl, rfl⟩, ⟨begins, rfl, rfl⟩, rfl⟩
    obtain rfl := CharSet.contains_single.mp same
    refine ⟨?_, rfl, rfl⟩
    rw [Cursor.next_rest, ahead] at begins
    rw [ahead]
    exact List.cons_prefix_cons.mpr ⟨rfl, begins⟩

theorem realizes_literal (chars : Text) :
    Realizes (literal chars).assemble (literal chars).Spells := by
  induction chars with
  | nil =>
      have stays : (literal []).Spells = .stay := by
        funext start stop marks
        simp [Spells, Passage.stay, Cursor.advance]
      rw [stays]
      exact .pass
  | cons c chars ih =>
      have first : (literal (c :: chars)).assemble =
          fun next => (literal chars).assemble next >>= fun next =>
            Assembly.emit (.read (.single c) next) := by
        funext next
        exact List.foldrM_cons
      rw [spells_literal_cons, first]
      exact Realizes.andThen (.emit .read) ih

/-- The instructions of an expression do what the expression spells. -/
theorem realizes_assemble (expr : Regex) : Realizes expr.assemble expr.Spells := by
  induction expr with
  | empty => exact .pass
  | literal chars => exact realizes_literal chars
  | set accepts unicode => exact .emit .read
  | assertion condition => exact .emit .test
  | group index inner ih => exact ((Realizes.emit .mark).andThen ih).andThen (.emit .mark)
  | repeated inner bounds greedy ih => exact ih.rounds inner.consumes bounds greedy
  | seq first rest ihFirst ihRest => exact ihFirst.andThen ihRest
  | alt first rest ihFirst ihRest => exact ihFirst.either ihRest

/-- A program accepts just what its expression spells. -/
theorem acceptsAfter_program_iff (expr : Regex) :
    expr.program.AcceptsAfter expr.program.entry start stop marks ↔
      expr.Spells start stop marks := by
  have realizes := expr.realizes_assemble
  have leads : expr.program.Leads expr.program.entry expr.Spells 0 :=
    realizes.leads (show expr.program.Holds #[Instruction.accept].size _ from fun _ _ _ => rfl)
  have ending : expr.program.instructions[0]? = some .accept :=
    (realizes.keeps 0 #[.accept]).same 0 Nat.zero_lt_one
  constructor
  · rintro ⟨steps, accepts⟩
    obtain ⟨between, one, later, left, passes, -, ends, rfl⟩ := leads.passes accepts
    -- At the last instruction nothing moves.
    obtain ⟨final, runs, -⟩ := ends
    cases runs with
    | stay => exact passes
    | move moves => cases moves <;> simp_all
  · intro passes
    exact leads.accepts passes ⟨0, 0, .stay 0 stop, ending⟩

/-- A search finds what the expression spells. -/
theorem spells_of_search? (found : expr.program.search? cursor = some hit) :
    expr.Spells (cursor.advance hit.skipped) ((cursor.advance hit.skipped).advance hit.length)
      hit.marks :=
  (acceptsAfter_program_iff expr).mp (Program.exists_runs_of_search? found)

/-- What the expression spells at a position or later does not escape a search. -/
theorem search?_isSome_of_spells {distance : Nat}
    (spells : expr.Spells (cursor.advance distance) stop marks) :
    (expr.program.search? cursor).isSome :=
  Program.search?_isSome_of_runs ((acceptsAfter_program_iff expr).mpr spells)

end Regex

end CallMarkup
