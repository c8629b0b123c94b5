import CallMarkup.Proofs.Registry.Termination
import CallMarkup.Proofs.Registry.Watching

/-!
# The account of a substitution

The result of a collective substitution tells how many passes were made, how
many replacements they contain and why no pass followed.  All of this can be
read off the passes themselves: the texts between them, the states of the
callbacks, and what each pass replaced.
-/

namespace CallMarkup

variable {State Context : Type}

namespace Registry

/-- So many passes from a text and a state on, each over the text and with the
state that the one before it has left. -/
structure PassTrace (registry : Registry State Context) (policy : MalformedPolicy)
    (context : Option Context) (text : Text) (state : State) (count : Nat) where
  texts : Nat → Text
  states : Nat → State
  results : Nat → PassResult
  starts : texts 0 = text
  starts_state : states 0 = state
  passes : ∀ index < count,
    registry.pass policy (texts index) context (states index) =
      .ok (results index) (states (index + 1))
  writes : ∀ index < count, (results index).text = texts (index + 1)

namespace PassTrace

variable {registry : Registry State Context} {policy : MalformedPolicy} {context : Option Context}
  {text : Text} {state between : State} {first : PassResult} {count : Nat}

/-- The number of replacements in all passes. -/
def replacements (trace : PassTrace registry policy context text state count) : Nat :=
  ((List.range count).map fun index => (trace.results index).claims.length).sum

def empty (registry : Registry State Context) (policy : MalformedPolicy)
    (context : Option Context) (text : Text) (state : State) :
    PassTrace registry policy context text state 0 where
  texts := fun _ => text
  states := fun _ => state
  results := fun _ => ⟨text, []⟩
  starts := rfl
  starts_state := rfl
  passes := by simp
  writes := by simp

def cons (passed : registry.pass policy text context state = .ok first between)
    (later : PassTrace registry policy context first.text between count) :
    PassTrace registry policy context text state (count + 1) where
  texts := fun
    | 0 => text
    | index + 1 => later.texts index
  states := fun
    | 0 => state
    | index + 1 => later.states index
  results := fun
    | 0 => first
    | index + 1 => later.results index
  starts := rfl
  starts_state := rfl
  passes := by
    intro index bounded
    cases index with
    | zero => simpa [later.starts_state] using passed
    | succ index => exact later.passes index (Nat.lt_of_succ_lt_succ bounded)
  writes := by
    intro index bounded
    cases index with
    | zero => exact later.starts.symm
    | succ index => exact later.writes index (Nat.lt_of_succ_lt_succ bounded)

@[simp]
theorem replacements_cons (passed : registry.pass policy text context state = .ok first between)
    (later : PassTrace registry policy context first.text between count) :
    (cons passed later).replacements = first.claims.length + later.replacements := by
  simp [replacements, List.range_succ_eq_map, cons, Function.comp_def]

def tail (trace : PassTrace registry policy context text state (count + 1)) :
    PassTrace registry policy context (trace.texts 1) (trace.states 1) count where
  texts := fun index => trace.texts (index + 1)
  states := fun index => trace.states (index + 1)
  results := fun index => trace.results (index + 1)
  starts := rfl
  starts_state := rfl
  passes := fun index bounded => trace.passes (index + 1) (by omega)
  writes := fun index bounded => trace.writes (index + 1) (by omega)

theorem first_pass (trace : PassTrace registry policy context text state (count + 1))
    (changes : ∀ index < count + 1, trace.texts index ≠ trace.texts (index + 1)) :
    registry.pass policy text context state = .ok (trace.results 0) (trace.states 1) ∧
      (trace.results 0).text ≠ text := by
  have passed := trace.passes 0 (by omega)
  have changed := changes 0 (by omega)
  rw [← trace.writes 0 (by omega), trace.starts] at changed
  rw [trace.starts, trace.starts_state] at passed
  exact ⟨passed, Ne.symm changed⟩

end PassTrace

variable {registry : Registry State Context} {options : SubstitutionOptions}
  {context : Option Context} {text : Text} {state final : State} {outcome : Substitution}

theorem Ends.singlePass_iff {further : Nat} {last : PassResult} {convergence : Convergence}
    (ends : Ends options further text last convergence) :
    convergence = .singlePass ↔ options.recursive = false := by
  cases ends <;> simp_all

theorem Ends.fixedPoint_iff {further : Nat} {last : PassResult} {convergence : Convergence}
    (ends : Ends options further text last convergence) :
    convergence = .fixedPoint ↔ options.recursive = true ∧ last.text = text := by
  cases ends <;> simp_all

theorem Ends.boundReached_iff {further : Nat} {last : PassResult} {convergence : Convergence}
    (ends : Ends options further text last convergence) :
    convergence = .boundReached ↔
      options.recursive = true ∧ further = 0 ∧ last.text ≠ text := by
  cases ends <;> simp_all

/-- A run of passes that succeeds can be traced, with its counts and the reason
for its end. -/
theorem exists_trace {further : Nat} {progression : Progression} {result : LoopResult}
    (done : registry.passes options context further progression text state = .ok result final) :
    ∃ earlier, ∃ trace : PassTrace registry options.malformed context text state (earlier + 1),
      trace.states (earlier + 1) = final ∧
      trace.results earlier = result.last ∧
      earlier ≤ further ∧
      (∀ index < earlier, trace.texts index ≠ trace.texts (index + 1)) ∧
      (options.recursive = false → earlier = 0) ∧
      result.progression =
        ⟨progression.passes + (earlier + 1), progression.replacements + trace.replacements⟩ ∧
      Ends options (further - earlier) (trace.texts earlier) result.last result.convergence := by
  induction further using Nat.strongRecOn generalizing progression text state with
  | ind further ih =>
      cases passed : registry.pass options.malformed text context state with
      | error located between => simp [passes_of_error passed] at done
      | ok first between =>
          obtain ⟨convergence, ends⟩ | ⟨recursive, changed, fewer, rfl⟩ :=
            ends_or_goesOn options further text first
          · rw [passes_of_ends ends passed] at done
            obtain ⟨rfl, rfl⟩ := EStateM.Result.ok.inj done
            refine ⟨0, .cons passed (.empty ..), rfl, rfl, Nat.zero_le further, by simp,
              fun _ => rfl, ?_, ends⟩
            rw [PassTrace.replacements_cons]
            rfl
          · rw [passes_of_changed recursive changed passed] at done
            obtain ⟨earlier, trace, ended, last, bounded, changes, -, counted, ends⟩ :=
              ih fewer (Nat.lt_succ_self fewer) done
            refine ⟨earlier + 1, .cons passed trace, ended, last, by omega, ?_, ?_, ?_, ?_⟩
            · intro index less
              cases index with
              | zero => exact fun same => changed (trace.starts.symm.trans same.symm)
              | succ index => exact changes index (by omega)
            · simp [recursive]
            · rw [counted, PassTrace.replacements_cons]
              simp only [Progression.after, Progression.mk.injEq]
              omega
            · rw [Nat.add_sub_add_right]
              exact ends

/-- Passes that all change the text go on until no more are allowed. -/
theorem passes_of_trace (recursive : options.recursive = true) {further : Nat}
    (trace : PassTrace registry options.malformed context text state (further + 1))
    (changes : ∀ index < further + 1, trace.texts index ≠ trace.texts (index + 1))
    (progression : Progression) :
    ∃ result, registry.passes options context further progression text state =
        .ok result (trace.states (further + 1)) ∧
      result.progression.passes = progression.passes + (further + 1) ∧
      result.convergence = .boundReached := by
  induction further generalizing text state progression with
  | zero =>
      obtain ⟨passed, changed⟩ := trace.first_pass changes
      exact ⟨_, passes_of_ends (.boundReached recursive changed rfl) passed, rfl, rfl⟩
  | succ further ih =>
      obtain ⟨passed, changed⟩ := trace.first_pass changes
      obtain ⟨result, ran, counted, ended⟩ := ih trace.tail
        (fun index less => changes (index + 1) (by omega)) (progression.after (trace.results 0))
      refine ⟨result, ?_, ?_, ended⟩
      · rw [passes_of_changed recursive changed passed, trace.writes 0 (by omega)]
        exact ran
      · rw [counted]
        simp only [Progression.after]
        omega

/-- Each replacement of a successful run of passes stems from one call. -/
theorem exists_calls_of_passes {further : Nat} {progression : Progression} {result : LoopResult}
    (done : registry.passes options context further progression text state = .ok result final) :
    ∃ calls, progression.replacements + calls.length = result.progression.replacements ∧
      ∀ log, registry.recording.passes options context further progression text (state, log) =
        .ok result (final, log ++ calls) := by
  induction further using Nat.strongRecOn generalizing progression text state with
  | ind further ih =>
      cases passed : registry.pass options.malformed text context state with
      | error located between => simp [passes_of_error passed] at done
      | ok first between =>
          let called := (registry.selected text).map (Selection.invocation context)
          have replaced : called.length = first.claims.length := by
            have spans := congrArg List.length (map_span_claims passed)
            simpa [called] using spans.symm
          obtain ⟨convergence, ends⟩ | ⟨recursive, changed, fewer, rfl⟩ :=
            ends_or_goesOn options further text first
          · rw [passes_of_ends ends passed] at done
            obtain ⟨rfl, rfl⟩ := EStateM.Result.ok.inj done
            exact ⟨called, by simp [Progression.after, replaced], fun log =>
              passes_of_ends ends (recording_pass passed log)⟩
          · rw [passes_of_changed recursive changed passed] at done
            obtain ⟨calls, counted, ran⟩ := ih fewer (Nat.lt_succ_self fewer) done
            refine ⟨called ++ calls, ?_, fun log => ?_⟩
            · rw [← counted, List.length_append, replaced]
              simp only [Progression.after]
              omega
            · rw [passes_of_changed recursive changed (recording_pass passed log), ran,
                List.append_assoc]

theorem exists_calls (done : registry.collectiveSubstitute text context options state =
      .ok outcome final) :
    ∃ calls, calls.length = outcome.replacements ∧
      ∀ log, registry.recording.collectiveSubstitute text context options (state, log) =
        .ok outcome (final, log ++ calls) := by
  obtain ⟨result, ran, faultless, rfl⟩ := collectiveSubstitute_eq_ok done
  obtain ⟨calls, counted, recorded⟩ := exists_calls_of_passes ran
  refine ⟨calls, by simpa using counted, fun log => ?_⟩
  simp only [collectiveSubstitute, recorded, resultFault?_recording, faultless]

theorem resultFault?_of_boundReached {result : LoopResult}
    (ended : result.convergence = .boundReached) :
    registry.resultFault? options result =
      if options.strictConvergence then some (.nonConvergence result.progression.passes)
      else none := by
  simp only [resultFault?, ended]

/-- Reaching the bound on passes is an error exactly if that is asked for, and
then exactly if so many passes have all changed the text. -/
theorem collectiveSubstitute_nonConvergence_iff {passes : Nat} :
    registry.collectiveSubstitute text context options state =
        .error (.nonConvergence passes) final ↔
      options.recursive = true ∧ options.strictConvergence = true ∧
        passes = max 1 options.maxPasses ∧
        ∃ trace : PassTrace registry options.malformed context text state
            (max 1 options.maxPasses),
          (∀ index < max 1 options.maxPasses, trace.texts index ≠ trace.texts (index + 1)) ∧
          trace.states (max 1 options.maxPasses) = final := by
  have bound : max 1 options.maxPasses = options.maxPasses - 1 + 1 := by omega
  rw [bound]
  constructor
  · intro failed
    cases ran : registry.passes options context (options.maxPasses - 1) {} text state with
    | error located between => simp [collectiveSubstitute, ran] at failed
    | ok result between =>
        cases faulty : registry.resultFault? options result with
        | none => simp [collectiveSubstitute, ran, faulty] at failed
        | some fault =>
            simp only [collectiveSubstitute, ran, faulty, EStateM.Result.error.injEq] at failed
            obtain ⟨rfl, rfl⟩ := failed
            have ended : result.convergence = .boundReached := by
              by_contra settled
              exact resultFault?_ne_nonConvergence settled passes faulty
            rw [resultFault?_of_boundReached ended] at faulty
            obtain ⟨earlier, trace, reached, last, bounded, changes, -, counted, ends⟩ :=
              exists_trace ran
            obtain ⟨again, atBound, changed⟩ := ends.boundReached_iff.mp ended
            obtain rfl : earlier = options.maxPasses - 1 := by omega
            split at faulty
            next strict =>
              refine ⟨again, strict, ?_, trace, ?_, reached⟩
              · rw [counted] at faulty
                simpa using faulty.symm
              · intro index less
                by_cases isLast : index = options.maxPasses - 1
                · subst isLast
                  rw [← trace.writes _ (by omega), last]
                  exact Ne.symm changed
                · exact changes index (by omega)
            next => simp at faulty
  · rintro ⟨recursive, strict, rfl, trace, changes, rfl⟩
    obtain ⟨result, ran, counted, ended⟩ := passes_of_trace recursive trace changes {}
    simp only [collectiveSubstitute, ran, resultFault?_of_boundReached ended, if_pos strict,
      counted, Nat.zero_add]

/-- The result of a substitution accounts for its passes: the texts lead from the
input to the result, all passes but the last one change the text, there are as
many replacements as calls, and the last pass tells why none followed.  When it
is the last one allowed and still changes the text, this may be an error. -/
theorem collectiveSubstitute_accounts (registry : Registry State Context) (text : Text)
    (context : Option Context) (options : SubstitutionOptions) (state : State) :
    (∀ outcome final,
      registry.collectiveSubstitute text context options state = .ok outcome final →
      ∃ trace : PassTrace registry options.malformed context text state outcome.passes,
        trace.texts outcome.passes = outcome.text ∧
        trace.states outcome.passes = final ∧
        1 ≤ outcome.passes ∧ outcome.passes ≤ max 1 options.maxPasses ∧
        (∀ index, index + 1 < outcome.passes → trace.texts index ≠ trace.texts (index + 1)) ∧
        outcome.replacements = trace.replacements ∧
        (∃ calls, calls.length = outcome.replacements ∧
          ∀ log, registry.recording.collectiveSubstitute text context options (state, log) =
            .ok outcome (final, log ++ calls)) ∧
        (outcome.convergence = .singlePass ↔ options.recursive = false) ∧
        (options.recursive = false → outcome.passes = 1) ∧
        (outcome.convergence = .fixedPoint ↔ options.recursive = true ∧
          trace.texts outcome.passes = trace.texts (outcome.passes - 1)) ∧
        (outcome.convergence = .boundReached ↔ options.recursive = true ∧
          outcome.passes = max 1 options.maxPasses ∧
          trace.texts outcome.passes ≠ trace.texts (outcome.passes - 1) ∧
          options.strictConvergence = false)) ∧
    ∀ passes final,
      registry.collectiveSubstitute text context options state =
          .error (.nonConvergence passes) final ↔
        options.recursive = true ∧ options.strictConvergence = true ∧
          passes = max 1 options.maxPasses ∧
          ∃ trace : PassTrace registry options.malformed context text state
              (max 1 options.maxPasses),
            (∀ index < max 1 options.maxPasses, trace.texts index ≠ trace.texts (index + 1)) ∧
            trace.states (max 1 options.maxPasses) = final := by
  refine ⟨?_, fun passes final => collectiveSubstitute_nonConvergence_iff⟩
  intro outcome final done
  have calls := exists_calls done
  obtain ⟨result, ran, faultless, rfl⟩ := collectiveSubstitute_eq_ok done
  obtain ⟨earlier, trace, reached, last, bounded, changes, once, counted, ends⟩ :=
    exists_trace ran
  have passes : result.progression.passes = earlier + 1 := by simp [counted]
  have written : trace.texts (earlier + 1) = result.last.text := by
    rw [← trace.writes earlier (by omega), last]
  dsimp only at calls ⊢
  rw [passes] at calls ⊢
  refine ⟨trace, written, reached, by omega, by omega, ?_, by simp [counted], calls,
    ends.singlePass_iff, ?_, ?_, ?_⟩
  · exact fun index less => changes index (by omega)
  · intro notRecursive
    rw [once notRecursive]
  · rw [Nat.add_sub_cancel, written]
    exact ends.fixedPoint_iff
  · rw [Nat.add_sub_cancel, written]
    constructor
    · intro ended
      obtain ⟨again, atBound, changed⟩ := ends.boundReached_iff.mp ended
      rw [resultFault?_of_boundReached ended] at faultless
      exact ⟨again, by omega, changed, by simpa using faultless⟩
    · rintro ⟨again, atBound, changed, -⟩
      exact ends.boundReached_iff.mpr ⟨again, by omega, changed⟩

/-! ## Units that never settle -/

/-- Writes a unit with the number of the calls before. -/
def renumber : Callback Nat Unit := fun _ count =>
  .ok ("\x7b\x7b".toList ++ Nat.toDigits 10 count ++ "\x7d\x7d".toList) (count + 1)

def renumbering : Registry Nat Unit :=
  ofProcessors Grammar.default [Processor.switchboard Grammar.default ['z'] renumber]
    (by simp) (by
      intro processor member _
      rw [List.mem_singleton.mp member]
      rfl)

/-- Two passes over two units, after which the text is still changing.  A bound of
zero allows one pass. -/
theorem renumbering_accounts :
    renumbering.collectiveSubstitute "\x7b\x7ba\x7d\x7d\x7b\x7bb\x7d\x7d".toList none
        { maxPasses := 2 } 0 =
      .ok ⟨"\x7b\x7b2\x7d\x7d\x7b\x7b3\x7d\x7d".toList, 2, 4, .boundReached⟩ 4 ∧
    (∃ calls, calls.length = 4 ∧
      renumbering.recording.collectiveSubstitute
          "\x7b\x7ba\x7d\x7d\x7b\x7bb\x7d\x7d".toList none { maxPasses := 2 } (0, []) =
        .ok ⟨"\x7b\x7b2\x7d\x7d\x7b\x7b3\x7d\x7d".toList, 2, 4, .boundReached⟩ (4, calls)) ∧
    renumbering.collectiveSubstitute "\x7b\x7ba\x7d\x7d".toList none
        { maxPasses := 0, strictConvergence := true } 0 =
      .error (.nonConvergence 1) 1 ∧
    ∃ trace : PassTrace renumbering .propagate none "\x7b\x7ba\x7d\x7d".toList 0 1,
      (∀ index < 1, trace.texts index ≠ trace.texts (index + 1)) ∧ trace.states 1 = 1 := by
  have done : renumbering.collectiveSubstitute
      "\x7b\x7ba\x7d\x7d\x7b\x7bb\x7d\x7d".toList none { maxPasses := 2 } 0 =
        .ok ⟨"\x7b\x7b2\x7d\x7d\x7b\x7b3\x7d\x7d".toList, 2, 4, .boundReached⟩ 4 := by cbv
  have failed : renumbering.collectiveSubstitute "\x7b\x7ba\x7d\x7d".toList none
      { maxPasses := 0, strictConvergence := true } 0 = .error (.nonConvergence 1) 1 := by cbv
  obtain ⟨_, -, -, -, -, -, -, ⟨calls, counted, recorded⟩, -⟩ :=
    (collectiveSubstitute_accounts renumbering _ none _ 0).1 _ _ done
  obtain ⟨-, -, -, trace, changes, reached⟩ :=
    ((collectiveSubstitute_accounts renumbering _ none _ 0).2 _ _).mp failed
  exact ⟨done, ⟨calls, counted, recorded []⟩, failed, trace, changes, reached⟩

end Registry

end CallMarkup
