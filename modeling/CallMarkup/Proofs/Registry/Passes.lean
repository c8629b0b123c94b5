import CallMarkup.Proofs.Registry.Pass

/-!
# Passes in a row

A collective substitution makes passes as long as each one changes the text.
`exists_last_pass` takes such a run apart, failed or not: some passes that
changed the text, and one more that failed or after which the run ended.
-/

namespace CallMarkup

variable {State Context : Type}

/-- The count after one more pass. -/
def Progression.after (progression : Progression) (last : PassResult) : Progression :=
  ⟨progression.passes + 1, progression.replacements + last.claims.length⟩

namespace Registry

variable {registry : Registry State Context} {options : SubstitutionOptions}
  {context : Option Context} {text : Text} {state : State} {further : Nat}
  {progression : Progression}

/-- So many passes, each of which changes the text, lead from one text and state
to another. -/
inductive Changes (registry : Registry State Context) (policy : MalformedPolicy)
    (context : Option Context) : Nat → Text → State → Text → State → Prop
  | none (text : Text) (state : State) : Changes registry policy context 0 text state text state
  | pass {count : Nat} {text target : Text} {state between final : State} {last : PassResult}
      (passed : registry.pass policy text context state = .ok last between)
      (changed : last.text ≠ text)
      (later : Changes registry policy context count last.text between target final) :
      Changes registry policy context (count + 1) text state target final

theorem passes_of_error {located : LocatedFault} {final : State}
    (failed : registry.pass options.malformed text context state = .error located final) :
    registry.passes options context further progression text state = .error located final := by
  rw [passes.eq_def]
  show EStateM.bind _ _ state = _
  simp only [EStateM.bind, failed]

/-- Why a run of passes ends after a pass over a text, when so many more are
allowed. -/
inductive Ends (options : SubstitutionOptions) (further : Nat) (text : Text) (last : PassResult) :
    Convergence → Prop
  | singlePass (once : options.recursive = false) : Ends options further text last .singlePass
  | fixedPoint (again : options.recursive = true) (unchanged : last.text = text) :
      Ends options further text last .fixedPoint
  | boundReached (again : options.recursive = true) (changed : last.text ≠ text)
      (atBound : further = 0) : Ends options further text last .boundReached

theorem passes_eq_of_pass (further : Nat) (progression : Progression) {last : PassResult}
    {between : State}
    (passed : registry.pass options.malformed text context state = .ok last between) :
    registry.passes options context further progression text state =
      if options.recursive = false then .ok ⟨progression.after last, last, .singlePass⟩ between
      else if last.text = text then .ok ⟨progression.after last, last, .fixedPoint⟩ between
      else
        match further with
        | 0 => .ok ⟨progression.after last, last, .boundReached⟩ between
        | fewer + 1 =>
          registry.passes options context fewer (progression.after last) last.text between := by
  rw [passes.eq_def]
  show EStateM.bind _ _ state = _
  simp only [EStateM.bind, passed]
  split
  · rfl
  · split
    · rfl
    · cases further <;> rfl

/-- After a pass there is a reason to end, or else to go on. -/
theorem ends_or_goesOn (options : SubstitutionOptions) (further : Nat) (text : Text)
    (last : PassResult) :
    (∃ convergence, Ends options further text last convergence) ∨
      (options.recursive = true ∧ last.text ≠ text ∧ ∃ fewer, further = fewer + 1) := by
  cases recursive : options.recursive with
  | false => exact .inl ⟨.singlePass, .singlePass recursive⟩
  | true =>
      by_cases unchanged : last.text = text
      · exact .inl ⟨.fixedPoint, .fixedPoint recursive unchanged⟩
      · cases further with
        | zero => exact .inl ⟨.boundReached, .boundReached recursive unchanged rfl⟩
        | succ fewer => exact .inr ⟨rfl, unchanged, fewer, rfl⟩

theorem passes_of_ends {last : PassResult} {convergence : Convergence} {between : State}
    (ends : Ends options further text last convergence)
    (passed : registry.pass options.malformed text context state = .ok last between) :
    registry.passes options context further progression text state =
      .ok ⟨progression.after last, last, convergence⟩ between := by
  rw [passes_eq_of_pass further progression passed]
  cases ends with
  | singlePass once => rw [if_pos once]
  | fixedPoint again unchanged => rw [if_neg (by simp [again]), if_pos unchanged]
  | boundReached again changed atBound =>
      subst atBound
      rw [if_neg (by simp [again]), if_neg changed]

theorem passes_of_changed {last : PassResult} {fewer : Nat} {between : State}
    (recursive : options.recursive = true) (changed : last.text ≠ text)
    (passed : registry.pass options.malformed text context state = .ok last between) :
    registry.passes options context (fewer + 1) progression text state =
      registry.passes options context fewer (progression.after last) last.text between := by
  rw [passes_eq_of_pass (fewer + 1) progression passed, if_neg (by simp [recursive]),
    if_neg changed]

/-- After a pass the loop ends, or it goes on with the text of that pass. -/
theorem passes_of_ok (further : Nat) (progression : Progression) {last : PassResult}
    {between : State}
    (passed : registry.pass options.malformed text context state = .ok last between) :
    (∃ convergence, Ends options further text last convergence ∧
      registry.passes options context further progression text state =
        .ok ⟨progression.after last, last, convergence⟩ between) ∨
    (last.text ≠ text ∧ ∃ fewer, further = fewer + 1 ∧
      registry.passes options context further progression text state =
        registry.passes options context fewer (progression.after last) last.text between) := by
  obtain ⟨convergence, ends⟩ | ⟨recursive, changed, fewer, rfl⟩ :=
    ends_or_goesOn options further text last
  · exact .inl ⟨convergence, ends, passes_of_ends ends passed⟩
  · exact .inr ⟨changed, fewer, rfl, passes_of_changed recursive changed passed⟩

/-- Every run of passes consists of some that change the text and of a last one,
which fails or after which the run ends. -/
theorem exists_last_pass (registry : Registry State Context) (options : SubstitutionOptions)
    (context : Option Context) (further : Nat) (progression : Progression) (text : Text)
    (state : State) :
    ∃ count target between,
      Changes registry options.malformed context count text state target between ∧
      count ≤ further ∧
      ((∃ located final,
          registry.pass options.malformed target context between = .error located final ∧
          registry.passes options context further progression text state =
            .error located final) ∨
        ∃ result final,
          registry.pass options.malformed target context between = .ok result.last final ∧
          registry.passes options context further progression text state = .ok result final ∧
          result.progression.passes = progression.passes + count + 1 ∧
          Ends options (further - count) target result.last result.convergence) := by
  induction further using Nat.strongRecOn generalizing progression text state with
  | ind further ih =>
      cases passed : registry.pass options.malformed text context state with
      | error located final =>
          exact ⟨0, text, state, .none text state, Nat.zero_le further,
            .inl ⟨located, final, passed, passes_of_error passed⟩⟩
      | ok last between =>
          obtain ⟨convergence, ends, ran⟩ | ⟨changed, fewer, rfl, ran⟩ :=
            passes_of_ok further progression passed
          · exact ⟨0, text, state, .none text state, Nat.zero_le further,
              .inr ⟨_, between, passed, ran, rfl, ends⟩⟩
          · obtain ⟨count, target, reached, changes, bounded, outcome⟩ :=
              ih fewer (Nat.lt_succ_self fewer) (progression.after last) last.text between
            refine ⟨count + 1, target, reached, .pass passed changed changes, by omega, ?_⟩
            rw [ran, Nat.add_sub_add_right]
            obtain failed | ⟨result, final, lastPass, ended, counted, ends⟩ := outcome
            · exact .inl failed
            · refine .inr ⟨result, final, lastPass, ended, ?_, ends⟩
              rw [counted]
              simp only [Progression.after]
              omega

end Registry

end CallMarkup
