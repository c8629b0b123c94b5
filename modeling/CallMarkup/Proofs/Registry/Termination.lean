import CallMarkup.Proofs.Document.Resolution
import CallMarkup.Proofs.Registry.FixedPoint

/-!
# Substitution without markup in the outputs

When all processors work on units and their callbacks only return texts without
reserved characters, every replacement takes one opening delimiter away.  So a
text with `n` opening delimiters needs at most `n` passes that change it and one
that does not, and a bound beyond `n` is never reached.
-/

namespace CallMarkup

variable {State Context : Type}

/-- Whenever the callback succeeds, its output says nothing to a reader of
units. -/
def Processor.ReturnsUnreserved (grammar : Grammar) (processor : Processor State Context) : Prop :=
  ∀ invocation state output final,
    processor.callback invocation state = .ok output final → grammar.Unreserved output

namespace Registry

variable {registry : Registry State Context} {policy : MalformedPolicy}
  {options : SubstitutionOptions} {context : Option Context} {text : Text} {state final : State}

/-- All processors work on units, and their outputs contain no markup. -/
structure OnlyResolves (registry : Registry State Context) : Prop where
  delimited : ∀ processor ∈ registry.processors, processor.isDelimited = true
  unreserved : ∀ processor ∈ registry.processors, processor.ReturnsUnreserved registry.grammar

theorem unreserved_of_mem_outputs {grammar : Grammar} {selected : List (Selection State Context)}
    (returns : ∀ selection ∈ selected,
      selection.candidate.processor.ReturnsUnreserved grammar) {outputs : List Text}
    (rans : selected.mapM (Selection.run context) state = .ok outputs final) :
    ∀ output ∈ outputs, grammar.Unreserved output := by
  induction selected generalizing state final outputs with
  | nil =>
      obtain ⟨rfl, -⟩ := pure_eq_ok_iff.mp rans
      simp
  | cons selection later ih =>
      simp only [List.mapM_cons, bind_eq_ok_iff, pure_eq_ok_iff] at rans
      obtain ⟨output, between, ran, others, _, rest, rfl, -⟩ := rans
      have first := returns selection List.mem_cons_self _ _ _ _ (Selection.run_eq_ok_iff.mp ran)
      have following := ih (fun other member => returns other (List.mem_cons_of_mem _ member)) rest
      simpa using ⟨first, following⟩

/-- Every replacement of a pass takes one opening delimiter away. -/
theorem OnlyResolves.openings_of_pass (resolves : registry.OnlyResolves) {last : PassResult}
    (passed : registry.pass policy text context state = .ok last final) :
    registry.grammar.openings last.text + last.claims.length = registry.grammar.openings text := by
  obtain ⟨-, outputs, rans, rfl⟩ := pass_eq_ok_iff.mp passed
  have paired := length_of_mapM rans
  have inRegistry : ∀ selection ∈ registry.selected text,
      selection.candidate.processor ∈ registry.processors := fun selection member =>
    (mem_candidates_iff.mp (mem_candidates_of_mem_selected member)).1
  obtain ⟨sorted, perm, -, rewrites⟩ := rewrites_resultOf registry text paired
  have onUnits : ∀ item ∈ sorted, ∃ unit ∈ registry.grammar.units text, unit.span = item.span := by
    intro item member
    obtain ⟨⟨selection, inSelected, same⟩, -⟩ :=
      exists_of_mem_replacementsOf (perm.mem_iff.mp member)
    rw [← same]
    exact exists_unit_of_mem_candidates (mem_candidates_of_mem_selected inSelected)
      (resolves.delimited _ (inRegistry selection inSelected))
  have unreserved : ∀ item ∈ sorted, registry.grammar.Unreserved item.text := fun item member =>
    unreserved_of_mem_outputs
      (fun selection inSelected => resolves.unreserved _ (inRegistry selection inSelected)) rans
      item.text (exists_of_mem_replacementsOf (perm.mem_iff.mp member)).2
  have counted := (Grammar.resolves_of_rewrites rewrites onUnits unreserved).count_opening
  have written : (sorted.map (·.text)).length =
      (resultOf text (registry.selected text) outputs).claims.length := by
    simp [perm.length_eq, replacementsOf, resultOf]
  rw [written] at counted
  exact counted

theorem text_of_pass_without_claims {last : PassResult}
    (passed : registry.pass policy text context state = .ok last final)
    (nothing : last.claims.length = 0) : last.text = text := by
  obtain ⟨-, outputs, rans, rfl⟩ := pass_eq_ok_iff.mp passed
  obtain ⟨sorted, perm, -, rewrites⟩ := rewrites_resultOf registry text (length_of_mapM rans)
  have empty : sorted = [] := by
    apply List.eq_nil_of_length_eq_zero
    rw [perm.length_eq, ← nothing]
    simp [replacementsOf, resultOf]
  subst empty
  exact rewrites.eq_of_nil.symm

/-- A pass that changes the text leaves fewer opening delimiters. -/
theorem OnlyResolves.openings_lt_of_pass (resolves : registry.OnlyResolves) {last : PassResult}
    (passed : registry.pass policy text context state = .ok last final)
    (changed : last.text ≠ text) :
    registry.grammar.openings last.text < registry.grammar.openings text := by
  have counted := resolves.openings_of_pass passed
  have some : last.claims.length ≠ 0 := fun nothing =>
    changed (text_of_pass_without_claims passed nothing)
  omega

/-- No more passes can change a text than it has opening delimiters. -/
theorem OnlyResolves.openings_of_changes (resolves : registry.OnlyResolves) {count : Nat}
    {target : Text}
    (changes : Changes registry policy context count text state target final) :
    registry.grammar.openings target + count ≤ registry.grammar.openings text := by
  induction changes with
  | none => simp
  | pass passed changed later ih =>
      have fewer := resolves.openings_lt_of_pass passed changed
      omega

theorem resultFault?_ne_nonConvergence {result : LoopResult}
    (settled : result.convergence ≠ .boundReached) (passes : Nat) :
    registry.resultFault? options result ≠ some (.nonConvergence passes) := by
  have reproduction : reproductionFault? result.last ≠ some (.nonConvergence passes) := by
    simp [reproductionFault?]
  have unhandled : registry.unhandledFault? result.last.text ≠ some (.nonConvergence passes) := by
    unfold unhandledFault?
    split <;> simp
  have balance :
      registry.balanceFault? options result.last.text ≠ some (.nonConvergence passes) := by
    unfold balanceFault?
    split <;> simp
  cases ended : result.convergence with
  | boundReached => exact absurd ended settled
  | singlePass => cases policy : options.malformed <;> simp [resultFault?, ended, policy, balance]
  | fixedPoint =>
      cases policy : options.malformed with
      | leaveVerbatim => simp [resultFault?, ended, policy]
      | propagate =>
          simp [resultFault?, ended, policy, Option.orElse_eq_or, Option.or_eq_some_iff,
            reproduction, unhandled, balance]

/-- The number of passes is bounded by the number of opening delimiters, and the
bound on passes is not needed. -/
theorem OnlyResolves.passes_settles (resolves : registry.OnlyResolves)
    (recursive : options.recursive = true)
    (enough : registry.grammar.openings text + 1 ≤ options.maxPasses) (context : Option Context)
    (state : State) :
    ∃ count target between,
      Changes registry options.malformed context count text state target between ∧
      count ≤ registry.grammar.openings text ∧
      ((∃ located final,
          registry.pass options.malformed target context between = .error located final ∧
          registry.passes options context (options.maxPasses - 1) {} text state =
            .error located final) ∨
        ∃ result final,
          registry.pass options.malformed target context between = .ok result.last final ∧
          registry.passes options context (options.maxPasses - 1) {} text state =
            .ok result final ∧
          result.last.text = target ∧ result.progression.passes = count + 1 ∧
          result.convergence = .fixedPoint) := by
  obtain ⟨count, target, between, changes, bounded, outcome⟩ :=
    exists_last_pass registry options context (options.maxPasses - 1) {} text state
  have few := resolves.openings_of_changes changes
  refine ⟨count, target, between, changes, by omega, outcome.imp_right ?_⟩
  rintro ⟨result, final, passed, ran, counted, ends⟩
  have passes : result.progression.passes = count + 1 := by simpa using counted
  generalize ended : result.convergence = convergence at ends
  cases ends with
  | singlePass once => simp [recursive] at once
  | fixedPoint again unchanged => exact ⟨result, final, passed, ran, unchanged, passes, ended⟩
  | boundReached again changed atBound =>
      have fewer := resolves.openings_lt_of_pass passed changed
      omega

/-- A substitution whose bound exceeds the number of opening delimiters never
reaches it.  It makes at most as many passes that change the text as there are
opening delimiters, and one more, which fails or changes nothing. -/
theorem collectiveSubstitute_settles (resolves : registry.OnlyResolves)
    (recursive : options.recursive = true)
    (enough : registry.grammar.openings text + 1 ≤ options.maxPasses) :
    (∀ policy source between last final,
      registry.pass policy source context between = .ok last final → last.text ≠ source →
        registry.grammar.openings last.text < registry.grammar.openings source) ∧
    (∃ count target between,
      Changes registry options.malformed context count text state target between ∧
      count ≤ registry.grammar.openings text ∧
      ((∃ located final,
          registry.pass options.malformed target context between = .error located final ∧
          registry.collectiveSubstitute text context options state =
            .error (.call located) final) ∨
        ∃ last final,
          registry.pass options.malformed target context between = .ok last final ∧
          last.text = target ∧
          ((∃ fault,
              registry.collectiveSubstitute text context options state = .error fault final) ∨
            ∃ replacements, registry.collectiveSubstitute text context options state =
              .ok ⟨target, count + 1, replacements, .fixedPoint⟩ final))) ∧
    (∀ outcome final, registry.collectiveSubstitute text context options state = .ok outcome final →
      outcome.convergence ≠ .boundReached ∧
        outcome.passes ≤ registry.grammar.openings text + 1) ∧
    ∀ passes final, registry.collectiveSubstitute text context options state ≠
      .error (.nonConvergence passes) final := by
  refine ⟨fun policy source between last final passed changed =>
    resolves.openings_lt_of_pass passed changed, ?_⟩
  obtain ⟨count, target, between, changes, few, outcome⟩ :=
    resolves.passes_settles recursive enough context state
  rcases outcome with
    ⟨located, final, failed, ran⟩ | ⟨result, final, passed, ran, kept, counted, ended⟩
  · have whole : registry.collectiveSubstitute text context options state =
        .error (.call located) final := by
      simp only [collectiveSubstitute, ran]
    rw [whole]
    exact ⟨⟨count, target, between, changes, few, .inl ⟨located, final, failed, rfl⟩⟩,
      by simp, by simp⟩
  · cases faulty : registry.resultFault? options result with
    | some fault =>
        have whole : registry.collectiveSubstitute text context options state =
            .error fault final := by
          simp only [collectiveSubstitute, ran, faulty]
        rw [whole]
        refine ⟨⟨count, target, between, changes, few,
          .inr ⟨result.last, final, passed, kept, .inl ⟨fault, rfl⟩⟩⟩, by simp, ?_⟩
        rintro passes other same
        obtain ⟨rfl, -⟩ := EStateM.Result.error.inj same
        exact resultFault?_ne_nonConvergence (by simp [ended]) passes faulty
    | none =>
        have whole : registry.collectiveSubstitute text context options state =
            .ok ⟨target, count + 1, result.progression.replacements, .fixedPoint⟩ final := by
          simp only [collectiveSubstitute, ran, faulty, kept, counted, ended]
        rw [whole]
        refine ⟨⟨count, target, between, changes, few,
          .inr ⟨result.last, final, passed, kept, .inr ⟨_, rfl⟩⟩⟩, ?_, by simp⟩
        rintro outcome other same
        obtain ⟨rfl, -⟩ := EStateM.Result.ok.inj same
        exact ⟨by simp, by simpa using few⟩

/-! ## Nested units among stray delimiters -/

/-- Writes `x` for a few calls and fails from then on. -/
def exhaustible : Callback Nat Unit := fun _ left =>
  match left with
  | 0 => .error "nothing left".toList 0
  | left + 1 => .ok ['x'] left

/-- Writes `x` for every unit. -/
def exhaustibleUnits : Registry Nat Unit :=
  ofProcessors Grammar.default [Processor.switchboard Grammar.default ['z'] exhaustible]
    (by simp) (by
      intro processor member _
      rw [List.mem_singleton.mp member]
      rfl)

theorem exhaustibleUnits_onlyResolves : exhaustibleUnits.OnlyResolves where
  delimited := by
    simp [exhaustibleUnits, Processor.switchboard, Processor.isDelimited, Matcher.isDelimited]
  unreserved := by
    intro processor member invocation left output final returned
    obtain rfl : processor = Processor.switchboard Grammar.default ['z'] exhaustible := by
      simpa [exhaustibleUnits] using member
    cases left with
    | zero => simp [Processor.switchboard, exhaustible] at returned
    | succ left =>
        obtain ⟨rfl, -⟩ := EStateM.Result.ok.inj returned
        refine ⟨by simp, fun c member => ?_⟩
        rw [List.mem_singleton.mp member]
        rfl

/-- Three opening delimiters take two passes with replacements, and the third
pass finds nothing. -/
theorem exhaustibleUnits_settles :
    exhaustibleUnits.OnlyResolves ∧
    exhaustibleUnits.collectiveSubstitute
        "\x7d\x7d\x7b\x7ba\x7b\x7bb\x7d\x7d\x7d\x7d\x7b\x7b".toList none
        { maxPasses := 4, checkBalance := false } 5 =
      .ok ⟨"\x7d\x7dx\x7b\x7b".toList, 3, 2, .fixedPoint⟩ 3 ∧
    3 ≤ exhaustibleUnits.grammar.openings
      "\x7d\x7d\x7b\x7ba\x7b\x7bb\x7d\x7d\x7d\x7d\x7b\x7b".toList + 1 := by
  have enough : exhaustibleUnits.grammar.openings
      "\x7d\x7d\x7b\x7ba\x7b\x7bb\x7d\x7d\x7d\x7d\x7b\x7b".toList + 1 = 4 := by cbv
  have done : exhaustibleUnits.collectiveSubstitute
      "\x7d\x7d\x7b\x7ba\x7b\x7bb\x7d\x7d\x7d\x7d\x7b\x7b".toList none
      { maxPasses := 4, checkBalance := false } 5 =
        .ok ⟨"\x7d\x7dx\x7b\x7b".toList, 3, 2, .fixedPoint⟩ 3 := by cbv
  exact ⟨exhaustibleUnits_onlyResolves, done,
    ((collectiveSubstitute_settles exhaustibleUnits_onlyResolves rfl (Nat.le_of_eq enough)).2.2.1
      _ _ done).2⟩

end Registry

end CallMarkup
