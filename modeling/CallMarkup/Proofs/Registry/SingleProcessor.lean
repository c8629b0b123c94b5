import CallMarkup.Proofs.Registry.FromList
import CallMarkup.Proofs.Registry.Passes
import CallMarkup.Proofs.Registry.Watching

/-!
# A registry of one processor

The matches of one processor never overlap, so a pass of a registry that holds
nothing else passes none of them over.  It replaces them all in their order, as
the processor does when it works alone.
-/

namespace CallMarkup

variable {State Context : Type}

/-- What a substitution with one processor comes to as a collective one. -/
def asSinglePass : EStateM.Result LocatedFault State (Text × Nat) →
    EStateM.Result SubstitutionFault State Substitution
  | .ok (text, count) final => .ok ⟨text, 1, count, .singlePass⟩ final
  | .error located final => .error (.call located) final

theorem asSinglePass_injective {first second : EStateM.Result LocatedFault State (Text × Nat)}
    (same : asSinglePass first = asSinglePass second) : first = second := by
  cases first <;> cases second <;> simp_all [asSinglePass, Prod.ext_iff]

theorem asSinglePass_withLog (log : List (Invocation Context))
    (result : EStateM.Result LocatedFault State (Text × Nat)) :
    asSinglePass (withLog log result) = withLog log (asSinglePass result) := by
  cases result <;> rfl

namespace Processor

/-- Claims on every match of a processor in a text. -/
def claimAll (processor : Processor State Context) (text : Text) (context : Option Context) :
    EStateM LocatedFault State (List Claim) :=
  ((processor.find text).map (Candidate.mk processor)).mapM (Candidate.attempt text context)

theorem replacements_eq (processor : Processor State Context) (text : Text)
    (context : Option Context) (places : List Found) :
    processor.replacements text context places =
      (places.map (Candidate.mk processor)).mapM (Candidate.attempt text context) >>=
        fun claims => pure (claims.map (·.replacement)) := by
  induction places with
  | nil => simp [replacements]
  | cons found later ih =>
      simp [replacements, ih, Candidate.attempt, Claim.replacement, Candidate.claimFor,
        Candidate.span]

theorem substituteCounted_eq (processor : Processor State Context) (text : Text)
    (context : Option Context) :
    processor.substituteCounted text context =
      processor.claimAll text context >>= fun claims =>
        pure (splice text (claims.map (·.replacement)), (processor.find text).length) := by
  simp only [substituteCounted, replacements_eq, claimAll, bind_assoc, pure_bind]

end Processor

namespace Registry

variable {registry : Registry State Context} {processor : Processor State Context}
  {options : SubstitutionOptions}

theorem attempts_of_single (single : registry.processors = [processor]) (text : Text) :
    attempts .propagate [] (registry.candidates text) =
      (processor.find text).map (Candidate.mk processor) := by
  have candidates : registry.candidates text =
      (processor.find text).map (Candidate.mk processor) := by
    simp [candidates, single]
  rw [candidates]
  exact reached_of_apart (by simp) (List.pairwise_map.mpr (processor.find_apart text))

theorem pass_of_single (single : registry.processors = [processor]) (text : Text)
    (context : Option Context) :
    registry.pass .propagate text context =
      processor.claimAll text context >>= fun claims =>
        pure ⟨splice text (claims.map (·.replacement)), claims⟩ := by
  simp only [pass, claim_eq_mapM, List.map_nil, List.nil_append, attempts_of_single single,
    Processor.claimAll, bind_assoc, pure_bind]

theorem resultFault?_of_unchecked (propagates : options.malformed = .propagate)
    (unchecked : options.checkBalance = false) {result : LoopResult}
    (ended : result.convergence = .singlePass) : registry.resultFault? options result = none := by
  simp [resultFault?, ended, propagates, balanceFault?, unchecked]

theorem collectiveSubstitute_eq_asSinglePass (single : registry.processors = [processor])
    (once : options.recursive = false) (propagates : options.malformed = .propagate)
    (unchecked : options.checkBalance = false) (text : Text) (context : Option Context)
    (state : State) :
    registry.collectiveSubstitute text context options state =
      asSinglePass (processor.substituteCounted text context state) := by
  have passed := pass_of_single single text context
  rw [← propagates] at passed
  cases ran : processor.claimAll text context state with
  | error located final =>
      have failed : registry.pass options.malformed text context state = .error located final := by
        rw [passed]
        exact bind_eq_error_iff.mpr (.inl ran)
      have alone : processor.substituteCounted text context state = .error located final := by
        rw [processor.substituteCounted_eq]
        exact bind_eq_error_iff.mpr (.inl ran)
      rw [alone, collectiveSubstitute, passes_of_error failed]
      rfl
  | ok claims final =>
      have counted : claims.length = (processor.find text).length := by
        simpa using length_of_mapM ran
      have done : registry.pass options.malformed text context state =
          .ok ⟨splice text (claims.map (·.replacement)), claims⟩ final := by
        rw [passed]
        exact bind_eq_ok_iff.mpr ⟨claims, final, ran, rfl⟩
      have alone : processor.substituteCounted text context state =
          .ok (splice text (claims.map (·.replacement)), claims.length) final := by
        rw [processor.substituteCounted_eq, counted]
        exact bind_eq_ok_iff.mpr ⟨claims, final, ran, rfl⟩
      rw [alone, collectiveSubstitute, passes_of_ends (.singlePass once) done]
      simp only [resultFault?_of_unchecked propagates unchecked, asSinglePass, Progression.after,
        Nat.zero_add]

/-- A registry of one processor that makes a single pass does what the processor
does alone: it comes to the same text and count, or to the same error, and makes the
same calls on the way. -/
theorem collectiveSubstitute_of_single (registry : Registry State Context)
    (processor : Processor State Context) (single : registry.processors = [processor])
    (options : SubstitutionOptions) (once : options.recursive = false)
    (propagates : options.malformed = .propagate) (unchecked : options.checkBalance = false)
    (text : Text) (context : Option Context) (state : State) :
    registry.collectiveSubstitute text context options state =
        asSinglePass (processor.substituteCounted text context state) ∧
      ∀ log, ∃ calls,
        registry.recording.collectiveSubstitute text context options (state, log) =
            withLog (log ++ calls) (registry.collectiveSubstitute text context options state) ∧
          processor.recording.substituteCounted text context (state, log) =
            withLog (log ++ calls) (processor.substituteCounted text context state) := by
  have same := collectiveSubstitute_eq_asSinglePass single once propagates unchecked text context
  refine ⟨same state, fun log => ?_⟩
  have watched : Notes (fun _ => True) (registry.collectiveSubstitute text context options)
      (registry.recording.collectiveSubstitute text context options) :=
    notes_collectiveSubstitute options (fun _ _ _ => trivial) text
  obtain ⟨calls, -, recorded⟩ := watched state log
  refine ⟨calls, recorded, asSinglePass_injective ?_⟩
  have singleToo : registry.recording.processors = [processor.recording] :=
    congrArg (List.map Processor.recording) single
  rw [← collectiveSubstitute_eq_asSinglePass singleToo once propagates unchecked text context,
    recorded, same, asSinglePass_withLog]

/-! ## A pattern with empty matches -/

/-- Numbers the calls, of which there may be three. -/
def numberUpToThree : Callback Nat Unit := fun _ count =>
  if count < 3 then .ok (Nat.toDigits 10 count) (count + 1)
  else .error "no more".toList count

/-- Numbers the matches of `b*`. -/
def numberingRuns : Processor Nat Unit where
  name := ['n']
  grammar := Grammar.default
  matcher := .raw ⟨(Regex.repeated (.literal ['b']) ⟨0, none⟩ true).program, []⟩
  shape := {}
  callback := numberUpToThree

def numberedRuns : Registry Nat Unit :=
  ofProcessors Grammar.default [numberingRuns] (by simp) (by
    intro processor member _
    rw [List.mem_singleton.mp member]
    rfl)

/-- After the run there is no empty match, but there are two further on.  Of four
matches the last one is too many. -/
theorem numberedRuns_alone :
    numberedRuns.collectiveSubstitute "abc".toList none
        { recursive := false, checkBalance := false } 0 =
      .ok ⟨"0a1c2".toList, 1, 3, .singlePass⟩ 3 ∧
    numberedRuns.collectiveSubstitute "abac".toList none
        { recursive := false, checkBalance := false } 0 =
      .error (.call ⟨.callback ['n'] "no more".toList, "abac".toList, ⟨4, 4⟩⟩) 3 ∧
    ∃ calls,
      numberedRuns.recording.collectiveSubstitute "abac".toList none
          { recursive := false, checkBalance := false } (0, []) =
        .error (.call ⟨.callback ['n'] "no more".toList, "abac".toList, ⟨4, 4⟩⟩) (3, calls) ∧
      numberingRuns.recording.substituteCounted "abac".toList none (0, []) =
        .error ⟨.callback ['n'] "no more".toList, "abac".toList, ⟨4, 4⟩⟩ (3, calls) := by
  have single : numberedRuns.processors = [numberingRuns] := ofProcessors_processors _ _ _ _
  have agrees := collectiveSubstitute_of_single numberedRuns numberingRuns single
    { recursive := false, checkBalance := false } rfl rfl rfl
  have replaced : numberingRuns.substituteCounted "abc".toList none 0 =
      .ok ("0a1c2".toList, 3) 3 := by cbv
  have failed : numberingRuns.substituteCounted "abac".toList none 0 =
      .error ⟨.callback ['n'] "no more".toList, "abac".toList, ⟨4, 4⟩⟩ 3 := by cbv
  obtain ⟨same, recorded⟩ := agrees "abac".toList none 0
  obtain ⟨calls, together, alone⟩ := recorded []
  rw [failed] at same alone
  rw [same] at together
  refine ⟨?_, same, calls, together, alone⟩
  rw [(agrees "abc".toList none 0).1, replaced]
  rfl

end Registry

end CallMarkup
