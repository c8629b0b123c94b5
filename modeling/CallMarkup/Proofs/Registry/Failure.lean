import CallMarkup.Proofs.Registry.Accounting

/-!
# Why a substitution fails, and where

A substitution ends with an error when a match cannot be invoked in some pass,
when something is left in the result that looks like work, or when the bound on
passes is reached and that counts as an error.  An error about a text points to
a part of this text: the text at the start of the failing pass, or the result.

Not every match that cannot be invoked is such a failure.  A match that does not
bind counts only under the policy that propagates it; under the other one it is
left as it is written, and the pass goes on to the next match.
-/

namespace CallMarkup

variable {State Context : Type}

/-- A diagnostic shows a text and a part of it that begins and ends between
characters. -/
structure Diagnostic.PointsTo (diagnostic : Diagnostic) (text : Text) (span : Span) : Prop where
  snippet : diagnostic.snippet = some ⟨Diagnostic.unnamedSource, text, span⟩
  start_le_stop : span.start ≤ span.stop
  stop_le : span.stop ≤ byteLength text
  fits : span.FitsIn text

theorem Diagnostic.pointsTo_of_fitsIn {diagnostic : Diagnostic} {text : Text} {span : Span}
    (snippet : diagnostic.snippet = some ⟨Diagnostic.unnamedSource, text, span⟩)
    (fits : span.FitsIn text) : diagnostic.PointsTo text span :=
  ⟨snippet, fits.start_le_stop, fits.stop_le, fits⟩

theorem CallFault.report_snippet (fault : CallFault) : fault.report.snippet = none := by
  cases fault <;> rfl

namespace Processor

variable {processor : Processor State Context} {text : Text} {context : Option Context}
  {found : Found} {state final : State}

theorem invoke_eq_error_iff {fault : CallFault} :
    processor.invoke found context state = .error fault final ↔
      (∃ reason, processor.bind found = .error reason ∧
        fault = .binding processor.name reason ∧ state = final) ∨
      ∃ call message, processor.bind found = .ok call ∧
        fault = .callback processor.name message ∧
        processor.callback
            ⟨processor.name, call, if processor.shape.acceptsContext then context else none⟩ state =
          .error message final := by
  unfold invoke
  cases processor.bind found with
  | error reason =>
      simp [throw, throwThe, MonadExceptOf.throw, EStateM.throw, @eq_comm _ fault]
  | ok call =>
      cases returned : processor.callback
          ⟨processor.name, call, if processor.shape.acceptsContext then context else none⟩ state <;>
        simp [Processor.call, returned, @eq_comm _ fault]

theorem invokeIn_eq_error_iff {located : LocatedFault} :
    processor.invokeIn text context found state = .error located final ↔
      ∃ fault, processor.invoke found context state = .error fault final ∧
        located = ⟨fault, text, found.span⟩ := by
  unfold invokeIn
  cases processor.invoke found context state with
  | ok output between => simp
  | error fault between => simp [@eq_comm _ located, and_comm]

end Processor

namespace Registry

/-- The match at which a pass fails: the first one, in the order of registration
and then from left to right, whose invocation fails and which the policy does not
leave as it is written.  The matches before it are replaced, passed over or left,
and it overlaps nothing that they replace.  What counts as a failure depends on the
policy.  If failures propagate, each one counts.  If units may be left as they are
written, a match whose arguments do not bind does not count, and only a callback can
fail. -/
def FirstFailure (registry : Registry State Context) (policy : MalformedPolicy) (text : Text)
    (context : Option Context) (state : State) (candidate : Candidate State Context)
    (fault : CallFault) (final : State) : Prop :=
  ∃ earlier later claims between,
    registry.candidates text = earlier ++ candidate :: later ∧
    claim policy text context [] earlier state = .ok claims between ∧
    (∀ one ∈ claims, one.span.overlaps candidate.span = false) ∧
    (policy = .leaveVerbatim → candidate.call?.isSome = true) ∧
    candidate.processor.invoke candidate.found context between = .error fault final

variable {registry : Registry State Context} {policy : MalformedPolicy}
  {options : SubstitutionOptions} {context : Option Context} {text : Text} {state final : State}

/-- Claiming goes through some candidates and fails at the next one. -/
def FailsAmong (policy : MalformedPolicy) (text : Text) (context : Option Context)
    (claims : List Claim) (candidates : List (Candidate State Context)) (state : State)
    (located : LocatedFault) (final : State) : Prop :=
  ∃ earlier candidate later made between,
    candidates = earlier ++ candidate :: later ∧
    claim policy text context claims earlier state = .ok made between ∧
    (∀ one ∈ made, one.span.overlaps candidate.span = false) ∧
    (policy = .leaveVerbatim → candidate.call?.isSome = true) ∧
    candidate.processor.invokeIn text context candidate.found between = .error located final

theorem FailsAmong.cons {claims more : List Claim} {first : Candidate State Context}
    {candidates : List (Candidate State Context)} {next : State} {located : LocatedFault}
    (fails : FailsAmong policy text context more candidates next located final)
    (goesOn : ∀ rest, claim policy text context claims (first :: rest) state =
      claim policy text context more rest next) :
    FailsAmong policy text context claims (first :: candidates) state located final := by
  obtain ⟨earlier, candidate, later, made, between, rfl, passed, clear, binds, fails⟩ := fails
  exact ⟨first :: earlier, candidate, later, made, between, rfl, (goesOn earlier).trans passed,
    clear, binds, fails⟩

theorem failsAmong_of_claim {claims : List Claim} {candidates : List (Candidate State Context)}
    {located : LocatedFault}
    (failed : claim policy text context claims candidates state = .error located final) :
    FailsAmong policy text context claims candidates state located final := by
  induction candidates generalizing claims state with
  | nil => exact absurd failed pure_ne_error
  | cons first rest ih =>
      by_cases overlaps : (claims.map (·.span)).any (·.overlaps first.span) = true
      · have goesOn (rest : List (Candidate State Context)) :
            claim policy text context claims (first :: rest) state =
              claim policy text context claims rest state := by
          rw [claim_cons, if_pos overlaps]
        rw [goesOn] at failed
        exact (ih failed).cons goesOn
      by_cases verbatim : policy = .leaveVerbatim ∧ first.call? = none
      · have goesOn (rest : List (Candidate State Context)) :
            claim policy text context claims (first :: rest) state =
              claim policy text context claims rest state := by
          rw [claim_cons, if_neg overlaps, if_pos verbatim]
        rw [goesOn] at failed
        exact (ih failed).cons goesOn
      cases attempted : first.attempt text context state with
      | ok one next =>
          have goesOn (rest : List (Candidate State Context)) :
              claim policy text context claims (first :: rest) state =
                claim policy text context (claims ++ [one]) rest next := by
            rw [claim_cons, if_neg overlaps, if_neg verbatim]
            show EStateM.bind _ _ state = _
            simp only [EStateM.bind, attempted]
          rw [goesOn] at failed
          exact (ih failed).cons goesOn
      | error fault next =>
          have failsHere : first.attempt text context state = .error located final := by
            rw [claim_cons, if_neg overlaps, if_neg verbatim] at failed
            rcases bind_eq_error_iff.mp failed with here | ⟨_, _, succeeds, -⟩
            · exact here
            · simp [attempted] at succeeds
          refine ⟨[], first, rest, claims, state, rfl, rfl, by simpa using overlaps, ?_, ?_⟩
          · intro leaves
            simpa [leaves, Option.isSome_iff_ne_none] using verbatim
          · rw [Candidate.attempt_eq, bind_eq_error_iff] at failsHere
            rcases failsHere with fails | ⟨_, _, -, never⟩
            · exact fails
            · exact absurd never pure_ne_error

/-- A first failure ends its pass. -/
theorem FirstFailure.pass_eq_error {candidate : Candidate State Context} {fault : CallFault}
    (fails : FirstFailure registry policy text context state candidate fault final) :
    registry.pass policy text context state = .error ⟨fault, text, candidate.span⟩ final := by
  obtain ⟨earlier, later, claims, between, order, passed, clear, binds, invoked⟩ := fails
  have invokedIn : candidate.processor.invokeIn text context candidate.found between =
      .error ⟨fault, text, candidate.span⟩ final :=
    Processor.invokeIn_eq_error_iff.mpr ⟨fault, invoked, rfl⟩
  have attempted : candidate.attempt text context between =
      .error ⟨fault, text, candidate.span⟩ final := by
    rw [Candidate.attempt_eq]
    exact bind_eq_error_iff.mpr (.inl invokedIn)
  have failsHere : claim policy text context claims (candidate :: later) between =
      .error ⟨fault, text, candidate.span⟩ final := by
    have notLeft : ¬(policy = .leaveVerbatim ∧ candidate.call? = none) := by
      rintro ⟨leaves, unbound⟩
      simpa [unbound] using binds leaves
    rw [claim_cons, if_neg (by simpa using clear), if_neg notLeft]
    exact bind_eq_error_iff.mpr (.inl attempted)
  unfold pass
  rw [order, claim_append]
  refine bind_eq_error_iff.mpr (.inl ?_)
  exact bind_eq_error_iff.mpr (.inr ⟨claims, between, passed, failsHere⟩)

/-- A pass fails at its first failure, and tells the text and where this is. -/
theorem exists_firstFailure {located : LocatedFault}
    (failed : registry.pass policy text context state = .error located final) :
    ∃ candidate fault, FirstFailure registry policy text context state candidate fault final ∧
      located = ⟨fault, text, candidate.span⟩ := by
  unfold pass at failed
  rcases bind_eq_error_iff.mp failed with failedClaim | ⟨_, _, -, never⟩
  · obtain ⟨earlier, candidate, later, claims, between, order, passed, clear, binds, fails⟩ :=
      failsAmong_of_claim failedClaim
    obtain ⟨fault, invoked, rfl⟩ := Processor.invokeIn_eq_error_iff.mp fails
    exact ⟨candidate, fault,
      ⟨earlier, later, claims, between, order, passed, clear, binds, invoked⟩, rfl⟩
  · exact absurd never pure_ne_error

theorem exists_unit_of_reproduces {last : PassResult}
    (passed : registry.pass policy text context state = .ok last final) {claim : Claim}
    (member : claim ∈ last.claims) (reproduces : claim.reproduces = true) :
    ∃ unit ∈ registry.grammar.units text, unit.span = claim.span := by
  obtain ⟨-, outputs, -, rfl⟩ := pass_eq_ok_iff.mp passed
  simp only [resultOf, ← List.map_uncurry_zip_eq_zipWith] at member
  obtain ⟨⟨selection, output⟩, inZip, rfl⟩ := List.mem_map.mp member
  have inSelected := (List.of_mem_zip inZip).1
  have delimited : selection.candidate.processor.isDelimited = true := by
    simp only [Function.uncurry, Selection.claimFor, Candidate.claimFor, Bool.and_eq_true]
      at reproduces
    exact reproduces.1
  exact exists_unit_of_mem_candidates (mem_candidates_of_mem_selected inSelected) delimited

theorem reproductionFault?_eq_some {last : PassResult} {fault : SubstitutionFault}
    (faulty : reproductionFault? last = some fault) :
    ∃ claim ∈ last.claims, claim.reproduces = true ∧
      fault = .selfReproducing last.text claim.span := by
  obtain ⟨span, first, rfl⟩ := Option.map_eq_some_iff.mp faulty
  have member := List.mem_of_head? first
  obtain ⟨claim, inFilter, rfl⟩ := List.mem_map.mp member
  obtain ⟨inClaims, reproduces⟩ := List.mem_filter.mp inFilter
  exact ⟨claim, inClaims, reproduces, rfl⟩

theorem unhandledFault?_eq_some {fault : SubstitutionFault}
    (faulty : registry.unhandledFault? text = some fault) :
    ∃ unit ∈ registry.grammar.units text, fault = .unhandled text unit registry.names := by
  unfold unhandledFault? at faulty
  split at faulty
  · obtain ⟨unit, found, rfl⟩ := Option.map_eq_some_iff.mp faulty
    exact ⟨unit, List.mem_of_find?_eq_some found, rfl⟩
  · simp at faulty

theorem balanceFault?_eq_some {fault : SubstitutionFault}
    (faulty : registry.balanceFault? options text = some fault) :
    ∃ imbalance, registry.grammar.findImbalance? text = some imbalance ∧
      fault = .unbalanced text imbalance := by
  unfold balanceFault? at faulty
  split at faulty
  · obtain ⟨imbalance, found, rfl⟩ := Option.map_eq_some_iff.mp faulty
    exact ⟨imbalance, found, rfl⟩
  · simp at faulty

theorem resultFault?_eq_some {result : LoopResult} {fault : SubstitutionFault}
    (faulty : registry.resultFault? options result = some fault) :
    (result.convergence = .boundReached ∧ options.strictConvergence = true ∧
      fault = .nonConvergence result.progression.passes) ∨
    (options.malformed = .propagate ∧
      ((result.convergence = .fixedPoint ∧ reproductionFault? result.last = some fault) ∨
        registry.unhandledFault? result.last.text = some fault ∨
        registry.balanceFault? options result.last.text = some fault)) := by
  cases ended : result.convergence with
  | boundReached =>
      rw [resultFault?_of_boundReached ended] at faulty
      split at faulty
      next strict => exact .inl ⟨rfl, strict, (Option.some.inj faulty).symm⟩
      next => simp at faulty
  | singlePass =>
      cases policy : options.malformed with
      | leaveVerbatim => simp [resultFault?, ended, policy] at faulty
      | propagate =>
          simp only [resultFault?, ended, policy] at faulty
          exact .inr ⟨rfl, .inr (.inr faulty)⟩
  | fixedPoint =>
      cases policy : options.malformed with
      | leaveVerbatim => simp [resultFault?, ended, policy] at faulty
      | propagate =>
          simp only [resultFault?, ended, policy, Option.orElse_eq_or, Option.or_eq_some_iff]
            at faulty
          refine .inr ⟨rfl, ?_⟩
          rcases faulty with reproduces | ⟨-, unhandled | ⟨-, unbalanced⟩⟩
          · exact .inl ⟨rfl, reproduces⟩
          · exact .inr (.inl unhandled)
          · exact .inr (.inr unbalanced)

/-- A fault is that of the first failure of a pass, and points to the match. -/
def FailsInPass (registry : Registry State Context) (policy : MalformedPolicy) (text : Text)
    (context : Option Context) (state : State) (fault : SubstitutionFault) (final : State) : Prop :=
  ∃ candidate reason, FirstFailure registry policy text context state candidate reason final ∧
    fault = .call ⟨reason, text, candidate.span⟩ ∧
    (fault.report registry.grammar).PointsTo text candidate.span

/-- How a fault comes about in the pass over a text after which a run ends, by the
category of its report.  A pass that fails gives a fault at its first failure.  The
other faults are about its result, or about there being too many passes. -/
def Explains (registry : Registry State Context) (options : SubstitutionOptions)
    (text : Text) (context : Option Context) (state : State) (fault : SubstitutionFault)
    (final : State) : Prop :=
  let report := fault.report registry.grammar
  match report.category with
  | .binding _ =>
    options.malformed = .propagate ∧
      FailsInPass registry options.malformed text context state fault final
  | .callback _ => FailsInPass registry options.malformed text context state fault final
  | .unknownShorthand =>
    options.malformed = .propagate ∧
      ∃ last, registry.pass options.malformed text context state = .ok last final ∧
        ∃ unit ∈ registry.grammar.units last.text, report.PointsTo last.text unit.span
  | .openShorthand =>
    options.malformed = .propagate ∧
      ∃ last, registry.pass options.malformed text context state = .ok last final ∧
        ∃ imbalance, registry.grammar.findImbalance? last.text = some imbalance ∧
          report.PointsTo last.text imbalance.span
  | .nonConvergence _ => options.strictConvergence = true ∧ options.recursive = true
  | _ => False

theorem fitsIn_of_firstFailure {candidate : Candidate State Context} {fault : CallFault}
    (fails : FirstFailure registry policy text context state candidate fault final) :
    candidate.span.FitsIn text := by
  obtain ⟨earlier, later, -, -, order, -⟩ := fails
  exact fitsIn_of_mem_candidates (order ▸ List.mem_append_right _ List.mem_cons_self)

theorem FirstFailure.reason {candidate : Candidate State Context} {fault : CallFault}
    (fails : FirstFailure registry policy text context state candidate fault final) :
    (∃ reason, fault = .binding candidate.processor.name reason ∧ policy = .propagate) ∨
      ∃ message invocation between, fault = .callback candidate.processor.name message ∧
        candidate.processor ∈ registry.processors ∧
        candidate.processor.callback invocation between = .error message final := by
  obtain ⟨earlier, later, claims, between, order, -, -, binds, invoked⟩ := fails
  have inCandidates : candidate ∈ registry.candidates text :=
    order ▸ List.mem_append_right _ List.mem_cons_self
  rcases Processor.invoke_eq_error_iff.mp invoked with
    ⟨reason, unbound, rfl, -⟩ | ⟨call, message, -, rfl, returned⟩
  · refine .inl ⟨reason, rfl, ?_⟩
    cases policy with
    | propagate => rfl
    | leaveVerbatim =>
        have bound := binds rfl
        rw [Candidate.call?_eq_none_iff.mpr ⟨reason, unbound⟩] at bound
        exact Bool.noConfusion bound
  · exact .inr ⟨message, _, between, rfl, (mem_candidates_iff.mp inCandidates).1, returned⟩

theorem explains_of_pass_error {located : LocatedFault}
    (failed : registry.pass options.malformed text context state = .error located final) :
    Explains registry options text context state (.call located) final := by
  obtain ⟨candidate, fault, fails, rfl⟩ := exists_firstFailure failed
  have points : (SubstitutionFault.report registry.grammar
      (.call ⟨fault, text, candidate.span⟩)).PointsTo text candidate.span := by
    refine Diagnostic.pointsTo_of_fitsIn ?_ (fitsIn_of_firstFailure fails)
    simp [SubstitutionFault.report, LocatedFault.report, Diagnostic.locate, fault.report_snippet]
  have inPass : FailsInPass registry options.malformed text context state
      (.call ⟨fault, text, candidate.span⟩) final := ⟨candidate, fault, fails, rfl, points⟩
  rcases fails.reason with ⟨reason, rfl, propagates⟩ | ⟨message, -, -, rfl, -, -⟩
  · exact ⟨propagates, inPass⟩
  · exact inPass

theorem explains_of_resultFault? {result : LoopResult} {further : Nat}
    {fault : SubstitutionFault}
    (passed : registry.pass options.malformed text context state = .ok result.last final)
    (ends : Ends options further text result.last result.convergence)
    (faulty : registry.resultFault? options result = some fault) :
    Explains registry options text context state fault final := by
  rcases resultFault?_eq_some faulty with
    ⟨ended, strict, rfl⟩ | ⟨propagates, ⟨ended, reproduces⟩ | unhandled | unbalanced⟩
  · exact ⟨strict, (ends.boundReached_iff.mp ended).1⟩
  · obtain ⟨claim, inClaims, same, rfl⟩ := reproductionFault?_eq_some reproduces
    obtain ⟨unit, inText, stands⟩ := exists_unit_of_reproduces passed inClaims same
    -- The span was found in the text before the pass, which is the result as well.
    rw [← (ends.fixedPoint_iff.mp ended).2] at inText
    refine ⟨propagates, result.last, passed, unit, inText, ?_⟩
    exact Diagnostic.pointsTo_of_fitsIn (by rw [stands]; rfl) (Grammar.fitsIn_of_mem_units inText)
  · obtain ⟨unit, inText, rfl⟩ := unhandledFault?_eq_some unhandled
    exact ⟨propagates, result.last, passed, unit, inText,
      Diagnostic.pointsTo_of_fitsIn rfl (Grammar.fitsIn_of_mem_units inText)⟩
  · obtain ⟨imbalance, found, rfl⟩ := balanceFault?_eq_some unbalanced
    exact ⟨propagates, result.last, passed, imbalance, found,
      Diagnostic.pointsTo_of_fitsIn rfl (Grammar.locates_findImbalance? found).fitsIn⟩

theorem exists_explanation {fault : SubstitutionFault}
    (failed : registry.collectiveSubstitute text context options state = .error fault final) :
    ∃ count target between,
      Changes registry options.malformed context count text state target between ∧
      count < max 1 options.maxPasses ∧
      Explains registry options target context between fault final := by
  obtain ⟨count, target, between, changes, bounded, outcome⟩ :=
    exists_last_pass registry options context (options.maxPasses - 1) {} text state
  refine ⟨count, target, between, changes, by omega, ?_⟩
  rcases outcome with ⟨located, other, failedPass, ran⟩ | ⟨result, other, passed, ran, -, ends⟩
  · simp only [collectiveSubstitute, ran, EStateM.Result.error.injEq] at failed
    obtain ⟨rfl, rfl⟩ := failed
    exact explains_of_pass_error failedPass
  · cases faulty : registry.resultFault? options result with
    | none => simp [collectiveSubstitute, ran, faulty] at failed
    | some found =>
        simp only [collectiveSubstitute, ran, faulty, EStateM.Result.error.injEq] at failed
        obtain ⟨rfl, rfl⟩ := failed
        exact explains_of_resultFault? passed ends faulty

/-- Malformed units abort a substitution only if the policy says so, and the bound
on passes does only if this is asked for; whatever else aborts one is a callback
that fails.  The error shows a text of the run and the place in it.  For a match that
fails this is the first one that the policy does not leave as it is written: a match
that does not bind is passed over where units may stay, and the error is about a later
match, whose callback fails. -/
theorem collectiveSubstitute_failure (registry : Registry State Context) (text : Text)
    (context : Option Context) (options : SubstitutionOptions) (state : State) :
    (∀ fault final,
      registry.collectiveSubstitute text context options state = .error fault final →
      ∃ count target between,
        Changes registry options.malformed context count text state target between ∧
        count < max 1 options.maxPasses ∧
        Explains registry options target context between fault final) ∧
    (options.malformed = .leaveVerbatim → options.strictConvergence = false →
      (∀ processor ∈ registry.processors, ∀ invocation before, ∃ output after,
        processor.callback invocation before = .ok output after) →
      ∃ outcome final,
        registry.collectiveSubstitute text context options state = .ok outcome final) := by
  refine ⟨fun fault final failed => exists_explanation failed, ?_⟩
  intro verbatim lenient succeed
  cases ran : registry.collectiveSubstitute text context options state with
  | ok outcome final => exact ⟨outcome, final, rfl⟩
  | error fault final =>
      obtain ⟨_, target, between, -, -, explains⟩ := exists_explanation ran
      have failsInPass : FailsInPass registry options.malformed target context between fault
          final := by
        unfold Explains at explains
        dsimp only at explains
        split at explains
        · exact explains.2
        · exact explains
        · simp [verbatim] at explains
        · simp [verbatim] at explains
        · simp [lenient] at explains
        · exact explains.elim
      obtain ⟨candidate, reason, fails, -⟩ := failsInPass
      rcases fails.reason with
        ⟨-, -, propagates⟩ | ⟨message, invocation, before, -, inRegistry, returned⟩
      · simp [verbatim] at propagates
      · obtain ⟨output, after, succeeds⟩ := succeed _ inRegistry invocation before
        simp [succeeds] at returned

/-- A unit that cannot be bound, and one that can. -/
def unboundThenBound : Text :=
  "\x7b\x7ba|k=1|x\x7d\x7d\x7b\x7ba\x7d\x7d".toList

/-- The callback fails on the second unit. -/
def boundUnitFails : LocatedFault :=
  ⟨.callback ['z'] "nothing left".toList, unboundThenBound, ⟨11, 16⟩⟩

theorem exhaustibleUnits_stops :
    exhaustibleUnits.collectiveSubstitute unboundThenBound none { malformed := .leaveVerbatim } 0 =
      .error (.call boundUnitFails) 0 := by cbv

/-- The first unit cannot be bound and stays; the callback fails on the second one.
With callbacks that succeed the same text has a result. -/
theorem exhaustibleUnits_failure :
    exhaustibleUnits.collectiveSubstitute unboundThenBound none { malformed := .leaveVerbatim } 0 =
      .error (.call boundUnitFails) 0 ∧
    (∃ count target between,
      Changes exhaustibleUnits .leaveVerbatim none count unboundThenBound 0 target between ∧
      FailsInPass exhaustibleUnits .leaveVerbatim target none between (.call boundUnitFails) 0) ∧
    ∃ outcome final, renumbering.collectiveSubstitute unboundThenBound none
      { malformed := .leaveVerbatim } 0 = .ok outcome final := by
  obtain ⟨count, target, between, changes, -, explains⟩ :=
    (collectiveSubstitute_failure exhaustibleUnits _ none _ 0).1 _ _ exhaustibleUnits_stops
  have succeed : ∀ processor ∈ renumbering.processors, ∀ invocation before, ∃ output after,
      processor.callback invocation before = .ok output after := by
    intro processor member invocation before
    obtain rfl : processor = Processor.switchboard Grammar.default ['z'] renumber := by
      simpa [renumbering] using member
    exact ⟨_, _, rfl⟩
  exact ⟨exhaustibleUnits_stops, ⟨count, target, between, changes, explains⟩,
    (collectiveSubstitute_failure renumbering _ none _ 0).2 rfl rfl succeed⟩

/-- The error is not always about the first match of the failing pass whose invocation
fails at all, which is where the pass would end if failures propagated: a match that
does not bind may have been left before. -/
theorem not_always_first_failing_match :
    ¬ ∀ (registry : Registry Nat Unit) (text : Text) (context : Option Unit)
        (options : SubstitutionOptions) (state final : Nat) (located : LocatedFault),
      registry.collectiveSubstitute text context options state =
          .error (.call located) final →
      ∃ count target between candidate fault after,
        Changes registry options.malformed context count text state target between ∧
        FirstFailure registry .propagate target context between candidate fault after ∧
        located.report.PointsTo target candidate.span := by
  intro always
  obtain ⟨count, target, between, candidate, fault, after, changes, fails, points⟩ :=
    always _ _ _ _ _ _ _ exhaustibleUnits_stops
  cases changes with
  | none =>
      -- If failures propagate, the pass ends at the unit that cannot be bound.
      have rejects : exhaustibleUnits.pass .propagate unboundThenBound none 0 =
          .error ⟨.binding ['z'] (.positionalAfterKeyword ['x']), unboundThenBound, ⟨0, 11⟩⟩ 0 := by
        cbv
      have first : candidate.span = ⟨0, 11⟩ := by
        injection fails.pass_eq_error.symm.trans rejects with same
        exact congrArg LocatedFault.span same
      have told : candidate.span = ⟨11, 16⟩ := by
        injection points.snippet with same
        exact (congrArg Snippet.span same).symm
      exact absurd (first.symm.trans told) (by decide)
  | pass passed changed later =>
      -- The run ends in its first pass, so no pass goes before the one that fails.
      have stops : exhaustibleUnits.pass .leaveVerbatim unboundThenBound none 0 =
          .error boundUnitFails 0 := by cbv
      cases stops.symm.trans passed

end Registry

end CallMarkup
