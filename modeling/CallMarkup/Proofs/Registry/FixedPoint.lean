import CallMarkup.Proofs.Document.Balance
import CallMarkup.Proofs.Registry.Greedy
import CallMarkup.Proofs.Registry.Passes

/-!
# What is left at a fixed point

A substitution that ends at a fixed point has made a last pass over its result
without changing it.  A unit can only be left when that pass replaced something
on it, so replacements of the pass have made up for each other, or a processor
for patterns has taken a part of the unit.
-/

namespace CallMarkup

variable {State Context : Type}

namespace Registry

variable {registry : Registry State Context} {options : SubstitutionOptions}
  {context : Option Context} {text : Text} {state final : State}

/-- At a fixed point the last pass has turned its text into itself. -/
theorem last_pass_of_fixedPoint {further : Nat} {progression : Progression} {result : LoopResult}
    (done : registry.passes options context further progression text state = .ok result final)
    (fixed : result.convergence = .fixedPoint) :
    ∃ between,
      registry.pass options.malformed result.last.text context between = .ok result.last final := by
  obtain ⟨_, target, between, -, -, ⟨_, _, -, failed⟩ | ⟨_, _, passed, ran, -, ends⟩⟩ :=
    exists_last_pass registry options context further progression text state
  · simp [done] at failed
  · rw [done, EStateM.Result.ok.injEq] at ran
    obtain ⟨rfl, rfl⟩ := ran
    rw [fixed] at ends
    cases ends with
    | fixedPoint again unchanged => exact ⟨between, by rw [unchanged]; exact passed⟩

theorem collectiveSubstitute_eq_ok {outcome : Substitution}
    (done : registry.collectiveSubstitute text context options state = .ok outcome final) :
    ∃ result, registry.passes options context (options.maxPasses - 1) {} text state =
        .ok result final ∧ registry.resultFault? options result = none ∧
      outcome = ⟨result.last.text, result.progression.passes, result.progression.replacements,
        result.convergence⟩ := by
  unfold collectiveSubstitute at done
  split at done
  · simp at done
  next result between ran =>
    split at done
    · simp at done
    next faultless =>
      simp only [EStateM.Result.ok.injEq] at done
      obtain ⟨rfl, rfl⟩ := done
      exact ⟨result, ran, faultless, rfl⟩

theorem reproductionFault?_eq_none_iff {result : PassResult} :
    reproductionFault? result = none ↔ ∀ claim ∈ result.claims, claim.reproduces = false := by
  simp [reproductionFault?, PassResult.unchanged]

theorem unhandledFault?_eq_none_iff :
    registry.unhandledFault? text = none ↔
      (registry.hasDelimited = true → ∀ unit ∈ registry.grammar.units text,
        ∃ processor ∈ registry.processors, processor.isDelimited = true ∧
          ∃ found ∈ processor.find text, found.span = unit.span) := by
  unfold unhandledFault?
  split
  next delimited =>
    simp only [delimited, Option.map_eq_none_iff, List.find?_eq_none, Bool.not_eq_true',
      Bool.not_eq_false, List.contains_iff_mem, List.mem_flatMap, List.mem_filter, List.mem_map,
      and_assoc, forall_const]
  next undelimited => simp [undelimited]

/-- Without a fault, a processor for units finds every unit of a text. -/
theorem exists_candidate_of_handled (delimited : registry.hasDelimited = true)
    (handled : registry.unhandledFault? text = none) {unit : CallUnit}
    (member : unit ∈ registry.grammar.units text) :
    ∃ candidate ∈ registry.candidates text, candidate.span = unit.span := by
  obtain ⟨processor, inRegistry, -, found, inFinds, same⟩ :=
    unhandledFault?_eq_none_iff.mp handled delimited unit member
  exact ⟨⟨processor, found⟩, mem_candidates_iff.mpr ⟨inRegistry, inFinds⟩, same⟩

variable {last : PassResult}

/-- When every unit is found by some processor, a pass replaces something on
each of them. -/
theorem exists_claim_on_unit (delimited : registry.hasDelimited = true)
    (handled : registry.unhandledFault? text = none)
    (passed : registry.pass .propagate text context state = .ok last final) {unit : CallUnit}
    (member : unit ∈ registry.grammar.units text) :
    ∃ claim ∈ last.claims, claim.span.overlaps unit.span = true := by
  obtain ⟨candidate, inCandidates, same⟩ := exists_candidate_of_handled delimited handled member
  have ordered := (fitsIn_of_mem_candidates inCandidates).start_le_stop
  obtain ⟨binds, -⟩ := pass_eq_ok_iff.mp passed
  rcases exists_overlap_of_mem [] inCandidates ordered with
    ⟨inReached, unbound⟩ | ⟨span, inSpans, shares⟩
  · have bound := binds candidate inReached
    simp [unbound] at bound
  · rw [List.nil_append] at inSpans
    change span ∈ (registry.selected text).map (·.span) at inSpans
    rw [← map_span_claims passed] at inSpans
    obtain ⟨claim, inClaims, rfl⟩ := List.mem_map.mp inSpans
    exact ⟨claim, inClaims, by rw [← same]; exact shares⟩

theorem exists_unit_of_claim (allDelimited : ∀ processor ∈ registry.processors,
      processor.isDelimited = true)
    (passed : registry.pass .propagate text context state = .ok last final) {claim : Claim}
    (member : claim ∈ last.claims) :
    ∃ unit ∈ registry.grammar.units text, claim.span = unit.span := by
  obtain ⟨selection, inSelected, same⟩ := exists_selection_of_mem_claims passed member
  have inCandidates := mem_candidates_of_mem_selected inSelected
  obtain ⟨unit, inText, stands⟩ := exists_unit_of_mem_candidates inCandidates
    (allDelimited _ (mem_candidates_iff.mp inCandidates).1)
  exact ⟨unit, inText, by rw [← same]; exact stands.symm⟩

/-- One replacement alone cannot keep the text unless it writes what stood
there. -/
theorem length_claims_ne_one (allDelimited : ∀ processor ∈ registry.processors,
      processor.isDelimited = true)
    (passed : registry.pass .propagate text context state = .ok last final)
    (kept : last.text = text) (replaced : ∀ claim ∈ last.claims, claim.reproduces = false) :
    last.claims.length ≠ 1 := by
  intro one
  obtain ⟨-, outputs, rans, rfl⟩ := pass_eq_ok_iff.mp passed
  have paired := length_of_mapM rans
  obtain ⟨sorted, perm, -, rewrites⟩ := rewrites_resultOf registry text paired
  have single : (registry.selected text).length = 1 := by
    simpa [resultOf, paired] using one
  obtain ⟨selection, selects⟩ := List.length_eq_one_iff.mp single
  obtain ⟨output, outputs⟩ := List.length_eq_one_iff.mp (paired.trans single)
  subst outputs
  rw [selects] at perm rewrites kept replaced
  obtain rfl := List.perm_singleton.mp perm
  -- The text around the span is kept, so the output has to be what stood there.
  have written := rewrites.slice_eq_of_same kept.symm
  have inSelected : selection ∈ registry.selected text := by simp [selects]
  have delimited := allDelimited _
    (mem_candidates_iff.mp (mem_candidates_of_mem_selected inSelected)).1
  have reproduces := replaced (selection.claimFor text output) (by simp [resultOf])
  simp only [Selection.claimFor, Candidate.claimFor, delimited, Bool.true_and, beq_eq_false_iff_ne]
    at reproduces
  exact reproduces written.symm

/-- What is not at fault in a result without a fault, by how it came about and what
the options ask for. -/
theorem resultFault?_eq_none_iff {result : LoopResult} :
    registry.resultFault? options result = none ↔
      (result.convergence = .boundReached → options.strictConvergence = false) ∧
      (result.convergence = .fixedPoint → options.malformed = .propagate →
        (∀ claim ∈ result.last.claims, claim.reproduces = false) ∧
          registry.unhandledFault? result.last.text = none) ∧
      (result.convergence ≠ .boundReached → options.malformed = .propagate →
        registry.balanceFault? options result.last.text = none) := by
  unfold resultFault?
  cases result.convergence <;> cases options.malformed <;>
    simp [reproductionFault?_eq_none_iff, Option.orElse_eq_or, and_assoc]

/-- What is not at fault at a fixed point, unless malformed units may stay. -/
theorem faultless_of_fixedPoint {result : LoopResult} (propagates : options.malformed = .propagate)
    (fixed : result.convergence = .fixedPoint)
    (faultless : registry.resultFault? options result = none) :
    (∀ claim ∈ result.last.claims, claim.reproduces = false) ∧
      registry.unhandledFault? result.last.text = none ∧
      registry.balanceFault? options result.last.text = none := by
  obtain ⟨-, atFixedPoint, balanced⟩ := resultFault?_eq_none_iff.mp faultless
  obtain ⟨replaced, handled⟩ := atFixedPoint fixed propagates
  exact ⟨replaced, handled, balanced (by simp [fixed]) propagates⟩

/-- At a fixed point no unit is left exactly if the last pass replaced nothing
on a unit.  Without processors for patterns this means that it did not make two
replacements, which would keep the text between them. -/
theorem fixedPoint_units_eq_nil_iff {outcome : Substitution}
    (delimited : registry.hasDelimited = true) (propagates : options.malformed = .propagate)
    (done : registry.collectiveSubstitute text context options state = .ok outcome final)
    (fixed : outcome.convergence = .fixedPoint) :
    ∃ between last,
      registry.pass .propagate outcome.text context between = .ok last final ∧
      last.text = outcome.text ∧
      (registry.grammar.units outcome.text = [] ↔
        ∀ claim ∈ last.claims, ∀ unit ∈ registry.grammar.units outcome.text,
          claim.span.overlaps unit.span = false) ∧
      ((∀ processor ∈ registry.processors, processor.isDelimited = true) →
        (registry.grammar.units outcome.text = [] ↔ last.claims.length ≤ 1)) ∧
      (options.checkBalance = true →
        (registry.grammar.units outcome.text = [] ↔
          ∀ segment ∈ registry.grammar.segments outcome.text, segment.isDelimiter = false)) := by
  obtain ⟨result, ran, faultless, rfl⟩ := collectiveSubstitute_eq_ok done
  obtain ⟨replaced, handled, balanced⟩ := faultless_of_fixedPoint propagates fixed faultless
  obtain ⟨between, passed⟩ := last_pass_of_fixedPoint ran fixed
  rw [propagates] at passed
  have noUnits (noClaims : ∀ claim ∈ result.last.claims,
      ∀ unit ∈ registry.grammar.units result.last.text,
        claim.span.overlaps unit.span = false) :
      registry.grammar.units result.last.text = [] := by
    apply List.eq_nil_iff_forall_not_mem.mpr
    intro unit member
    obtain ⟨claim, inClaims, shares⟩ := exists_claim_on_unit delimited handled passed member
    rw [noClaims claim inClaims unit member] at shares
    exact Bool.noConfusion shares
  refine ⟨between, result.last, passed, rfl, ⟨?_, noUnits⟩, ?_, ?_⟩
  · intro none claim _ unit member
    simp [none] at member
  · intro allDelimited
    have notOne := length_claims_ne_one allDelimited passed rfl replaced
    constructor
    · intro none
      cases claims : result.last.claims with
      | nil => simp
      | cons claim later =>
          obtain ⟨unit, member, -⟩ := exists_unit_of_claim allDelimited passed
            (claims ▸ List.mem_cons_self)
          simp [none] at member
    · intro few
      have empty : result.last.claims = [] := List.eq_nil_of_length_eq_zero (by omega)
      exact noUnits (by simp [empty])
  · intro checks
    have pairs : registry.grammar.findImbalance? result.last.text = none := by
      simpa [balanceFault?, checks, delimited] using balanced
    exact Grammar.units_eq_nil_iff_of_balanced pairs

/-! ## Units that make up for each other -/

/-- `a` writes itself and a `b` after it, and `b` writes nothing. -/
def compensating : Registry Unit Unit :=
  ofProcessors Grammar.default
    [{ name := ['a'], grammar := Grammar.default, matcher := .calls ['a'], shape := Shape.empty
       callback := fun _ => pure "\x7b\x7ba\x7d\x7d\x7b\x7bb\x7d\x7d".toList },
      { name := ['b'], grammar := Grammar.default, matcher := .calls ['b'], shape := Shape.empty
        callback := fun _ => pure [] }]
    (by simp) (by simp)

/-- The text is a fixed point, and both of its units are left. -/
theorem compensating_fixedPoint :
    compensating.collectiveSubstitute "\x7b\x7ba\x7d\x7d\x7b\x7bb\x7d\x7d".toList none {} () =
      .ok ⟨"\x7b\x7ba\x7d\x7d\x7b\x7bb\x7d\x7d".toList, 1, 2, .fixedPoint⟩ () ∧
    (compensating.grammar.units "\x7b\x7ba\x7d\x7d\x7b\x7bb\x7d\x7d".toList).length = 2 ∧
    ∃ last, compensating.pass .propagate "\x7b\x7ba\x7d\x7d\x7b\x7bb\x7d\x7d".toList none () =
      .ok last () ∧ 2 ≤ last.claims.length := by
  have done : compensating.collectiveSubstitute
      "\x7b\x7ba\x7d\x7d\x7b\x7bb\x7d\x7d".toList none {} () =
        .ok ⟨"\x7b\x7ba\x7d\x7d\x7b\x7bb\x7d\x7d".toList, 1, 2, .fixedPoint⟩ () := by cbv
  have units : (compensating.grammar.units
      "\x7b\x7ba\x7d\x7d\x7b\x7bb\x7d\x7d".toList).length = 2 := by cbv
  obtain ⟨_, last, passed, -, -, none, -⟩ := fixedPoint_units_eq_nil_iff (by rfl) rfl done rfl
  have allDelimited : ∀ processor ∈ compensating.processors, processor.isDelimited = true := by
    simp [compensating, Processor.isDelimited, Matcher.isDelimited]
  refine ⟨done, units, last, passed, Nat.lt_of_not_le fun few => ?_⟩
  rw [(none allDelimited).mpr few] at units
  exact absurd units (by decide)

end Registry

end CallMarkup
