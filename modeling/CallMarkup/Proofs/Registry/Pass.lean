import Mathlib
import CallMarkup.Proofs.Computation
import CallMarkup.Proofs.Registry.Selection

/-!
# What a pass does

A pass invokes, one after the other, the candidates that reach binding, where
those that do not bind are left out if units may stay verbatim.  A pass that
succeeds runs the callbacks of the selected candidates, each once and in order,
and writes their outputs in the place of their spans.
-/

namespace CallMarkup

variable {State Context : Type}

/-- A computation for each member of a list comes to as many results. -/
theorem length_of_mapM {Fault A B : Type} {step : A → EStateM Fault State B} {items : List A}
    {state final : State} {results : List B} (rans : items.mapM step state = .ok results final) :
    results.length = items.length := by
  induction items generalizing state final results with
  | nil =>
      obtain ⟨rfl, -⟩ := pure_eq_ok_iff.mp rans
      rfl
  | cons item later ih =>
      simp only [List.mapM_cons, bind_eq_ok_iff, pure_eq_ok_iff] at rans
      obtain ⟨_, _, -, _, _, rest, rfl, -⟩ := rans
      simp [ih rest]

theorem Processor.invokeIn_eq_ok_iff {processor : Processor State Context} {text output : Text}
    {context : Option Context} {found : Found} {state final : State} :
    processor.invokeIn text context found state = .ok output final ↔
      ∃ call, processor.bind found = .ok call ∧
        processor.call call context state = .ok output final := by
  unfold Processor.invokeIn Processor.invoke
  cases processor.bind found with
  | error fault => simp [throw, throwThe, MonadExceptOf.throw, EStateM.throw]
  | ok call => cases ran : processor.call call context state <;> simp [ran]

theorem Processor.invokeIn_of_unbound {processor : Processor State Context} {text : Text}
    {context : Option Context} {found : Found} {fault : BindingFault}
    (unbound : processor.bind found = .error fault) :
    processor.invokeIn text context found =
      throw ⟨.binding processor.name fault, text, found.span⟩ := by
  funext state
  simp [Processor.invokeIn, Processor.invoke, unbound, throw, throwThe, MonadExceptOf.throw,
    EStateM.throw]

/-- The claim that an output makes. -/
def Candidate.claimFor (text : Text) (candidate : Candidate State Context) (output : Text) :
    Claim :=
  ⟨candidate.span, output,
    candidate.processor.isDelimited && output == candidate.span.slice text⟩

def Candidate.attempt (text : Text) (context : Option Context)
    (candidate : Candidate State Context) : EStateM LocatedFault State Claim := do
  let output ← candidate.processor.invokeIn text context candidate.found
  return candidate.claimFor text output

theorem Candidate.attempt_eq (text : Text) (context : Option Context)
    (candidate : Candidate State Context) :
    candidate.attempt text context =
      candidate.processor.invokeIn text context candidate.found >>= fun output =>
        pure (candidate.claimFor text output) :=
  rfl

theorem Candidate.attempt_eq_ok_iff {text : Text} {context : Option Context}
    {candidate : Candidate State Context} {state final : State} {one : Claim} :
    candidate.attempt text context state = .ok one final ↔
      ∃ call output, candidate.call? = some call ∧
        candidate.processor.call call context state = .ok output final ∧
        one = candidate.claimFor text output := by
  unfold Candidate.attempt
  simp only [bind_eq_ok_iff, pure_eq_ok_iff, Processor.invokeIn_eq_ok_iff,
    Candidate.call?_eq_some_iff]
  constructor
  · rintro ⟨output, between, ⟨call, bound, ran⟩, rfl, rfl⟩
    exact ⟨call, output, bound, ran, rfl⟩
  · rintro ⟨call, output, bound, ran, rfl⟩
    exact ⟨output, final, ⟨call, bound, ran⟩, rfl, rfl⟩

/-- The claim that the output of a selected candidate makes. -/
def Selection.claimFor (text : Text) (selection : Selection State Context) (output : Text) :
    Claim :=
  selection.candidate.claimFor text output

theorem Selection.run_eq_ok_iff {context : Option Context} {selection : Selection State Context}
    {state final : State} {output : Text} :
    selection.run context state = .ok output final ↔
      selection.candidate.processor.callback (selection.invocation context) state =
        .ok output final := by
  unfold Selection.run Processor.call Selection.invocation
  dsimp only
  generalize selection.candidate.processor.callback _ state = returned
  cases returned <;> simp

namespace Registry

/-- The candidates that are invoked until one fails. -/
def attempts (policy : MalformedPolicy) (replaced : List Span)
    (candidates : List (Candidate State Context)) : List (Candidate State Context) :=
  match policy with
  | .propagate => reached replaced candidates
  | .leaveVerbatim => (reached replaced candidates).filter (·.call?.isSome)

section Attempts

variable {policy : MalformedPolicy} {replaced : List Span} {candidate : Candidate State Context}
  {later : List (Candidate State Context)} {call : BoundCall}

theorem attempts_cons_of_overlaps (overlaps : replaced.any (·.overlaps candidate.span) = true) :
    attempts policy replaced (candidate :: later) = attempts policy replaced later := by
  cases policy <;> simp only [attempts, reached_cons_of_overlaps overlaps]

theorem attempts_cons_of_bound (free : replaced.any (·.overlaps candidate.span) = false)
    (bound : candidate.call? = some call) :
    attempts policy replaced (candidate :: later) =
      candidate :: attempts policy (replaced ++ [candidate.span]) later := by
  cases policy <;> simp [attempts, reached_cons_of_bound free bound, bound]

theorem attempts_cons_of_verbatim (free : replaced.any (·.overlaps candidate.span) = false)
    (unbound : candidate.call? = none) :
    attempts .leaveVerbatim replaced (candidate :: later) =
      attempts .leaveVerbatim replaced later := by
  simp [attempts, reached_cons_of_unbound free unbound, unbound]

theorem attempts_cons_of_propagate (free : replaced.any (·.overlaps candidate.span) = false)
    (unbound : candidate.call? = none) :
    attempts .propagate replaced (candidate :: later) =
      candidate :: attempts .propagate replaced later := by
  simp [attempts, reached_cons_of_unbound free unbound]

end Attempts

theorem mem_of_mem_attempts {policy : MalformedPolicy} {replaced : List Span}
    {candidates : List (Candidate State Context)} {candidate : Candidate State Context}
    (member : candidate ∈ attempts policy replaced candidates) : candidate ∈ candidates := by
  cases policy with
  | propagate => exact mem_of_mem_reached member
  | leaveVerbatim => exact mem_of_mem_reached (List.mem_filter.mp member).1

theorem claim_cons (policy : MalformedPolicy) (text : Text) (context : Option Context)
    (claims : List Claim) (candidate : Candidate State Context)
    (later : List (Candidate State Context)) :
    claim policy text context claims (candidate :: later) =
      if (claims.map (·.span)).any (·.overlaps candidate.span) then
        claim policy text context claims later
      else if policy = .leaveVerbatim ∧ candidate.call? = none then
        claim policy text context claims later
      else
        candidate.attempt text context >>= fun one =>
          claim policy text context (claims ++ [one]) later := by
  rw [claim.eq_def]
  simp only [List.any_map, Function.comp_def, Candidate.span]
  split
  · rfl
  · cases bound : candidate.processor.bind candidate.found with
    | error fault =>
        have unbound := Candidate.call?_eq_none_iff.mpr ⟨fault, bound⟩
        cases policy with
        | leaveVerbatim => rw [if_pos ⟨rfl, unbound⟩]
        | propagate =>
            rw [if_neg (by simp)]
            simp [Candidate.attempt, Candidate.claimFor, Candidate.span]
    | ok call =>
        have binds := Candidate.call?_eq_some_iff.mpr bound
        rw [if_neg (by simp [binds])]
        cases policy <;> simp [Candidate.attempt, Candidate.claimFor, Candidate.span]

theorem claim_append (policy : MalformedPolicy) (text : Text) (context : Option Context)
    (claims : List Claim) (earlier later : List (Candidate State Context)) :
    claim policy text context claims (earlier ++ later) =
      claim policy text context claims earlier >>= fun made =>
        claim policy text context made later := by
  induction earlier generalizing claims with
  | nil => rfl
  | cons candidate earlier ih =>
      rw [List.cons_append, claim_cons, claim_cons]
      split
      · exact ih claims
      · split
        · exact ih claims
        · simp only [bind_assoc, ih]

/-- Claiming is attempting the candidates that reach binding, one after the
other. -/
theorem claim_eq_mapM (policy : MalformedPolicy) (text : Text) (context : Option Context)
    (claims : List Claim) (candidates : List (Candidate State Context)) :
    claim policy text context claims candidates =
      (attempts policy (claims.map (·.span)) candidates).mapM (Candidate.attempt text context) >>=
        fun more => pure (claims ++ more) := by
  induction candidates generalizing claims with
  | nil => cases policy <;> simp [claim, attempts, reached]
  | cons candidate later ih =>
      rw [claim_cons]
      cases overlaps : (claims.map (·.span)).any (·.overlaps candidate.span) with
      | true => rw [if_pos rfl, ih, attempts_cons_of_overlaps overlaps]
      | false =>
          rw [if_neg (by simp)]
          cases bound : candidate.call? with
          | some call =>
              rw [if_neg (by simp), attempts_cons_of_bound overlaps bound, List.mapM_cons]
              simp only [candidate.attempt_eq, bind_assoc, pure_bind]
              congr 1
              funext output
              rw [ih]
              simp [Candidate.claimFor]
          | none =>
              cases policy with
              | leaveVerbatim =>
                  rw [if_pos ⟨rfl, rfl⟩, ih, attempts_cons_of_verbatim overlaps bound]
              | propagate =>
                  obtain ⟨fault, unbound⟩ := Candidate.call?_eq_none_iff.mp bound
                  -- Both computations end here, whatever the later candidates are.
                  rw [if_neg (by simp), attempts_cons_of_propagate overlaps bound]
                  have fails : candidate.attempt text context =
                      throw ⟨.binding candidate.processor.name fault, text, candidate.span⟩ := by
                    unfold Candidate.attempt
                    rw [Processor.invokeIn_of_unbound unbound]
                    rfl
                  rw [List.mapM_cons, fails]
                  rfl

theorem filterMap_attempts (policy : MalformedPolicy) (replaced : List Span)
    (candidates : List (Candidate State Context)) :
    (attempts policy replaced candidates).filterMap Candidate.select? =
      selectedFrom replaced candidates := by
  cases policy with
  | propagate => rfl
  | leaveVerbatim =>
      simp only [attempts, selectedFrom, List.filterMap_filter]
      congr 1
      funext candidate
      cases bound : candidate.call? <;> simp [Candidate.select?, bound]

/-- Attempts succeed when all candidates bind and their callbacks succeed one
after the other. -/
theorem mapM_attempt_eq_ok_iff {text : Text} {context : Option Context}
    {candidates : List (Candidate State Context)} {state final : State} {claims : List Claim} :
    candidates.mapM (Candidate.attempt text context) state = .ok claims final ↔
      (∀ candidate ∈ candidates, candidate.call?.isSome = true) ∧
        ∃ outputs, (candidates.filterMap Candidate.select?).mapM (Selection.run context) state =
            .ok outputs final ∧
          claims = List.zipWith (Selection.claimFor text)
            (candidates.filterMap Candidate.select?) outputs := by
  induction candidates generalizing state final claims with
  | nil =>
      simp only [List.mapM_nil, pure_eq_ok_iff, List.filterMap_nil]
      constructor
      · rintro ⟨rfl, rfl⟩
        exact ⟨by simp, [], ⟨rfl, rfl⟩, rfl⟩
      · rintro ⟨-, outputs, ⟨rfl, rfl⟩, rfl⟩
        exact ⟨rfl, rfl⟩
  | cons candidate later ih =>
      cases bound : candidate.call? with
      | none =>
          simp only [List.mapM_cons, bind_eq_ok_iff, Candidate.attempt_eq_ok_iff, bound]
          simp [bound]
      | some call =>
          have selects : candidate.select? = some ⟨candidate, call⟩ := by
            simp [Candidate.select?, bound]
          simp only [List.mapM_cons, bind_eq_ok_iff, pure_eq_ok_iff,
            Candidate.attempt_eq_ok_iff, ih, List.filterMap_cons_some selects, List.forall_mem_cons,
            bound, Option.isSome_some, true_and, Option.some.injEq]
          constructor
          · rintro ⟨_, between, ⟨_, output, rfl, ran, rfl⟩, _, _,
              ⟨binds, outputs, rans, rfl⟩, rfl, rfl⟩
            exact ⟨binds, _, ⟨output, between, ran, outputs, _, rans, rfl, rfl⟩, rfl⟩
          · rintro ⟨binds, _, ⟨output, between, ran, outputs, _, rans, rfl, rfl⟩, rfl⟩
            exact ⟨_, between, ⟨call, output, rfl, ran, rfl⟩, _, _,
              ⟨binds, outputs, rans, rfl⟩, rfl, rfl⟩

/-- What the outputs of the selected candidates make of a text. -/
def resultOf (text : Text) (selected : List (Selection State Context)) (outputs : List Text) :
    PassResult :=
  ⟨splice text (List.zipWith (fun selection => Replacement.mk selection.span) selected outputs),
    List.zipWith (Selection.claimFor text) selected outputs⟩

/-- A pass succeeds when the callbacks of the selected candidates do, and no
candidate that reaches binding fails to bind unless it may stay verbatim. -/
theorem pass_eq_ok_iff {registry : Registry State Context} {policy : MalformedPolicy}
    {text : Text} {context : Option Context} {state final : State} {result : PassResult} :
    registry.pass policy text context state = .ok result final ↔
      (∀ candidate ∈ attempts policy [] (registry.candidates text),
        candidate.call?.isSome = true) ∧
        ∃ outputs, (registry.selected text).mapM (Selection.run context) state =
            .ok outputs final ∧
          result = resultOf text (registry.selected text) outputs := by
  unfold pass
  rw [claim_eq_mapM]
  simp only [bind_eq_ok_iff, pure_eq_ok_iff, mapM_attempt_eq_ok_iff, filterMap_attempts,
    List.map_nil, List.nil_append]
  constructor
  · rintro ⟨_, _, ⟨_, _, ⟨binds, outputs, rans, rfl⟩, rfl, rfl⟩, rfl, rfl⟩
    refine ⟨binds, outputs, rans, ?_⟩
    simp [resultOf, selected, List.map_zipWith, Claim.replacement, Selection.claimFor,
      Candidate.claimFor, Selection.span]
  · rintro ⟨binds, outputs, rans, rfl⟩
    refine ⟨_, final, ⟨_, final, ⟨binds, outputs, rans, rfl⟩, rfl, rfl⟩, ?_, rfl⟩
    simp [resultOf, selected, List.map_zipWith, Claim.replacement, Selection.claimFor,
      Candidate.claimFor, Selection.span]

end Registry

end CallMarkup
