import CallMarkup.Proofs.Registry.Passes
import CallMarkup.Proofs.Registry.Watching

/-!
# Callbacks that answer by the call

A callback may keep state without showing it in its answers.  If all callbacks of
a registry answer by the call that they receive, its passes come to the same
whatever the state, since only callbacks see it.
-/

namespace CallMarkup

variable {State Context Fault A B : Type}

/-- What a computation comes to, without the state that it leaves. -/
def answer : EStateM.Result Fault State A → Except Fault A
  | .ok result _ => .ok result
  | .error fault _ => .error fault

/-- A computation that comes to the same whatever the state. -/
def Steady (computation : EStateM Fault State A) : Prop :=
  ∀ state other, answer (computation state) = answer (computation other)

/-- The callback answers by the call that it receives. -/
def Callback.AnswersByCall (callback : Callback State Context) : Prop :=
  ∀ invocation, Steady (callback invocation)

namespace Steady

variable {computation : EStateM Fault State A}

theorem exists_ok (steady : Steady computation) {state final : State} {result : A}
    (ran : computation state = .ok result final) (other : State) :
    ∃ last, computation other = .ok result last := by
  have same := steady state other
  cases ranToo : computation other with
  | ok resultToo last =>
      simp only [ran, ranToo, answer, Except.ok.injEq] at same
      exact ⟨last, by rw [same]⟩
  | error fault last => simp [ran, ranToo, answer] at same

theorem pure (result : A) : Steady (pure result : EStateM Fault State A) :=
  fun _ _ => rfl

theorem throw (fault : Fault) : Steady (throw fault : EStateM Fault State A) :=
  fun _ _ => rfl

theorem bind (steady : Steady computation) {rest : A → EStateM Fault State B}
    (steadyRest : ∀ result, Steady (rest result)) : Steady (computation >>= rest) := by
  intro state other
  have same := steady state other
  show answer (EStateM.bind computation rest state) = answer (EStateM.bind computation rest other)
  unfold EStateM.bind
  cases ran : computation state with
  | ok result final =>
      obtain ⟨last, ranToo⟩ := steady.exists_ok ran other
      rw [ranToo]
      exact steadyRest result final last
  | error fault final =>
      cases ranToo : computation other with
      | ok result last => simp [ran, ranToo, answer] at same
      | error faultToo last => simpa [ran, ranToo, answer] using same

theorem mapM {step : A → EStateM Fault State B} {items : List A}
    (steady : ∀ item ∈ items, Steady (step item)) : Steady (items.mapM step) := by
  induction items with
  | nil => exact Steady.pure []
  | cons item rest ih =>
      obtain ⟨steadyItem, steadyRest⟩ := List.forall_mem_cons.mp steady
      rw [List.mapM_cons]
      exact steadyItem.bind fun _ => (ih steadyRest).bind fun _ => Steady.pure _

end Steady

theorem Candidate.steady_attempt {candidate : Candidate State Context}
    (byCall : Callback.AnswersByCall candidate.processor.callback) (text : Text)
    (context : Option Context) : Steady (candidate.attempt text context) := by
  refine Steady.bind ?_ fun output => Steady.pure _
  cases bound : candidate.call? with
  | none =>
      obtain ⟨fault, unbound⟩ := Candidate.call?_eq_none_iff.mp bound
      rw [Processor.invokeIn_of_unbound unbound]
      exact Steady.throw _
  | some call =>
      intro state other
      have same := byCall (Selection.invocation context ⟨candidate, call⟩) state other
      rw [Candidate.invokeIn_of_bound bound, Candidate.invokeIn_of_bound bound]
      revert same
      generalize candidate.processor.callback (Selection.invocation context ⟨candidate, call⟩) =
        callback
      cases callback state <;> cases callback other <;> simp [answer]

namespace Registry

variable {registry : Registry State Context}

theorem steady_pass
    (byCall : ∀ processor ∈ registry.processors, Callback.AnswersByCall processor.callback)
    (policy : MalformedPolicy) (text : Text) (context : Option Context) :
    Steady (registry.pass policy text context) := by
  have attempts : ∀ candidate ∈ attempts policy [] (registry.candidates text),
      Steady (candidate.attempt text context) := by
    intro candidate member
    have inCandidates := mem_of_mem_attempts member
    exact candidate.steady_attempt (byCall _ (mem_candidates_iff.mp inCandidates).1) text context
  unfold pass
  rw [claim_eq_mapM]
  exact ((Steady.mapM attempts).bind fun _ => Steady.pure _).bind fun _ => Steady.pure _

theorem steady_passes
    (byCall : ∀ processor ∈ registry.processors, Callback.AnswersByCall processor.callback)
    (options : SubstitutionOptions) (context : Option Context) (further : Nat)
    (progression : Progression) (text : Text) :
    Steady (registry.passes options context further progression text) := by
  induction further using Nat.strongRecOn generalizing progression text with
  | ind further ih =>
      rw [passes.eq_def]
      refine (steady_pass byCall options.malformed text context).bind fun last => ?_
      dsimp only
      split
      · exact Steady.pure _
      · split
        · exact Steady.pure _
        · cases further with
          | zero => exact Steady.pure _
          | succ fewer => exact ih fewer (Nat.lt_succ_self fewer) _ _

end Registry

end CallMarkup
