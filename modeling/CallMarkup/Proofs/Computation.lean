/-!
# Computations in steps

A computation with a state either fails or returns a value.  In two steps it
succeeds exactly if both do, one after the other.
-/

namespace CallMarkup

/-- A computation in two steps succeeds when both succeed. -/
theorem bind_eq_ok_iff {Fault A B : Type} {first : EStateM Fault State A}
    {second : A → EStateM Fault State B} {state final : State} {result : B} :
    (first >>= second) state = .ok result final ↔
      ∃ value between, first state = .ok value between ∧
        second value between = .ok result final := by
  show EStateM.bind first second state = _ ↔ _
  unfold EStateM.bind
  cases first state with
  | error fault between => simp
  | ok value between => simp [and_assoc]

theorem pure_eq_ok_iff {Fault A : Type} {value result : A} {state final : State} :
    (pure value : EStateM Fault State A) state = .ok result final ↔
      value = result ∧ state = final := by
  show EStateM.Result.ok value state = _ ↔ _
  simp

/-- A computation in two steps fails when the first one does, or the second one
after it. -/
theorem bind_eq_error_iff {Fault A B : Type} {first : EStateM Fault State A}
    {second : A → EStateM Fault State B} {state final : State} {fault : Fault} :
    (first >>= second) state = .error fault final ↔
      first state = .error fault final ∨
        ∃ value between, first state = .ok value between ∧
          second value between = .error fault final := by
  show EStateM.bind first second state = _ ↔ _
  unfold EStateM.bind
  cases first state with
  | error other between => simp
  | ok value between => simp [and_assoc]

theorem pure_ne_error {Fault A : Type} {value : A} {state final : State} {fault : Fault} :
    (pure value : EStateM Fault State A) state ≠ .error fault final := by
  show EStateM.Result.ok value state ≠ _
  simp

end CallMarkup
