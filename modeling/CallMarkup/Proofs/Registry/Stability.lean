import CallMarkup.Proofs.Registry.FixedPoint
import CallMarkup.Proofs.Registry.Rearrangement
import CallMarkup.Proofs.Registry.Steady

/-!
# Fixed points are stable

The last pass of a run that ends at a fixed point turns its text into itself.  A
run over that text makes the same pass, so it ends there at once, and the checks
see what they saw before.  A bound on passes that was not reached does not show in
the outcome, so a larger one makes no difference.
-/

namespace CallMarkup

variable {State Context : Type}

namespace Registry

variable {registry : Registry State Context} {options : SubstitutionOptions}
  {context : Option Context} {text : Text} {state final : State} {further : Nat}
  {progression : Progression} {result : LoopResult}

theorem recursive_of_fixedPoint
    (done : registry.passes options context further progression text state = .ok result final)
    (fixed : result.convergence = .fixedPoint) : options.recursive = true := by
  obtain ⟨_, _, _, -, -, ⟨_, _, -, failed⟩ | ⟨_, _, -, ran, -, ends⟩⟩ :=
    exists_last_pass registry options context further progression text state
  · simp [done] at failed
  · rw [done, EStateM.Result.ok.injEq] at ran
    obtain ⟨rfl, rfl⟩ := ran
    rw [fixed] at ends
    cases ends with
    | fixedPoint again unchanged => exact again

/-- A run that reaches a fixed point would make the same passes if more were
allowed. -/
theorem passes_of_le {others : SubstitutionOptions}
    (alsoRecursive : others.recursive = options.recursive)
    (samePolicy : others.malformed = options.malformed)
    (done : registry.passes options context further progression text state = .ok result final)
    (fixed : result.convergence = .fixedPoint) {allowed : Nat} (more : further ≤ allowed) :
    registry.passes others context allowed progression text state = .ok result final := by
  induction further using Nat.strongRecOn generalizing progression text state allowed with
  | ind further ih =>
      cases passed : registry.pass options.malformed text context state with
      | error located between => simp [passes_of_error passed] at done
      | ok last between =>
          have passedToo : registry.pass others.malformed text context state =
              .ok last between := by rw [samePolicy, passed]
          obtain ⟨convergence, ends⟩ | ⟨recursive, changed, fewer, rfl⟩ :=
            ends_or_goesOn options further text last
          · rw [passes_of_ends ends passed, EStateM.Result.ok.injEq] at done
            obtain ⟨rfl, rfl⟩ := done
            obtain rfl : convergence = .fixedPoint := fixed
            cases ends with
            | fixedPoint again unchanged =>
                exact passes_of_ends (.fixedPoint (alsoRecursive.trans again) unchanged) passedToo
          · rw [passes_of_changed recursive changed passed] at done
            -- The bound is looked at only after a pass that has changed the text.
            cases allowed with
            | zero => exact absurd more (Nat.not_succ_le_zero fewer)
            | succ allowed =>
                rw [passes_of_changed (alsoRecursive.trans recursive) changed passedToo]
                exact ih fewer (Nat.lt_succ_self fewer) done (Nat.le_of_succ_le_succ more)

/-- A run over the text of a fixed point ends after one pass, which is the last pass
again. -/
theorem exists_passes_again
    (byCall : ∀ processor ∈ registry.processors, Callback.AnswersByCall processor.callback)
    (done : registry.passes options context further progression text state = .ok result final)
    (fixed : result.convergence = .fixedPoint) (allowed : Nat) (again : State) :
    ∃ last, registry.passes options context allowed {} result.last.text again =
      .ok ⟨⟨1, result.last.claims.length⟩, result.last, .fixedPoint⟩ last := by
  obtain ⟨between, passed⟩ := last_pass_of_fixedPoint done fixed
  obtain ⟨last, passedAgain⟩ :=
    (steady_pass byCall options.malformed result.last.text context).exists_ok passed again
  have ends : Ends options allowed result.last.text result.last .fixedPoint :=
    .fixedPoint (recursive_of_fixedPoint done fixed) rfl
  refine ⟨last, ?_⟩
  rw [passes_of_ends ends passedAgain, Progression.after, Nat.zero_add, Nat.zero_add]

theorem collectiveSubstitute_of_passes
    (ran : registry.passes options context (options.maxPasses - 1) {} text state =
      .ok result final) (faultless : registry.resultFault? options result = none) :
    registry.collectiveSubstitute text context options state =
      .ok ⟨result.last.text, result.progression.passes, result.progression.replacements,
        result.convergence⟩ final := by
  simp [collectiveSubstitute, ran, faultless]

/-- When the callbacks answer by the call, the text of a fixed point is one itself,
after a single pass, and the outcome is the same with a larger bound on passes. -/
theorem collectiveSubstitute_stable
    (byCall : ∀ processor ∈ registry.processors, Callback.AnswersByCall processor.callback)
    {outcome : Substitution}
    (done : registry.collectiveSubstitute text context options state = .ok outcome final)
    (fixed : outcome.convergence = .fixedPoint) (again : State) :
    (∃ replacements last,
      registry.collectiveSubstitute outcome.text context options again =
        .ok ⟨outcome.text, 1, replacements, .fixedPoint⟩ last) ∧
    ∀ maxPasses, options.maxPasses ≤ maxPasses →
      ∃ last, registry.collectiveSubstitute text context { options with maxPasses } again =
        .ok outcome last := by
  obtain ⟨result, ran, faultless, rfl⟩ := collectiveSubstitute_eq_ok done
  constructor
  · obtain ⟨last, ranAgain⟩ :=
      exists_passes_again byCall ran fixed (options.maxPasses - 1) again
    refine ⟨result.last.claims.length, last, collectiveSubstitute_of_passes ranAgain ?_⟩
    obtain ⟨-, atFixedPoint, balanced⟩ := resultFault?_eq_none_iff.mp faultless
    rw [show result.convergence = .fixedPoint from fixed] at atFixedPoint balanced
    exact resultFault?_eq_none_iff.mpr ⟨by simp, atFixedPoint, balanced⟩
  · intro maxPasses more
    have longer : registry.passes { options with maxPasses } context (maxPasses - 1) {} text state =
        .ok result final := by
      refine passes_of_le ?_ ?_ ran fixed (Nat.sub_le_sub_right more 1) <;> rfl
    obtain ⟨last, ranAgain⟩ := (steady_passes byCall _ context _ {} text).exists_ok longer again
    exact ⟨last, collectiveSubstitute_of_passes ranAgain faultless⟩

/-! ## A fixed point with units -/

/-- `a` writes itself and a `b` after it, and `b` writes nothing. -/
def regrowing : Registry (List Text) Unit :=
  ofProcessors Grammar.default
    [notingUnits 'a' "\x7b\x7ba\x7d\x7d\x7b\x7bb\x7d\x7d".toList, notingUnits 'b' []]
    (by simp [notingUnits]) (by simp [notingUnits])

theorem regrowing_byCall :
    ∀ processor ∈ regrowing.processors, Callback.AnswersByCall processor.callback := by
  intro processor member
  have listed : regrowing.processors =
      [notingUnits 'a' "\x7b\x7ba\x7d\x7d\x7b\x7bb\x7d\x7d".toList, notingUnits 'b' []] :=
    ofProcessors_processors _ _ _ _
  simp only [listed, List.mem_cons, List.not_mem_nil, or_false] at member
  rcases member with rfl | rfl <;> exact fun _ _ _ => rfl

/-- The second pass writes a `b` and takes one away.  So does the only pass over its
result. -/
theorem regrowing_stable :
    regrowing.collectiveSubstitute "\x7b\x7ba\x7d\x7d".toList none {} [] =
      .ok ⟨"\x7b\x7ba\x7d\x7d\x7b\x7bb\x7d\x7d".toList, 2, 3, .fixedPoint⟩ [['a'], ['a'], ['b']] ∧
    (∃ replacements last, regrowing.collectiveSubstitute
        "\x7b\x7ba\x7d\x7d\x7b\x7bb\x7d\x7d".toList none {} [['a'], ['a'], ['b']] =
      .ok ⟨"\x7b\x7ba\x7d\x7d\x7b\x7bb\x7d\x7d".toList, 1, replacements, .fixedPoint⟩ last) ∧
    ∃ last, regrowing.collectiveSubstitute "\x7b\x7ba\x7d\x7d".toList none
        { maxPasses := 1000 } [['a'], ['a'], ['b']] =
      .ok ⟨"\x7b\x7ba\x7d\x7d\x7b\x7bb\x7d\x7d".toList, 2, 3, .fixedPoint⟩ last := by
  have done : regrowing.collectiveSubstitute "\x7b\x7ba\x7d\x7d".toList none {} [] =
      .ok ⟨"\x7b\x7ba\x7d\x7d\x7b\x7bb\x7d\x7d".toList, 2, 3, .fixedPoint⟩
        [['a'], ['a'], ['b']] := by cbv
  obtain ⟨rerun, larger⟩ :=
    collectiveSubstitute_stable regrowing_byCall done rfl [['a'], ['a'], ['b']]
  exact ⟨done, rerun, larger 1000 (by decide)⟩

end Registry

end CallMarkup
