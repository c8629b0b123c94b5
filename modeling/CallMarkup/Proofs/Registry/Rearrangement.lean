import CallMarkup.Proofs.Processor.Matching
import CallMarkup.Proofs.Registry.FixedPoint
import CallMarkup.Proofs.Registry.FromList
import CallMarkup.Proofs.Registry.Steady

/-!
# The order of registration

No unit is matched by the processors of two names, so in a registry of such
processors no candidates overlap and all of them reach binding, in whatever order
the processors have been registered.  The order of registration is the order of the
calls.  When the callbacks answer by the call alone, it does not show in the result.
-/

namespace CallMarkup

variable {State Context Fault A B : Type}

/-- Steady computations can be made in any order. -/
theorem exists_mapM_of_perm {step : A → EStateM Fault State B} {items others : List A}
    (perm : items.Perm others) (steady : ∀ item ∈ items, Steady (step item))
    {state final : State} {results : List B} (rans : items.mapM step state = .ok results final)
    (other : State) :
    ∃ rearranged last, others.mapM step other = .ok rearranged last ∧
      results.Perm rearranged := by
  induction perm generalizing state final results other with
  | nil =>
      obtain ⟨rfl, -⟩ := pure_eq_ok_iff.mp rans
      exact ⟨[], other, rfl, .nil⟩
  | cons item _ ih =>
      obtain ⟨steadyItem, steadyRest⟩ := List.forall_mem_cons.mp steady
      simp only [List.mapM_cons, bind_eq_ok_iff, pure_eq_ok_iff] at rans ⊢
      obtain ⟨result, _, ran, results, _, rest, rfl, rfl⟩ := rans
      obtain ⟨between, ranToo⟩ := steadyItem.exists_ok ran other
      obtain ⟨rearranged, last, restToo, perm⟩ := ih steadyRest rest between
      exact ⟨_, last, ⟨result, between, ranToo, rearranged, last, restToo, rfl, rfl⟩,
        perm.cons result⟩
  | swap first second rest =>
      obtain ⟨steadySecond, steadyFirst, steadyRest⟩ :
          Steady (step second) ∧ Steady (step first) ∧ ∀ item ∈ rest, Steady (step item) := by
        simpa using steady
      simp only [List.mapM_cons, bind_eq_ok_iff, pure_eq_ok_iff] at rans ⊢
      obtain ⟨two, _, ranSecond, _, _, ⟨one, _, ranFirst, results, _, rans, rfl, rfl⟩, rfl, rfl⟩ :=
        rans
      obtain ⟨between, ranFirst⟩ := steadyFirst.exists_ok ranFirst other
      obtain ⟨later, ranSecond⟩ := steadySecond.exists_ok ranSecond between
      obtain ⟨last, rans⟩ := (Steady.mapM steadyRest).exists_ok rans later
      exact ⟨_, last, ⟨one, between, ranFirst, _, last,
        ⟨two, later, ranSecond, results, last, rans, rfl, rfl⟩, rfl, rfl⟩, .swap one two results⟩
  | trans perm _ ih ihToo =>
      obtain ⟨middle, between, ransMiddle, permFirst⟩ := ih steady rans other
      obtain ⟨rearranged, last, ransLast, permLast⟩ :=
        ihToo (fun item member => steady item (perm.mem_iff.mpr member)) ransMiddle other
      exact ⟨rearranged, last, ransLast, permFirst.trans permLast⟩

/-- Two registries of processors for names that have the same processors, whose
callbacks answer by the call alone. -/
structure Rearrangement (first second : Registry State Context) : Prop where
  grammar : first.grammar = second.grammar
  same : ∀ processor, processor ∈ first.processors ↔ processor ∈ second.processors
  forNames : ∀ processor ∈ first.processors, ∃ name shape callback,
    Processor.shorthand first.grammar name shape callback = .ok processor
  byCall : ∀ processor ∈ first.processors, Callback.AnswersByCall processor.callback

namespace Rearrangement

variable {first second : Registry State Context}

theorem symm (rearranged : Rearrangement first second) : Rearrangement second first where
  grammar := rearranged.grammar.symm
  same processor := (rearranged.same processor).symm
  forNames processor member := by
    rw [← rearranged.grammar]
    exact rearranged.forNames processor ((rearranged.same processor).mpr member)
  byCall processor member :=
    rearranged.byCall processor ((rearranged.same processor).mpr member)

theorem processors_perm (rearranged : Rearrangement first second) :
    first.processors.Perm second.processors :=
  (List.perm_ext_iff_of_nodup (.of_map _ first.coherent.nodup)
    (.of_map _ second.coherent.nodup)).mpr rearranged.same

theorem candidates_perm (rearranged : Rearrangement first second) (text : Text) :
    (first.candidates text).Perm (second.candidates text) :=
  rearranged.processors_perm.flatMap_right _

/-- The candidates of such a registry do not overlap, since a unit has one name. -/
theorem candidates_apart (rearranged : Rearrangement first second) (text : Text) :
    (first.candidates text).Pairwise fun one other => one.span.overlaps other.span = false := by
  have names : first.processors.Pairwise fun one other => one.name ≠ other.name :=
    List.pairwise_map.mp first.coherent.nodup
  refine List.pairwise_flatMap.mpr
    ⟨fun processor _ => List.pairwise_map.mpr (processor.find_apart text), ?_⟩
  refine names.imp_of_mem fun {one other} inFirst inFirstToo distinct candidate inOne => ?_
  intro candidateToo inOther
  obtain ⟨found, inFinds, rfl⟩ := List.mem_map.mp inOne
  obtain ⟨foundToo, inFindsToo, rfl⟩ := List.mem_map.mp inOther
  obtain ⟨_, _, _, built⟩ := rearranged.forNames one inFirst
  obtain ⟨_, _, _, builtToo⟩ := rearranged.forNames other inFirstToo
  exact Bool.eq_false_iff.mpr fun overlap =>
    distinct (Processor.name_eq_of_overlaps built builtToo inFinds inFindsToo overlap)

theorem attempts_eq (rearranged : Rearrangement first second) (policy : MalformedPolicy)
    (text : Text) :
    Registry.attempts policy [] (first.candidates text) =
      match policy with
      | .propagate => first.candidates text
      | .leaveVerbatim => (first.candidates text).filter (·.call?.isSome) := by
  have reached : Registry.reached [] (first.candidates text) = first.candidates text :=
    Registry.reached_of_apart (by simp) (rearranged.candidates_apart text)
  cases policy <;> simp only [Registry.attempts, reached]

theorem attempts_perm (rearranged : Rearrangement first second) (policy : MalformedPolicy)
    (text : Text) :
    (Registry.attempts policy [] (first.candidates text)).Perm
      (Registry.attempts policy [] (second.candidates text)) := by
  rw [rearranged.attempts_eq, rearranged.symm.attempts_eq]
  cases policy with
  | propagate => exact rearranged.candidates_perm text
  | leaveVerbatim => exact (rearranged.candidates_perm text).filter _

end Rearrangement

/-- Results of passes that differ in the order of the calls. -/
structure PassResult.Alike (one other : PassResult) : Prop where
  text : one.text = other.text
  claims : one.claims.Perm other.claims

namespace Rearrangement

variable {first second : Registry State Context} {text : Text} {context : Option Context}
  {state final : State}

theorem exists_pass (rearranged : Rearrangement first second) {policy : MalformedPolicy}
    {last : PassResult} (passed : first.pass policy text context state = .ok last final)
    (other : State) :
    ∃ lastToo finalToo, second.pass policy text context other = .ok lastToo finalToo ∧
      last.Alike lastToo := by
  have ordered : ∀ claim ∈ last.claims, claim.span.start ≤ claim.span.stop :=
    fun _ member => (Registry.fitsIn_of_mem_claims passed member).start_le_stop
  have apart := Registry.claims_apart passed
  simp only [Registry.pass, Registry.claim_eq_mapM, bind_eq_ok_iff, pure_eq_ok_iff, List.map_nil,
    List.nil_append] at passed ⊢
  obtain ⟨claims, _, ⟨_, _, rans, rfl, rfl⟩, rfl, rfl⟩ := passed
  have steady : ∀ candidate ∈ Registry.attempts policy [] (first.candidates text),
      Steady (candidate.attempt text context) := by
    intro candidate member
    have inCandidates := Registry.mem_of_mem_attempts member
    exact candidate.steady_attempt
      (rearranged.byCall _ (Registry.mem_candidates_iff.mp inCandidates).1) text context
  obtain ⟨rearrangedClaims, last, ransToo, perm⟩ :=
    exists_mapM_of_perm (rearranged.attempts_perm policy text) steady rans other
  refine ⟨_, last, ⟨_, last, ⟨_, last, ransToo, rfl, rfl⟩, rfl, rfl⟩, ?_, perm⟩
  refine splice_perm (perm.map _) ?_ (List.pairwise_map.mpr apart)
  intro item member
  obtain ⟨claim, inClaims, rfl⟩ := List.mem_map.mp member
  exact ordered claim inClaims

end Rearrangement

/-- Results of runs that differ in the order of the calls. -/
structure LoopResult.Alike (one other : LoopResult) : Prop where
  progression : one.progression = other.progression
  last : one.last.Alike other.last
  convergence : one.convergence = other.convergence

theorem Registry.Ends.of_text {options : SubstitutionOptions} {further : Nat} {text : Text}
    {last other : PassResult} {convergence : Convergence}
    (ends : Registry.Ends options further text last convergence) (same : last.text = other.text) :
    Registry.Ends options further text other convergence := by
  cases ends with
  | singlePass once => exact .singlePass once
  | fixedPoint again unchanged => exact .fixedPoint again (same ▸ unchanged)
  | boundReached again changed atBound => exact .boundReached again (same ▸ changed) atBound

namespace Rearrangement

variable {first second : Registry State Context} {options : SubstitutionOptions} {text : Text}
  {context : Option Context} {state final : State}

theorem exists_passes (rearranged : Rearrangement first second) {further : Nat}
    {progression : Progression} {result : LoopResult}
    (done : first.passes options context further progression text state = .ok result final)
    (other : State) :
    ∃ resultToo finalToo,
      second.passes options context further progression text other = .ok resultToo finalToo ∧
        result.Alike resultToo := by
  induction further using Nat.strongRecOn generalizing progression text state other with
  | ind further ih =>
      cases passed : first.pass options.malformed text context state with
      | error located between =>
          simp [Registry.passes_of_error passed] at done
      | ok last between =>
          obtain ⟨lastToo, betweenToo, passedToo, alike⟩ := rearranged.exists_pass passed other
          have counted : progression.after lastToo = progression.after last := by
            simp [Progression.after, alike.claims.length_eq]
          obtain ⟨convergence, ends⟩ | ⟨recursive, changed, fewer, rfl⟩ :=
            Registry.ends_or_goesOn options further text last
          · rw [Registry.passes_of_ends ends passed, EStateM.Result.ok.injEq] at done
            obtain ⟨rfl, rfl⟩ := done
            exact ⟨_, betweenToo, Registry.passes_of_ends (ends.of_text alike.text) passedToo,
              counted.symm, alike, rfl⟩
          · rw [Registry.passes_of_changed recursive changed passed] at done
            rw [Registry.passes_of_changed recursive (alike.text ▸ changed) passedToo, counted,
              ← alike.text]
            exact ih fewer (Nat.lt_succ_self fewer) done betweenToo

theorem hasDelimited_eq (rearranged : Rearrangement first second) :
    first.hasDelimited = second.hasDelimited :=
  rearranged.processors_perm.any_eq

theorem unhandledFault?_eq_none (rearranged : Rearrangement first second)
    (handled : first.unhandledFault? text = none) : second.unhandledFault? text = none := by
  rw [Registry.unhandledFault?_eq_none_iff] at handled ⊢
  rw [← rearranged.hasDelimited_eq, ← rearranged.grammar]
  intro delimited unit member
  obtain ⟨processor, inFirst, finds⟩ := handled delimited unit member
  exact ⟨processor, (rearranged.same processor).mp inFirst, finds⟩

theorem balanceFault?_eq (rearranged : Rearrangement first second) :
    first.balanceFault? options text = second.balanceFault? options text := by
  simp only [Registry.balanceFault?, rearranged.hasDelimited_eq, rearranged.grammar]

/-- Whether a result has a fault does not depend on the order, though the fault may. -/
theorem resultFault?_eq_none (rearranged : Rearrangement first second)
    {result resultToo : LoopResult} (alike : result.Alike resultToo)
    (faultless : first.resultFault? options result = none) :
    second.resultFault? options resultToo = none := by
  rw [Registry.resultFault?_eq_none_iff] at faultless ⊢
  obtain ⟨strict, atFixedPoint, balanced⟩ := faultless
  rw [← alike.convergence, ← alike.last.text]
  refine ⟨strict, fun fixed propagates => ?_, fun ended propagates => ?_⟩
  · obtain ⟨replaced, handled⟩ := atFixedPoint fixed propagates
    exact ⟨fun claim member => replaced claim (alike.last.claims.mem_iff.mpr member),
      rearranged.unhandledFault?_eq_none handled⟩
  · rw [← rearranged.balanceFault?_eq]
    exact balanced ended propagates

theorem exists_collectiveSubstitute (rearranged : Rearrangement first second)
    {outcome : Substitution}
    (done : first.collectiveSubstitute text context options state = .ok outcome final)
    (other : State) :
    ∃ finalToo, second.collectiveSubstitute text context options other = .ok outcome finalToo := by
  obtain ⟨result, ran, faultless, rfl⟩ := Registry.collectiveSubstitute_eq_ok done
  obtain ⟨resultToo, finalToo, ranToo, alike⟩ := rearranged.exists_passes ran other
  refine ⟨finalToo, ?_⟩
  rw [Registry.collectiveSubstitute, ranToo]
  simp only [rearranged.resultFault?_eq_none alike faultless, alike.last.text, alike.progression,
    alike.convergence]

end Rearrangement

/-- The order in which processors for names are registered does not matter when their
callbacks answer by the call alone: in either order a text has the same outcome, or
none. -/
theorem Registry.collectiveSubstitute_rearranged {first second : Registry State Context}
    (rearranged : Rearrangement first second) (text : Text) (context : Option Context)
    (options : SubstitutionOptions) (state other : State) (outcome : Substitution) :
    (∃ final, first.collectiveSubstitute text context options state = .ok outcome final) ↔
      ∃ final, second.collectiveSubstitute text context options other = .ok outcome final := by
  constructor
  · rintro ⟨final, done⟩
    exact rearranged.exists_collectiveSubstitute done other
  · rintro ⟨final, done⟩
    exact rearranged.symm.exists_collectiveSubstitute done state

/-! ## Two units in either order -/

/-- Writes the same for every call, and notes the name that is called. -/
def noting (output : Text) : Callback (List Text) Unit := fun invocation called =>
  .ok output (called ++ [invocation.callee])

/-- Writes the same for every unit that calls a name. -/
def notingUnits (name : Char) (output : Text) : Processor (List Text) Unit where
  name := [name]
  grammar := Grammar.default
  matcher := .calls [name]
  shape := {}
  callback := noting output

theorem shorthand_noting {name : Char} (valid : Grammar.default.nameFault? [name] = none)
    (output : Text) :
    Processor.shorthand Grammar.default [name] {} (noting output) =
      .ok (notingUnits name output) := by
  simp [Processor.shorthand, valid, notingUnits]

/-- Writes units that call `b` for those that call `a`, and then `x` for them. -/
def expanding (processors : List (Processor (List Text) Unit))
    (perm : processors.Perm
      [notingUnits 'a' "\x7b\x7bb\x7d\x7d".toList, notingUnits 'b' ['x']]) :
    Registry (List Text) Unit :=
  Registry.ofProcessors Grammar.default processors
    ((perm.map _).nodup_iff.mpr (by decide)) (by
      intro processor member _
      have either := perm.mem_iff.mp member
      simp only [List.mem_cons, List.not_mem_nil, or_false] at either
      rcases either with rfl | rfl <;> rfl)

def expandingInOrder : Registry (List Text) Unit :=
  expanding [notingUnits 'a' "\x7b\x7bb\x7d\x7d".toList, notingUnits 'b' ['x']] (.refl _)

def expandingReversed : Registry (List Text) Unit :=
  expanding [notingUnits 'b' ['x'], notingUnits 'a' "\x7b\x7bb\x7d\x7d".toList] (.swap _ _ _)

theorem expanding_rearranged : Rearrangement expandingInOrder expandingReversed where
  grammar := rfl
  same processor := by
    simp [expandingInOrder, expandingReversed, expanding, or_comm]
  forNames processor member := by
    simp only [expandingInOrder, expanding, Registry.ofProcessors_processors, List.mem_cons,
      List.not_mem_nil, or_false] at member
    rcases member with rfl | rfl
    · exact ⟨['a'], {}, _, shorthand_noting (by cbv) _⟩
    · exact ⟨['b'], {}, _, shorthand_noting (by cbv) _⟩
  byCall processor member := by
    simp only [expandingInOrder, expanding, Registry.ofProcessors_processors, List.mem_cons,
      List.not_mem_nil, or_false] at member
    rcases member with rfl | rfl <;> exact fun _ _ _ => rfl

/-- The calls come in another order, as the states tell, but the outcome is the same. -/
theorem expanding_outcome :
    expandingInOrder.collectiveSubstitute
        "\x7b\x7bb\x7d\x7d\x7b\x7ba\x7d\x7d".toList none {} [] =
      .ok ⟨['x', 'x'], 3, 3, .fixedPoint⟩ [['a'], ['b'], ['b']] ∧
    expandingReversed.collectiveSubstitute
        "\x7b\x7bb\x7d\x7d\x7b\x7ba\x7d\x7d".toList none {} [] =
      .ok ⟨['x', 'x'], 3, 3, .fixedPoint⟩ [['b'], ['a'], ['b']] ∧
    ∀ start, ∃ final, expandingReversed.collectiveSubstitute
        "\x7b\x7bb\x7d\x7d\x7b\x7ba\x7d\x7d".toList none {} start =
      .ok ⟨['x', 'x'], 3, 3, .fixedPoint⟩ final := by
  have inOrder : expandingInOrder.collectiveSubstitute
      "\x7b\x7bb\x7d\x7d\x7b\x7ba\x7d\x7d".toList none {} [] =
        .ok ⟨['x', 'x'], 3, 3, .fixedPoint⟩ [['a'], ['b'], ['b']] := by cbv
  refine ⟨inOrder, by cbv, fun start => ?_⟩
  exact (Registry.collectiveSubstitute_rearranged expanding_rearranged _ none {} [] start _).mp
    ⟨_, inOrder⟩

end CallMarkup
