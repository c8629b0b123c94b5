import CallMarkup.Proofs.Registry.Recording

/-!
# Watching whole substitutions

A registry that records its calls makes the same of a text in any number of
passes, also when a pass fails.  What it records is invocations of selected
candidates only, so a property of all of these holds of every call.
-/

namespace CallMarkup

variable {State Context Fault Result : Type}

/-- What a computation comes to, together with a log. -/
def withLog (log : List (Invocation Context)) :
    EStateM.Result Fault State Result → EStateM.Result Fault (Recorded State Context) Result
  | .ok result final => .ok result (final, log)
  | .error fault final => .error fault (final, log)

theorem Callback.recording_apply (callback : Callback State Context)
    (invocation : Invocation Context) (state : State) (log : List (Invocation Context)) :
    Callback.recording callback invocation (state, log) =
      withLog (log ++ [invocation]) (callback invocation state) := by
  cases returned : callback invocation state <;> simp [Callback.recording, returned, withLog]

/-- A computation that does the same as another one, and notes only invocations
with a property. -/
def Notes (expected : Invocation Context → Prop) (plain : EStateM Fault State Result)
    (recorded : EStateM Fault (Recorded State Context) Result) : Prop :=
  ∀ state log, ∃ noted, (∀ invocation ∈ noted, expected invocation) ∧
    recorded (state, log) = withLog (log ++ noted) (plain state)

namespace Notes

variable {expected : Invocation Context → Prop}

theorem pure (result : Result) :
    Notes expected (pure result : EStateM Fault State Result) (pure result) :=
  fun _ log => ⟨[], by simp, by rw [List.append_nil]; rfl⟩

theorem throw (fault : Fault) :
    Notes expected (throw fault : EStateM Fault State Result) (throw fault) :=
  fun _ log => ⟨[], by simp, by rw [List.append_nil]; rfl⟩

theorem bind {Second : Type} {plain : EStateM Fault State Result}
    {recorded : EStateM Fault (Recorded State Context) Result}
    {plainRest : Result → EStateM Fault State Second}
    {recordedRest : Result → EStateM Fault (Recorded State Context) Second}
    (first : Notes expected plain recorded)
    (rest : ∀ result, Notes expected (plainRest result) (recordedRest result)) :
    Notes expected (plain >>= plainRest) (recorded >>= recordedRest) := by
  intro state log
  obtain ⟨noted, each, same⟩ := first state log
  show ∃ noted, _ ∧ EStateM.bind recorded recordedRest (state, log) =
    withLog _ (EStateM.bind plain plainRest state)
  unfold EStateM.bind
  rw [same]
  cases plain state with
  | error fault between => exact ⟨noted, each, rfl⟩
  | ok result between =>
      obtain ⟨later, eachLater, sameRest⟩ := rest result between (log ++ noted)
      refine ⟨noted ++ later, ?_, ?_⟩
      · intro invocation member
        exact (List.mem_append.mp member).elim (each invocation) (eachLater invocation)
      · rw [← List.append_assoc]
        exact sameRest

end Notes

variable {expected : Invocation Context → Prop} {context : Option Context}

theorem Candidate.invokeIn_of_bound {text : Text} {candidate : Candidate State Context}
    {call : BoundCall} (bound : candidate.call? = some call) (state : State) :
    candidate.processor.invokeIn text context candidate.found state =
      match candidate.processor.callback (Selection.invocation context ⟨candidate, call⟩) state with
      | .ok output final => .ok output final
      | .error message final =>
        .error ⟨.callback candidate.processor.name message, text, candidate.span⟩ final := by
  simp only [Processor.invokeIn, Processor.invoke, Candidate.call?_eq_some_iff.mp bound,
    Processor.call, Selection.invocation]
  cases candidate.processor.callback _ state <;> rfl

theorem Candidate.notes_attempt (text : Text) {candidate : Candidate State Context}
    (each : ∀ call, candidate.call? = some call →
      expected (Selection.invocation context ⟨candidate, call⟩)) :
    Notes expected (candidate.attempt text context) (candidate.recording.attempt text context) := by
  refine Notes.bind ?_ fun output => Notes.pure _
  cases bound : candidate.call? with
  | none =>
      obtain ⟨fault, unbound⟩ := Candidate.call?_eq_none_iff.mp bound
      have unboundToo : candidate.recording.processor.bind candidate.recording.found =
          .error fault := unbound
      rw [Processor.invokeIn_of_unbound unbound, Processor.invokeIn_of_unbound unboundToo]
      exact Notes.throw _
  | some call =>
      intro state log
      refine ⟨[Selection.invocation context ⟨candidate, call⟩], by simpa using each call bound, ?_⟩
      rw [Candidate.invokeIn_of_bound bound,
        Candidate.invokeIn_of_bound (candidate.recording_call?.trans bound)]
      have noted : candidate.recording.processor.callback
          (Selection.invocation context ⟨candidate.recording, call⟩) (state, log) = _ :=
        Callback.recording_apply candidate.processor.callback
          (Selection.invocation context ⟨candidate, call⟩) state log
      rw [noted]
      cases candidate.processor.callback (Selection.invocation context ⟨candidate, call⟩) state <;>
        rfl

theorem Notes.mapM_attempt (text : Text) {candidates : List (Candidate State Context)}
    (each : ∀ selection ∈ candidates.filterMap Candidate.select?,
      expected (selection.invocation context)) :
    Notes expected (candidates.mapM (Candidate.attempt text context))
      ((candidates.map Candidate.recording).mapM (Candidate.attempt text context)) := by
  induction candidates with
  | nil => exact Notes.pure []
  | cons candidate later ih =>
      simp only [List.map_cons, List.mapM_cons]
      refine (candidate.notes_attempt text fun call bound => ?_).bind fun one =>
        (ih fun selection member => ?_).bind fun more => Notes.pure _
      · have selects : candidate.select? = some ⟨candidate, call⟩ := by
          simp [Candidate.select?, bound]
        exact each _ (by simp [List.filterMap_cons_some selects])
      · obtain ⟨other, inLater, selects⟩ := List.mem_filterMap.mp member
        exact each selection
          (List.mem_filterMap.mpr ⟨other, List.mem_cons_of_mem _ inLater, selects⟩)

namespace Registry

variable {registry : Registry State Context}

theorem notes_pass {text : Text} (policy : MalformedPolicy)
    (each : ∀ selection ∈ registry.selected text, expected (selection.invocation context)) :
    Notes expected (registry.pass policy text context)
      (registry.recording.pass policy text context) := by
  unfold pass
  simp only [claim_eq_mapM, recording_candidates, attempts_recording]
  refine ((Notes.mapM_attempt text ?_).bind fun more => Notes.pure _).bind fun claims =>
    Notes.pure _
  rw [filterMap_attempts]
  exact each

theorem notes_passes (options : SubstitutionOptions)
    (each : ∀ text, ∀ selection ∈ registry.selected text, expected (selection.invocation context))
    (further : Nat) (progression : Progression) (text : Text) :
    Notes expected (registry.passes options context further progression text)
      (registry.recording.passes options context further progression text) := by
  induction further using Nat.strongRecOn generalizing progression text with
  | ind further ih =>
      rw [passes.eq_def, passes.eq_def]
      refine (notes_pass options.malformed (each text)).bind fun result => ?_
      dsimp only
      split
      · exact Notes.pure _
      · split
        · exact Notes.pure _
        · cases further with
          | zero => exact Notes.pure _
          | succ fewer => exact ih fewer (Nat.lt_succ_self fewer) _ _

theorem resultFault?_recording (registry : Registry State Context) (options : SubstitutionOptions)
    (result : LoopResult) :
    registry.recording.resultFault? options result = registry.resultFault? options result := by
  have processors : registry.recording.processors = registry.processors.map Processor.recording :=
    rfl
  have delimited : registry.recording.hasDelimited = registry.hasDelimited := by
    simp only [hasDelimited, processors, List.any_map]
    rfl
  have unhandled (text : Text) :
      registry.recording.unhandledFault? text = registry.unhandledFault? text := by
    simp only [unhandledFault?, delimited, names, processors, List.filter_map, List.flatMap_map,
      List.map_map]
    rfl
  have balance (text : Text) :
      registry.recording.balanceFault? options text = registry.balanceFault? options text := by
    simp only [balanceFault?, delimited]
    rfl
  simp only [resultFault?, unhandled, balance]

/-- A recording registry makes the same of a text, and it records invocations of
selected candidates only. -/
theorem notes_collectiveSubstitute (options : SubstitutionOptions)
    (each : ∀ text, ∀ selection ∈ registry.selected text, expected (selection.invocation context))
    (text : Text) :
    Notes expected (registry.collectiveSubstitute text context options)
      (registry.recording.collectiveSubstitute text context options) := by
  intro state log
  obtain ⟨noted, only, same⟩ :=
    notes_passes options each (options.maxPasses - 1) {} text state log
  refine ⟨noted, only, ?_⟩
  simp only [collectiveSubstitute, same, resultFault?_recording]
  cases registry.passes options context (options.maxPasses - 1) {} text state with
  | error located final => rfl
  | ok result final =>
      simp only [withLog]
      cases registry.resultFault? options result <;> rfl

end Registry

end CallMarkup
