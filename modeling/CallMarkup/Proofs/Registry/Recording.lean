import CallMarkup.Proofs.Registry.Pass

/-!
# Recording the calls of a registry

A registry can be watched at work by giving each of its callbacks a second
state, the list of the invocations so far.  The callbacks see nothing of it, so
the registry does what it did before.
-/

namespace CallMarkup

variable {State Context : Type}

/-- A state with the invocations so far. -/
abbrev Recorded (State Context : Type) :=
  State × List (Invocation Context)

/-- A callback that notes what it is called with. -/
def Callback.recording (callback : Callback State Context) :
    Callback (Recorded State Context) Context := fun invocation (state, log) =>
  match callback invocation state with
  | .ok output state => .ok output (state, log ++ [invocation])
  | .error message state => .error message (state, log ++ [invocation])

/-- The processor with a callback that notes what it is called with. -/
def Processor.recording (processor : Processor State Context) :
    Processor (Recorded State Context) Context :=
  { processor with callback := Callback.recording processor.callback }

def Candidate.recording (candidate : Candidate State Context) :
    Candidate (Recorded State Context) Context :=
  ⟨candidate.processor.recording, candidate.found⟩

def Selection.recording (selection : Selection State Context) :
    Selection (Recorded State Context) Context :=
  ⟨selection.candidate.recording, selection.call⟩

@[simp]
theorem Candidate.recording_span (candidate : Candidate State Context) :
    candidate.recording.span = candidate.span :=
  rfl

@[simp]
theorem Candidate.recording_call? (candidate : Candidate State Context) :
    candidate.recording.call? = candidate.call? :=
  rfl

@[simp]
theorem Selection.recording_span (selection : Selection State Context) :
    selection.recording.span = selection.span :=
  rfl

@[simp]
theorem Selection.recording_claimFor (text : Text) (selection : Selection State Context)
    (output : Text) : selection.recording.claimFor text output = selection.claimFor text output :=
  rfl

theorem Candidate.recording_select? (candidate : Candidate State Context) :
    candidate.recording.select? = candidate.select?.map Selection.recording := by
  simp [select?, Selection.recording, Function.comp_def]

/-- A recording callback succeeds as the callback does, and notes the
invocation. -/
theorem Selection.recording_run {context : Option Context} {selection : Selection State Context}
    {state final : State} {output : Text}
    (ran : selection.run context state = .ok output final) (log : List (Invocation Context)) :
    selection.recording.run context (state, log) =
      .ok output (final, log ++ [selection.invocation context]) := by
  have returned := Selection.run_eq_ok_iff.mp ran
  apply Selection.run_eq_ok_iff.mpr
  show Callback.recording selection.candidate.processor.callback (selection.invocation context)
    (state, log) = _
  simp [Callback.recording, returned]

theorem Selection.recording_mapM_run {context : Option Context}
    {selected : List (Selection State Context)} {state final : State} {outputs : List Text}
    (rans : selected.mapM (Selection.run context) state = .ok outputs final)
    (log : List (Invocation Context)) :
    (selected.map Selection.recording).mapM (Selection.run context) (state, log) =
      .ok outputs (final, log ++ selected.map (Selection.invocation context)) := by
  induction selected generalizing state final outputs log with
  | nil =>
      obtain ⟨rfl, rfl⟩ := pure_eq_ok_iff.mp rans
      simp [pure_eq_ok_iff]
  | cons selection later ih =>
      simp only [List.mapM_cons, bind_eq_ok_iff, pure_eq_ok_iff] at rans
      obtain ⟨output, between, ran, others, _, rest, rfl, rfl⟩ := rans
      simp only [List.map_cons, List.mapM_cons, bind_eq_ok_iff, pure_eq_ok_iff]
      refine ⟨output, _, selection.recording_run ran log, others, _, ih rest _, rfl, ?_⟩
      simp

namespace Registry

/-- The registry with callbacks that note what they are called with. -/
def recording (registry : Registry State Context) : Registry (Recorded State Context) Context where
  grammar := registry.grammar
  roster := { entries := registry.processors.map Processor.recording, index := registry.roster.index }
  coherent := by
    intro name position
    rw [registry.coherent name position]
    simp [processors, Function.comp_def, Processor.recording]
  shared := by
    intro processor member
    obtain ⟨plain, inRegistry, rfl⟩ := List.mem_map.mp member
    exact registry.shared plain inRegistry

theorem recording_candidates (registry : Registry State Context) (text : Text) :
    registry.recording.candidates text = (registry.candidates text).map Candidate.recording := by
  simp only [candidates, processors, recording, List.flatMap_map, List.map_flatMap, List.map_map]
  rfl

theorem reached_recording (replaced : List Span) (candidates : List (Candidate State Context)) :
    reached replaced (candidates.map Candidate.recording) =
      (reached replaced candidates).map Candidate.recording := by
  induction candidates generalizing replaced with
  | nil => rfl
  | cons candidate later ih =>
      simp only [List.map_cons, reached, Candidate.recording_span, Candidate.recording_call?, ih]
      split <;> rfl

theorem attempts_recording (policy : MalformedPolicy) (replaced : List Span)
    (candidates : List (Candidate State Context)) :
    attempts policy replaced (candidates.map Candidate.recording) =
      (attempts policy replaced candidates).map Candidate.recording := by
  cases policy <;> simp [attempts, reached_recording, List.filter_map, Function.comp_def]

theorem recording_selected (registry : Registry State Context) (text : Text) :
    registry.recording.selected text = (registry.selected text).map Selection.recording := by
  simp only [selected, selectedFrom, recording_candidates, reached_recording, List.filterMap_map,
    List.map_filterMap]
  congr 1
  funext candidate
  exact candidate.recording_select?

/-- A recording registry makes the same of a text, and its log grows by the
invocations of the selected candidates in their order. -/
theorem recording_pass {registry : Registry State Context} {policy : MalformedPolicy} {text : Text}
    {context : Option Context} {state final : State} {result : PassResult}
    (done : registry.pass policy text context state = .ok result final)
    (log : List (Invocation Context)) :
    registry.recording.pass policy text context (state, log) =
      .ok result
        (final, log ++ (registry.selected text).map (Selection.invocation context)) := by
  obtain ⟨binds, outputs, rans, rfl⟩ := pass_eq_ok_iff.mp done
  refine pass_eq_ok_iff.mpr ⟨?_, outputs, ?_, ?_⟩
  · rw [recording_candidates, attempts_recording]
    intro candidate member
    obtain ⟨plain, inAttempts, rfl⟩ := List.mem_map.mp member
    exact binds plain inAttempts
  · rw [recording_selected]
    exact Selection.recording_mapM_run rans log
  · rw [recording_selected]
    simp [resultOf, List.zipWith_map_left]

end Registry

end CallMarkup
