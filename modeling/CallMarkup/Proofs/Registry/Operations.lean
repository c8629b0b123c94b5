import CallMarkup.Registry.Basic

/-!
# Operations on a registry

The seven operations that change a registry, as they can follow each other in a
run.  Here they also work on a roster in place, one write after the other, and
may fail between two writes; `InPlace.perform_eq` shows that they never do.
-/

namespace CallMarkup

variable {State Context : Type}

/-- A request to change a registry. -/
inductive Operation (State Context : Type)
  | register (name : Text) (shape : Shape) (callback : Callback State Context)
  | registerOrReplace (name : Text) (shape : Shape) (callback : Callback State Context)
  | registerPattern (name pattern : Text) (callback : Callback State Context)
  | registerSwitchboard (name : Text) (callback : Callback State Context)
  | add (processor : Processor State Context)
  | addOrReplace (processor : Processor State Context)
  | unregister (name : Text)

/-- What an operation answers: a fault, or the processor that it has replaced or
removed. -/
abbrev Answer (State Context : Type) :=
  Except RegistryFault (Option (Processor State Context))

/-- Performs operations one after the other, whether they fail or not, and
collects their answers. -/
def performAll {Whole : Type}
    (perform : Operation State Context → Whole → Answer State Context × Whole) :
    List (Operation State Context) → Whole → List (Answer State Context) × Whole
  | [], whole => ([], whole)
  | operation :: later, whole =>
    let (answer, next) := perform operation whole
    let (answers, last) := performAll perform later next
    (answer :: answers, last)

/-- When one step can be followed in a view of the whole, so can a run. -/
theorem performAll_view {Whole View : Type} (view : Whole → View) (Holds : Whole → Prop)
    {perform : Operation State Context → Whole → Answer State Context × Whole}
    (act : Operation State Context → View → Answer State Context × View)
    (keeps : ∀ operation whole, Holds whole → Holds (perform operation whole).2)
    (follows : ∀ operation whole, Holds whole →
      act operation (view whole) = (perform operation whole).map id view)
    (operations : List (Operation State Context)) (whole : Whole) (holds : Holds whole) :
    Holds (performAll perform operations whole).2 ∧
      performAll act operations (view whole) =
        (performAll perform operations whole).map id view := by
  induction operations generalizing whole with
  | nil => exact ⟨holds, rfl⟩
  | cons operation later ih =>
      obtain ⟨kept, same⟩ := ih _ (keeps operation whole holds)
      refine ⟨kept, ?_⟩
      simp only [performAll, follows operation whole holds, Prod.map_fst, Prod.map_snd, same, id_eq]
      rfl

namespace Registry

section Adding

variable (registry : Registry State Context) {processor : Processor State Context}

theorem add_of_taken (taken : registry.contains processor.name = true) :
    registry.add processor = .error (.taken processor.name) := by
  unfold add
  split
  · rfl
  next free =>
    unfold contains Roster.contains at taken
    simp [Std.HashMap.contains_eq_isSome_getElem?, free] at taken

theorem add_of_foreign (free : registry.contains processor.name = false)
    (foreign : ¬ registry.Fits processor) :
    registry.add processor = .error (registry.foreign processor) := by
  unfold add
  split
  next position taken =>
    unfold contains Roster.contains at free
    simp [Std.HashMap.contains_eq_isSome_getElem?, taken] at free
  · rw [dif_neg foreign]

theorem exists_add (free : registry.contains processor.name = false)
    (fits : registry.Fits processor) :
    ∃ next, registry.add processor = .ok next ∧ next.grammar = registry.grammar ∧
      next.roster = registry.roster.append processor := by
  unfold add
  split
  next position taken =>
    unfold contains Roster.contains at free
    simp [Std.HashMap.contains_eq_isSome_getElem?, taken] at free
  · rw [dif_pos fits]
    exact ⟨_, rfl, rfl, rfl⟩

theorem addOrReplace_of_foreign (foreign : ¬ registry.Fits processor) :
    registry.addOrReplace processor = .error (registry.foreign processor) := by
  rw [addOrReplace, dif_neg foreign]

theorem exists_addOrReplace (fits : registry.Fits processor) :
    ∃ next, registry.addOrReplace processor = .ok ((registry.roster.put processor).1, next) ∧
      next.grammar = registry.grammar ∧ next.roster = (registry.roster.put processor).2 := by
  rw [addOrReplace, dif_pos fits]
  exact ⟨_, rfl, rfl, rfl⟩

end Adding

def attempt (operation : Operation State Context) (registry : Registry State Context) :
    Except RegistryFault (Option (Processor State Context) × Registry State Context) :=
  match operation with
  | .register name shape callback => (none, ·) <$> registry.register name shape callback
  | .registerOrReplace name shape callback => registry.registerOrReplace name shape callback
  | .registerPattern name pattern callback =>
    (none, ·) <$> registry.registerPattern name pattern callback
  | .registerSwitchboard name callback => (none, ·) <$> registry.registerSwitchboard name callback
  | .add processor => (none, ·) <$> registry.add processor
  | .addOrReplace processor => registry.addOrReplace processor
  | .unregister name => .ok (registry.unregister name)

/-- The answer to an operation with the registry after it, which is the one
before it if the operation fails. -/
def perform (operation : Operation State Context) (registry : Registry State Context) :
    Answer State Context × Registry State Context :=
  match registry.attempt operation with
  | .ok (old, next) => (.ok old, next)
  | .error fault => (.error fault, registry)

end Registry

/-! ## Operations in place -/

/-- A computation that works on a roster of processors in place.  When it fails,
what it has written stays. -/
abbrev InPlace (State Context Result : Type) :=
  EStateM RegistryFault (Roster fun processor : Processor State Context => processor.name) Result

namespace InPlace

def ensureFree (name : Text) : InPlace State Context Unit := do
  if (← get).index.contains name then throw (.taken name)

def ensureGrammar (grammar : Grammar) (processor : Processor State Context) :
    InPlace State Context Unit := do
  if processor.isDelimited && processor.grammar != grammar then
    throw (.foreignGrammar processor.name processor.grammar grammar)

/-- Writes the position of a processor into the index, and then the processor. -/
def push (processor : Processor State Context) : InPlace State Context Unit := do
  modify fun roster =>
    { roster with index := roster.index.insert processor.name roster.entries.length }
  modify fun roster => { roster with entries := roster.entries ++ [processor] }

def add (grammar : Grammar) (processor : Processor State Context) :
    InPlace State Context Unit := do
  ensureFree processor.name
  ensureGrammar grammar processor
  push processor

def addOrReplace (grammar : Grammar) (processor : Processor State Context) :
    InPlace State Context (Option (Processor State Context)) := do
  ensureGrammar grammar processor
  match (← get).index[processor.name]? with
  | some position =>
    let old := (← get).entries[position]?
    modify fun roster => { roster with entries := roster.entries.set position processor }
    return old
  | none =>
    push processor
    return none

/-- Takes a name out of the index, then its processor out of the entries, and
moves the later positions up. -/
def unregister (name : Text) : InPlace State Context (Option (Processor State Context)) := do
  match (← get).index[name]? with
  | none => return none
  | some position =>
    modify fun roster => { roster with index := roster.index.erase name }
    let old := (← get).entries[position]?
    modify fun roster => { roster with entries := roster.entries.eraseIdx position }
    modify fun roster =>
      { roster with
        index := roster.index.map fun _ other => if position < other then other - 1 else other }
    return old

/-- A value that was built before the roster is touched. -/
def built {Fault Result : Type} (report : Fault → RegistryFault) :
    Except Fault Result → InPlace State Context Result
  | .ok result => return result
  | .error fault => throw (report fault)

def execute (grammar : Grammar) :
    Operation State Context → InPlace State Context (Option (Processor State Context))
  | .register name shape callback => do
    ensureFree name
    add grammar (← built .grammar (Processor.shorthand grammar name shape callback))
    return none
  | .registerOrReplace name shape callback => do
    addOrReplace grammar (← built .grammar (Processor.shorthand grammar name shape callback))
  | .registerPattern name pattern callback => do
    ensureFree name
    add grammar (← built .pattern (Processor.ofPattern name pattern callback))
    return none
  | .registerSwitchboard name callback => do
    ensureFree name
    add grammar (Processor.switchboard grammar name callback)
    return none
  | .add processor => do
    add grammar processor
    return none
  | .addOrReplace processor => addOrReplace grammar processor
  | .unregister name => unregister name

/-- The answer to an operation with the roster after it. -/
def perform (grammar : Grammar) (operation : Operation State Context)
    (roster : Roster fun processor : Processor State Context => processor.name) :
    Answer State Context × Roster fun processor : Processor State Context => processor.name :=
  match (execute grammar operation).run roster with
  | .ok old after => (.ok old, after)
  | .error fault after => (.error fault, after)

/-! ## Both ways agree -/

theorem run_ensureFree (name : Text)
    (roster : Roster fun processor : Processor State Context => processor.name) :
    (ensureFree name).run roster =
      if roster.index.contains name then .error (.taken name) roster else .ok () roster := by
  simp only [ensureFree, EStateM.run_bind, EStateM.run_get]
  split <;> rfl

variable (registry : Registry State Context)

/-- What a computation in place comes to when it has the outcome of an operation
on the registry. -/
def outcome {Result : Type} :
    Except RegistryFault (Result × Registry State Context) →
      EStateM.Result RegistryFault
        (Roster fun processor : Processor State Context => processor.name) Result
  | .ok (result, next) => .ok result next.roster
  | .error fault => .error fault registry.roster

theorem run_ensureGrammar (processor : Processor State Context) :
    (ensureGrammar registry.grammar processor).run registry.roster =
      if registry.Fits processor then .ok () registry.roster
      else .error (registry.foreign processor) registry.roster := by
  unfold ensureGrammar
  cases delimited : processor.isDelimited with
  | false => simp [Registry.Fits, delimited]
  | true =>
      by_cases same : processor.grammar = registry.grammar
      · simp [Registry.Fits, same]
      · simp [Registry.Fits, Registry.foreign, delimited, same]

theorem run_add (processor : Processor State Context) :
    (add registry.grammar processor).run registry.roster =
      outcome registry (((), ·) <$> registry.add processor) := by
  simp only [add, EStateM.run_bind, run_ensureFree]
  cases taken : registry.roster.index.contains processor.name with
  | true =>
      rw [registry.add_of_taken taken]
      rfl
  | false =>
      simp only [Bool.false_eq_true, if_false, run_ensureGrammar]
      by_cases fits : registry.Fits processor
      · obtain ⟨next, added, -, roster⟩ := registry.exists_add taken fits
        rw [added, if_pos fits]
        show EStateM.Result.ok () (registry.roster.append processor) = .ok () next.roster
        rw [roster]
      · rw [registry.add_of_foreign taken fits, if_neg fits]
        rfl

theorem run_addOrReplace (processor : Processor State Context) :
    (addOrReplace registry.grammar processor).run registry.roster =
      outcome registry (registry.addOrReplace processor) := by
  simp only [addOrReplace, EStateM.run_bind, run_ensureGrammar]
  by_cases fits : registry.Fits processor
  · obtain ⟨next, put, -, roster⟩ := registry.exists_addOrReplace fits
    rw [put, if_pos fits]
    simp only [outcome, roster, Roster.put, EStateM.run_get]
    cases registry.roster.index[processor.name]? <;> rfl
  · rw [registry.addOrReplace_of_foreign fits, if_neg fits]
    rfl

theorem run_unregister (name : Text) :
    (unregister name).run registry.roster = outcome registry (.ok (registry.unregister name)) := by
  simp only [unregister, EStateM.run_bind, EStateM.run_get, outcome, Registry.unregister,
    Roster.remove]
  cases registry.roster.index[name]? <;> rfl

theorem run_ensureFree_then {Result : Type} (name : Text) {rest : InPlace State Context Result}
    {next : Except RegistryFault (Result × Registry State Context)}
    (same : rest.run registry.roster = outcome registry next) :
    (ensureFree name >>= fun _ => rest).run registry.roster =
      outcome registry (registry.demandFree name >>= fun _ => next) := by
  rw [EStateM.run_bind, run_ensureFree]
  unfold Registry.demandFree Registry.contains Roster.contains
  cases registry.roster.index.contains name with
  | true => rfl
  | false => exact same

theorem run_add_then (processor : Processor State Context) :
    (add registry.grammar processor >>= fun _ => pure none).run registry.roster =
      outcome registry
        (((none : Option (Processor State Context)), ·) <$> registry.add processor) := by
  rw [EStateM.run_bind, run_add]
  cases registry.add processor <;> rfl

theorem run_built_then {Fault Built Result : Type} {report : Fault → RegistryFault}
    {result : Except Fault Built} {rest : Built → InPlace State Context Result}
    {next : Built → Except RegistryFault (Result × Registry State Context)}
    (same : ∀ built, (rest built).run registry.roster = outcome registry (next built)) :
    (built report result >>= rest).run registry.roster =
      outcome registry (result.mapError report >>= next) := by
  cases result with
  | error fault => rfl
  | ok built => exact same built

/-- An operation in place comes to what it comes to for a registry. -/
theorem run_execute (operation : Operation State Context) :
    (execute registry.grammar operation).run registry.roster =
      outcome registry (registry.attempt operation) := by
  cases operation with
  | register name shape callback =>
      simp only [Registry.attempt, Registry.register, map_bind]
      exact run_ensureFree_then registry name
        (run_built_then registry fun processor => run_add_then registry processor)
  | registerOrReplace name shape callback =>
      exact run_built_then registry fun processor => run_addOrReplace registry processor
  | registerPattern name pattern callback =>
      simp only [Registry.attempt, Registry.registerPattern, map_bind]
      exact run_ensureFree_then registry name
        (run_built_then registry fun processor => run_add_then registry processor)
  | registerSwitchboard name callback =>
      simp only [Registry.attempt, Registry.registerSwitchboard, map_bind]
      exact run_ensureFree_then registry name (run_add_then registry _)
  | add processor => exact run_add_then registry processor
  | addOrReplace processor => exact run_addOrReplace registry processor
  | unregister name => exact run_unregister registry name

/-- A step in place answers and writes what a registry does. -/
theorem perform_eq (operation : Operation State Context) :
    perform registry.grammar operation registry.roster =
      (registry.perform operation).map id (·.roster) := by
  unfold perform Registry.perform
  rw [run_execute]
  cases registry.attempt operation with
  | error fault => rfl
  | ok changed => rfl

end InPlace

end CallMarkup
