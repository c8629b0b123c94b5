import CallMarkup.Processor.Basic
import CallMarkup.Registry.Roster

/-!
# Registries

A registry is an ordered set of processors with distinct names.  Its processors
for units share the grammar of the registry.  An operation that fails returns
no registry, so the one at hand stays as it was.
-/

namespace CallMarkup

variable {State Context : Type}

/-- Processors in order of registration, with a grammar in common. -/
structure Registry (State Context : Type) where
  grammar : Grammar
  roster : Roster (fun processor : Processor State Context => processor.name)
  coherent : roster.Coherent
  /-- Units are found with one grammar only. -/
  shared : ∀ processor ∈ roster.entries,
    processor.isDelimited = true → processor.grammar = grammar

inductive RegistryFault
  | taken (name : Text)
  | foreignGrammar (name : Text) (theirs ours : Grammar)
  | grammar (fault : GrammarFault)
  | pattern (invalid : InvalidPattern)
  deriving DecidableEq

def RegistryFault.report : RegistryFault → Diagnostic
  | .taken name =>
    { category := .registry, message := s!"'{String.ofList name}' is already registered" }
  | .foreignGrammar name theirs ours =>
    { category := .registry
      message :=
        s!"'{String.ofList name}' uses the delimiters '{String.ofList theirs.leadIn}' " ++
          s!"'{String.ofList theirs.leadOut}' but this registry uses " ++
          s!"'{String.ofList ours.leadIn}' '{String.ofList ours.leadOut}'" }
  | .grammar fault => fault.report
  | .pattern invalid => invalid.report

inductive UnitFault
  | unregistered (name : Text)
  | production (callee : Text) (fault : ProductionFault)
  deriving DecidableEq

def UnitFault.report : UnitFault → Diagnostic
  | .unregistered name =>
    { category := .unknownShorthand
      message := s!"No processor named '{String.ofList name}' is registered" }
  | .production callee fault => fault.report callee

namespace Registry

def empty (grammar : Grammar) : Registry State Context where
  grammar := grammar
  roster := {}
  coherent := Roster.coherent_empty
  shared := by simp

def processors (registry : Registry State Context) : List (Processor State Context) :=
  registry.roster.entries

def names (registry : Registry State Context) : List Text :=
  registry.processors.map (·.name)

def size (registry : Registry State Context) : Nat :=
  registry.processors.length

def isEmpty (registry : Registry State Context) : Bool :=
  registry.processors.isEmpty

def get? (registry : Registry State Context) (name : Text) :
    Option (Processor State Context) :=
  registry.roster.get? name

def contains (registry : Registry State Context) (name : Text) : Bool :=
  registry.roster.contains name

/-- Whether any processor works on units. -/
def hasDelimited (registry : Registry State Context) : Bool :=
  registry.processors.any (·.isDelimited)

/-- Whether a processor fits the grammar of the registry. -/
def Fits (registry : Registry State Context) (processor : Processor State Context) : Prop :=
  processor.isDelimited = true → processor.grammar = registry.grammar

instance (registry : Registry State Context) (processor : Processor State Context) :
    Decidable (registry.Fits processor) :=
  inferInstanceAs (Decidable (_ → _))

/-- The fault of a processor with another grammar. -/
def foreign (registry : Registry State Context) (processor : Processor State Context) :
    RegistryFault :=
  .foreignGrammar processor.name processor.grammar registry.grammar

/-- Adds a processor at the end.  Its name must be free and its grammar must
fit. -/
def add (registry : Registry State Context) (processor : Processor State Context) :
    Except RegistryFault (Registry State Context) :=
  match free : registry.roster.index[processor.name]? with
  | some _ => .error (.taken processor.name)
  | none =>
    if fits : registry.Fits processor then
      .ok { registry with
        roster := registry.roster.append processor
        coherent := registry.coherent.append free
        shared := by
          intro other member
          rcases List.mem_append.mp member with old | new
          · exact registry.shared other old
          · rw [List.mem_singleton] at new
            exact new ▸ fits }
    else .error (registry.foreign processor)

/-- Adds a processor, in the place of the one that has its name, which is
returned, or else at the end. -/
def addOrReplace (registry : Registry State Context) (processor : Processor State Context) :
    Except RegistryFault (Option (Processor State Context) × Registry State Context) :=
  if fits : registry.Fits processor then
    let (replaced, _) := registry.roster.put processor
    .ok (replaced,
      { registry with
        roster := (registry.roster.put processor).2
        coherent := registry.coherent.put processor
        shared := by
          intro other member
          unfold Roster.put at member
          split at member
          · rcases List.mem_or_eq_of_mem_set member with old | rfl
            · exact registry.shared other old
            · exact fits
          · rcases List.mem_append.mp member with old | new
            · exact registry.shared other old
            · rw [List.mem_singleton] at new
              exact new ▸ fits })
  else .error (registry.foreign processor)

/-- Removes the processor of a name, which is returned. -/
def unregister (registry : Registry State Context) (name : Text) :
    Option (Processor State Context) × Registry State Context :=
  ((registry.roster.remove name).1,
    { registry with
      roster := (registry.roster.remove name).2
      coherent := registry.coherent.remove name
      shared := by
        intro other member
        unfold Roster.remove at member
        split at member
        · exact registry.shared other member
        · exact registry.shared other (List.mem_of_mem_eraseIdx member) })

/-- Fails if a name is taken. -/
def demandFree (registry : Registry State Context) (name : Text) : Except RegistryFault Unit :=
  if registry.contains name then .error (.taken name) else .ok ()

/-- Registers a processor for the units that call `name`. -/
def register (registry : Registry State Context) (name : Text) (shape : Shape)
    (callback : Callback State Context) : Except RegistryFault (Registry State Context) := do
  registry.demandFree name
  let processor ←
    (Processor.shorthand registry.grammar name shape callback).mapError RegistryFault.grammar
  registry.add processor

/-- Registers a processor for the units that call `name`, in the place of the
one that has this name. -/
def registerOrReplace (registry : Registry State Context) (name : Text) (shape : Shape)
    (callback : Callback State Context) :
    Except RegistryFault (Option (Processor State Context) × Registry State Context) := do
  let processor ←
    (Processor.shorthand registry.grammar name shape callback).mapError RegistryFault.grammar
  registry.addOrReplace processor

/-- Registers a processor for the matches of a pattern. -/
def registerPattern (registry : Registry State Context) (name pattern : Text)
    (callback : Callback State Context) : Except RegistryFault (Registry State Context) := do
  registry.demandFree name
  let processor ← (Processor.ofPattern name pattern callback).mapError RegistryFault.pattern
  registry.add processor

/-- Registers a processor for every unit.  Registered last, it serves the units
that no other processor takes. -/
def registerSwitchboard (registry : Registry State Context) (name : Text)
    (callback : Callback State Context) : Except RegistryFault (Registry State Context) := do
  registry.demandFree name
  registry.add (Processor.switchboard registry.grammar name callback)

def produce (registry : Registry State Context) (mode : ProductionMode) (name : Text)
    (positional : List Text) (named : List (Text × Text)) : Except UnitFault Text :=
  match registry.get? name with
  | none => .error (.unregistered name)
  | some processor =>
    (processor.produce mode positional named).mapError (.production processor.name)

end Registry

end CallMarkup
