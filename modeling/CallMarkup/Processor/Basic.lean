import CallMarkup.Processor.Matcher

/-!
# Processors

A processor has a name, a matcher, the shape of its arguments and a callback
that turns a call into text.  A callback may keep state and may fail, so
running one is a stateful computation that ends with an output or an error.
Substitution with a single processor replaces all its matches at once and never
looks at the text it has written.
-/

namespace CallMarkup

/-- What a callback sees of a call. -/
structure Invocation (Context : Type) where
  /-- The name of the processor. -/
  callee : Text
  arguments : BoundCall
  context : Option Context

/-- Turns a call into text or fails with a message, and may change the
state. -/
abbrev Callback (State Context : Type) :=
  Invocation Context → EStateM Text State Text

/-- A matcher with the callback for what it finds. -/
structure Processor (State Context : Type) where
  name : Text
  grammar : Grammar
  matcher : Matcher
  shape : Shape
  callback : Callback State Context

/-- Why one match cannot be replaced. -/
inductive CallFault
  | binding (callee : Text) (fault : BindingFault)
  | callback (callee message : Text)
  deriving DecidableEq

def CallFault.report : CallFault → Diagnostic
  | .binding callee fault => fault.report callee
  | .callback callee message =>
    { category := .callback callee, message := String.ofList message }

/-- A fault with the place of the match in the text. -/
structure LocatedFault where
  fault : CallFault
  text : Text
  span : Span
  deriving DecidableEq

def LocatedFault.report (located : LocatedFault) : Diagnostic :=
  located.fault.report.locate located.text located.span

/-- A pattern that is no regular expression. -/
structure InvalidPattern where
  pattern : Text
  deriving DecidableEq

def InvalidPattern.report (invalid : InvalidPattern) : Diagnostic :=
  { category := .grammar, message := s!"Invalid pattern '{String.ofList invalid.pattern}'" }

namespace Processor

variable {State Context : Type}

/-- A processor for the units that call `name`, which may be of any length. -/
def shorthand (grammar : Grammar) (name : Text) (shape : Shape)
    (callback : Callback State Context) : Except GrammarFault (Processor State Context) :=
  match grammar.nameFault? name with
  | some fault => .error fault
  | none => .ok { name, grammar, matcher := .calls name, shape, callback }

/-- A processor for the matches of a pattern.  Its shape comes from the groups
of the pattern, and it has the default grammar. -/
def ofPattern (name pattern : Text) (callback : Callback State Context) :
    Except InvalidPattern (Processor State Context) :=
  match Pattern.read? pattern with
  | none => .error ⟨pattern⟩
  | some read =>
    .ok { name, grammar := Grammar.default, matcher := .raw read, shape := read.shape, callback }

/-- A processor for every unit.  Its callback receives the name of the unit as
the first positional argument, and always the context. -/
def switchboard (grammar : Grammar) (name : Text) (callback : Callback State Context) :
    Processor State Context where
  name := name
  grammar := grammar
  matcher := .everyUnit
  shape := Shape.variadic.withContext
  callback := callback

def isDelimited (processor : Processor State Context) : Bool :=
  processor.matcher.isDelimited

def find (processor : Processor State Context) (text : Text) : List Found :=
  processor.matcher.find processor.grammar text

/-- The call to make at a place. -/
def bind (processor : Processor State Context) (found : Found) : Except BindingFault BoundCall :=
  match found.arguments with
  | .delimited text =>
    processor.shape.bind processor.grammar (processor.grammar.items text)
  | .captured call => .ok call

/-- Runs the callback on a call.  It sees the context if its shape asks for
it. -/
def call (processor : Processor State Context) (arguments : BoundCall)
    (context : Option Context) : EStateM CallFault State Text := fun state =>
  let shown := if processor.shape.acceptsContext then context else none
  match processor.callback ⟨processor.name, arguments, shown⟩ state with
  | .ok output state => .ok output state
  | .error message state => .error (.callback processor.name message) state

/-- Binds the arguments at a place and runs the callback on them. -/
def invoke (processor : Processor State Context) (found : Found) (context : Option Context) :
    EStateM CallFault State Text :=
  match processor.bind found with
  | .ok arguments => processor.call arguments context
  | .error fault => throw (.binding processor.name fault)

/-- Invokes a processor at a place of a text, which errors then tell. -/
def invokeIn (processor : Processor State Context) (text : Text) (context : Option Context)
    (found : Found) : EStateM LocatedFault State Text := fun state =>
  match processor.invoke found context state with
  | .ok output state => .ok output state
  | .error fault state => .error ⟨fault, text, found.span⟩ state

/-- What is to stand at each of some places, found by invoking the processor at
one after the other. -/
def replacements (processor : Processor State Context) (text : Text)
    (context : Option Context) : List Found → EStateM LocatedFault State (List Replacement)
  | [] => return []
  | found :: later => do
    let output ← processor.invokeIn text context found
    return ⟨found.span, output⟩ :: (← processor.replacements text context later)

/-- Replaces every match of the processor, and counts them. -/
def substituteCounted (processor : Processor State Context) (text : Text)
    (context : Option Context) : EStateM LocatedFault State (Text × Nat) := do
  let found := processor.find text
  let replacements ← processor.replacements text context found
  return (splice text replacements, found.length)

def substitute (processor : Processor State Context) (text : Text)
    (context : Option Context := none) : EStateM LocatedFault State Text := do
  return (← processor.substituteCounted text context).1

/-- The unit that makes the processor receive the given values.  Only a
processor for one name has such a unit. -/
def produce (processor : Processor State Context) (mode : ProductionMode)
    (positional : List Text) (named : List (Text × Text)) : Except ProductionFault Text :=
  match processor.matcher with
  | .calls _ =>
    processor.shape.produce processor.grammar processor.name mode positional named
  | .everyUnit | .raw _ => .error .noFixedName

def describe (processor : Processor State Context) : String :=
  s!"<shorthand processor for {String.ofList processor.name}>"

end Processor

end CallMarkup
