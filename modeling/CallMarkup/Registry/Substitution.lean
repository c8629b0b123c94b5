import CallMarkup.Document.Balance
import CallMarkup.Registry.Basic

/-!
# Collective substitution

All processors of a registry work on a text pass after pass.  Within a pass
every processor matches the text as it stood at the start of the pass, in order
of registration; a match that overlaps one already replaced is passed over, and
the replacements are written in at the end of the pass.  Recursive substitution
goes on until a pass changes nothing or the bound on passes is reached.  At a
fixed point nothing may be left that looks like work: no unit that reproduces
itself, no unit that nothing handles, and no delimiter without a partner.
-/

namespace CallMarkup

variable {State Context : Type}

/-- What to do with units that cannot be bound or that nothing handles. -/
inductive MalformedPolicy
  /-- Give up with an error. -/
  | propagate
  /-- Leave the unit as it is written. -/
  | leaveVerbatim
  deriving DecidableEq

/-- How to run a collective substitution. -/
structure SubstitutionOptions where
  recursive : Bool := true
  maxPasses : Nat := 128
  /-- Whether reaching the bound on passes is an error. -/
  strictConvergence : Bool := false
  malformed : MalformedPolicy := .propagate
  /-- Whether delimiters in the result must balance. -/
  checkBalance : Bool := true
  deriving DecidableEq

/-- One pass, without recursion. -/
def SubstitutionOptions.singlePass : SubstitutionOptions :=
  { recursive := false }

/-- How a collective substitution ended. -/
inductive Convergence
  /-- The last pass changed nothing. -/
  | fixedPoint
  /-- Recursion was off. -/
  | singlePass
  /-- The text was still changing when the bound on passes was reached. -/
  | boundReached
  deriving DecidableEq

structure Substitution where
  text : Text
  passes : Nat
  /-- The number of replacements in all passes. -/
  replacements : Nat
  convergence : Convergence
  deriving DecidableEq

/-- Whether a substitution ended by itself. -/
def Substitution.converged (outcome : Substitution) : Bool :=
  outcome.convergence != .boundReached

inductive SubstitutionFault
  | call (located : LocatedFault)
  /-- The callback of a unit returned the unit itself. -/
  | selfReproducing (text : Text) (span : Span)
  | unhandled (text : Text) (unit : CallUnit) (registered : List Text)
  | unbalanced (text : Text) (imbalance : Imbalance)
  | nonConvergence (passes : Nat)
  deriving DecidableEq

def SubstitutionFault.report (grammar : Grammar) : SubstitutionFault → Diagnostic
  | .call located => located.report
  | .selfReproducing text span =>
    { category := .unknownShorthand
      message := s!"unable to substitute for '{String.ofList (span.slice text)}'"
      snippet := some ⟨Diagnostic.unnamedSource, text, span⟩
      help := some "the callback returned its own unit unchanged" }
  | .unhandled text unit registered =>
    { category := .unknownShorthand
      message := s!"no processor handles '{String.ofList unit.inner}'"
      snippet := some ⟨Diagnostic.unnamedSource, text, unit.span⟩
      help := some s!"registered: {String.ofList (enumerated registered)}" }
  | .unbalanced text imbalance =>
    { category := .openShorthand
      message := imbalance.message grammar
      snippet := some ⟨Diagnostic.unnamedSource, text, imbalance.span⟩
      help := some (Imbalance.help grammar) }
  | .nonConvergence passes =>
    { category := .nonConvergence passes
      message := s!"text still changing after {passes} passes"
      help := some ("a callback probably produces shorthand that re-triggers itself " ++
        "or another processor") }

/-- A match of a processor, which may or may not be replaced. -/
structure Candidate (State Context : Type) where
  processor : Processor State Context
  found : Found

/-- A match that has been replaced. -/
structure Claim where
  span : Span
  output : Text
  /-- Whether a unit was replaced by itself. -/
  reproduces : Bool
  deriving DecidableEq

namespace Claim

/-- What the claim writes. -/
def replacement (claim : Claim) : Replacement :=
  ⟨claim.span, claim.output⟩

end Claim

structure PassResult where
  text : Text
  claims : List Claim
  deriving DecidableEq

namespace PassResult

/-- The units that were replaced by themselves, in the order of their calls. -/
def unchanged (result : PassResult) : List Span :=
  (result.claims.filter (·.reproduces)).map (·.span)

end PassResult

/-- What a collective substitution has done so far. -/
structure Progression where
  passes : Nat := 0
  replacements : Nat := 0
  deriving DecidableEq

/-- How the passes of a collective substitution ended. -/
structure LoopResult where
  progression : Progression
  last : PassResult
  convergence : Convergence
  deriving DecidableEq

namespace Registry

/-- The matches of all processors in a text, in order of registration and, for
each processor, from left to right. -/
def candidates (registry : Registry State Context) (text : Text) :
    List (Candidate State Context) :=
  registry.processors.flatMap fun processor => (processor.find text).map (⟨processor, ·⟩)

/-- Replaces the candidates one after the other, apart from those that overlap
an earlier claim.  A unit that does not bind is left or ends the pass, as the
policy says. -/
def claim (policy : MalformedPolicy) (text : Text) (context : Option Context)
    (claims : List Claim) : List (Candidate State Context) →
      EStateM LocatedFault State (List Claim)
  | [] => return claims
  | ⟨processor, found⟩ :: later =>
    if claims.any (·.span.overlaps found.span) then claim policy text context claims later
    else
      match policy, processor.bind found with
      | .leaveVerbatim, .error _ => claim policy text context claims later
      | _, _ => do
        let output ← processor.invokeIn text context found
        let reproduces := processor.isDelimited && output == found.span.slice text
        claim policy text context (claims ++ [⟨found.span, output, reproduces⟩]) later

def pass (registry : Registry State Context) (policy : MalformedPolicy) (text : Text)
    (context : Option Context) : EStateM LocatedFault State PassResult := do
  let claims ← claim policy text context [] (registry.candidates text)
  return ⟨splice text (claims.map (·.replacement)), claims⟩

/-- Runs a pass and, while recursion asks for it, at most `further` more. -/
def passes (registry : Registry State Context) (options : SubstitutionOptions)
    (context : Option Context) : (further : Nat) → Progression → Text →
      EStateM LocatedFault State LoopResult
  | further, progression, text => do
    let result ← registry.pass options.malformed text context
    let progression : Progression :=
      ⟨progression.passes + 1, progression.replacements + result.claims.length⟩
    if options.recursive = false then return ⟨progression, result, .singlePass⟩
    else if result.text = text then return ⟨progression, result, .fixedPoint⟩
    else
      match further with
      | 0 => return ⟨progression, result, .boundReached⟩
      | further + 1 => registry.passes options context further progression result.text

/-- A unit of the last pass that was replaced by itself. -/
def reproductionFault? (result : PassResult) : Option SubstitutionFault :=
  result.unchanged.head?.map (.selfReproducing result.text)

def unhandledFault? (registry : Registry State Context) (text : Text) :
    Option SubstitutionFault :=
  if registry.hasDelimited then
    let handled := (registry.processors.filter (·.isDelimited)).flatMap fun processor =>
      (processor.find text).map (·.span)
    let unit? := (registry.grammar.units text).find? fun unit => !handled.contains unit.span
    unit?.map fun unit => .unhandled text unit registry.names
  else none

/-- A delimiter of a text without a partner, if that is to be checked. -/
def balanceFault? (registry : Registry State Context) (options : SubstitutionOptions)
    (text : Text) : Option SubstitutionFault :=
  if options.checkBalance && registry.hasDelimited then
    (registry.grammar.findImbalance? text).map (.unbalanced text)
  else none

/-- What is wrong with the result of the passes, if anything is.  Units left
verbatim are no fault. -/
def resultFault? (registry : Registry State Context) (options : SubstitutionOptions)
    (result : LoopResult) : Option SubstitutionFault :=
  let text := result.last.text
  match result.convergence, options.malformed with
  | .boundReached, _ =>
    if options.strictConvergence then some (.nonConvergence result.progression.passes) else none
  | _, .leaveVerbatim => none
  | .fixedPoint, .propagate =>
    (reproductionFault? result.last).orElse fun _ =>
      (registry.unhandledFault? text).orElse fun _ => registry.balanceFault? options text
  | .singlePass, .propagate => registry.balanceFault? options text

/-- Substitutes with all processors, pass after pass. -/
def collectiveSubstitute (registry : Registry State Context) (text : Text)
    (context : Option Context) (options : SubstitutionOptions := {}) :
    EStateM SubstitutionFault State Substitution := fun state =>
  match registry.passes options context (options.maxPasses - 1) {} text state with
  | .error located state => .error (.call located) state
  | .ok result state =>
    match registry.resultFault? options result with
    | some fault => .error fault state
    | none =>
      .ok ⟨result.last.text, result.progression.passes, result.progression.replacements,
        result.convergence⟩ state

def substitute (registry : Registry State Context) (text : Text) (context : Option Context) :
    EStateM SubstitutionFault State Text := do
  return (← registry.collectiveSubstitute text context).text

end Registry

end CallMarkup
