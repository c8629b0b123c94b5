import CallMarkup.Call.Bind
import CallMarkup.Call.Produce
import CallMarkup.Span

/-!
# Diagnostics

Every failure is reported in one form: a category, a message, and where they
are known the place in the source and advice.  `Diagnostic.locate` keeps a
place that is already known, so the innermost location wins.
-/

namespace CallMarkup

inductive BindingFault.Kind
  | arityTooLow
  | arityTooHigh
  | unknownKeyword
  | duplicateBinding
  | positionalAfterKeyword
  | positionalOnly
  deriving DecidableEq

def BindingFault.kind : BindingFault → BindingFault.Kind
  | .arityTooLow _ _ _ => .arityTooLow
  | .arityTooHigh _ => .arityTooHigh
  | .unknownKeyword _ => .unknownKeyword
  | .duplicateBinding _ => .duplicateBinding
  | .positionalAfterKeyword _ => .positionalAfterKeyword
  | .positionalOnly _ => .positionalOnly

/-- What kind of failure a diagnostic reports. -/
inductive Category
  | grammar
  | shape
  | binding (reason : BindingFault.Kind)
  | callback (callee : Text)
  | nonConvergence (passes : Nat)
  | registry
  | unknownShorthand
  | openShorthand
  | production
  | config
  deriving DecidableEq

namespace Category

def name : Category → String
  | .grammar => "grammar"
  | .shape => "shape"
  | .binding _ => "binding"
  | .callback _ => "callback"
  | .nonConvergence _ => "non_convergence"
  | .registry => "registry"
  | .unknownShorthand => "unknown_shorthand"
  | .openShorthand => "open_shorthand"
  | .production => "production"
  | .config => "config"

/-- What precedes the message of a diagnostic. -/
def heading : Category → String
  | .grammar => "Grammar error: "
  | .shape => "Shape error: "
  | .binding _ => "Binding error: "
  | .callback callee => s!"Callback '{String.ofList callee}' failed: "
  | .nonConvergence _ => "Substitution did not converge: "
  | .registry => "Registry conflict: "
  | .unknownShorthand => "Unknown shorthand: "
  | .openShorthand => "Open shorthand: "
  | .production => "Production error: "
  | .config => "Config error: "

end Category

/-- A place in a named source text. -/
structure Snippet where
  source : Text
  text : Text
  span : Span
  deriving DecidableEq

/-- A marked range of a source text.  The range holds at least one byte. -/
structure Label where
  offset : Nat
  length : Nat
  text : String
  deriving DecidableEq

structure Diagnostic where
  category : Category
  message : String
  snippet : Option Snippet := none
  help : Option String := none
  deriving DecidableEq

namespace Diagnostic

/-- The whole wording. -/
def display (diagnostic : Diagnostic) : String :=
  diagnostic.category.heading ++ diagnostic.message

def code (diagnostic : Diagnostic) : String :=
  "shorthand::" ++ diagnostic.category.name

/-- The name of a source that has none of its own. -/
def unnamedSource : Text :=
  ['i', 'n', 'p', 'u', 't']

/-- Adds the place of the failure unless one is known already. -/
def locate (diagnostic : Diagnostic) (text : Text) (span : Span)
    (source : Text := unnamedSource) : Diagnostic :=
  { diagnostic with snippet := diagnostic.snippet.or (some ⟨source, text, span⟩) }

/-- The range to mark in the source, if the place is known. -/
def label? (diagnostic : Diagnostic) : Option Label :=
  diagnostic.snippet.map fun snippet =>
    ⟨snippet.span.start, max 1 snippet.span.length, diagnostic.message⟩

end Diagnostic

def GrammarFault.report (fault : GrammarFault) : Diagnostic :=
  { category := .grammar, message := fault.message }

def ShapeFault.report (fault : ShapeFault) : Diagnostic :=
  { category := .shape, message := fault.message }

def BindingFault.report (callee : Text) (fault : BindingFault) : Diagnostic :=
  { category := .binding fault.kind, message := fault.message callee }

def ProductionFault.report (callee : Text) (fault : ProductionFault) : Diagnostic :=
  { category := .production, message := fault.message callee }

end CallMarkup
