import CallMarkup.Diagnostic
import CallMarkup.Document.Balance
import CallMarkup.Document.CallUnit

/-!
# Findings in a document

A document can be checked against its grammar alone: delimiters must balance,
every unit must begin with a name that can be called, and its arguments must be
a list that some shape accepts.
-/

namespace CallMarkup

/-- Something in a document that would stop a substitution. -/
inductive Finding
  | unbalanced (imbalance : Imbalance)
  | badName (unit : CallUnit) (fault : GrammarFault)
  | badArguments (unit : CallUnit) (callee : Text) (fault : BindingFault)
  deriving DecidableEq

namespace Finding

def span : Finding → Span
  | .unbalanced imbalance => imbalance.span
  | .badName unit _ | .badArguments unit _ _ => unit.span

def report (grammar : Grammar) (source text : Text) (finding : Finding) : Diagnostic :=
  match finding with
  | .unbalanced imbalance =>
    { category := .openShorthand
      message := imbalance.message grammar
      snippet := some ⟨source, text, imbalance.span⟩
      help := some (Imbalance.help grammar) }
  | .badName _ fault => fault.report.locate text finding.span source
  | .badArguments _ callee fault => (fault.report callee).locate text finding.span source

end Finding

namespace Grammar

/-- What is wrong with a unit, whatever it calls. -/
def unitFinding? (grammar : Grammar) (unit : CallUnit) : Option Finding :=
  let (callee, arguments) := grammar.nameAndArguments unit.inner
  match grammar.nameFault? callee with
  | some fault => some (.badName unit fault)
  | none =>
    match Shape.variadic.bind grammar (grammar.items arguments) with
    | .error fault => some (.badArguments unit callee fault)
    | .ok _ => none

/-- Everything wrong with a text, in the order of the text. -/
def findings (grammar : Grammar) (text : Text) : List Finding :=
  let unbalanced := (grammar.findImbalance? text).toList.map Finding.unbalanced
  let malformed := (grammar.units text).filterMap grammar.unitFinding?
  (unbalanced ++ malformed).mergeSort fun first second => first.span.start ≤ second.span.start

/-- The reports on a named source text, in the order of the text. -/
def check (grammar : Grammar) (source text : Text) : List Diagnostic :=
  (grammar.findings text).map (·.report grammar source text)

end Grammar

end CallMarkup
