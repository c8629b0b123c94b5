import CallMarkup.Document.Segment
import CallMarkup.Span

/-!
# Balance of delimiters

Active delimiters pair like brackets.  Unless units may span lines, a line
break leaves every delimiter unclosed that is open there.
-/

namespace CallMarkup

/-- A delimiter without a partner. -/
inductive Imbalance
  | unclosed (span : Span)
  | unopened (span : Span)
  deriving DecidableEq

namespace Imbalance

def span : Imbalance → Span
  | .unclosed span | .unopened span => span

def message (grammar : Grammar) : Imbalance → String
  | .unclosed _ => s!"'{String.ofList grammar.leadIn}' is never closed"
  | .unopened _ => s!"'{String.ofList grammar.leadOut}' closes nothing"

/-- How to write a delimiter that is meant literally. -/
def help (grammar : Grammar) : String :=
  s!"escape literal delimiters as {grammar.escape}{String.ofList grammar.leadIn}"

end Imbalance

namespace Grammar

/-- The delimiter opened first among those still open, as an imbalance.  The
latest offset comes first. -/
def outermostOpen? (grammar : Grammar) (opened : List Nat) : Option Imbalance :=
  opened.getLast?.map fun start => .unclosed ⟨start, start + byteLength grammar.leadIn⟩

/-- The first imbalance of consecutive segments, the first of which starts at
byte `offset`, given the offsets of the delimiters open there. -/
def imbalanceFrom? (grammar : Grammar) (offset : Nat) (opened : List Nat) :
    List Segment → Option Imbalance
  | [] => grammar.outermostOpen? opened
  | segment :: following =>
    let next := offset + segment.byteLength grammar
    match segment with
    | .opening => grammar.imbalanceFrom? next (offset :: opened) following
    | .closing =>
      match opened with
      | [] => some (.unopened ⟨offset, next⟩)
      | _ :: opened => grammar.imbalanceFrom? next opened following
    | other =>
      if other.endsLine grammar && !opened.isEmpty then grammar.outermostOpen? opened
      else grammar.imbalanceFrom? next opened following

/-- The first delimiter of a text without a partner. -/
def findImbalance? (grammar : Grammar) (text : Text) : Option Imbalance :=
  grammar.imbalanceFrom? 0 [] (grammar.segments text)

end Grammar

end CallMarkup
