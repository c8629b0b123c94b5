import CallMarkup.Document.Segment
import CallMarkup.Span

/-!
# Units

A unit is written between an active opening delimiter and the next active
delimiter after it, when that is a closing one.  So units are the innermost
delimited parts of a text; they never nest and never overlap.
-/

namespace CallMarkup

/-- One innermost unit of a text. -/
structure CallUnit where
  /-- The whole unit, delimiters included. -/
  span : Span
  /-- The text between the delimiters, escapes untouched. -/
  inner : Text
  deriving DecidableEq

namespace Grammar

/-- Whether a unit may continue past a segment. -/
def continues (grammar : Grammar) (segment : Segment) : Bool :=
  !segment.isDelimiter && !segment.endsLine grammar

/-- The unit that the segments after an opening delimiter complete, if they do.
The delimiter starts at byte `offset`. -/
def completedUnit? (grammar : Grammar) (offset : Nat) (following : List Segment) :
    Option CallUnit :=
  let body := following.takeWhile grammar.continues
  match following.drop body.length with
  | .closing :: _ =>
    let inner := body.flatMap (·.text grammar)
    let length := byteLength grammar.leadIn + byteLength inner + byteLength grammar.leadOut
    some ⟨⟨offset, offset + length⟩, inner⟩
  | _ => none

/-- The units of consecutive segments, the first of which starts at byte
`offset`. -/
def unitsFrom (grammar : Grammar) (offset : Nat) : List Segment → List CallUnit
  | [] => []
  | segment :: following =>
    let later := grammar.unitsFrom (offset + segment.byteLength grammar) following
    if segment = .opening then (grammar.completedUnit? offset following).toList ++ later
    else later

def units (grammar : Grammar) (text : Text) : List CallUnit :=
  grammar.unitsFrom 0 (grammar.segments text)

end Grammar

end CallMarkup
