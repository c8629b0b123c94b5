import CallMarkup.Call.Bind
import CallMarkup.Diagnostic
import CallMarkup.Document.CallUnit
import CallMarkup.Regex.Pattern

/-!
# Matchers

A processor finds the places it replaces in one of three ways: the units that
call one name, every unit, or the matches of a regular expression.  A place
comes with the arguments found there: the items of a unit are still to be
bound, while the groups of an expression are a call already.
-/

namespace CallMarkup

/-- How a processor finds the places it replaces. -/
inductive Matcher
  /-- The units that call a fixed name. -/
  | calls (name : Text)
  | everyUnit
  | raw (pattern : Pattern)

/-- The arguments found at a place. -/
inductive FoundArguments
  /-- The argument text of a unit; without a separator after the name there is
  none. -/
  | delimited (text : Option Text)
  /-- The groups of a match. -/
  | captured (call : BoundCall)
  deriving DecidableEq

structure Found where
  span : Span
  arguments : FoundArguments
  deriving DecidableEq

namespace Pattern

def unnamedGroups (pattern : Pattern) : List Nat :=
  (pattern.groupNames.zipIdx 1).filterMap fun (name, index) =>
    if name.isNone then some index else none

def namedGroups (pattern : Pattern) : List (Text × Nat) :=
  (pattern.groupNames.zipIdx 1).filterMap fun (name, index) => name.map (·, index)

/-- The name under which an unnamed group is passed on. -/
def groupName (index : Nat) : Text :=
  Nat.toDigits 10 index

/-- The parameters that the groups of a pattern stand for: a required slot for
each unnamed group and a named slot for each named one. -/
def shape (pattern : Pattern) : Shape :=
  let required := pattern.unnamedGroups.map fun index => Slot.mk (groupName index) .required none
  let named := pattern.namedGroups.map fun (name, _) => Slot.mk name .named none
  { parameters := .fixed (required ++ named) }

/-- The call that a match makes. -/
def callOf (pattern : Pattern) (found : RegexMatch) : BoundCall where
  positional := pattern.unnamedGroups.map fun index => ⟨groupName index, found.group? index⟩
  named := pattern.namedGroups.map fun (name, index) => ⟨name, found.group? index⟩

end Pattern

namespace Matcher

def isDelimited : Matcher → Bool
  | .calls _ | .everyUnit => true
  | .raw _ => false

/-- The argument text of a unit that calls `name`: nothing when the unit ends
after the name, and otherwise what follows the separator. -/
def argumentsOf? (separator : Char) (name inner : Text) : Option (Option Text) :=
  match afterStart? name inner with
  | some [] => some none
  | some (c :: rest) => if c = separator then some (some rest) else none
  | none => none

/-- The places in a text, from left to right and without overlap. -/
def find (matcher : Matcher) (grammar : Grammar) (text : Text) : List Found :=
  match matcher with
  | .calls name =>
    (grammar.units text).filterMap fun unit =>
      (argumentsOf? grammar.separator name unit.inner).map fun arguments =>
        ⟨unit.span, .delimited arguments⟩
  | .everyUnit =>
    (grammar.units text).map fun unit => ⟨unit.span, .delimited (some unit.inner)⟩
  | .raw pattern =>
    (pattern.program.findAll text).map fun found => ⟨found.span, .captured (pattern.callOf found)⟩

end Matcher

end CallMarkup
