import CallMarkup.Grammar.Escape

/-!
# Argument items

The arguments of a unit are items between separators.  An item is positional
unless the text before its first unescaped assignment operator is an
identifier; then it is a keyword item.
-/

namespace CallMarkup

/-- One item of an argument list, escapes untouched. -/
inductive Item
  | positional (text : Text)
  | keyword (key text : Text)
  deriving DecidableEq

namespace Grammar

/-- Tells keyword items from positional ones. -/
def classify (grammar : Grammar) (text : Text) : Item :=
  match grammar.keywordParts? text with
  | some (key, value) => .keyword key value
  | none => .positional text

/-- The items of an argument list.  A unit without a separator after its name
has no arguments at all, while an empty list of arguments is one empty item. -/
def items (grammar : Grammar) : Option Text → List Item
  | none => []
  | some arguments => (grammar.splitUnescaped grammar.separator arguments).map grammar.classify

def writeItem (grammar : Grammar) : Item → Text
  | .positional text => text
  | .keyword key text => key ++ grammar.assignment :: text

/-- The unit that calls `name` with the given items. -/
def writeUnit (grammar : Grammar) (name : Text) (items : List Item) : Text :=
  grammar.leadIn ++ name ++
    (items.flatMap fun item => grammar.separator :: grammar.writeItem item) ++ grammar.leadOut

/-- The name of a unit and the text of its arguments, split at the first
unescaped separator of the unit's inner text. -/
def nameAndArguments (grammar : Grammar) (inner : Text) : Text × Option Text :=
  match grammar.cutUnescaped? grammar.separator inner with
  | some (name, arguments) => (name, some arguments)
  | none => (inner, none)

end Grammar

end CallMarkup
