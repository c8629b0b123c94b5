import CallMarkup.Call.Item
import CallMarkup.Shape
import CallMarkup.Text.Quoted

/-!
# Producing units

The inverse of binding: from values for the slots of a shape to the text of the
unit that binds to them.  Positional values are written in order up to the
first optional slot without a value; optional values after that gap, and all
named values, are written as keyword items, since a positional item there would
fill another slot.
-/

namespace CallMarkup

inductive ProductionMode
  /-- Those that differ from the default of their slot. -/
  | minimal
  /-- All of them, defaults included. -/
  | exhaustive
  deriving DecidableEq

/-- Why no unit can be written. -/
inductive ProductionFault
  | anyArguments
  | tooManyPositional (limit given : Nat)
  | unknownName (key : Text)
  | requiredByName (key : Text)
  | givenTwice (key : Text)
  | missing (name : Text)
  | lineBreak (value : Text)
  | noFixedName
  deriving DecidableEq

def ProductionFault.message (callee : Text) : ProductionFault → String
  | .anyArguments =>
    s!"'{String.ofList callee}' accepts any arguments, so there is no canonical form to produce"
  | .tooManyPositional limit given =>
    s!"'{String.ofList callee}' takes at most {limit} positional argument(s), got {given}"
  | .unknownName key =>
    s!"'{String.ofList callee}' has no parameter named '{String.ofList key}'"
  | .requiredByName key =>
    s!"'{String.ofList callee}': required parameter '{String.ofList key}' " ++
      "must be given positionally"
  | .givenTwice key =>
    s!"'{String.ofList callee}': parameter '{String.ofList key}' is given twice"
  | .missing name => s!"'{String.ofList callee}' requires a value for '{String.ofList name}'"
  | .lineBreak value =>
    s!"'{String.ofList callee}': value {String.ofList (quoted value)} contains a line break " ++
      "but the grammar is single-line"
  | .noFixedName =>
    s!"Processor '{String.ofList callee}' does not match a fixed shorthand name " ++
      "and cannot produce text"

namespace Shape

/-- Adds values given by name to the values given so far. -/
def giveNamed (shape : Shape) (given : List (Text × Text)) :
    List (Text × Text) → Except ProductionFault (List (Text × Text))
  | [] => .ok given
  | (key, value) :: named =>
    match shape.slot? key with
    | none => .error (.unknownName key)
    | some slot =>
      if slot.isRequired then .error (.requiredByName key)
      else if (given.lookup key).isSome then .error (.givenTwice key)
      else shape.giveNamed ((key, value) :: given) named

/-- The values given for slots, by slot name. -/
def given (shape : Shape) (positional : List Text) (named : List (Text × Text)) :
    Except ProductionFault (List (Text × Text)) :=
  if shape.positional.length < positional.length then
    .error (.tooManyPositional shape.positional.length positional.length)
  else
    match shape.giveNamed ((shape.positional.map (·.name)).zip positional) named with
    | .error fault => .error fault
    | .ok given =>
      match shape.required.find? fun slot => (given.lookup slot.name).isNone with
      | some slot => .error (.missing slot.name)
      | none => .ok given

def written (mode : ProductionMode) (given : List (Text × Text)) (slot : Slot) : Option Text :=
  let value := given.lookup slot.name
  if slot.isRequired then value
  else
    match mode with
    | .minimal => value.filter fun text => some text ≠ slot.default
    | .exhaustive => value.or slot.default

/-- The positional and the keyword items for the values of slots.  After a
`gap` no positional item may be written. -/
def itemsFor (grammar : Grammar) : (gap : Bool) → List (Slot × Option Text) →
    List Item × List Item
  | _, [] => ([], [])
  | gap, (slot, none) :: rest => itemsFor grammar (gap || slot.isPositional) rest
  | gap, (slot, some value) :: rest =>
    let (positional, keywords) := itemsFor grammar gap rest
    if slot.isPositional && !gap then
      (.positional (grammar.escapeValue true value) :: positional, keywords)
    else (positional, .keyword slot.name (grammar.escapeValue false value) :: keywords)

/-- The items of the unit to write.  Positional items come first. -/
def producedItems (shape : Shape) (grammar : Grammar) (mode : ProductionMode)
    (positional : List Text) (named : List (Text × Text)) :
    Except ProductionFault (List Item) :=
  if shape.isVariadic then .error .anyArguments
  else
    match shape.given positional named with
    | .error fault => .error fault
    | .ok given =>
      let values := shape.slots.map fun slot => (slot, written mode given slot)
      match (values.filterMap (·.2)).find? fun value => !grammar.multiline && '\n' ∈ value with
      | some value => .error (.lineBreak value)
      | none =>
        let (positional, keywords) := itemsFor grammar false values
        .ok (positional ++ keywords)

/-- The unit that binds to the given values. -/
def produce (shape : Shape) (grammar : Grammar) (name : Text) (mode : ProductionMode)
    (positional : List Text) (named : List (Text × Text)) : Except ProductionFault Text :=
  (shape.producedItems grammar mode positional named).map (grammar.writeUnit name)

end Shape

end CallMarkup
