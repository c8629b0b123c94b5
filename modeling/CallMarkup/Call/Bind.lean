import CallMarkup.Call.Bound
import CallMarkup.Call.Item
import CallMarkup.Shape

/-!
# Binding arguments

Binding turns the items of a unit into the call that a shape describes.
Positional items fill the positional slots in order of declaration, keyword
items fill optional and named slots by name, and a slot that no item fills
takes its default.  An empty item binds the empty text, never the default.
-/

namespace CallMarkup

/-- Why items do not fit a shape. -/
inductive BindingFault
  | arityTooLow (required given : Nat) (missing : List Text)
  | arityTooHigh (limit : Nat)
  | unknownKeyword (key : Text)
  | duplicateBinding (key : Text)
  | positionalAfterKeyword (text : Text)
  | positionalOnly (key : Text)
  deriving DecidableEq

def BindingFault.message (callee : Text) : BindingFault → String
  | .arityTooLow required given missing =>
    s!"'{String.ofList callee}' requires {required} positional argument(s), got {given}; " ++
      s!"missing {String.ofList (enumerated missing)}"
  | .arityTooHigh limit =>
    s!"'{String.ofList callee}' takes at most {limit} positional argument(s)"
  | .unknownKeyword key =>
    s!"'{String.ofList callee}' has no parameter named '{String.ofList key}'"
  | .duplicateBinding key =>
    s!"'{String.ofList callee}': parameter '{String.ofList key}' is bound twice"
  | .positionalAfterKeyword text =>
    s!"'{String.ofList callee}': positional argument '{String.ofList text}' " ++
      "follows a named argument"
  | .positionalOnly key =>
    s!"'{String.ofList callee}': required parameter '{String.ofList key}' " ++
      "cannot be passed by name"

/-- What the items read so far have supplied. -/
structure Supply where
  /-- Values by slot name. -/
  values : List (Text × Text) := []
  /-- Positional slots that no positional item has filled. -/
  pending : List Slot
  /-- Whether a keyword item has been read. -/
  keywordSeen : Bool := false
  deriving DecidableEq

namespace Supply

def value? (supply : Supply) (name : Text) : Option Text :=
  supply.values.lookup name

end Supply

namespace Shape

def supplyItem (shape : Shape) (grammar : Grammar) (supply : Supply) :
    Item → Except BindingFault Supply
  | .positional text =>
    if supply.keywordSeen then .error (.positionalAfterKeyword text)
    else
      match supply.pending with
      | [] => .error (.arityTooHigh shape.positional.length)
      | slot :: pending =>
        .ok { supply with values := (slot.name, grammar.unescape text) :: supply.values, pending }
  | .keyword key text =>
    match shape.slot? key with
    | none => .error (.unknownKeyword key)
    | some slot =>
      if (supply.value? key).isSome then .error (.duplicateBinding key)
      else if slot.isRequired then .error (.positionalOnly key)
      else
        .ok { supply with
          values := (key, grammar.unescape text) :: supply.values, keywordSeen := true }

/-- Takes in all items, from left to right. -/
def supplyItems (shape : Shape) (grammar : Grammar) (supply : Supply) :
    List Item → Except BindingFault Supply
  | [] => .ok supply
  | item :: items =>
    match shape.supplyItem grammar supply item with
    | .ok supply => shape.supplyItems grammar supply items
    | .error fault => .error fault

def missing (shape : Shape) (supply : Supply) : List Text :=
  (shape.required.filter fun slot => (supply.value? slot.name).isNone).map (·.name)

/-- The argument of a slot: what was supplied, or else the default. -/
def argument (supply : Supply) (slot : Slot) : Argument :=
  ⟨slot.name, (supply.value? slot.name).or slot.default⟩

def bindSlots (shape : Shape) (grammar : Grammar) (items : List Item) :
    Except BindingFault BoundCall :=
  match shape.supplyItems grammar { pending := shape.positional } items with
  | .error fault => .error fault
  | .ok supply =>
    match shape.missing supply with
    | [] =>
      .ok ⟨shape.positional.map (argument supply), shape.named.map (argument supply)⟩
    | missing =>
      let given := shape.positional.length - supply.pending.length
      .error (.arityTooLow shape.required.length given missing)

end Shape

def BoundCall.addItem (grammar : Grammar) (call : BoundCall) : Item → Except BindingFault BoundCall
  | .positional text =>
    if call.named ≠ [] then .error (.positionalAfterKeyword text)
    else
      let name := Nat.toDigits 10 call.positional.length
      .ok { call with positional := call.positional ++ [⟨name, some (grammar.unescape text)⟩] }
  | .keyword key text =>
    if call.named.any (·.name = key) then .error (.duplicateBinding key)
    else .ok { call with named := call.named ++ [⟨key, some (grammar.unescape text)⟩] }

def BoundCall.addItems (grammar : Grammar) (call : BoundCall) :
    List Item → Except BindingFault BoundCall
  | [] => .ok call
  | item :: items =>
    match call.addItem grammar item with
    | .ok call => call.addItems grammar items
    | .error fault => .error fault

/-- Binds the items of a unit to a shape. -/
def Shape.bind (shape : Shape) (grammar : Grammar) (items : List Item) :
    Except BindingFault BoundCall :=
  match shape.parameters with
  | .variadic => BoundCall.addItems grammar {} items
  | .fixed _ => shape.bindSlots grammar items

end CallMarkup
