import CallMarkup.Text

/-!
# Bound calls

What a callback receives: a value for each of its parameters, or the absence of
one, in the positional and in the named view.
-/

namespace CallMarkup

/-- A parameter with its value, if it has one. -/
structure Argument where
  name : Text
  value : Option Text
  deriving DecidableEq

structure BoundCall where
  positional : List Argument := []
  named : List Argument := []
  deriving DecidableEq

namespace BoundCall

def toList (call : BoundCall) : List Argument :=
  call.positional ++ call.named

def value? (call : BoundCall) (index : Nat) : Option Text :=
  call.positional[index]?.bind (·.value)

def get? (call : BoundCall) (name : Text) : Option Text :=
  (call.toList.find? (·.name = name)).bind (·.value)

def size (call : BoundCall) : Nat :=
  call.toList.length

def isEmpty (call : BoundCall) : Bool :=
  call.size == 0

end BoundCall

end CallMarkup
