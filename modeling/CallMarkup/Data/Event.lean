import CallMarkup.Text.Numeral

/-!
# Documents as events

A document of structured data is read as the events that its text announces
one after the other: scalars, and the beginnings and ends of sequences and
mappings.  An alias stands for a node that was announced before.  The events
stop early where the text breaks its notation, so a reader that takes them in
order meets the faults of a text in the order of the text.
-/

namespace CallMarkup.Data

/-- A scalar with every way in which it may be read. -/
structure Scalar where
  text? : Option Text := none
  bool? : Option Bool := none
  /-- A number that fits into 64 bits. -/
  natural? : Option Nat := none
  isNull : Bool := false
  /-- Whether the text leaves the place empty. -/
  isBlank : Bool := false
  /-- The choice that the scalar is tagged with. -/
  choice? : Option Text := none
  deriving DecidableEq

/-- What a text announces. -/
inductive Event
  | scalar (value : Scalar)
  | openSequence
  | closeSequence
  | openMapping
  | closeMapping
  /-- A node that was announced before, by its number. -/
  | alias (number : Nat)
  deriving DecidableEq

/-- The events of a text. -/
structure Stream where
  events : List Event := []
  /-- Whether the events are those of exactly one document, without a fault. -/
  complete : Bool
  /-- The events from the beginnings of numbered nodes on. -/
  numbered : List (Nat × List Event) := []
  deriving DecidableEq

namespace Stream

/-- No events, because of a fault. -/
def broken : Stream :=
  { complete := false }

def cons (event : Event) (stream : Stream) : Stream :=
  { stream with events := event :: stream.events }

/-- Numbers the node that begins with the first event. -/
def number (stream : Stream) (found : Nat) : Stream :=
  { stream with numbered := (found, stream.events) :: stream.numbered }

/-- The events from the beginning of the last node with a number on. -/
def node (stream : Stream) (number : Nat) : List Event :=
  (stream.numbered.filter (·.1 = number)).getLast?.elim [] (·.2)

end Stream

/-- A number, if it fits into 64 bits. -/
def fitting? (value : Nat) : Option Nat :=
  if value < UInt64.size then some value else none

end CallMarkup.Data
