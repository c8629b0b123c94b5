import CallMarkup.Data.Event

/-!
# YAML anchors

A document names nodes by anchors and refers to them by aliases.  For a reader
of events the names are numbers: an anchor takes the number of different names
before it.  So a name that is used again takes a new number, and where two nodes
come to have one number, it is the number of the later one.
-/

namespace CallMarkup.Data.Yaml

/-- What a document announces, with the names that it uses. -/
inductive Announcement
  | event (anchor? : Option Text) (event : Event)
  | alias (name : Text)
  deriving DecidableEq

/-- What a document announces, up to the first fault. -/
structure Outline where
  announcements : List Announcement
  /-- Whether the document is the only one of its text, without a fault. -/
  complete : Bool
  deriving DecidableEq

namespace Outline

/-- Nothing, because of a fault. -/
def broken : Outline :=
  ⟨[], false⟩

def cons (announcement : Announcement) (outline : Outline) : Outline :=
  { outline with announcements := announcement :: outline.announcements }

def consEvent (event : Event) (outline : Outline) : Outline :=
  outline.cons (.event none event)

/-- The events of announcements, with the numbers that names have so far.  An
alias of a name that was not used before is a fault. -/
def resolve (complete : Bool) : (numbers : List (Text × Nat)) → List Announcement → Stream
  | _, [] => { complete }
  | numbers, .event none event :: rest => (resolve complete numbers rest).cons event
  | numbers, .event (some name) event :: rest =>
    let others := numbers.filter (·.1 ≠ name)
    ((resolve complete ((name, numbers.length) :: others) rest).cons event).number numbers.length
  | numbers, .alias name :: rest =>
    match numbers.lookup name with
    | some found => (resolve complete numbers rest).cons (.alias found)
    | none => .broken

def stream (outline : Outline) : Stream :=
  resolve outline.complete [] outline.announcements

end Outline

end CallMarkup.Data.Yaml
