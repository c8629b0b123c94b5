import CallMarkup.Text

/-!
# Spans of a text

A span is a range of byte offsets.  Two spans overlap when they share a
position; an empty span sits at its offset, so it overlaps a span that contains
this offset and another empty span at the same place.
-/

namespace CallMarkup

/-- The bytes from `start` up to `stop`, the latter excluded. -/
structure Span where
  start : Nat
  stop : Nat
  deriving DecidableEq, Repr

namespace Span

def length (span : Span) : Nat :=
  span.stop - span.start

def isEmpty (span : Span) : Bool :=
  span.start == span.stop

def overlaps (first second : Span) : Bool :=
  match first.isEmpty, second.isEmpty with
  | false, false => first.start < second.stop && second.start < first.stop
  | true, false => second.start ≤ first.start && first.start < second.stop
  | false, true => first.start ≤ second.start && second.start < first.stop
  | true, true => first.start == second.start

theorem overlaps_comm (first second : Span) :
    first.overlaps second = second.overlaps first := by
  unfold overlaps
  cases first.isEmpty <;> cases second.isEmpty
  · simp only [Bool.and_comm]
  · rfl
  · rfl
  · simp only [Bool.beq_comm]

/-- The order in which spans are written out: by start, then by end. -/
def before (first second : Span) : Bool :=
  first.start < second.start || (first.start == second.start && first.stop ≤ second.stop)

def slice (text : Text) (span : Span) : Text :=
  takeBytes span.length (dropBytes span.start text)

end Span

/-- A span of a text and what is to stand in its place. -/
structure Replacement where
  span : Span
  text : Text
  deriving DecidableEq

/-- Writes replacements in the given order into the text that follows
`cursor`. -/
def weave (cursor : Nat) (source : Text) : List Replacement → Text
  | [] => source
  | item :: items =>
    takeBytes (item.span.start - cursor) source ++ item.text ++
      weave item.span.stop (dropBytes (item.span.stop - cursor) source) items

/-- Replaces every span by its text.  An insertion at the start of another span
comes before that span's replacement. -/
def splice (text : Text) (replacements : List Replacement) : Text :=
  weave 0 text (replacements.mergeSort fun first second => first.span.before second.span)

end CallMarkup
