import CallMarkup.Regex.Program
import CallMarkup.Span
import Std.Data.HashSet

/-!
# Searching with a program

A search reads a text once, from left to right.  At every position it keeps the
threads that may still lead to a match, in order of preference and each at an
instruction of its own: of two threads at one instruction only the preferred
one can matter.  So the work for a position is bounded by the size of the
program, and a match once found replaces every thread that is less preferred.

`Program.findAll` lists the matches in a text.  It knows a match by the numbers
of characters before it and in it, so the matches ascend and do not overlap by
construction.
-/

namespace CallMarkup

/-- A group edge passed at a position. -/
structure Mark where
  edge : GroupEdge
  cursor : Cursor
  deriving DecidableEq

structure RegexMatch where
  start : Cursor
  stop : Cursor
  /-- The group edges passed, the latest first. -/
  marks : List Mark
  deriving DecidableEq

namespace RegexMatch

def span (found : RegexMatch) : Span :=
  ⟨found.start.offset, found.stop.offset⟩

def edge? (found : RegexMatch) (edge : GroupEdge) : Option Cursor :=
  (found.marks.find? (·.edge = edge)).map (·.cursor)

def group? (found : RegexMatch) (index : Nat) : Option Text := do
  let stop ← found.edge? (.closing index)
  let start ← found.edge? (.opening index)
  return start.textUpTo stop.offset

end RegexMatch

/-- An attempt at a match. -/
structure Thread where
  /-- The number of characters passed over before the match. -/
  skipped : Nat
  marks : List Mark := []

/-- The threads at a position. -/
structure Frontier where
  /-- The instructions that have been entered. -/
  entered : Std.HashSet Nat := ∅
  /-- The threads that read a character or accept, in order of preference. -/
  threads : Array (Instruction × Thread) := #[]

/-- What a search has found: a number of characters to pass over, the number of
characters in the match, and the group edges passed. -/
structure Hit where
  skipped : Nat
  length : Nat
  marks : List Mark

namespace Hit

/-- The match of a thread that accepts after so many characters. -/
def of (passed : Nat) (thread : Thread) : Hit :=
  ⟨thread.skipped, passed - thread.skipped, thread.marks⟩

/-- The match that a search from a position on has found. -/
def matchAfter (hit : Hit) (cursor : Cursor) : RegexMatch :=
  let start := cursor.advance hit.skipped
  ⟨start, start.advance hit.length, hit.marks⟩

end Hit

namespace Program

/-- Follows threads to the instructions that read a character or accept.  An
instruction that has been entered before is left to the thread that came first.
The steps suffice when there are as many as `followSteps` for each thread. -/
def follow (program : Program) (cursor : Cursor) :
    (steps : Nat) → (pending : List (Nat × Thread)) → Frontier → Frontier
  | 0, _, frontier => frontier
  | _, [], frontier => frontier
  | steps + 1, (place, thread) :: pending, frontier =>
    if frontier.entered.contains place then program.follow cursor steps pending frontier
    else
      let frontier := { frontier with entered := frontier.entered.insert place }
      match program.instructions[place]? with
      | none => program.follow cursor steps pending frontier
      | some (.test condition next) =>
        let pending := if condition.holds cursor then (next, thread) :: pending else pending
        program.follow cursor steps pending frontier
      | some (.mark edge next) =>
        let thread := { thread with marks := ⟨edge, cursor⟩ :: thread.marks }
        program.follow cursor steps ((next, thread) :: pending) frontier
      | some (.choose preferred other) =>
        program.follow cursor steps ((preferred, thread) :: (other, thread) :: pending) frontier
      | some instruction =>
        let threads := frontier.threads.push (instruction, thread)
        program.follow cursor steps pending { frontier with threads }

/-- Every instruction is entered at most once and leads to at most two places,
so this many steps follow a thread to the end. -/
def followSteps (program : Program) : Nat :=
  2 * program.instructions.size + 1

/-- Adds a thread at a place, less preferred than those already there. -/
def start (program : Program) (cursor : Cursor) (place : Nat) (thread : Thread)
    (frontier : Frontier) : Frontier :=
  program.follow cursor program.followSteps [(place, thread)] frontier

/-- The threads preferred to the first one that accepts, and that one. -/
def untilAccept : List (Instruction × Thread) → List (Instruction × Thread) × Option Thread
  | [] => ([], none)
  | (.accept, thread) :: _ => ([], some thread)
  | thread :: others =>
    let (preferred, accepted) := untilAccept others
    (thread :: preferred, accepted)

/-- Moves the threads that read a character to the position after it. -/
def step (program : Program) (c : Char) (later : Cursor)
    (threads : List (Instruction × Thread)) : Frontier :=
  threads.foldl (fun frontier (instruction, thread) =>
    match instruction with
    | .read accepts next =>
      if accepts.contains c then program.start later next thread frontier else frontier
    | _ => frontier) {}

/-- Searches the rest of a text, given the position before it, the number of
characters passed over, the threads there, and the preferred match so far.  As
long as there is none, a match may also begin here. -/
def searchFrom (program : Program) (offset : Nat) (previous : Option Char) (passed : Nat)
    (frontier : Frontier) (best : Option Hit) (rest : Text) : Option Hit :=
  let cursor : Cursor := ⟨offset, previous, rest⟩
  let frontier :=
    if best.isNone then program.start cursor program.entry { skipped := passed } frontier
    else frontier
  let (preferred, accepted) := untilAccept frontier.threads.toList
  let best := (accepted.map (Hit.of passed)).or best
  match rest with
  | [] => best
  | c :: rest =>
    if best.isSome && preferred.isEmpty then best
    else
      let offset := offset + c.utf8Size
      program.searchFrom offset (some c) (passed + 1)
        (program.step c ⟨offset, some c, rest⟩ preferred) best rest

/-- The leftmost match that starts at a position or later. -/
def search? (program : Program) (cursor : Cursor) : Option Hit :=
  program.searchFrom cursor.offset cursor.previous 0 {} none cursor.rest

/-- All matches from a position on, after those found already.  An empty match
is passed over where `blocked`, right after a match. -/
def matchesFrom (program : Program) (blocked : Bool) (found : Array RegexMatch)
    (cursor : Cursor) : Array RegexMatch :=
  match program.search? cursor with
  | none => found
  | some hit =>
    let hitAt := hit.matchAfter cursor
    if _atEnd : cursor.rest = [] then if blocked then found else found.push hitAt
    else if _empty : hit.skipped + hit.length = 0 then
      program.matchesFrom false (if blocked then found else found.push hitAt) cursor.next
    else program.matchesFrom true (found.push hitAt) (cursor.advance (hit.skipped + hit.length))
termination_by cursor.rest.length
decreasing_by
  · have positive := List.length_pos_iff.mpr _atEnd
    rw [Cursor.next_rest, List.length_tail]
    omega
  · have positive := List.length_pos_iff.mpr _atEnd
    rw [Cursor.advance_rest, List.length_drop]
    omega

/-- All matches in a text, from left to right and without overlap. -/
def findAll (program : Program) (text : Text) : List RegexMatch :=
  (program.matchesFrom false #[] (Cursor.atStart text)).toList

end Program

end CallMarkup
