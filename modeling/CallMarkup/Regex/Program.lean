import CallMarkup.Regex.Expr

/-!
# Programs of regular expressions

A program is an array of instructions that lead from one to the next.  An
expression is assembled from its end: each part is given the place to go on
from, adds its instructions and returns the place where it begins itself.
-/

namespace CallMarkup

inductive GroupEdge
  | opening (group : Nat)
  | closing (group : Nat)
  deriving DecidableEq

/-- One step of a match, with the places to go on from. -/
inductive Instruction
  /-- The match is complete. -/
  | accept
  /-- Reads one character of a set. -/
  | read (accepts : CharSet) (next : Nat)
  | test (condition : Assertion) (next : Nat)
  | mark (edge : GroupEdge) (next : Nat)
  /-- Goes on in either of two ways, the first of which is preferred. -/
  | choose (preferred other : Nat)
  deriving DecidableEq

/-- A choice between another round of a repetition and leaving it. -/
def Instruction.roundOr (greedy : Bool) (round exit : Nat) : Instruction :=
  if greedy then .choose round exit else .choose exit round

/-- A program.  The first instruction of the array is the last one of a match. -/
structure Program where
  instructions : Array Instruction
  entry : Nat
  deriving DecidableEq

/-- A step of writing a program. -/
abbrev Assembly := StateM (Array Instruction)

namespace Assembly

def emit (instruction : Instruction) : Assembly Nat :=
  fun instructions => (instructions.size, instructions.push instruction)

/-- Adds a choice whose round is assembled so that it leads back to the choice,
and returns the place of the choice with that of the round. -/
def loop (greedy : Bool) (exit : Nat) (round : Nat → Assembly Nat) : Assembly (Nat × Nat) := do
  let place ← emit .accept
  let start ← round place
  modify fun instructions =>
    instructions.setIfInBounds place (Instruction.roundOr greedy start exit)
  return (place, start)

/-- Assembles a part so many times in a row. -/
def copies (part : Nat → Assembly Nat) : (count next : Nat) → Assembly Nat
  | 0, next => return next
  | count + 1, next => do copies part count (← part next)

/-- Assembles at most so many rounds.  Each round is followed by the choice of
the next one, and all choices have the same exit. -/
def upTo (greedy : Bool) (exit : Nat) (round : Nat → Assembly Nat) :
    (count next : Nat) → Assembly Nat
  | 0, next => return next
  | count + 1, next => do
    let start ← round next
    upTo greedy exit round count (← emit (Instruction.roundOr greedy start exit))

/-- Assembles the rounds of a repetition.  Whether to begin one that may consume
nothing is a choice of its own, apart from that of another round. -/
def rounds (consumes : Bool) (bounds : Bounds) (greedy : Bool) (round : Nat → Assembly Nat)
    (next : Nat) : Assembly Nat := do
  match bounds.most with
  | some most =>
    copies round bounds.least (← upTo greedy next round (most - bounds.least) next)
  | none =>
    let (choice, start) ← loop greedy next round
    if bounds.least = 0 then
      if consumes then return choice else emit (Instruction.roundOr greedy start next)
    else copies round (bounds.least - 1) start

end Assembly

namespace Regex

/-- Assembles an expression, given the place to go on from. -/
def assemble : Regex → (next : Nat) → Assembly Nat
  | empty, next => return next
  | literal chars, next =>
    chars.foldrM (fun c next => Assembly.emit (.read (.single c) next)) next
  | set accepts _, next => Assembly.emit (.read accepts next)
  | assertion condition, next => Assembly.emit (.test condition next)
  | group index inner, next => do
    let closing ← Assembly.emit (.mark (.closing index) next)
    Assembly.emit (.mark (.opening index) (← inner.assemble closing))
  | repeated inner bounds greedy, next =>
    Assembly.rounds inner.consumes bounds greedy inner.assemble next
  | seq first rest, next => do first.assemble (← rest.assemble next)
  | alt first rest, next => do
    let preferred ← first.assemble next
    Assembly.emit (.choose preferred (← rest.assemble next))

def program (expr : Regex) : Program :=
  let (entry, instructions) := (expr.assemble 0).run #[.accept]
  ⟨instructions, entry⟩

end Regex

end CallMarkup
