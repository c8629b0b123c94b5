import CallMarkup.Regex.CharSet.Bytes
import CallMarkup.Regex.Expr

/-!
# The size of an expression

An expression may repeat its parts so often that it is of no practical use.
Its size is the memory of an automaton that reads texts byte by byte, once
forwards with the groups and once backwards without them.  Neither automaton
may be larger than `sizeLimit`.
-/

namespace CallMarkup

/-- The two ways to read a text. -/
inductive Direction
  | forward
  | backward
  deriving DecidableEq

namespace Footprint

def state : Nat := 32

/-- The bytes for a state that reads one of some byte ranges. -/
def readingState (ranges : Nat) : Nat :=
  state + 8 * ranges

/-- The bytes for one of the states that a state leads to. -/
def branch : Nat := 4

/-- The bytes for a state that leads to some others. -/
def branchingState (others : Nat) : Nat :=
  state + branch * others

/-- Adds a list to the group of its first entry. -/
def addToGroup {α : Type} [DecidableEq α] (first : α) (rest : List α) :
    List (α × List (List α)) → List (α × List (List α))
  | [] => [(first, [rest])]
  | (entry, rests) :: groups =>
    if entry = first then (entry, rest :: rests) :: groups
    else (entry, rests) :: addToGroup first rest groups

/-- Groups lists by their first entry: each first entry with all that follows
it. -/
def byFirst {α : Type} [DecidableEq α] : List (List α) → List (α × List (List α))
  | [] => []
  | [] :: others => byFirst others
  | (first :: rest) :: others => addToGroup first rest (byFirst others)

/-- The ways to go on after a beginning that some sequences share, for every
beginning that is no whole sequence. -/
def continuations : (longest : Nat) → List (List ByteRange) → List (List (List ByteRange))
  | 0, _ => []
  | longest + 1, sequences =>
    (byFirst sequences).flatMap fun (_, rests) =>
      if rests.all (·.isEmpty) then [] else rests :: continuations longest rests

/-- The number of entries in which two lists agree from the start. -/
def agreement {α : Type} [DecidableEq α] : List α → List α → Nat
  | first :: firsts, second :: seconds =>
    if first = second then agreement firsts seconds + 1 else 0
  | _, _ => 0

/-- The number of different beginnings of ascending sequences, besides those of
the sequence before them. -/
def beginnings : (previous : List ByteRange) → List (List ByteRange) → Nat
  | _, [] => 0
  | previous, sequence :: others =>
    sequence.length - agreement previous sequence + beginnings sequence others

/-- The bytes for one character of a set.  Forwards, beginnings with the same
ways to go on share a state; backwards, sequences share the states of a common
beginning. -/
def ofSet (direction : Direction) (set : CharSet) : Nat :=
  if set.isAscii then state + readingState set.ranges.length
  else
    let sequences := set.byteSequences
    match direction with
    | .forward =>
      let nodes := sequences :: (continuations 4 sequences).eraseDups
      state + (nodes.map fun node => readingState (byFirst node).length).foldl (· + ·) 0
    | .backward =>
      state + branchingState sequences.length + state * beginnings [] sequences

/-- The stretches of texts between empty ones.  Of empty texts at the beginning
only one counts. -/
def stretches (texts : List (List UInt8)) : List (List (List UInt8)) :=
  split ((texts.takeWhile (·.isEmpty)).take 1 ++ texts.dropWhile (·.isEmpty))
where
  /-- Splits a list of texts at every empty one. -/
  split : List (List UInt8) → List (List (List UInt8))
    | [] => [[]]
    | [] :: others => [] :: split others
    | text :: others => (split others).modifyHead (text :: ·)

/-- The bytes for a tree of texts.  Beginnings are shared, except where a text
that ends in between is to be preferred. -/
def ofTree : (longest : Nat) → List (List UInt8) → Nat
  | 0, _ => 0
  | longest + 1, texts =>
    let groups := (stretches texts).map byFirst
    let reading := groups.filter (!·.isEmpty)
    let states := reading.map fun group =>
      if group.length = 1 then state else readingState group.length
    let below := groups.flatten.map fun (_, rests) =>
      if rests.all (·.isEmpty) then 0 else ofTree longest rests
    branchingState (reading.length + (groups.length - 1)) + states.sum + below.sum

/-- The bytes of some texts as they are read in a direction. -/
def readingOrder (direction : Direction) (texts : List Text) : List (List UInt8) :=
  texts.map fun text =>
    let bytes := text.flatMap String.utf8EncodeChar
    match direction with
    | .forward => bytes
    | .backward => bytes.reverse

/-- The bytes for a choice among texts. -/
def ofTexts (direction : Direction) (texts : List Text) : Nat :=
  let texts := readingOrder direction texts
  state + ofTree ((texts.map (·.length)).foldl max 0) texts

/-- The bytes for some rounds of a part of a given size. -/
def ofRounds (round : Nat) (consumes : Bool) (bounds : Bounds) : Nat :=
  match bounds.least, bounds.most with
  | 0, none =>
    if consumes then round + branchingState 2 else round + 2 * branchingState 2 + state
  | least, none => least * round + branchingState 2
  | 0, some 1 => round + branchingState 2 + state
  | least, some most =>
    if least = most then least * round
    else
      (if least = 0 then state else least * round) + state +
        (most - least) * (round + branchingState 2)

end Footprint

namespace Regex

/-- The texts of alternatives that are literals. -/
def literals? (branches : List Regex) : Option (List Text) :=
  branches.mapM fun
    | literal chars => some chars
    | _ => none

/-- The bytes for an expression.  An expression that continues a list of
alternatives has no states of its own for the choice. -/
def footprint (direction : Direction) (continuing : Bool) : Regex → Nat
  | empty | assertion _ => Footprint.state
  | literal chars => Footprint.state * byteLength chars
  | set accepts _ => Footprint.ofSet direction accepts
  | group _ inner =>
    (if direction = .forward then 2 * Footprint.state else 0) + inner.footprint direction false
  | repeated inner bounds _ =>
    Footprint.ofRounds (inner.footprint direction false) inner.consumes bounds
  | seq first rest => first.footprint direction false + rest.footprint direction false
  | alt first rest =>
    match continuing, literals? (alt first rest).alternatives with
    | false, some texts => Footprint.ofTexts direction texts
    | _, _ =>
      (if continuing then 0 else 2 * Footprint.state) + Footprint.branch +
        first.footprint direction false + rest.footprint direction true +
        if rest matches alt _ _ then 0 else Footprint.branch

/-- Whether every match of an expression lies at the end of the text where
reading in a direction begins. -/
def isAnchored (direction : Direction) : Regex → Bool
  | empty | literal _ | set _ _ => false
  | assertion condition =>
    condition = match direction with
      | .forward => .textStart
      | .backward => .textEnd
  | group _ inner => inner.isAnchored direction
  | repeated inner bounds _ => 0 < bounds.least && inner.isAnchored direction
  | alt first rest => first.isAnchored direction && rest.isAnchored direction
  | seq first rest =>
    match direction with
    | .forward => first.isAnchored direction || (first.isZeroWidth && rest.isAnchored direction)
    | .backward => rest.isAnchored direction || (rest.isZeroWidth && first.isAnchored direction)

/-- The bytes of the automaton that finds an expression anywhere in a text.
Forwards, the whole match is a group. -/
def size (expr : Regex) (direction : Direction) : Nat :=
  let before :=
    if expr.isAnchored direction then Footprint.state
    else Footprint.branchingState 2 + Footprint.readingState 1 + Footprint.state
  let whole := if direction = .forward then 2 * Footprint.state else 0
  before + whole + expr.footprint direction false + Footprint.state

/-- The number of bytes that an automaton may take. -/
def sizeLimit : Nat :=
  10 * 1024 * 1024

/-- Whether the automata of an expression have an acceptable size. -/
def isWithinLimit (expr : Regex) : Bool :=
  expr.size .forward ≤ sizeLimit && expr.size .backward ≤ sizeLimit

end Regex

end CallMarkup
