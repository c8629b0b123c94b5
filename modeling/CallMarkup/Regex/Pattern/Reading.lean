import CallMarkup.Regex.Assertion
import CallMarkup.Regex.CharSet

/-!
# Reading patterns

A pattern is read character by character under switches that change what the
characters mean.  This module holds the steps that all parts of the notation
share, and the measure of how deeply a part of a pattern is nested.
-/

namespace CallMarkup.Pattern

/-- The switches that change how a pattern is read. -/
structure Flags where
  ignoreCase : Bool := false
  multiLine : Bool := false
  dotAll : Bool := false
  swapGreed : Bool := false
  unicode : Bool := true
  pairedLineBreaks : Bool := false
  /-- Blanks and comments in the pattern mean nothing. -/
  verbose : Bool := false

/-- What is left of a pattern, with the switches in force and the groups opened
so far. -/
structure Remainder where
  rest : Text
  /-- The number of characters in the whole pattern, which bounds all loops. -/
  textLength : Nat
  flags : Flags := {}
  groupCount : Nat := 0
  /-- The names of the groups, the latest first. -/
  groupNames : List (Option Text) := []

def Remainder.ofText (text : Text) : Remainder :=
  { rest := text, textLength := text.length }

/-- The same with one more group. -/
def Remainder.openGroup (remainder : Remainder) (name : Option Text) : Remainder :=
  { remainder with
    groupCount := remainder.groupCount + 1
    groupNames := name :: remainder.groupNames }

/-- A step of reading a pattern, which fails where the notation is broken. -/
abbrev Reading := StateT Remainder Option

def invalid {α : Type} : Reading α :=
  fun _ => none

/-- Goes on only under a condition. -/
def demand (condition : Bool) : Reading PUnit :=
  if condition then pure ⟨⟩ else invalid

def peek? : Reading (Option Char) := do
  return (← get).rest.head?

def peekSecond? : Reading (Option Char) := do
  return (← get).rest[1]?

/-- The next character, which must exist and is not consumed. -/
def current : Reading Char := do
  let some c ← peek? | invalid
  return c

/-- Consumes the next character. -/
def bump : Reading PUnit :=
  modify fun remainder => { remainder with rest := remainder.rest.tail }

/-- Consumes the next character and returns it. -/
def take : Reading Char := do
  let c ← current
  bump
  return c

/-- Consumes an expected text if it comes next. -/
def accept (expected : Text) : Reading Bool := do
  let remainder ← get
  match afterStart? expected remainder.rest with
  | some rest =>
    set { remainder with rest }
    return true
  | none => return false

/-- What follows blanks and comments. -/
def dropBlanks : (comment : Bool) → Text → Text
  | _, [] => []
  | comment, c :: rest =>
    if comment then dropBlanks (c != '\n') rest
    else if Unicode.isWhiteSpace c then dropBlanks false rest
    else if c = '#' then dropBlanks true rest
    else c :: rest

/-- Passes over blanks and comments where they mean nothing. -/
def skipBlanks : Reading PUnit :=
  modify fun remainder =>
    if remainder.flags.verbose then { remainder with rest := dropBlanks false remainder.rest }
    else remainder

/-- Consumes the next character and blanks after it. -/
def bumpSkip : Reading PUnit := do
  bump
  skipBlanks

/-- Something read from a pattern, with the number of parts that lie around its
innermost part.  Groups, repetitions, bracket expressions and lists of two or
more parts count. -/
structure Nested (α : Type) where
  value : α
  depth : Nat

/-- The depth of a list of parts with the given depths. -/
def listDepth : List Nat → Nat
  | [] => 0
  | [depth] => depth
  | depths => depths.foldl max 0 + 1

/-- The set together with the other cases of its members, when case is
ignored. -/
def foldCase (flags : Flags) (set : CharSet) : CharSet :=
  if flags.ignoreCase then
    if flags.unicode then set.ignoringCase else set.ignoringAsciiCase
  else set

/-- The characters outside a set.  Without Unicode they would include bytes
that are no characters. -/
def negate (flags : Flags) (negated : Bool) (set : CharSet) : Reading CharSet := do
  if negated then
    demand flags.unicode
    return set.complement
  else return set

/-- Which characters form words under the switches. -/
def wordRule (flags : Flags) : WordRule :=
  if flags.unicode then .unicode else .ascii

end CallMarkup.Pattern
