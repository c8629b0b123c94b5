import CallMarkup.Regex.Assertion
import CallMarkup.Regex.CharSet

/-!
# Regular expressions

The constructors of `Regex` are not meant to be used directly: `ofSet`,
`concat`, `alternation` and `repetition` bring every expression into a form that
shows what its parts have in common.  Neighbouring characters of a
concatenation are one literal, alternatives of single characters are one set,
and a beginning that all alternatives share is written once, before them.

The order of preference is that of the form: of two alternatives the first one
that leads to a match is taken.  Since a shared beginning is matched before the
choice among the alternatives, its first preference counts for all of them.
-/

namespace CallMarkup

/-- Bounds on the number of rounds of a repetition. -/
structure Bounds where
  least : Nat
  most : Option Nat
  deriving DecidableEq

inductive Regex
  | empty
  /-- One or more characters in a row. -/
  | literal (chars : Text)
  /-- One character of a set.  Sets written with Unicode switched off are kept
  apart. -/
  | set (accepts : CharSet) (unicode : Bool)
  | assertion (condition : Assertion)
  | group (index : Nat) (inner : Regex)
  | repeated (inner : Regex) (bounds : Bounds) (greedy : Bool)
  /-- A concatenation: `first` is none, and `rest` may be one. -/
  | seq (first rest : Regex)
  /-- Alternatives in order of preference: `first` has none, and `rest` may have
  some. -/
  | alt (first rest : Regex)
  deriving DecidableEq

namespace Regex

/-- Whether an expression matches nothing but the empty text. -/
def isZeroWidth : Regex → Bool
  | empty | assertion _ => true
  | literal _ | set _ _ => false
  | group _ inner => inner.isZeroWidth
  | repeated inner bounds _ => bounds.most.isSome && inner.isZeroWidth
  | seq first rest | alt first rest => first.isZeroWidth && rest.isZeroWidth

/-- The least number of characters that an expression matches, unless one of its
parts matches nothing at all. -/
def minLength? : Regex → Option Nat
  | empty | assertion _ => some 0
  | literal chars => some chars.length
  | set accepts _ => if accepts.ranges.isEmpty then none else some 1
  | group _ inner => inner.minLength?
  | repeated inner bounds _ => inner.minLength?.map (bounds.least * ·)
  | seq first rest => do return (← first.minLength?) + (← rest.minLength?)
  | alt first rest => do return min (← first.minLength?) (← rest.minLength?)

/-- Whether every match of an expression holds at least one character. -/
def consumes (expr : Regex) : Bool :=
  expr.minLength?.any (0 < ·)

def parts : Regex → List Regex
  | empty => []
  | seq first rest => first :: rest.parts
  | expr => [expr]

def alternatives : Regex → List Regex
  | alt first rest => first :: rest.alternatives
  | expr => [expr]

def groupIndices : Regex → List Nat
  | empty | literal _ | set _ _ | assertion _ => []
  | group index inner => index :: groupIndices inner
  | repeated inner _ _ => groupIndices inner
  | seq first rest | alt first rest => groupIndices first ++ groupIndices rest

/-- The expression that matches one character of a set. -/
def ofSet (accepts : CharSet) (unicode : Bool) : Regex :=
  match accepts.only? with
  | some c => literal [c]
  | none => set accepts (unicode && !accepts.ranges.isEmpty)

/-- Joins neighbouring literals. -/
def mergeLiterals : List Regex → List Regex
  | [] => []
  | literal chars :: rest =>
    match mergeLiterals rest with
    | literal more :: others => literal (chars ++ more) :: others
    | others => literal chars :: others
  | expr :: rest => expr :: mergeLiterals rest

/-- A list of parts as one expression. -/
def inSequence : List Regex → Regex
  | [] => empty
  | [part] => part
  | part :: others => seq part (inSequence others)

/-- The expression that matches some expressions one after the other. -/
def concat (exprs : List Regex) : Regex :=
  inSequence (mergeLiterals (exprs.flatMap parts))

/-- A list of alternatives as one expression. -/
def inPreference : List Regex → Regex
  | [] => set .empty false
  | [expr] => expr
  | expr :: others => alt expr (inPreference others)

/-- The characters of alternatives that are single characters. -/
def singleChars? (branches : List Regex) : Option Text :=
  branches.mapM fun
    | literal [c] => some c
    | _ => none

def unionOfSets? (branches : List Regex) : Option CharSet :=
  branches.foldlM (fun union branch =>
    match branch with
    | set accepts _ => some (union.union accepts)
    | _ => none) .empty

/-- Alternatives without regard to what their beginnings share. -/
def choiceOf (branches : List Regex) : Regex :=
  match branches.flatMap alternatives with
  | [expr] => expr
  | branches =>
    match singleChars? branches, unionOfSets? branches with
    | some chars, _ => ofSet (.ofChars chars) true
    | none, some accepts => ofSet accepts true
    | none, none => inPreference branches

/-- The longest beginning that two lists share. -/
def commonStart : List Regex → List Regex → List Regex
  | first :: firsts, second :: seconds =>
    if first = second then first :: commonStart firsts seconds else []
  | _, _ => []

/-- The parts that all alternatives begin with, provided that each alternative
is a concatenation. -/
def sharedStart : List Regex → List Regex
  | [] => []
  | branch :: others =>
    if (branch :: others).all (· matches seq _ _) then
      others.foldl (fun shared other => commonStart shared other.parts) branch.parts
    else []

/-- The expression that matches one of some expressions and prefers the earlier
ones.  What all of them begin with is matched once, before the choice. -/
def alternation (exprs : List Regex) : Regex :=
  match choiceOf exprs with
  | alt first rest =>
    let branches := first :: rest.alternatives
    let shared := sharedStart branches
    if shared.isEmpty then alt first rest
    else
      let remainders := branches.map fun branch => concat (branch.parts.drop shared.length)
      concat (shared ++ [choiceOf remainders])
  | expr => expr

/-- The expression that matches an expression a number of times.  Rounds that
are always empty need no repetition beyond the first. -/
def repetition (inner : Regex) (bounds : Bounds) (greedy : Bool) : Regex :=
  let bounds :=
    if inner.isZeroWidth then ⟨min bounds.least 1, some (min (bounds.most.getD 1) 1)⟩ else bounds
  if bounds = ⟨0, some 0⟩ then empty
  else if bounds = ⟨1, some 1⟩ then inner
  else repeated inner bounds greedy

end Regex

end CallMarkup
