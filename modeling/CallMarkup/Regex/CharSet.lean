import CallMarkup.Unicode.CaseFolding
import CallMarkup.Unicode.Property

/-!
# Sets of characters

A set of characters is a list of ranges of code points.  The ranges ascend and
do not touch, so that sets with the same members are written alike and can be
compared.
-/

namespace CallMarkup

/-- The code points from `first` to `last`. -/
structure CodeRange where
  first : Nat
  last : Nat
  deriving DecidableEq, Repr

namespace CodeRange

def anyContains (code : Nat) : List CodeRange → Bool
  | [] => false
  | range :: rest =>
    if code < range.first then false else code ≤ range.last || anyContains code rest

/-- Joins a range with the ascending ranges after it, where they touch. -/
def joinFrom (range : CodeRange) : List CodeRange → List CodeRange
  | [] => [range]
  | next :: rest =>
    if next.first ≤ range.last + 1 then joinFrom ⟨range.first, max range.last next.last⟩ rest
    else range :: joinFrom next rest

/-- The code point after a character; the surrogates are passed over. -/
def successor (code : Nat) : Nat :=
  if code = 0xD7FF then 0xE000 else code + 1

/-- The characters from a code point up to a later one, the latter excluded. -/
def between (start stop : Nat) : List CodeRange :=
  let last := if stop = 0xE000 then 0xD7FF else stop - 1
  if start < stop ∧ start ≤ last then [⟨start, last⟩] else []

/-- The characters from a code point on that lie in none of some ascending
ranges. -/
def gaps (start : Nat) : List CodeRange → List CodeRange
  | [] => between start 0x110000
  | range :: rest => between start range.first ++ gaps (successor range.last) rest

/-- The code points of a run of a property table. -/
def ofRun (run : Unicode.Run) : List CodeRange :=
  if run.step = 1 then [⟨run.first, run.last⟩] else run.codes.map fun code => ⟨code, code⟩

end CodeRange

/-- A set of characters, as ascending ranges that do not touch. -/
structure CharSet where
  ranges : List CodeRange
  deriving DecidableEq, Repr

namespace CharSet

def contains (set : CharSet) (c : Char) : Bool :=
  CodeRange.anyContains c.toNat set.ranges

def empty : CharSet :=
  ⟨[]⟩

def single (c : Char) : CharSet :=
  ⟨[⟨c.toNat, c.toNat⟩]⟩

/-- All characters between two, both included. -/
def range (first last : Char) : CharSet :=
  ⟨[⟨first.toNat, last.toNat⟩]⟩

theorem contains_single {c d : Char} : (single c).contains d = true ↔ d = c := by
  have same : d = c ↔ d.toNat = c.toNat := by
    constructor
    · rintro rfl
      rfl
    · intro codes
      exact Char.ext (UInt32.toNat_inj.mp codes)
  simp only [single, contains, CodeRange.anyContains]
  rw [same]
  split
  · rename_i below
    constructor
    · intro impossible
      exact absurd impossible (by decide)
    · omega
  · simp only [Bool.or_false, decide_eq_true_eq]
    omega

/-- The characters of some ranges, in any order. -/
def ofRanges (ranges : List CodeRange) : CharSet :=
  match ranges.mergeSort (fun first second => first.first ≤ second.first) with
  | [] => empty
  | range :: rest => ⟨CodeRange.joinFrom range rest⟩

/-- The characters of some runs of a property table. -/
def ofRuns (runs : List Unicode.Run) : CharSet :=
  ofRanges (runs.flatMap CodeRange.ofRun)

def ofChars (chars : List Char) : CharSet :=
  ofRanges (chars.map fun c => ⟨c.toNat, c.toNat⟩)

/-- The character of a set with one member. -/
def only? (set : CharSet) : Option Char :=
  match set.ranges with
  | [range] => if range.first = range.last then some (Char.ofNat range.first) else none
  | _ => none

/-- The characters outside a set. -/
def complement (set : CharSet) : CharSet :=
  ⟨CodeRange.gaps 0 set.ranges⟩

def all : CharSet :=
  empty.complement

def union (first second : CharSet) : CharSet :=
  ofRanges (first.ranges ++ second.ranges)

def inter (first second : CharSet) : CharSet :=
  (first.complement.union second.complement).complement

/-- The characters in the first set only. -/
def diff (first second : CharSet) : CharSet :=
  first.inter second.complement

/-- The characters in exactly one of two sets. -/
def symmDiff (first second : CharSet) : CharSet :=
  (first.diff second).union (second.diff first)

def ascii (set : CharSet) : CharSet :=
  set.inter (range '\x00' '\x7f')

/-- The set together with other code points. -/
def adding (set : CharSet) (codes : List Nat) : CharSet :=
  if codes.isEmpty then set else set.union (ofRanges (codes.map fun code => ⟨code, code⟩))

/-- The set together with all characters that differ from a member in case
only: the representatives of its members, and whatever they represent. -/
def ignoringCase (set : CharSet) : CharSet :=
  let holds (set : CharSet) (code : Nat) := CodeRange.anyContains code set.ranges
  let represented := set.adding <| Unicode.foldPairs.filterMap fun (code, representative) =>
    if holds set code then some representative else none
  represented.adding <| Unicode.foldPairs.filterMap fun (code, representative) =>
    if holds represented representative then some code else none

/-- The set together with the other case of its ASCII letters. -/
def ignoringAsciiCase (set : CharSet) : CharSet :=
  set.adding <| (List.range 26).flatMap fun letter =>
    let upper := 'A'.toNat + letter
    let lower := 'a'.toNat + letter
    if [upper, lower].any (CodeRange.anyContains · set.ranges) then [upper, lower] else []

def whiteSpace : CharSet :=
  ofRuns Unicode.Table.whiteSpace

/-- The characters of some runs, without those of the latest edition. -/
def ofEstablished (runs : List Unicode.Run) : CharSet :=
  (ofRuns runs).diff (ofRuns Unicode.Table.newest)

def decimalDigit : CharSet :=
  ofEstablished Unicode.Table.decimalNumber

/-- Word characters of every script. -/
def word : CharSet :=
  ofEstablished Unicode.wordRuns

end CharSet

end CallMarkup
