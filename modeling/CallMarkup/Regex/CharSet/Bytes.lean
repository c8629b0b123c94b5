import CallMarkup.Regex.CharSet

/-!
# Sets of characters as byte sequences

In UTF-8 a character is a sequence of one to four bytes.  A range of code
points splits into parts, each of which consists of all sequences that take
their first byte from one range, their second byte from another, and so on.
-/

namespace CallMarkup

/-- The bytes from the first to the second. -/
abbrev ByteRange := UInt8 × UInt8

namespace CodeRange

/-- The code points that have UTF-8 forms of one length, with the number of
bytes after the first.  The surrogates have no form. -/
def byLength : List (CodeRange × Nat) :=
  [(⟨0, 0x7F⟩, 0), (⟨0x80, 0x7FF⟩, 1), (⟨0x800, 0xD7FF⟩, 2), (⟨0xE000, 0xFFFF⟩, 2),
    (⟨0x10000, 0x10FFFF⟩, 3)]

/-- The code points of both ranges. -/
def inter? (first second : CodeRange) : Option CodeRange :=
  let common : CodeRange := ⟨max first.first second.first, min first.last second.last⟩
  if common.first ≤ common.last then some common else none

/-- Splits a range of code points with so many bytes after the first, such that
in each part a byte that varies is followed by bytes that take all values. -/
def aligned : (following : Nat) → CodeRange → List CodeRange
  | 0, range => [range]
  | following + 1, range =>
    let block := 64 ^ (following + 1)
    let firstBlock := range.first / block
    let lastBlock := range.last / block
    if firstBlock = lastBlock then aligned following range
    else
      let startsWhole := range.first % block = 0
      let endsWhole := range.last % block = block - 1
      let start := if startsWhole then firstBlock else firstBlock + 1
      let stop := if endsWhole then lastBlock + 1 else lastBlock
      (if startsWhole then [] else aligned following ⟨range.first, start * block - 1⟩) ++
        (if start < stop then [⟨start * block, stop * block - 1⟩] else []) ++
        if endsWhole then [] else aligned following ⟨stop * block, range.last⟩

/-- The byte sequences of the characters in a range. -/
def byteSequences (range : CodeRange) : List (List ByteRange) :=
  byLength.flatMap fun (sameLength, following) =>
    match range.inter? sameLength with
    | none => []
    | some part =>
      (aligned following part).map fun range =>
        (String.utf8EncodeChar (Char.ofNat range.first)).zip
          (String.utf8EncodeChar (Char.ofNat range.last))

end CodeRange

namespace CharSet

/-- The byte sequences of the characters in a set, in ascending order. -/
def byteSequences (set : CharSet) : List (List ByteRange) :=
  set.ranges.flatMap CodeRange.byteSequences

def isAscii (set : CharSet) : Bool :=
  set.ranges.all (·.last < 128)

end CharSet

end CallMarkup
