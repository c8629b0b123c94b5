import CallMarkup.Text

/-!
# Numerals

Numbers are written as digits in some base, and a character may be written as the
number of its code point.  The notations for patterns and for structured data read
both in the same way.
-/

namespace CallMarkup

/-- The value of a digit in a base of at most sixteen. -/
def digitValue? (base : Nat) (c : Char) : Option Nat :=
  let value :=
    if '0' ≤ c && c ≤ '9' then c.toNat - '0'.toNat
    else if 'a' ≤ c && c ≤ 'f' then c.toNat - 'a'.toNat + 10
    else if 'A' ≤ c && c ≤ 'F' then c.toNat - 'A'.toNat + 10
    else base
  if value < base then some value else none

/-- The number that a text writes, if it consists of digits and holds at least one. -/
def numberOfDigits? (base : Nat) (digits : Text) : Option Nat :=
  if digits = [] then none
  else digits.foldlM (fun value c => (digitValue? base c).map (value * base + ·)) 0

/-- The character at a code point, if there is one. -/
def charOfCode? (code : Nat) : Option Char :=
  if code.isValidChar then some (Char.ofNat code) else none

end CallMarkup
