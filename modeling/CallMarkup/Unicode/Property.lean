import CallMarkup.Unicode.CategoryTable
import CallMarkup.Unicode.PropertyTable

/-!
# Character properties

The character classes that the library consults, each with its Unicode
meaning.  An ASCII character is decided directly and every other one by table,
so the definitions stay cheap on ordinary text and reduce on closed ASCII
characters.

Two editions of the standard are in use.  Delimiters and the quoted form of a
text follow the latest one; identifiers and patterns follow the one before it,
in which the characters of the latest edition are unassigned.
-/

namespace CallMarkup.Unicode

def isAscii (c : Char) : Bool :=
  c.toNat < 128

def isAsciiLetter (c : Char) : Bool :=
  ('a' ≤ c && c ≤ 'z') || ('A' ≤ c && c ≤ 'Z')

def isAsciiDigit (c : Char) : Bool :=
  '0' ≤ c && c ≤ '9'

open Table

def letterRuns : List Run :=
  lowercaseLetter ++ uppercaseLetter ++ otherLetter ++ modifierLetter ++ titlecaseLetter

def markRuns : List Run :=
  nonspacingMark ++ spacingMark ++ enclosingMark

def numberRuns : List Run :=
  decimalNumber ++ letterNumber ++ otherNumber

def punctuationRuns : List Run :=
  otherPunctuation ++ openPunctuation ++ closePunctuation ++ dashPunctuation ++
    connectorPunctuation ++ initialPunctuation ++ finalPunctuation

def symbolRuns : List Run :=
  otherSymbol ++ mathSymbol ++ modifierSymbol ++ currencySymbol

def separatorRuns : List Run :=
  spaceSeparator ++ lineSeparator ++ paragraphSeparator

def alphabeticRuns : List Run :=
  letterRuns ++ letterNumber ++ otherAlphabetic

/-- Word characters: alphabetic characters, marks, decimal digits, connecting
punctuation and zero width joiners. -/
def wordRuns : List Run :=
  alphabeticRuns ++ markRuns ++ decimalNumber ++ connectorPunctuation ++ joinControl

/-- Characters that extend the one before them into one visible unit. -/
def graphemeExtendRuns : List Run :=
  nonspacingMark ++ enclosingMark ++ otherGraphemeExtend

/-- Characters with a visible form of their own. -/
def visibleRuns : List Run :=
  letterRuns ++ markRuns ++ numberRuns ++ punctuationRuns ++ symbolRuns

/-- Whether a code point was assigned by an edition before the latest, given
that it is assigned. -/
def isEstablished (code : Nat) : Bool :=
  !inRuns newest code

/-- White space: the property White_Space. -/
def isWhiteSpace (c : Char) : Bool :=
  if isAscii c then c == ' ' || ('\t' ≤ c && c ≤ '\r') else inRuns whiteSpace c.toNat

def isAlphabetic (c : Char) : Bool :=
  if isAscii c then isAsciiLetter c else inRuns alphabeticRuns c.toNat

def isAlphanumeric (c : Char) : Bool :=
  if isAscii c then isAsciiLetter c || isAsciiDigit c
  else isAlphabetic c || inRuns numberRuns c.toNat

def isDecimalDigit (c : Char) : Bool :=
  if isAscii c then isAsciiDigit c
  else inRuns decimalNumber c.toNat && isEstablished c.toNat

def isWord (c : Char) : Bool :=
  if isAscii c then isAsciiLetter c || isAsciiDigit c || c == '_'
  else inRuns wordRuns c.toNat && isEstablished c.toNat

/-- Whether the character extends the one before it into one visible unit. -/
def isGraphemeExtend (c : Char) : Bool :=
  !isAscii c && inRuns graphemeExtendRuns c.toNat

/-- Characters with a visible form of their own, and the ASCII space.  Control
and format characters, other spaces, fillers, private use and unassigned code
points have none. -/
def isPrintable (c : Char) : Bool :=
  if isAscii c then ' ' ≤ c && c ≤ '~'
  else inRuns visibleRuns c.toNat && !inRuns filler c.toNat

theorem isDecimalDigit_of_isDigit {c : Char} (digit : c.isDigit = true) :
    isDecimalDigit c = true := by
  have code := (Char.isDigit_iff_toNat.mp digit).2
  have ascii : isAscii c = true := by
    simp only [isAscii, decide_eq_true_eq]
    exact Nat.lt_of_le_of_lt code (by decide)
  have among : isAsciiDigit c = true := digit
  rw [isDecimalDigit, if_pos ascii, among]

end CallMarkup.Unicode
