import CallMarkup.Text
import CallMarkup.Unicode.Property

/-!
# Quoted text

Two ways to write a character so that a reader sees which one it is.  The
quoted form of a text escapes what has no visible form of its own; the plain
ASCII form escapes everything outside printable ASCII.
-/

namespace CallMarkup

/-- A character by its code point in hexadecimal. -/
def codePointEscape (c : Char) : Text :=
  ['\\', 'u', '{'] ++ Nat.toDigits 16 c.toNat ++ ['}']

/-- Characters shown as part of the one before them.  The halfwidth voicing
marks extend a grapheme too, but fill a cell of their own. -/
def joinsPrevious (c : Char) : Bool :=
  Unicode.isGraphemeExtend c && c != '\uff9e' && c != '\uff9f'

/-- A character inside quotation marks of the given kind. -/
def quotedForm (mark c : Char) : Text :=
  if c = '\x00' then ['\\', '0']
  else if c = '\t' then ['\\', 't']
  else if c = '\r' then ['\\', 'r']
  else if c = '\n' then ['\\', 'n']
  else if c = '\\' || c = mark then ['\\', c]
  else if joinsPrevious c || !Unicode.isPrintable c then codePointEscape c
  else [c]

def quoted (text : Text) : Text :=
  ['"'] ++ text.flatMap (quotedForm '"') ++ ['"']

def quotedChar (c : Char) : Text :=
  ['\''] ++ quotedForm '\'' c ++ ['\'']

/-- A character in printable ASCII. -/
def asciiForm (c : Char) : Text :=
  if c = '\t' then ['\\', 't']
  else if c = '\r' then ['\\', 'r']
  else if c = '\n' then ['\\', 'n']
  else if c = '\\' || c = '\'' || c = '"' then ['\\', c]
  else if ' ' ≤ c && c ≤ '~' then [c]
  else codePointEscape c

end CallMarkup
