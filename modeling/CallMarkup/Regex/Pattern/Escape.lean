import CallMarkup.Regex.CharSet.Named
import CallMarkup.Regex.Pattern.Reading
import CallMarkup.Text.Numeral

/-!
# Escapes in patterns

A backslash introduces a literal character, a set of characters or an
assertion.
-/

namespace CallMarkup.Pattern

def readHexDigits : Nat → Reading Text
  | 0 => return []
  | count + 1 => do
    let c ← current
    demand (digitValue? 16 c).isSome
    bumpSkip
    return c :: (← readHexDigits count)

/-- Reads up to a closing brace and consumes it. -/
def readBraced : (fuel : Nat) → Reading Text
  | 0 => invalid
  | fuel + 1 => do
    skipBlanks
    let c ← take
    if c = '}' then return []
    return c :: (← readBraced fuel)

/-- More steps than there are characters left. -/
def fuel : Reading Nat := do
  return (← get).textLength + 1

/-- Reads the code point of a character after its introducing letter. -/
def readCode (digits : Nat) : Reading Char := do
  skipBlanks
  let text ←
    if (← current) = '{' then do
      bump
      readBraced (← fuel)
    else readHexDigits digits
  let some code := numberOfDigits? 16 text | invalid
  let some c := charOfCode? code | invalid
  return c

def isMeta (c : Char) : Bool :=
  c ∈ ['\\', '.', '+', '*', '?', '(', ')', '|', '[', ']', '{', '}', '^', '$', '#', '&', '-', '~']

/-- Characters that stand for themselves after a backslash. -/
def isEscapable (c : Char) : Bool :=
  isMeta c ||
    (Unicode.isAscii c && !Unicode.isAsciiLetter c && !Unicode.isAsciiDigit c && c != '<' && c != '>')

/-- Splits a property text at its comparison sign: name, value and whether the
comparison is negated. -/
def propertyParts (name : Text) : Text × Option (Text × Bool) :=
  let rec cut (before : Text) : Text → Option (Text × Text × Bool)
    | '!' :: '=' :: after => some (before.reverse, after, true)
    | _ :: [] | [] => none
    | c :: rest => cut (c :: before) rest
  match cut [] name with
  | some (property, value, negated) => (property, some (value, negated))
  | none =>
    match name.findIdx? (· == ':') with
    | some index => (name.take index, some (name.drop (index + 1), false))
    | none =>
      match name.findIdx? (· == '=') with
      | some index => (name.take index, some (name.drop (index + 1), false))
      | none => (name, none)

/-- Reads a property after `p` or `P`. -/
def readProperty (negated : Bool) : Reading CharSet := do
  let flags := (← get).flags
  skipBlanks
  let first ← take
  let name ←
    if first = '{' then readBraced (← fuel)
    else do
      demand (first != '\\')
      skipBlanks
      pure [first]
  demand flags.unicode
  let (set?, opposite) :=
    match propertyParts name with
    | (property, some (value, opposite)) => (CharSet.ofUnicodeValue? property value, opposite)
    | (name, none) => (CharSet.ofUnicodeName? name, false)
  let some set := set? | invalid
  negate flags (negated != opposite) (foldCase flags set)

/-- What a backslash introduces. -/
inductive Escaped
  | literal (c : Char)
  | set (accepts : CharSet)
  | assertion (condition : Assertion)

/-- The assertion written as a name in braces after a word boundary, if the
braces hold a name at all. -/
def readWordAssertion (rule : WordRule) : Reading (Option Assertion) := do
  let start ← get
  bumpSkip
  let c ← current
  if !(Unicode.isAsciiLetter c || c == '-') then
    set start
    return none
  let name ← readBraced (← fuel)
  match String.ofList name with
  | "start" => return some (.wordStart rule)
  | "end" => return some (.wordEnd rule)
  | "start-half" => return some (.wordStartHalf rule)
  | "end-half" => return some (.wordEndHalf rule)
  | _ => invalid

/-- Reads what follows a backslash.  Outside Unicode two hexadecimal digits mean
a byte, which is a character only in ASCII. -/
def readEscape : Reading Escaped := do
  let flags := (← get).flags
  let rule := wordRule flags
  let limited (set : CharSet) : CharSet := if flags.unicode then set else set.ascii
  let c ← take
  match c with
  | 'x' =>
    let braced := (← peek?) == some '{'
    let code ← readCode 2
    demand (flags.unicode || braced || Unicode.isAscii code)
    return .literal code
  | 'u' => return .literal (← readCode 4)
  | 'U' => return .literal (← readCode 8)
  | 'p' => return .set (← readProperty false)
  | 'P' => return .set (← readProperty true)
  | 'd' => return .set (limited .decimalDigit)
  | 's' => return .set (limited .whiteSpace)
  | 'w' => return .set (limited .word)
  | 'D' => return .set (← negate flags true (limited .decimalDigit))
  | 'S' => return .set (← negate flags true (limited .whiteSpace))
  | 'W' => return .set (← negate flags true (limited .word))
  | 'a' => return .literal '\x07'
  | 'f' => return .literal '\x0c'
  | 't' => return .literal '\t'
  | 'n' => return .literal '\n'
  | 'r' => return .literal '\r'
  | 'v' => return .literal '\x0b'
  | 'A' => return .assertion .textStart
  | 'z' => return .assertion .textEnd
  | 'B' => return .assertion (.notWordBoundary rule)
  | '<' => return .assertion (.wordStart rule)
  | '>' => return .assertion (.wordEnd rule)
  | 'b' =>
    if (← peek?) = some '{' then
      match ← readWordAssertion rule with
      | some condition => return .assertion condition
      | none => return .assertion (.wordBoundary rule)
    else return .assertion (.wordBoundary rule)
  | c => if isEscapable c then return .literal c else invalid

end CallMarkup.Pattern
